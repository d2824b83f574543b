import Nullability.Binary64
import Nullability.OrderedMap
import Nullability.Text.Quoted

/-!
# Dynamic values

The values that configuration files, environment variables and log fields hold, before anything is
known about their shape. A mapping is a list of key and value pairs in order of appearance. Reports
show a value in one line: a text as it is, everything else as a literal.
-/

namespace Nullability

/-- A day of the calendar. -/
structure CalendarDay where
  year : Nat
  month : Nat
  day : Nat
  deriving DecidableEq, Repr, Inhabited

/-- A time of day on a calendar day, with the distance from universal time in minutes if known. -/
structure Moment where
  day : CalendarDay
  hour : Nat
  minute : Nat
  second : Nat
  microsecond : Nat
  offsetSeconds : Option Int
  deriving DecidableEq, Repr, Inhabited

/-- The number of a day in a count of all days. Years are counted from the first of March, so that a
leap day is the last day of its year. -/
def CalendarDay.ordinal (d : CalendarDay) : Int :=
  let year : Int := if d.month ≤ 2 then d.year - 1 else d.year
  let monthFromMarch := if d.month ≤ 2 then d.month + 9 else d.month - 3
  365 * year + year.fdiv 4 - year.fdiv 100 + year.fdiv 400 + (153 * monthFromMarch + 2) / 5 + d.day

/-- The microseconds of universal time up to a moment, if its distance from universal time is
known. -/
def Moment.instant? (m : Moment) : Option Int :=
  m.offsetSeconds.map (fun offset =>
    (86400 * m.day.ordinal + 3600 * m.hour + 60 * m.minute + m.second - offset) * 1000000 +
      m.microsecond)

/-- A value of a configuration source or a log field. -/
inductive Value where
  | null
  | bool (b : Bool)
  | int (n : Int)
  | real (x : Binary64)
  | text (s : String)
  | bytes (content : List UInt8)
  | day (d : CalendarDay)
  | moment (m : Moment)
  | list (items : List Value)
  | tuple (items : List Value)
  | set (items : List Value)
  | mapping (entries : List (Value × Value))
  /-- A settings record built beforehand, with its name and fields. -/
  | record (name : String) (fields : List (String × Value))
  /-- A reference from inside a collection to the collection itself. -/
  | recurrence (isMapping : Bool)
  deriving Inhabited

namespace Value

mutual

/-- Whether two values have the same content. -/
def same : Value → Value → Bool
  | null, null => true
  | bool a, bool b => a == b
  | int a, int b => a == b
  | real a, real b => a == b
  | text a, text b => a == b
  | bytes a, bytes b => a == b
  | day a, day b => a == b
  | moment a, moment b => a == b
  | list as, list bs => sameItems as bs
  | tuple as, tuple bs => sameItems as bs
  | set as, set bs => sameItems as bs
  | mapping as, mapping bs => sameEntries as bs
  | record a as, record b bs => a == b && sameFields as bs
  | recurrence a, recurrence b => a == b
  | _, _ => false
termination_by structural v => v

/-- Whether two lists hold the same values. -/
def sameItems : List Value → List Value → Bool
  | [], [] => true
  | a :: as, b :: bs => same a b && sameItems as bs
  | _, _ => false
termination_by structural items => items

/-- Whether two lists hold the same pairs. -/
def sameEntries : List (Value × Value) → List (Value × Value) → Bool
  | [], [] => true
  | (k, a) :: as, (l, b) :: bs => same k l && same a b && sameEntries as bs
  | _, _ => false
termination_by structural entries => entries

/-- Whether two lists hold the same fields. -/
def sameFields : List (String × Value) → List (String × Value) → Bool
  | [], [] => true
  | (m, a) :: as, (n, b) :: bs => m == n && same a b && sameFields as bs
  | _, _ => false
termination_by structural fields => fields

end

instance : BEq Value := ⟨same⟩

/-- A mapping whose keys are texts. -/
def ofFields (fields : List (String × Value)) : Value :=
  .mapping (fields.map (fun field => (.text field.1, field.2)))

/-- Numerical reading of a key: truth values count as one and zero. -/
def numeric? : Value → Option (Binary64 ⊕ Int)
  | .bool b => some (.inr (if b then 1 else 0))
  | .int n => some (.inr n)
  | .real x =>
    match x.toInt? with
    | some n => some (.inr n)
    | none => some (.inl x)
  | _ => none

/-- The instant that a key names: a moment whose distance from universal time is known. -/
def instant? : Value → Option Int
  | .moment m => m.instant?
  | _ => none

/-- Whether two values are the same key of a mapping: numbers and truth values agree by number,
moments by the instant if they name one, all else by content. What is no number at all is the same
key as itself. -/
def sameKey (a b : Value) : Bool :=
  match a.numeric?, b.numeric? with
  | some (.inr m), some (.inr n) => m == n
  | some (.inl x), some (.inl y) => x == y || x.numEq y
  | some _, some _ => false
  | none, none =>
    match a.instant?, b.instant? with
    | some s, some t => s == t
    | _, _ => a == b
  | _, _ => false

/-- What is under a key in a list of pairs. -/
def lookup? {α : Type} (key : Value) (entries : List (Value × α)) : Option α :=
  (entries.find? (fun entry => entry.1.sameKey key)).map Prod.snd

/-- Stores something in a list of pairs: in place under a key that is there, else at the end. -/
def store {α : Type} (key : Value) (a : α) : List (Value × α) → List (Value × α)
  | [] => [(key, a)]
  | (k, b) :: rest => if k.sameKey key then (k, a) :: rest else (k, b) :: store key a rest

/-- The field of a mapping under a text key. -/
def field? (name : String) : Value → Option Value
  | .mapping entries => lookup? (.text name) entries
  | _ => none

mutual

/-- A value whose records are written as mappings. -/
def plain : Value → Value
  | .list items => .list (plainItems items)
  | .tuple items => .tuple (plainItems items)
  | .mapping entries => .mapping (plainEntries entries)
  | .record _ fields => .mapping (plainFields fields)
  | v => v

/-- Values whose records are written as mappings. -/
def plainItems : List Value → List Value
  | [] => []
  | v :: rest => plain v :: plainItems rest

/-- The pairs of a mapping whose records are written as mappings. -/
def plainEntries : List (Value × Value) → List (Value × Value)
  | [] => []
  | (key, v) :: rest => (key, plain v) :: plainEntries rest

/-- The fields of a record as the pairs of a mapping. -/
def plainFields : List (String × Value) → List (Value × Value)
  | [] => []
  | (name, v) :: rest => (.text name, plain v) :: plainFields rest

end

/-! ## Literals -/

/-- Numbers are written without an exponent from a first digit in the fourth place behind the
point up to sixteen places before it. -/
def realFormat : Binary64.Format := ⟨-4, 15, "inf", "nan"⟩

/-- Texts joined by a separator. -/
def joined (separator : String) : List String → String
  | [] => ""
  | s :: rest => rest.foldl (fun done t => done ++ separator ++ t) s

/-- A number with at least the given count of digits. -/
def padded (width n : Nat) : String :=
  let digits := (Nat.repr n).toList
  String.ofList (List.replicate (width - digits.length) '0' ++ digits)

end Value

/-- A day as year, month and day with dashes. -/
def CalendarDay.render (d : CalendarDay) : String :=
  Value.padded 4 d.year ++ "-" ++ Value.padded 2 d.month ++ "-" ++ Value.padded 2 d.day

/-- A distance from universal time as sign, hours and minutes, and seconds if there are any. -/
def Moment.renderOffset (seconds : Int) : String :=
  let n := seconds.natAbs
  (if seconds < 0 then "-" else "+") ++ Value.padded 2 (n / 3600) ++ ":" ++
    Value.padded 2 (n / 60 % 60) ++
    (if n % 60 = 0 then "" else ":" ++ Value.padded 2 (n % 60))

/-- A moment as day and time with the separator between them; microseconds are shown unless they
are zero. -/
def Moment.render (separator : String) (m : Moment) : String :=
  m.day.render ++ separator ++ Value.padded 2 m.hour ++ ":" ++ Value.padded 2 m.minute ++ ":" ++
    Value.padded 2 m.second ++
    (if m.microsecond = 0 then "" else "." ++ Value.padded 6 m.microsecond) ++
    (match m.offsetSeconds with
      | none => ""
      | some seconds => Moment.renderOffset seconds)

namespace Value

/-- The literal of a day. -/
def dayLiteral (d : CalendarDay) : String :=
  "datetime.date(" ++ Nat.repr d.year ++ ", " ++ Nat.repr d.month ++ ", " ++ Nat.repr d.day ++ ")"

/-- The literal of a distance from universal time. -/
def offsetLiteral (seconds : Int) : String :=
  if seconds = 0 then "datetime.timezone.utc"
  else
    let days := seconds.fdiv 86400
    let rest := seconds - 86400 * days
    let parts := (if days = 0 then [] else ["days=" ++ toString days]) ++
      (if rest = 0 then [] else ["seconds=" ++ toString rest])
    "datetime.timezone(datetime.timedelta(" ++ joined ", " parts ++ "))"

/-- The literal of a moment: seconds and microseconds are left out at the end when zero. -/
def momentLiteral (m : Moment) : String :=
  let fields := [m.day.year, m.day.month, m.day.day, m.hour, m.minute] ++
    (if m.second = 0 ∧ m.microsecond = 0 then [] else [m.second]) ++
    (if m.microsecond = 0 then [] else [m.microsecond])
  "datetime.datetime(" ++ joined ", " (fields.map Nat.repr) ++
    (match m.offsetSeconds with
      | none => ""
      | some seconds => ", tzinfo=" ++ offsetLiteral seconds) ++ ")"

mutual

/-- A value as a literal on one line. -/
def literal : Value → String
  | .null => "None"
  | .bool b => if b then "True" else "False"
  | .int n => toString n
  | .real x => x.render realFormat
  | .text s => Text.quoted s
  | .bytes content => Text.quotedBytes content
  | .day d => dayLiteral d
  | .moment m => momentLiteral m
  | .list items => "[" ++ joined ", " (literals items) ++ "]"
  | .tuple items =>
    match literals items with
    | [only] => "(" ++ only ++ ",)"
    | parts => "(" ++ joined ", " parts ++ ")"
  | .set items =>
    match literals items with
    | [] => "set()"
    | parts => "\x7b" ++ joined ", " parts ++ "\x7d"
  | .mapping entries => "\x7b" ++ joined ", " (entryLiterals entries) ++ "\x7d"
  | .record name fields => name ++ "(" ++ joined ", " (fieldLiterals fields) ++ ")"
  | .recurrence isMapping => if isMapping then "\x7b...\x7d" else "[...]"

/-- The literals of some values. -/
def literals : List Value → List String
  | [] => []
  | v :: rest => literal v :: literals rest

/-- The pairs of a mapping as literals. -/
def entryLiterals : List (Value × Value) → List String
  | [] => []
  | (k, v) :: rest => (literal k ++ ": " ++ literal v) :: entryLiterals rest

/-- The fields of a record as literals. -/
def fieldLiterals : List (String × Value) → List String
  | [] => []
  | (name, v) :: rest => (name ++ "=" ++ literal v) :: fieldLiterals rest

end

/-- A value as reports show it: a text as it is, a day or moment in calendar form, a record by its
fields, all else as a literal. -/
def display : Value → String
  | .text s => s
  | .day d => d.render
  | .moment m => m.render " "
  | .record _ fields => joined " " (fieldLiterals fields)
  | v => v.literal

/-- The least number that has too many digits to be written out. -/
def leastUnwritable : Nat :=
  tenTo 4300

mutual

/-- Whether a value can be written out: no number in it has too many digits. -/
def isWritable : Value → Bool
  | .int n => n.natAbs < leastUnwritable
  | .list items | .tuple items | .set items => areWritable items
  | .mapping entries => entriesWritable entries
  | .record _ fields => fieldsWritable fields
  | _ => true

/-- Whether some values can be written out. -/
def areWritable : List Value → Bool
  | [] => true
  | v :: rest => isWritable v && areWritable rest

/-- Whether the pairs of a mapping can be written out. -/
def entriesWritable : List (Value × Value) → Bool
  | [] => true
  | (key, v) :: rest => isWritable key && isWritable v && entriesWritable rest

/-- Whether fields can be written out. -/
def fieldsWritable : List (String × Value) → Bool
  | [] => true
  | (_, v) :: rest => isWritable v && fieldsWritable rest

end

end Value

end Nullability
