import Nullability.Failure
import Nullability.Text.Blank
import Nullability.Text.Utf8

/-!
# Judging values

Settings are read from dynamic values. A value that cannot be read has issues, each with the place
where it occurs, the defect found there and the value that has it. Reading a record goes on after an
issue, so that all issues of a record are found, in the order of its fields; a failure of the
surroundings ends the reading at once.
-/

namespace Nullability

/-- What is wrong with a value. -/
inductive Defect where
  | notInteger
  | integerUnreadable
  | integerTooLong
  | integerWithFraction
  | notFinite
  | notTruth
  | truthUnreadable
  | notText
  | textUndecodable
  | notChosen (choices : List String)
  | notList
  | notRecord (name : String)
  | unknownKey
  /-- A value of the right kind that breaks a rule for it. -/
  | refused (rule : String)
  deriving DecidableEq, Repr

namespace Defect

/-- The name of a kind of defect. -/
def kind : Defect → String
  | notInteger => "int_type"
  | integerUnreadable => "int_parsing"
  | integerTooLong => "int_parsing_size"
  | integerWithFraction => "int_from_float"
  | notFinite => "finite_number"
  | notTruth => "bool_type"
  | truthUnreadable => "bool_parsing"
  | notText => "string_type"
  | textUndecodable => "string_unicode"
  | notChosen _ => "literal_error"
  | notList => "list_type"
  | notRecord _ => "model_type"
  | unknownKey => "extra_forbidden"
  | refused _ => "value_error"

/-- Texts in a row with commas, and a word before the last one. -/
def alternatives : List String → String
  | [] => ""
  | [only] => only
  | [first, last] => first ++ " or " ++ last
  | first :: rest => first ++ ", " ++ alternatives rest

/-- A defect in words. -/
def message : Defect → String
  | notInteger => "Input should be a valid integer"
  | integerUnreadable => "Input should be a valid integer, unable to parse string as an integer"
  | integerTooLong =>
    "Unable to parse input string as an integer, exceeded maximum size"
  | integerWithFraction =>
    "Input should be a valid integer, got a number with a fractional part"
  | notFinite => "Input should be a finite number"
  | notTruth => "Input should be a valid boolean"
  | truthUnreadable => "Input should be a valid boolean, unable to interpret input"
  | notText => "Input should be a valid string"
  | textUndecodable =>
    "Input should be a valid string, unable to parse raw data as a unicode string"
  | notChosen choices => "Input should be " ++ alternatives (choices.map Text.quoted)
  | notList => "Input should be a valid list"
  | notRecord name => "Input should be a valid dictionary or instance of " ++ name
  | unknownKey => "Extra inputs are not permitted"
  | refused rule => "Value error, " ++ rule

end Defect

/-- A defect with the place where it was found and the value that has it. -/
structure Issue where
  place : List String
  defect : Defect
  input : Value

namespace Issue

/-- The place of an issue as one text. -/
def location (issue : Issue) : String :=
  Value.joined "." issue.place

/-- The same issue seen from one level further out. -/
def inside (step : String) (issue : Issue) : Issue :=
  ⟨step :: issue.place, issue.defect, issue.input⟩

end Issue

/-- What a value was read as, or its issues; or why it could not be judged at all. -/
def Judged (α : Type) : Type := Except Failure (Except (List Issue) α)

namespace Judged

variable {α β : Type}

/-- The judgement that a value was read. -/
def accept (a : α) : Judged α := .ok (.ok a)

/-- The judgement that a value has issues. -/
def reject (issues : List Issue) : Judged α := .ok (.error issues)

/-- The judgement that a value has one defect. -/
def refuse (defect : Defect) (input : Value) : Judged α :=
  reject [⟨[], defect, input⟩]

/-- A judgement that cannot have issues. -/
def lift (a : Except Failure α) : Judged α := a.map .ok

/-- Two judgements one after the other: issues of both are kept, the first ones first. -/
def both (f : Judged (α → β)) (a : Unit → Judged α) : Judged β :=
  match f with
  | .error failure => .error failure
  | .ok f =>
    match a () with
    | .error failure => .error failure
    | .ok a =>
      match f, a with
      | .ok f, .ok a => accept (f a)
      | .ok _, .error issues => reject issues
      | .error issues, .ok _ => reject issues
      | .error first, .error second => reject (first ++ second)

instance : Applicative Judged where
  pure := accept
  seq := both

/-- Goes on with the value if there is one. -/
def andThen (a : Judged α) (f : α → Judged β) : Judged β :=
  match a with
  | .error failure => .error failure
  | .ok (.error issues) => reject issues
  | .ok (.ok a) => f a

/-- The same judgement seen from one level further out. -/
def inside (step : String) (a : Judged α) : Judged α :=
  match a with
  | .ok (.error issues) => reject (issues.map (Issue.inside step))
  | _ => a

/-! ## Plain values -/

/-- The text of a value that is one, or that holds the bytes of one. -/
def textOf? : Value → Option (Option String)
  | .text s => some (some s)
  | .bytes content => some (Text.ofUtf8? content)
  | _ => none

/-- Reads a text. -/
def text (v : Value) : Judged String :=
  match textOf? v with
  | some (some s) => accept s
  | some none => refuse .textUndecodable v
  | none => refuse .notText v

/-- Reads one of some texts as what it stands for. -/
def choice (choices : List (String × α)) (v : Value) : Judged α :=
  let refusal := refuse (.notChosen (choices.map Prod.fst)) v
  match v with
  | .text s =>
    match choices.find? (fun c => c.1 = s) with
    | some c => accept c.2
    | none => refusal
  | _ => refusal

/-- The texts that stand for true, in lower case. -/
def trueTexts : List String := ["1", "on", "t", "true", "y", "yes"]

/-- The texts that stand for false, in lower case. -/
def falseTexts : List String := ["0", "off", "f", "false", "n", "no"]

/-- A character in ASCII lower case. -/
def asciiLower (s : String) : String :=
  String.ofList (s.toList.map Char.toLower)

/-- The greatest and the least integer that fit in a word bound the floating point numbers that
are read as integers. -/
def fitsWord (n : Int) : Bool :=
  -0x8000000000000000 ≤ n && n < 0x8000000000000000

/-- Reads a truth value: one itself, zero or one as a number, or a word that stands for it. -/
def truth (v : Value) : Judged Bool :=
  let ofNumber := fun (n : Int) =>
    if n = 0 then accept false
    else if n = 1 then accept true
    else refuse .truthUnreadable v
  match v with
  | .bool b => accept b
  | .int n => if fitsWord n then ofNumber n else refuse .notTruth v
  | .real x =>
    match x.toInt? with
    | some n => if fitsWord n then ofNumber n else refuse .notTruth v
    | none => refuse .notTruth v
  | _ =>
    match textOf? v with
    | some (some s) =>
      if trueTexts.contains (asciiLower s) then accept true
      else if falseTexts.contains (asciiLower s) then accept false
      else refuse .truthUnreadable v
    | some none => refuse .truthUnreadable v
    | none => refuse .notTruth v

/-- The longest text that is read as an integer. -/
def integerTextLimit : Nat := 4300

/-- The digits of a number at the start of a text, where single underscores may stand between
digits, and the rest. -/
def groupedDigits : List Char → List Char × List Char
  | d :: '_' :: e :: rest =>
    if d.isDigit ∧ e.isDigit then
      let (more, after) := groupedDigits (e :: rest)
      (d :: more, after)
    else if d.isDigit then ([d], '_' :: e :: rest)
    else ([], d :: '_' :: e :: rest)
  | d :: rest =>
    if d.isDigit then
      let (more, after) := groupedDigits rest
      (d :: more, after)
    else ([], d :: rest)
  | [] => ([], [])

/-- The integer that a text writes: blanks around it do not count, nor does a fraction of zeros. -/
def integerText? (s : String) : Option Int :=
  let cs := Text.trimBlank s.toList
  let (negative, unsigned) := match cs with
    | '-' :: rest => (true, rest)
    | '+' :: rest => (false, rest)
    | _ => (false, cs)
  let (digits, after) := groupedDigits unsigned
  let isInteger := !digits.isEmpty && match after with
    | [] => true
    | '.' :: zeros => !zeros.isEmpty && zeros.all (fun c => c = '0')
    | _ => false
  let n : Int := digits.foldl (fun n c => 10 * n + (c.toNat - 48)) 0
  if isInteger then some (if negative then -n else n) else none

/-- Reads an integer: one itself, a truth value, a number without a fraction, or a text that
writes one. -/
def integer (v : Value) : Judged Int :=
  match v with
  | .int n => accept n
  | .bool b => accept (if b then 1 else 0)
  | .real x =>
    match x.toRatio?, x.toInt? with
    | none, _ => refuse .notFinite v
    | some _, none => refuse .integerWithFraction v
    | some _, some n => if fitsWord n then accept n else refuse .integerTooLong v
  | _ =>
    match textOf? v with
    | some (some s) =>
      if integerTextLimit < s.utf8ByteSize then refuse .integerTooLong v
      else
        match integerText? s with
        | some n => accept n
        | none => refuse .integerUnreadable v
    | some none => refuse .integerUnreadable v
    | none => refuse .notInteger v

/-! ## Composed values -/

/-- Reads the items of a list from the given index on. -/
def itemsFrom (read : Value → Judged α) : Nat → List Value → Judged (List α)
  | _, [] => accept []
  | index, v :: rest =>
    List.cons <$> inside (toString index) (read v) <*> itemsFrom read (index + 1) rest

/-- Reads a list, tuple or set of items. -/
def listOf (read : Value → Judged α) (v : Value) : Judged (List α) :=
  match v with
  | .list items | .tuple items | .set items => itemsFrom read 0 items
  | _ => refuse .notList v

/-- Reads a field of a record, or takes the default if it is not given. -/
def field (entries : List (Value × Value)) (name : String) (read : Value → Judged α)
    (default : Except Failure α) : Judged α :=
  match Value.lookup? (.text name) entries with
  | some v => inside name (read v)
  | none => lift default

/-- Reads a record from a mapping. -/
def record (name : String) (read : List (Value × Value) → Judged α) (v : Value) : Judged α :=
  match v with
  | .mapping entries => read entries
  | _ => refuse (.notRecord name) v

/-- Reads a path whose home folder is to be written out; that its name holds a null character is an
issue. -/
def expanded (v : Value) (path : Except Failure α) : Judged α :=
  match path with
  | .error .badValue => refuse (.refused "embedded null byte") v
  | path => lift path

/-- Refuses a value that breaks a rule; the issue names the value as it was given. -/
def checked (v : Value) (rule : α → Option String) (a : Judged α) : Judged α :=
  a.andThen (fun a =>
    match rule a with
    | some rule => refuse (.refused rule) v
    | none => accept a)

end Judged

end Nullability
