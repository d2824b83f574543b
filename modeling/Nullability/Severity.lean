import Nullability.Text.LetterCase

/-!
# Severities

How important an event is, as a number: the more important, the greater. Some numbers have names,
and some of those have a second name.
-/

namespace Nullability

/-- The severities that settings name. -/
inductive Severity where
  | debug
  | info
  | warning
  | error
  | critical
  deriving DecidableEq, Repr, Inhabited

namespace Severity

/-- All severities, the least important first. -/
def all : List Severity := [.debug, .info, .warning, .error, .critical]

/-- The number of a severity. -/
def rank : Severity → Nat
  | debug => 10
  | info => 20
  | warning => 30
  | error => 40
  | critical => 50

/-- The name of a severity. -/
def name : Severity → String
  | debug => "DEBUG"
  | info => "INFO"
  | warning => "WARNING"
  | error => "ERROR"
  | critical => "CRITICAL"

/-- The numbers of all names, the second names included. -/
def ranksByName : List (String × Nat) :=
  all.map (fun severity => (severity.name, severity.rank)) ++
    [("WARN", 30), ("FATAL", 50), ("NOTSET", 0)]

/-- The number that a name stands for in any case; without a name, or with an unknown one, the
fallback. -/
def rankOfName (name : Option String) (fallback : Int) : Int :=
  match name with
  | none => fallback
  | some name =>
    let capital := String.ofList (name.toList.map Text.upperToAscii)
    match ranksByName.find? (fun entry => entry.1 = capital) with
    | some entry => entry.2
    | none => fallback

/-- The name of a number, or a number behind a word if it has none. -/
def nameOfRank (rank : Int) : String :=
  match all.find? (fun severity => (severity.rank : Int) = rank) with
  | some severity => severity.name
  | none => if rank = 0 then "NOTSET" else "Level " ++ toString rank

end Severity

end Nullability
