import Nullability.Event
import Nullability.Failure
import Nullability.Text.LetterCase

/-!
# Log records

What is written about an event: its fields, with those that every record has. A name that occurs
twice keeps its first place and has the last value, with the exception of the number of the process,
which an event may have of its own. Components of other origin log a message with places for values
instead of an event.
-/

namespace Nullability

/-- When and by which process a record is made. -/
structure LogStamp where
  time : String
  process : Int
  deriving DecidableEq, Repr, Inhabited

/-- A message of a component that does not report events. -/
structure LogMessage where
  /-- The name of the component, with dots between its parts. -/
  component : String
  rank : Int
  /-- The message, in which a percent sign and a letter stand for a value. -/
  template : String
  values : List Value
  deriving Inhabited

/-- What is written about an event or a message. -/
structure LogRecord where
  rank : Int
  fields : OrderedMap String Value
  deriving Inhabited

namespace LogMessage

/-- The form of a value where a letter stands for it: as reports show it, as a literal, or as an
integer. -/
def place? (letter : Char) (v : Value) : Option String :=
  if letter = 's' then some v.display
  else if letter = 'r' then some v.literal
  else if letter = 'd' ∨ letter = 'i' then
    match v with
    | .int n => some (toString n)
    | .bool b => some (if b then "1" else "0")
    | _ => none
  else none

/-- The characters of a message with its values in their places, if there are as many places as
values. -/
def fillChars : List Char → List Value → Option (List Char)
  | '%' :: '%' :: rest, values => (fillChars rest values).map ('%' :: ·)
  | '%' :: letter :: rest, v :: values => do
    let shown ← place? letter v
    return shown.toList ++ (← fillChars rest values)
  | '%' :: _, _ => none
  | c :: rest, values => (fillChars rest values).map (c :: ·)
  | [], [] => some []
  | [], _ :: _ => none

/-- The text of a message; without values it has no places. -/
def text? (message : LogMessage) : Option String :=
  if message.values.isEmpty then some message.template
  else (fillChars message.template.toList message.values).map String.ofList

/-- Components that report every single change of a file, which is only of interest if something
goes wrong. -/
def noisyComponents : List String := ["watchfiles.main", "watchfiles.watcher"]

/-- Whether a component is noisy or a part of one that is. -/
def isNoisy (component : String) : Bool :=
  noisyComponents.any (fun noisy =>
    component = noisy || (noisy ++ ".").toList.isPrefixOf component.toList)

end LogMessage

namespace LogRecord

/-- Names that a field of an event must not have, since they are taken by the event and by the one
who reports it. -/
def takenNames : List String := ["event", "self"]

/-- The fields that every record has, added to others. -/
def addCommon (stamp : LogStamp) (level : String) (fields : OrderedMap String Value) :
    OrderedMap String Value :=
  let fields := fields.insert "level" (.text level)
  let fields := fields.insert "timestamp" (.text stamp.time)
  if fields.contains "pid" then fields else fields.insert "pid" (.int stamp.process)

/-- The record of an event that is reported under the name of a logger, if that is not empty. -/
def ofEvent (stamp : LogStamp) (logger : Option String) (event : Event) :
    Except Failure LogRecord :=
  if event.fields.any (fun field => takenNames.contains field.1) then .error .badType
  else
    let named : List (String × Value) :=
      match logger with
      | some name => if name.isEmpty then [] else [("logger", .text name)]
      | none => []
    let fields := OrderedMap.ofList (named ++ event.fields ++ [("event", .text event.name)])
    .ok ⟨event.severity.rank, addCommon stamp (Text.lower event.severity.name) fields⟩

/-- The record of a message. -/
def ofMessage? (stamp : LogStamp) (message : LogMessage) : Option LogRecord :=
  message.text?.map (fun text =>
    ⟨message.rank, addCommon stamp (Text.lower (Severity.nameOfRank message.rank))
      (OrderedMap.ofList [("event", .text text)])⟩)

end LogRecord

end Nullability
