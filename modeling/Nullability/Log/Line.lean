import Nullability.Log.Record
import Nullability.Settings
import Nullability.Sorting
import Nullability.Value.Json

/-!
# Log lines

A record is written on one line, either as an object or for a reader. The readable line starts with
what every record has, and the other fields follow, sorted by their names.
-/

namespace Nullability.LogRecord

/-- A record as an object on one line. -/
def json (record : LogRecord) : String :=
  Json.write (.ofFields record.fields.entries)

/-! ## Readable lines -/

/-- Characters for whose sake a text is quoted. -/
def marks : List Char := [' ', '\t', '=', '\r', '\n', '"', '\'']

/-- The form of a value behind the name of its field: a text is only quoted if it would be hard to
tell from what follows. -/
def shown : Value → String
  | .text s => if s.toList.any marks.contains then Text.quoted s else s
  | v => v.literal

/-- What starts a readable line, in this order, and the brackets around it. -/
def leading : List (String × String × String) :=
  [("timestamp", "", ""), ("level", "[", "]"), ("event", "", ""), ("logger", "[", "]"),
    ("logger_name", "[", "]")]

/-- The fields that start a readable line. -/
def leadingParts (record : LogRecord) : List String :=
  leading.filterMap (fun (name, before, after) =>
    (record.fields.get? name).map (fun v => before ++ v.display ++ after))

/-- All other fields, sorted by name. -/
def otherParts (record : LogRecord) : List String :=
  let others := record.fields.entries.filter (fun field =>
    !leading.any (fun entry => entry.1 = field.1))
  (sortBy (fun a b => a.1 ≤ b.1) others).map (fun (name, v) => name ++ "=" ++ shown v)

/-- A record as a readable line. -/
def console (record : LogRecord) : String :=
  let parts := (record.leadingParts ++ record.otherParts).filter (fun part => !part.isEmpty)
  let line := Value.joined " " parts
  String.ofList (line.toList.reverse.dropWhile (fun c => c = ' ')).reverse

/-- A record on one line. -/
def line (record : LogRecord) : LogFormat → String
  | .json => record.json
  | .console => record.console

end Nullability.LogRecord
