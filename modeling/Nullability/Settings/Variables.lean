import Nullability.Settings.Layers
import Nullability.Text.LetterCase
import Nullability.Value.Json

/-!
# Settings in environment variables

The name of a variable says which setting it gives: a fixed start, the section, and the field, with
two underscores between them and without regard to case. Its text is the value. A variable without a
field gives the whole section as JSON, and fields given one by one are laid over it. The list of log
outputs is JSON as well.
-/

namespace Nullability.Settings

/-- What the names of all variables for settings start with. -/
def variableStart : String := "extannotations__"

/-- The variables with their names in lower case; of two that agree then, the later one counts. -/
def lowerVariables (env : Environment) : OrderedMap String String :=
  OrderedMap.ofList (env.texts.entries.map (fun (name, text) => (Text.lower name, text)))

/-- The parts of a name between two underscores in a row. -/
def splitName : List Char → List (List Char)
  | '_' :: '_' :: rest => [] :: splitName rest
  | c :: rest =>
    match splitName rest with
    | first :: more => (c :: first) :: more
    | [] => [[c]]
  | [] => [[]]

/-- Stores a value under a list of keys, one level for each of them. What is not a mapping on the
way stays as it is. -/
def storeAt (v : Value) : List String → List (Value × Value) → List (Value × Value)
  | [], entries => entries
  | [key], entries => Value.store (.text key) v entries
  | key :: keys, entries =>
    match Value.lookup? (.text key) entries with
    | some (.mapping inner) => Value.store (.text key) (.mapping (storeAt v keys inner)) entries
    | some _ => entries
    | none => Value.store (.text key) (.mapping (storeAt v keys [])) entries

/-- Whether the text of a field is JSON. -/
def isJsonField (part : String) (keys : List String) : Bool :=
  part = "logging" && keys = ["outputs"]

/-- The value that the text of a field stands for. -/
def fieldValue (part : String) (keys : List String) (text : String) : Except Failure Value :=
  if isJsonField part keys && !text.isEmpty then
    match Json.read? text with
    | some v => .ok v
    | none => .error .badEnvironment
  else .ok (.text text)

/-- The keys in a variable's name behind its section, if it gives a field of that section. -/
def fieldKeys? (part name : String) : Option (List String) :=
  let start := (variableStart ++ part ++ "__").toList
  if start.isPrefixOf name.toList then
    some ((splitName (name.toList.drop start.length)).map String.ofList)
  else none

/-- The fields of a section that variables give one by one. -/
def singleFields (texts : List (String × String)) (part : String) :
    Except Failure (List (Value × Value)) :=
  texts.foldlM (fun entries (name, text) =>
    match fieldKeys? part name with
    | some keys => do return storeAt (← fieldValue part keys text) keys entries
    | none => return entries) []

/-- The fields of a section. -/
def fieldNames (part : String) : List String :=
  match part with
  | "logging" => Section.Kind.log.fieldNames
  | "locations" => Section.Kind.locations.fieldNames
  | "scanner" => Section.Kind.scanner.fieldNames
  | "watcher" => Section.Kind.watcher.fieldNames
  | _ => []

/-- Pairs whose keys are the names of the fields that they agree with up to case. -/
def withFieldNames (part : String) (entries : List (Value × Value)) : List (Value × Value) :=
  entries.foldl (fun done (key, v) =>
    let known := match key with
      | .text name => (fieldNames part).find? (fun field => Text.lower name = field)
      | _ => none
    match known with
    | some field => Value.store (.text field) v done
    | none => Value.store key v done) []

/-- What the variables give for a section, if they give anything. -/
def sectionValue? (texts : OrderedMap String String) (part : String) :
    Except Failure (Option Value) :=
  match texts.get? (variableStart ++ part) with
  | some text =>
    match Json.read? text with
    | none => .error .badEnvironment
    | some .null => .ok none
    | some (.mapping entries) => do
      let fields ← singleFields texts.entries part
      return some (.mapping (withFieldNames part (Value.mergeEntries entries fields)))
    | some v => .ok (some v)
  | none => do
    let fields ← singleFields texts.entries part
    return if fields.isEmpty then none else some (.mapping (withFieldNames part fields))

/-- What the variables give. -/
def variableLayer (env : Environment) : Except Failure Layer := do
  let texts := lowerVariables env
  let sections ← sectionKeys.mapM (fun key => do
    return (← sectionValue? texts key).map (fun v => (Value.text key, Given.value v)))
  return sections.filterMap id

end Nullability.Settings
