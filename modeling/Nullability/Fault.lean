import Nullability.Value

/-!
# Faults

The ways in which configuration, documents and the cache can fail, each with its number, name and
message. A fault is reported with the values it is about; the faults of a cache file are worth
another attempt, since the next build replaces the file.
-/

namespace Nullability

/-- A failure that the library reports by number. -/
inductive Fault where
  /-- A configuration file does not hold settings. -/
  | settingsUnreadable (path reason : String)
  /-- A setting has a value it must not have. -/
  | settingInvalid (field : String) (value : Value) (reason : String)
  /-- The configuration file asked for does not exist. -/
  | settingsMissing (path : String)
  /-- No annotation document was found below the folders. -/
  | documentsMissing (folders : List String)
  /-- The annotations could not be loaded. -/
  | loadFailed (folders : List String) (reason : String)
  /-- The documents hold no annotation. -/
  | documentsEmpty (folders : List String)
  /-- A document is not well-formed. -/
  | documentMalformed (source reason : String)
  /-- An element of a document lacks an attribute. -/
  | attributeMissing (source element lacking : String)
  /-- A cache file does not hold what was written. -/
  | cacheCorrupt (path reason : String)
  /-- A cache file has another layout. -/
  | cacheSchemaMismatch (path : String) (found expected : Int)
  /-- Something happened that should not. -/
  | unexpected (reason : String) (details : List (String × Value))
  deriving Inhabited

/-- The families that faults belong to. -/
inductive Fault.Family where
  | settings
  | baseline
  | document
  | cacheContent
  | cacheSchema
  | internal
  deriving DecidableEq, Repr

namespace Fault

/-- The family of a fault. -/
def family : Fault → Family
  | settingsUnreadable .. | settingInvalid .. | settingsMissing .. => .settings
  | documentsMissing .. | loadFailed .. | documentsEmpty .. => .baseline
  | documentMalformed .. | attributeMissing .. => .document
  | cacheCorrupt .. => .cacheContent
  | cacheSchemaMismatch .. => .cacheSchema
  | unexpected .. => .internal

/-- The number of a fault: two thousands for settings, three for annotations, nine for the rest. -/
def code : Fault → Nat
  | settingsUnreadable .. => 2001
  | settingInvalid .. => 2002
  | settingsMissing .. => 2003
  | documentsMissing .. => 3001
  | loadFailed .. => 3002
  | documentsEmpty .. => 3003
  | documentMalformed .. | attributeMissing .. => 3004
  | cacheCorrupt .. => 3101
  | cacheSchemaMismatch .. => 3102
  | unexpected .. => 9001

/-- The name of a fault in reports. -/
def name : Fault → String
  | settingsUnreadable .. => "CONFIG_PARSE_ERROR"
  | settingInvalid .. => "CONFIG_INVALID_VALUE"
  | settingsMissing .. => "CONFIG_FILE_NOT_FOUND"
  | documentsMissing .. => "ANNOTATIONS_NOT_FOUND"
  | loadFailed .. => "ANNOTATIONS_LOAD_FAILED"
  | documentsEmpty .. => "ANNOTATIONS_EMPTY"
  | documentMalformed .. | attributeMissing .. => "ANNOTATION_PARSE_ERROR"
  | cacheCorrupt .. => "CACHE_CORRUPT"
  | cacheSchemaMismatch .. => "CACHE_SCHEMA_MISMATCH"
  | unexpected .. => "INTERNAL_ERROR"

/-- Whether another attempt may succeed. -/
def isRetryable : Fault → Bool
  | cacheCorrupt .. | cacheSchemaMismatch .. => true
  | _ => false

/-- Folders between quotation marks, separated by semicolons. -/
def folderList (folders : List String) : String :=
  Value.joined ";" (folders.map (fun folder => "\"" ++ folder ++ "\""))

/-- The message of a fault. -/
def message : Fault → String
  | settingsUnreadable path reason => "Failed to parse config at " ++ path ++ ": " ++ reason
  | settingInvalid field _ reason => "Invalid value for '" ++ field ++ "': " ++ reason
  | settingsMissing path => "Config file not found: " ++ path
  | documentsMissing folders =>
    "No external annotation files were found. Scanned folders: " ++ folderList folders
  | loadFailed folders reason =>
    "Failed to load external annotations: " ++ reason ++ ". Scanned folders: " ++
      folderList folders
  | documentsEmpty folders =>
    "External annotation files contained no nullability annotations. Scanned folders: " ++
      folderList folders
  | documentMalformed source reason => "Invalid annotation XML in " ++ source ++ ": " ++ reason
  | attributeMissing source element lacking =>
    "<" ++ element ++ "> without '" ++ lacking ++ "' attribute in " ++ source
  | cacheCorrupt path reason => "Annotation cache at " ++ path ++ " is corrupt: " ++ reason
  | cacheSchemaMismatch path found expected =>
    "Annotation cache at " ++ path ++ " has schema " ++ toString found ++ ", expected " ++
      toString expected
  | unexpected reason _ => "Internal error: " ++ reason

/-- The values that a fault is about, by name. -/
def details : Fault → List (String × Value)
  | settingsUnreadable path reason => [("path", .text path), ("reason", .text reason)]
  | settingInvalid field value reason =>
    [("field", .text field), ("value", .text value.display), ("reason", .text reason)]
  | settingsMissing path => [("path", .text path)]
  | documentsMissing folders | documentsEmpty folders =>
    [("folders", .list (folders.map .text))]
  | loadFailed folders reason =>
    [("folders", .list (folders.map .text)), ("reason", .text reason)]
  | documentMalformed source reason => [("source", .text source), ("reason", .text reason)]
  | attributeMissing source element lacking =>
    [("source", .text source), ("element", .text element), ("attribute", .text lacking)]
  | cacheCorrupt path reason => [("path", .text path), ("reason", .text reason)]
  | cacheSchemaMismatch path found expected =>
    [("path", .text path), ("found", .int found), ("expected", .int expected)]
  | unexpected _ details => details

/-- A fault in one line: number, name and message. -/
def render (fault : Fault) : String :=
  "[" ++ toString fault.code ++ "] " ++ fault.name ++ ": " ++ fault.message

end Fault

end Nullability
