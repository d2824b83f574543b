import Nullability.Environment
import Nullability.Severity

/-!
# Settings

What a user can configure: how events are logged, where annotation documents and the cache are,
which installation folders are scanned, and how single files are watched. Every section has a
default, which for the locations depends on the environment.
-/

namespace Nullability

/-- How a log line is written. -/
inductive LogFormat where
  | json
  | console
  deriving DecidableEq, Repr, Inhabited

/-- Where log lines go. -/
inductive LogDestination where
  | standardError
  | standardOutput
  | file (path : Path)
  deriving DecidableEq, Repr, Inhabited

/-- One output of the log; without a level of its own it has that of the log. -/
structure LogOutput where
  format : LogFormat
  destination : LogDestination
  level : Option Severity
  deriving DecidableEq, Repr, Inhabited

/-- How events are logged. -/
structure LogSettings where
  level : Severity
  outputs : List LogOutput
  deriving DecidableEq, Repr, Inhabited

/-- Where installations, packages and the cache are. -/
structure Locations where
  systemRoot : String
  userRoot : String
  packageRoot : String
  cachePath : String
  deriving DecidableEq, Repr, Inhabited

/-- Which installation folders are scanned. -/
structure ScannerSettings where
  folderStart : String
  leastVersion : Nat
  includePackages : Bool
  deriving DecidableEq, Repr, Inhabited

/-- How a single file is watched. -/
structure WatcherSettings where
  forcePolling : Bool
  pollDelay : Nat
  debounce : Nat
  deriving DecidableEq, Repr, Inhabited

/-- All settings. -/
structure Settings where
  log : LogSettings
  locations : Locations
  scanner : ScannerSettings
  watcher : WatcherSettings
  deriving DecidableEq, Repr, Inhabited

/-! ## Defaults -/

/-- Readable lines on standard error. -/
def LogOutput.default : LogOutput := ⟨.console, .standardError, none⟩

/-- One output of the default kind. -/
def LogSettings.default : LogSettings := ⟨.info, [.default]⟩

/-- Platform folders from version 14 on, and packages. -/
def ScannerSettings.default : ScannerSettings := ⟨"ReSharperPlatformVs", 14, true⟩

/-- Notifications of the operating system, gathered for fifty milliseconds. -/
def WatcherSettings.default : WatcherSettings := ⟨false, 300, 50⟩

namespace Locations

/-- The first of some variables that is not empty. -/
def firstFilled? (env : Environment) (names : List String) : Option String :=
  names.findSome? env.filled?

/-- Where installations for all users are. -/
def defaultSystemRoot (env : Environment) : String :=
  (firstFilled? env ["ProgramFiles(x86)", "ProgramFiles"]).getD "/opt"

/-- Where installations for one user are. -/
def defaultUserRoot (env : Environment) : Except Failure String :=
  match firstFilled? env ["LOCALAPPDATA", "XDG_DATA_HOME"] with
  | some folder => .ok folder
  | none => env.expandText "~/.local/share"

/-- Where packages are. -/
def defaultPackageRoot (env : Environment) : Except Failure String :=
  env.expandText "~/.nuget/packages/jetbrains.externalannotations"

/-- Where the cache is: below the folder of installations for one user. -/
def defaultCachePath (env : Environment) : Except Failure String :=
  (defaultUserRoot env).map (fun root =>
    ((Path.ofText root).append
      ["ResharperCodeContractNullability", "external-annotations.cache"]).text)

/-- The locations of an environment without configuration. -/
def default (env : Environment) : Except Failure Locations := do
  return ⟨defaultSystemRoot env, ← defaultUserRoot env, ← defaultPackageRoot env,
    ← defaultCachePath env⟩

end Locations

/-- The settings of an environment without configuration. -/
def Settings.default (env : Environment) : Except Failure Settings :=
  (Locations.default env).map (fun locations => ⟨.default, locations, .default, .default⟩)

/-! ## Settings as values -/

/-- The name of a format. -/
def LogFormat.name : LogFormat → String
  | json => "json"
  | console => "console"

/-- The text of a destination. -/
def LogDestination.text : LogDestination → String
  | standardError => "stderr"
  | standardOutput => "stdout"
  | file path => path.text

/-- The fields of an output. -/
def LogOutput.fields (output : LogOutput) : List (String × Value) :=
  [("format", .text output.format.name), ("destination", .text output.destination.text),
    ("level", (output.level.map (fun level => Value.text level.name)).getD .null)]

/-- An output as a record. -/
def LogOutput.toValue (output : LogOutput) : Value :=
  .record "LogOutputConfig" output.fields

/-- The fields of the log section. -/
def LogSettings.fieldsOf (level : Severity) (outputs : List Value) : List (String × Value) :=
  [("level", .text level.name), ("outputs", .list outputs)]

/-- The log section as a record. -/
def LogSettings.toValue (settings : LogSettings) : Value :=
  .record "LoggingConfig" (fieldsOf settings.level (settings.outputs.map LogOutput.toValue))

/-- The fields of the locations. -/
def Locations.fields (locations : Locations) : List (String × Value) :=
  [("system_root", .text locations.systemRoot), ("user_root", .text locations.userRoot),
    ("nuget_root", .text locations.packageRoot), ("cache_path", .text locations.cachePath)]

/-- The locations as a record. -/
def Locations.toValue (locations : Locations) : Value :=
  .record "LocationsConfig" locations.fields

/-- The fields of the scanner section. -/
def ScannerSettings.fields (settings : ScannerSettings) : List (String × Value) :=
  [("platform_folder_prefix", .text settings.folderStart),
    ("min_platform_version", .int settings.leastVersion),
    ("include_nuget", .bool settings.includePackages)]

/-- The scanner section as a record. -/
def ScannerSettings.toValue (settings : ScannerSettings) : Value :=
  .record "ScannerConfig" settings.fields

/-- The fields of the watcher section. -/
def WatcherSettings.fields (settings : WatcherSettings) : List (String × Value) :=
  [("force_polling", .bool settings.forcePolling), ("poll_delay_ms", .int settings.pollDelay),
    ("debounce_ms", .int settings.debounce)]

/-- The watcher section as a record. -/
def WatcherSettings.toValue (settings : WatcherSettings) : Value :=
  .record "WatcherConfig" settings.fields

/-- All settings as a record. -/
def Settings.toValue (settings : Settings) : Value :=
  .record "AnnotationsConfig" [("logging", settings.log.toValue),
    ("locations", settings.locations.toValue), ("scanner", settings.scanner.toValue),
    ("watcher", settings.watcher.toValue)]

/-! ## Sections that are built beforehand -/

/-- What a section is about; outputs of the log count as sections here. -/
inductive Section.Kind where
  | log
  | output
  | locations
  | scanner
  | watcher
  deriving DecidableEq, Repr, Inhabited

namespace Section.Kind

/-- The name of the records of a kind. -/
def name : Kind → String
  | log => "LoggingConfig"
  | output => "LogOutputConfig"
  | locations => "LocationsConfig"
  | scanner => "ScannerConfig"
  | watcher => "WatcherConfig"

/-- The names of the fields that the records of a kind have. -/
def fieldNames : Kind → List String
  | log => ["level", "outputs"]
  | output => ["format", "destination", "level"]
  | locations => ["system_root", "user_root", "nuget_root", "cache_path"]
  | scanner => ["platform_folder_prefix", "min_platform_version", "include_nuget"]
  | watcher => ["force_polling", "poll_delay_ms", "debounce_ms"]

end Section.Kind

/-- A section that was built beforehand. It has all its fields, but nobody need have looked at their
values. -/
structure Section where
  kind : Section.Kind
  fields : List (String × Value)
  complete : fields.map Prod.fst = kind.fieldNames

namespace Section

/-- A section as a record. -/
def toValue (s : Section) : Value :=
  .record s.kind.name s.fields

/-- A log section that was read. -/
def log (settings : LogSettings) : Section :=
  ⟨.log, LogSettings.fieldsOf settings.level (settings.outputs.map LogOutput.toValue), rfl⟩

/-- An output that was read. -/
def output (settings : LogOutput) : Section :=
  ⟨.output, settings.fields, rfl⟩

/-- Locations that were read. -/
def locations (settings : Locations) : Section :=
  ⟨.locations, settings.fields, rfl⟩

/-- A scanner section that was read. -/
def scanner (settings : ScannerSettings) : Section :=
  ⟨.scanner, settings.fields, rfl⟩

/-- A watcher section that was read. -/
def watcher (settings : WatcherSettings) : Section :=
  ⟨.watcher, settings.fields, rfl⟩

end Section

end Nullability
