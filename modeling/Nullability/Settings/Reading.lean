import Nullability.Settings
import Nullability.Settings.Judged

/-!
# Reading settings

Sections are read from mappings. Keys that a section does not have are passed over, and fields that
are not given take their defaults, which are not judged themselves. Paths are brought into their
normal spelling with home folders written out.

An output of the log may be given as a record that was built beforehand. Taking a section leaves
such a record as it is; reading one does not know of it.
-/

namespace Nullability

/-- Severities by name. -/
def Severity.choices : List (String × Severity) :=
  Severity.all.map (fun severity => (severity.name, severity))

namespace LogOutput

/-- Reads a destination: a standard stream, or an absolute path once its home folder is written
out. -/
def readDestination (env : Environment) (v : Value) : Judged LogDestination :=
  (Judged.text v).andThen (fun text =>
    if text = "stderr" then Judged.accept .standardError
    else if text = "stdout" then Judged.accept .standardOutput
    else
      (Judged.expanded v (env.expand (Path.ofText text))).andThen (fun path =>
        if path.isAbsolute then Judged.accept (.file path)
        else Judged.refuse (.refused ("File destination must be absolute path: " ++ text)) v))

/-- Reads a level, which need not be there. -/
def readLevel (v : Value) : Judged (Option Severity) :=
  match v with
  | .null => Judged.accept none
  | v => some <$> Judged.choice Severity.choices v

/-- Reads an output from the pairs of a mapping. -/
def ofEntries (env : Environment) (entries : List (Value × Value)) : Judged LogOutput :=
  mk <$> Judged.field entries "format"
        (Judged.choice [("json", LogFormat.json), ("console", LogFormat.console)])
        (.ok default.format)
    <*> Judged.field entries "destination" (readDestination env) (.ok default.destination)
    <*> Judged.field entries "level" readLevel (.ok default.level)

/-- Reads an output. -/
def ofValue (env : Environment) : Value → Judged LogOutput :=
  Judged.record "LogOutputConfig" (ofEntries env)

/-- Takes an output: a record that was built beforehand as it is, anything else as it is read. -/
def take (env : Environment) (v : Value) : Judged Value :=
  match v with
  | .record "LogOutputConfig" _ => Judged.accept v
  | _ => toValue <$> ofValue env v

end LogOutput

namespace LogSettings

/-- Makes something of the pairs of a mapping for the log section, given how an output is read. -/
def fromEntries {α β : Type} (make : Severity → List α → β) (read : Value → Judged α)
    (outputs : List α) (entries : List (Value × Value)) : Judged β :=
  make <$> Judged.field entries "level" (Judged.choice Severity.choices) (.ok default.level)
    <*> Judged.field entries "outputs" (Judged.listOf read) (.ok outputs)

/-- Reads the log section. -/
def ofValue (env : Environment) : Value → Judged LogSettings :=
  Judged.record "LoggingConfig" (fromEntries mk (LogOutput.ofValue env) default.outputs)

/-- Takes the log section. -/
def take (env : Environment) : Value → Judged Value :=
  Judged.record "LoggingConfig"
    (fromEntries (fun level outputs => .record "LoggingConfig" (fieldsOf level outputs))
      (LogOutput.take env) (default.outputs.map LogOutput.toValue))

end LogSettings

namespace Locations

/-- Reads a path, which must not be empty. -/
def readPath (env : Environment) (v : Value) : Judged String :=
  (Judged.text v).andThen (fun text =>
    if text.isEmpty then Judged.refuse (.refused "Path must not be empty") v
    else Judged.expanded v (env.expandText text))

/-- Reads the locations from the pairs of a mapping. -/
def ofEntries (env : Environment) (entries : List (Value × Value)) : Judged Locations :=
  mk <$> Judged.field entries "system_root" (readPath env) (.ok (defaultSystemRoot env))
    <*> Judged.field entries "user_root" (readPath env) (defaultUserRoot env)
    <*> Judged.field entries "nuget_root" (readPath env) (defaultPackageRoot env)
    <*> Judged.field entries "cache_path" (readPath env) (defaultCachePath env)

/-- Reads the locations. -/
def ofValue (env : Environment) : Value → Judged Locations :=
  Judged.record "LocationsConfig" (ofEntries env)

end Locations

namespace ScannerSettings

/-- Reads a version, which has at most two digits. -/
def readVersion (v : Value) : Judged Nat :=
  (Judged.integer v).andThen (fun n =>
    if 0 ≤ n ∧ n ≤ 99 then Judged.accept n.toNat
    else Judged.refuse
      (.refused ("Platform version must be two digits, got " ++ toString n)) v)

/-- Reads the scanner section from the pairs of a mapping. -/
def ofEntries (entries : List (Value × Value)) : Judged ScannerSettings :=
  mk <$> Judged.field entries "platform_folder_prefix" Judged.text (.ok default.folderStart)
    <*> Judged.field entries "min_platform_version" readVersion (.ok default.leastVersion)
    <*> Judged.field entries "include_nuget" Judged.truth (.ok default.includePackages)

/-- Reads the scanner section. -/
def ofValue : Value → Judged ScannerSettings :=
  Judged.record "ScannerConfig" ofEntries

end ScannerSettings

namespace WatcherSettings

/-- Reads a number of milliseconds, which must be positive. -/
def readDelay (v : Value) : Judged Nat :=
  (Judged.integer v).andThen (fun n =>
    if 0 < n then Judged.accept n.toNat
    else Judged.refuse (.refused ("Must be positive, got " ++ toString n)) v)

/-- Reads the watcher section from the pairs of a mapping. -/
def ofEntries (entries : List (Value × Value)) : Judged WatcherSettings :=
  mk <$> Judged.field entries "force_polling" Judged.truth (.ok default.forcePolling)
    <*> Judged.field entries "poll_delay_ms" readDelay (.ok default.pollDelay)
    <*> Judged.field entries "debounce_ms" readDelay (.ok default.debounce)

/-- Reads the watcher section. -/
def ofValue : Value → Judged WatcherSettings :=
  Judged.record "WatcherConfig" ofEntries

end WatcherSettings

/-- Reads settings from the pairs of a mapping. -/
def Settings.ofEntries (env : Environment) (entries : List (Value × Value)) : Judged Settings :=
  mk <$> Judged.field entries "logging" (LogSettings.ofValue env) (.ok .default)
    <*> Judged.field entries "locations" (Locations.ofValue env) (Locations.default env)
    <*> Judged.field entries "scanner" ScannerSettings.ofValue (.ok .default)
    <*> Judged.field entries "watcher" WatcherSettings.ofValue (.ok .default)

/-- Reads settings. -/
def Settings.ofValue (env : Environment) : Value → Judged Settings :=
  Judged.record "AnnotationsConfig" (Settings.ofEntries env)

end Nullability
