import Nullability.Proofs.Settings.Sources
import Nullability.Proofs.Settings.Stability

/-!
# Which source a setting comes from

Every field is taken from the first source that supplies it: the caller's own values, the variables,
the named file, the file for all programs. No source hides a field by giving other fields of a
section, and a field that no source supplies has its default (`Settings.follows_sources`). Of the
variables the one for the field alone comes before the object for its section, unless that object
respells the field (`Settings.not_inOrder_of_respelled`).
-/

namespace Nullability.Settings

open Judged
open Value (lookup?)

/-! ## Fields -/

section Fields

variable {α β : Type}

/-- Whether `a` is what is read from the value that is supplied for a field, or the default of the
field if there is no such value. -/
def Taken (read : Value → Judged α) (default : Except Failure α) (supplied : Option Value) (a : α) :
    Prop :=
  match supplied with
  | some v => read v = accept a
  | none => default = .ok a

/-- Whether `a` is what is read once more from what is taken for a field. -/
def Settles (take : Value → Judged β) (default : Except Failure β) (again : β → Judged α)
    (supplied : Option Value) (a : α) : Prop :=
  ∃ b, Taken take default supplied b ∧ again b = accept a

/-- A field that is not read from mappings is taken from what is expected. -/
lemma taken_of_field {entries : List (Value × Value)} {name : String} {read : Value → Judged α}
    {default : Except Failure α} {supplied : Option Value} {a : α}
    (h : field entries name read default = accept a)
    (hagrees : Agrees (lookup? (.text name) entries) supplied)
    (hrefuse : ∀ inner b, read (.mapping inner) ≠ accept b) : Taken read default supplied a := by
  have hread := field_eq_accept.1 h
  obtain rfl | ⟨v, hv, hmapping⟩ := hagrees
  · exact hread
  · rw [hv] at hread
    obtain ⟨inner, rfl⟩ := Value.isMapping_iff.1 hmapping
    exact absurd hread (hrefuse inner a)

/-- A section is taken from a mapping with the fields that are expected; where it is missing, the
empty mapping is as good as its default. -/
lemma exists_mapping_of_takeSection {part : String} {entries : List (Value × Value)}
    {expected : String → Option Value} {kind : Section.Kind} {take : Value → Judged Value}
    {default : Except Failure Value} {v : Value} (hgives : Gives part entries expected)
    (hdefault : default = .ok v → take (.mapping []) = accept v)
    (h : takeSection (Layer.ofEntries entries) part kind take default = accept v) :
    ∃ inner, take (.mapping inner) = accept v ∧
      ∀ name ∈ fieldNames part, Agrees (lookup? (.text name) inner) (expected name) := by
  have hfields := hgives.fields
  rw [takeSection, Layer.find?, lookup?_ofEntries] at h
  cases hlookup : lookup? (.text part) entries with
  | none =>
    rw [hlookup] at h
    refine ⟨[], hdefault (lift_eq_accept.1 h), fun name hname => ?_⟩
    have hagrees := hfields name hname
    rwa [fieldOf?, hlookup] at hagrees
  | some w =>
    obtain ⟨inner, rfl⟩ := Value.isMapping_iff.1 (by simpa [hlookup] using hgives.mapping)
    rw [hlookup] at h
    refine ⟨inner, inside_eq_accept.1 h, fun name hname => ?_⟩
    have hagrees := hfields name hname
    rwa [fieldOf?, hlookup] at hagrees

lemma text_mapping (inner : List (Value × Value)) (s : String) :
    text (.mapping inner) ≠ accept s := refuse_ne_accept

lemma truth_mapping (inner : List (Value × Value)) (b : Bool) :
    truth (.mapping inner) ≠ accept b := refuse_ne_accept

lemma choice_mapping (choices : List (String × α)) (inner : List (Value × Value)) (a : α) :
    choice choices (.mapping inner) ≠ accept a := refuse_ne_accept

lemma listOf_mapping (read : Value → Judged α) (inner : List (Value × Value)) (as : List α) :
    listOf read (.mapping inner) ≠ accept as := refuse_ne_accept

lemma readVersion_mapping (inner : List (Value × Value)) (n : Nat) :
    ScannerSettings.readVersion (.mapping inner) ≠ accept n := refuse_ne_accept

lemma readDelay_mapping (inner : List (Value × Value)) (n : Nat) :
    WatcherSettings.readDelay (.mapping inner) ≠ accept n := refuse_ne_accept

lemma readPath_mapping (env : Environment) (inner : List (Value × Value)) (s : String) :
    Locations.readPath env (.mapping inner) ≠ accept s := refuse_ne_accept

end Fields

/-! ## Sections -/

section Sections

variable {env : Environment} {entries : List (Value × Value)} {expected : String → Option Value}
  {v : Value}

lemma log_follows (hgives : Gives "logging" entries expected)
    (htake : takeSection (Layer.ofEntries entries) "logging" .log (LogSettings.take env)
      (.ok LogSettings.default.toValue) = accept v)
    {settings : LogSettings} (hread : LogSettings.ofValue env v.plain = accept settings) :
    Taken (choice Severity.choices) (.ok LogSettings.default.level) (expected "level")
        settings.level ∧
      Settles (listOf (LogOutput.take env))
        (.ok (LogSettings.default.outputs.map LogOutput.toValue))
        (fun items => listOf (LogOutput.ofValue env) (Value.list items).plain)
        (expected "outputs") settings.outputs := by
  obtain ⟨inner, hinner, hfields⟩ := exists_mapping_of_takeSection hgives
    (fun h => by rw [← Except.ok.inj h]; rfl) htake
  obtain ⟨level, outputs, hlevel, houtputs, rfl⟩ := LogSettings.fromEntries_eq_accept.1 hinner
  obtain ⟨hlevelAgain, houtputsAgain⟩ := LogSettings.ofRecord_eq_accept.1 hread
  obtain rfl := accept_inj.1 ((choice_severity level).symm.trans hlevelAgain)
  exact ⟨taken_of_field hlevel (hfields "level" (by decide)) (choice_mapping _),
    outputs, taken_of_field houtputs (hfields "outputs" (by decide)) (listOf_mapping _),
    houtputsAgain⟩

/-- The default of the locations is what the empty mapping is read as. -/
lemma ofValue_nil_of_default {locations : Locations}
    (h : Locations.default env = .ok locations) :
    Locations.ofValue env (.mapping []) = accept locations := by
  obtain ⟨user, huser, h⟩ := Outcome.bind_eq_ok.1 h
  obtain ⟨package, hpackage, h⟩ := Outcome.bind_eq_ok.1 h
  obtain ⟨cache, hcache, h⟩ := Outcome.bind_eq_ok.1 h
  obtain rfl := Except.ok.inj h
  exact Locations.ofEntries_eq_accept.2 ⟨field_eq_accept.2 rfl, field_eq_accept.2 huser,
    field_eq_accept.2 hpackage, field_eq_accept.2 hcache⟩

lemma locations_follow (hgives : Gives "locations" entries expected)
    (htake : takeSection (Layer.ofEntries entries) "locations" .locations
      (fun v => Locations.toValue <$> Locations.ofValue env v)
      ((Locations.default env).map Locations.toValue) = accept v)
    {locations : Locations} (hread : Locations.ofValue env v.plain = accept locations) :
    Settles (Locations.readPath env) (.ok (Locations.defaultSystemRoot env))
        (fun s => Locations.readPath env (.text s)) (expected "system_root")
        locations.systemRoot ∧
      Settles (Locations.readPath env) (Locations.defaultUserRoot env)
        (fun s => Locations.readPath env (.text s)) (expected "user_root") locations.userRoot ∧
      Settles (Locations.readPath env) (Locations.defaultPackageRoot env)
        (fun s => Locations.readPath env (.text s)) (expected "nuget_root")
        locations.packageRoot ∧
      Settles (Locations.readPath env) (Locations.defaultCachePath env)
        (fun s => Locations.readPath env (.text s)) (expected "cache_path")
        locations.cachePath := by
  have hdefault : (Locations.default env).map Locations.toValue = .ok v →
      Locations.toValue <$> Locations.ofValue env (.mapping []) = accept v := by
    intro h
    obtain ⟨first, hfirst, rfl⟩ := Outcome.map_eq_ok.1 h
    exact map_eq_accept.2 ⟨first, ofValue_nil_of_default hfirst, rfl⟩
  obtain ⟨inner, hinner, hfields⟩ := exists_mapping_of_takeSection hgives hdefault htake
  obtain ⟨first, hfirst, rfl⟩ := map_eq_accept.1 hinner
  obtain ⟨hsystem, huser, hpackage, hcache⟩ := Locations.ofEntries_eq_accept.1 hfirst
  obtain ⟨hsystemAgain, huserAgain, hpackageAgain, hcacheAgain⟩ :=
    Locations.ofRecord_eq_accept.1 hread
  have htaken : ∀ name ∈ fieldNames "locations", ∀ {default : Except Failure String} {b : String},
      field inner name (Locations.readPath env) default = accept b →
        Taken (Locations.readPath env) default (expected name) b := fun name hname _ _ h =>
    taken_of_field h (hfields name hname) (readPath_mapping env)
  exact ⟨⟨_, htaken _ (by decide) hsystem, hsystemAgain⟩,
    ⟨_, htaken _ (by decide) huser, huserAgain⟩,
    ⟨_, htaken _ (by decide) hpackage, hpackageAgain⟩,
    ⟨_, htaken _ (by decide) hcache, hcacheAgain⟩⟩

lemma scanner_follows (hgives : Gives "scanner" entries expected)
    (htake : takeSection (Layer.ofEntries entries) "scanner" .scanner
      (fun v => ScannerSettings.toValue <$> ScannerSettings.ofValue v)
      (.ok ScannerSettings.default.toValue) = accept v)
    {settings : ScannerSettings} (hread : ScannerSettings.ofValue v.plain = accept settings) :
    Taken text (.ok ScannerSettings.default.folderStart) (expected "platform_folder_prefix")
        settings.folderStart ∧
      Taken ScannerSettings.readVersion (.ok ScannerSettings.default.leastVersion)
        (expected "min_platform_version") settings.leastVersion ∧
      Taken truth (.ok ScannerSettings.default.includePackages) (expected "include_nuget")
        settings.includePackages := by
  obtain ⟨inner, hinner, hfields⟩ := exists_mapping_of_takeSection hgives
    (fun h => by rw [← Except.ok.inj h]; rfl) htake
  obtain ⟨first, hfirst, rfl⟩ := map_eq_accept.1 hinner
  have hagain := ScannerSettings.ofValue_toValue (ScannerSettings.le_of_ofValue hfirst)
  obtain rfl := accept_inj.1 (hagain.symm.trans hread)
  obtain ⟨hstart, hversion, hpackages⟩ := ScannerSettings.ofEntries_eq_accept.1 hfirst
  exact ⟨taken_of_field hstart (hfields _ (by decide)) text_mapping,
    taken_of_field hversion (hfields _ (by decide)) readVersion_mapping,
    taken_of_field hpackages (hfields _ (by decide)) truth_mapping⟩

lemma watcher_follows (hgives : Gives "watcher" entries expected)
    (htake : takeSection (Layer.ofEntries entries) "watcher" .watcher
      (fun v => WatcherSettings.toValue <$> WatcherSettings.ofValue v)
      (.ok WatcherSettings.default.toValue) = accept v)
    {settings : WatcherSettings} (hread : WatcherSettings.ofValue v.plain = accept settings) :
    Taken truth (.ok WatcherSettings.default.forcePolling) (expected "force_polling")
        settings.forcePolling ∧
      Taken WatcherSettings.readDelay (.ok WatcherSettings.default.pollDelay)
        (expected "poll_delay_ms") settings.pollDelay ∧
      Taken WatcherSettings.readDelay (.ok WatcherSettings.default.debounce)
        (expected "debounce_ms") settings.debounce := by
  obtain ⟨inner, hinner, hfields⟩ := exists_mapping_of_takeSection hgives
    (fun h => by rw [← Except.ok.inj h]; rfl) htake
  obtain ⟨first, hfirst, rfl⟩ := map_eq_accept.1 hinner
  have hagain := WatcherSettings.ofValue_toValue (WatcherSettings.pos_of_ofValue hfirst)
  obtain rfl := accept_inj.1 (hagain.symm.trans hread)
  obtain ⟨hpolling, hdelay, hdebounce⟩ := WatcherSettings.ofEntries_eq_accept.1 hfirst
  exact ⟨taken_of_field hpolling (hfields _ (by decide)) truth_mapping,
    taken_of_field hdelay (hfields _ (by decide)) readDelay_mapping,
    taken_of_field hdebounce (hfields _ (by decide)) readDelay_mapping⟩

end Sections

/-! ## All settings -/

section All

variable {env : Environment} {tree : FileTree} {common : Path} {named : Option Path}
  {values : List (Value × Value)} {s : Sources} {settings : Settings}

/-- Whether every field of settings has the value of the first source that supplies it, or its
default. Paths, and the outputs of the log, are read twice; for the other fields that comes to the
same. -/
structure Follows (env : Environment) (s : Sources) (settings : Settings) : Prop where
  level : Taken (choice Severity.choices) (.ok LogSettings.default.level)
    (s.field? "logging" "level") settings.log.level
  outputs : Settles (listOf (LogOutput.take env))
    (.ok (LogSettings.default.outputs.map LogOutput.toValue))
    (fun items => listOf (LogOutput.ofValue env) (Value.list items).plain)
    (s.field? "logging" "outputs") settings.log.outputs
  systemRoot : Settles (Locations.readPath env) (.ok (Locations.defaultSystemRoot env))
    (fun s => Locations.readPath env (.text s)) (s.field? "locations" "system_root")
    settings.locations.systemRoot
  userRoot : Settles (Locations.readPath env) (Locations.defaultUserRoot env)
    (fun s => Locations.readPath env (.text s)) (s.field? "locations" "user_root")
    settings.locations.userRoot
  packageRoot : Settles (Locations.readPath env) (Locations.defaultPackageRoot env)
    (fun s => Locations.readPath env (.text s)) (s.field? "locations" "nuget_root")
    settings.locations.packageRoot
  cachePath : Settles (Locations.readPath env) (Locations.defaultCachePath env)
    (fun s => Locations.readPath env (.text s)) (s.field? "locations" "cache_path")
    settings.locations.cachePath
  folderStart : Taken text (.ok ScannerSettings.default.folderStart)
    (s.field? "scanner" "platform_folder_prefix") settings.scanner.folderStart
  leastVersion : Taken ScannerSettings.readVersion (.ok ScannerSettings.default.leastVersion)
    (s.field? "scanner" "min_platform_version") settings.scanner.leastVersion
  includePackages : Taken truth (.ok ScannerSettings.default.includePackages)
    (s.field? "scanner" "include_nuget") settings.scanner.includePackages
  forcePolling : Taken truth (.ok WatcherSettings.default.forcePolling)
    (s.field? "watcher" "force_polling") settings.watcher.forcePolling
  pollDelay : Taken WatcherSettings.readDelay (.ok WatcherSettings.default.pollDelay)
    (s.field? "watcher" "poll_delay_ms") settings.watcher.pollDelay
  debounce : Taken WatcherSettings.readDelay (.ok WatcherSettings.default.debounce)
    (s.field? "watcher" "debounce_ms") settings.watcher.debounce

/-- Settings that are loaded from mappings follow their sources field by field. -/
theorem follows_sources (hread : Sources.read env tree common named values = .ok s)
    (hvalues : s.haveDistinctKeys = true) (hsections : s.haveSections = true)
    (hload : load env tree common named (Layer.ofEntries values) = .ok settings) :
    Follows env s settings := by
  obtain ⟨entries, hlayers, hgives⟩ := exists_gives_of_load hread hvalues hsections hload
  rw [ofLayers] at hlayers
  split at hlayers
  · obtain ⟨taken, htaken, hagain⟩ := Outcome.bind_eq_ok.1 hlayers
    obtain ⟨log, locations, scanner, watcher, htakeLog, htakeLocations, htakeScanner, htakeWatcher,
      rfl⟩ := exists_sections_of_takeLayer (settle_eq_ok.1 htaken)
    obtain ⟨hreadLog, hreadLocations, hreadScanner, hreadWatcher⟩ :=
      ofRecord_eq_accept.1 (settle_eq_ok.1 hagain)
    obtain ⟨hlevel, houtputs⟩ := log_follows (hgives _ (by decide)) htakeLog hreadLog
    obtain ⟨hsystem, huser, hpackage, hcache⟩ :=
      locations_follow (hgives _ (by decide)) htakeLocations hreadLocations
    obtain ⟨hstart, hversion, hpackages⟩ :=
      scanner_follows (hgives _ (by decide)) htakeScanner hreadScanner
    obtain ⟨hpolling, hdelay, hdebounce⟩ :=
      watcher_follows (hgives _ (by decide)) htakeWatcher hreadWatcher
    exact ⟨hlevel, houtputs, hsystem, huser, hpackage, hcache, hstart, hversion, hpackages,
      hpolling, hdelay, hdebounce⟩
  · cases hlayers

/-- A user with a home folder, an object for one section and a variable for a field of another. -/
def layeredEnvironment : Environment :=
  ⟨.ofList [("HOME", "/home/u"),
    ("EXTANNOTATIONS__SCANNER", "\x7b\"MIN_PLATFORM_VERSION\": 21\x7d"),
    ("EXTANNOTATIONS__WATCHER__POLL_DELAY_MS", "7")], [], none⟩

/-- A file for all programs and one of the caller. -/
def layeredFiles : FileTree :=
  ((FileTree.withCurrent ["w"]).put ["w", "common.yaml"]
      (.file (Text.utf8 "watcher: \x7bpoll_delay_ms: 5\x7d") 0)).put
    ["w", "own.yaml"] (.file (Text.utf8 "watcher: \x7bdebounce_ms: 6\x7d") 0)

/-- Another field of the section that all other sources give as well. -/
def layeredValues : List (Value × Value) :=
  [(.text "watcher", .ofFields [("force_polling", .bool true)])]

/-- What is loaded then. -/
def layeredSettings : Settings :=
  ⟨.default,
    ⟨"/opt", "/home/u/.local/share", "/home/u/.nuget/packages/jetbrains.externalannotations",
      "/home/u/.local/share/ResharperCodeContractNullability/external-annotations.cache"⟩,
    ⟨"ReSharperPlatformVs", 21, true⟩, ⟨true, 7, 6⟩⟩

theorem follows_sources_layered :
    ∃ s, Sources.read layeredEnvironment layeredFiles (.ofText "common.yaml")
        (some (.ofText "own.yaml")) layeredValues = .ok s ∧
      s.haveDistinctKeys = true ∧ s.haveSections = true ∧
      load layeredEnvironment layeredFiles (.ofText "common.yaml") (some (.ofText "own.yaml"))
        (Layer.ofEntries layeredValues) = .ok layeredSettings ∧
      Follows layeredEnvironment s layeredSettings := by
  have hload : load layeredEnvironment layeredFiles (.ofText "common.yaml")
      (some (.ofText "own.yaml")) (Layer.ofEntries layeredValues) = .ok layeredSettings :=
    Outcome.eq_ok_of_toOption (by decide +kernel)
  have hall : (Sources.read layeredEnvironment layeredFiles (.ofText "common.yaml")
      (some (.ofText "own.yaml")) layeredValues).toOption.any
        (fun s => s.haveDistinctKeys && s.haveSections) = true := by
    decide +kernel
  obtain ⟨s, hs, hfacts⟩ := (Option.any_eq_true _ _).1 hall
  have hread := Outcome.eq_ok_of_toOption hs
  rw [Bool.and_eq_true] at hfacts
  exact ⟨s, hread, hfacts.1, hfacts.2, hload,
    follows_sources hread hfacts.1 hfacts.2 hload⟩

/-- A user with an object that gives a field twice, and a variable for the same field. -/
def respelledEnvironment : Environment :=
  ⟨.ofList [("HOME", "/home/u"),
    ("EXTANNOTATIONS__SCANNER",
      "\x7b\"min_platform_version\": 20, \"MIN_PLATFORM_VERSION\": 21\x7d"),
    ("EXTANNOTATIONS__SCANNER__MIN_PLATFORM_VERSION", "22")], [], none⟩

/-- What is loaded then without any file: the variable for the field alone does not count. -/
def respelledSettings : Settings :=
  ⟨.default,
    ⟨"/opt", "/home/u/.local/share", "/home/u/.nuget/packages/jetbrains.externalannotations",
      "/home/u/.local/share/ResharperCodeContractNullability/external-annotations.cache"⟩,
    ⟨"ReSharperPlatformVs", 21, true⟩, .default⟩

/-- The variable for a field does not always come before the object for its section. -/
theorem not_inOrder_of_respelled :
    ∃ s, Sources.read respelledEnvironment (FileTree.withCurrent ["w"]) (.ofText "common.yaml")
        none [] = .ok s ∧
      s.haveDistinctKeys = true ∧ s.haveSections = true ∧
      load respelledEnvironment (FileTree.withCurrent ["w"]) (.ofText "common.yaml") none
        (Layer.ofEntries []) = .ok respelledSettings ∧
      ¬ Taken ScannerSettings.readVersion (.ok ScannerSettings.default.leastVersion)
        (s.inOrder? "scanner" "min_platform_version") respelledSettings.scanner.leastVersion := by
  have hload : load respelledEnvironment (FileTree.withCurrent ["w"]) (.ofText "common.yaml") none
      (Layer.ofEntries []) = .ok respelledSettings :=
    Outcome.eq_ok_of_toOption (by decide +kernel)
  have hall : (Sources.read respelledEnvironment (FileTree.withCurrent ["w"])
      (.ofText "common.yaml") none []).toOption.any
        (fun s => s.haveDistinctKeys && s.haveSections &&
          (s.inOrder? "scanner" "min_platform_version").any
            (fun v => v.sameKey (.text "22"))) = true := by
    decide +kernel
  obtain ⟨s, hs, hfacts⟩ := (Option.any_eq_true _ _).1 hall
  simp only [Bool.and_eq_true] at hfacts
  obtain ⟨v, hv, hsame⟩ := (Option.any_eq_true _ _).1 hfacts.2
  refine ⟨s, Outcome.eq_ok_of_toOption hs, hfacts.1.1, hfacts.1.2, hload, fun htaken => ?_⟩
  rw [hv, (Value.sameKey_text_iff _ _).1 hsame] at htaken
  have hread : ScannerSettings.readVersion (.text "22") = accept 22 := rfl
  exact absurd (accept_inj.1 (hread.symm.trans htaken)) (by decide)

end All

end Nullability.Settings
