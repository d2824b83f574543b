import Nullability.Proofs.Path.Spelling
import Nullability.Proofs.Settings.Reading
import Nullability.Settings.Load

/-!
# Settings that stay

Settings are read twice, since defaults and sections that are built beforehand come in without being
looked at. After that there is nothing left to do: all settings that are loaded keep to the rules of
their fields, all paths in them are written out, and reading them once more gives them again
(`Settings.isSettled_of_load`).

Each reader is taken by itself: what it accepts is settled, and what is settled it reads from its
own record. For the locations it matters that the second reading finds all of them, because their
defaults are not looked at: whatever way they come in, all four are there.
-/

namespace Nullability

variable {env : Environment}

/-! ## Fields -/

section Fields

open Judged

lemma choice_severity (level : Severity) :
    choice Severity.choices (.text level.name) = accept level := by
  cases level <;> rfl

lemma choice_format (format : LogFormat) :
    choice [("json", LogFormat.json), ("console", LogFormat.console)] (.text format.name) =
      accept format := by
  cases format <;> rfl

/-- The versions that are accepted are the numbers of at most two digits. -/
lemma ScannerSettings.readVersion_eq_accept {v : Value} {n : Nat} :
    readVersion v = accept n ↔ integer v = accept (n : Int) ∧ n ≤ 99 := by
  refine tested_eq_accept.trans ⟨?_, fun ⟨hv, hn⟩ => ⟨n, hv, by omega, rfl⟩⟩
  rintro ⟨m, hv, hm, rfl⟩
  rw [Int.toNat_of_nonneg hm.1]
  exact ⟨hv, by omega⟩

/-- The delays that are accepted are the positive numbers. -/
lemma WatcherSettings.readDelay_eq_accept {v : Value} {n : Nat} :
    readDelay v = accept n ↔ integer v = accept (n : Int) ∧ 0 < n := by
  refine tested_eq_accept.trans ⟨?_, fun ⟨hv, hn⟩ => ⟨n, hv, by omega, rfl⟩⟩
  rintro ⟨m, hv, hm, rfl⟩
  rw [Int.toNat_of_nonneg hm.le]
  exact ⟨hv, by omega⟩

/-- A path that is accepted is settled. -/
lemma Locations.isSettled_of_readPath (hhomes : env.HasRootedHomes) {v : Value} {s : String}
    (h : readPath env v = accept s) : env.IsSettled s := by
  obtain ⟨text, -, htext⟩ := andThen_eq_accept.1 h
  split at htext
  · exact absurd htext refuse_ne_accept
  · exact Environment.isSettled_of_expandText hhomes (expanded_eq_accept.1 htext)

lemma Locations.readPath_text {s : String} (h : env.IsSettled s) :
    readPath env (.text s) = accept s := by
  refine andThen_eq_accept.2 ⟨s, rfl, ?_⟩
  have hne : ¬ s.isEmpty = true := by
    rw [String.isEmpty_iff]
    exact h.ne_empty
  rw [if_neg hne, h.stays]
  rfl

/-- Whether a destination is a standard stream or an absolute path. -/
def LogDestination.IsSettled : LogDestination → Prop
  | .file path => path.isAbsolute = true ∧ path.Proper
  | _ => True

lemma LogOutput.isSettled_of_readDestination (hhomes : env.HasRootedHomes) {v : Value}
    {destination : LogDestination} (h : readDestination env v = accept destination) :
    destination.IsSettled := by
  obtain ⟨text, -, htext⟩ := andThen_eq_accept.1 h
  split at htext
  · obtain rfl := accept_inj.1 htext
    trivial
  · split at htext
    · obtain rfl := accept_inj.1 htext
      trivial
    · obtain ⟨path, hpath, habsolute⟩ := andThen_eq_accept.1 htext
      have hexpand := expanded_eq_accept.1 hpath
      split at habsolute
      · rename_i hrooted
        obtain rfl := accept_inj.1 habsolute
        exact ⟨hrooted, (Environment.expand_eq_ok hhomes (Path.proper_ofText text) hexpand).1⟩
      · exact absurd habsolute refuse_ne_accept

lemma LogOutput.readDestination_text {destination : LogDestination} (h : destination.IsSettled) :
    readDestination env (.text destination.text) = accept destination := by
  refine andThen_eq_accept.2 ⟨destination.text, rfl, ?_⟩
  cases destination with
  | standardError => rfl
  | standardOutput => rfl
  | file path =>
    obtain ⟨habsolute, hproper⟩ := h
    have hhead : path.text.toList.head? = some '/' :=
      Path.head?_text_of_absolute (of_decide_eq_true habsolute)
    have hne : ∀ s : String, s.toList.head? ≠ some '/' → path.text ≠ s := by
      rintro s hs rfl
      exact hs hhead
    have hexpand : env.expand (Path.ofText path.text) = .ok path := by
      rw [Path.ofText_text hproper]
      exact Path.expandHome_of_not_startsAtHome (Path.startsAtHome_of_isAbsolute habsolute)
    rw [LogDestination.text, if_neg (hne "stderr" (by decide)), if_neg (hne "stdout" (by decide)),
      hexpand]
    exact if_pos habsolute

end Fields

/-! ## Sections -/

section Sections

open Judged

lemma LogOutput.isSettled_of_ofValue (hhomes : env.HasRootedHomes) {v : Value} {output : LogOutput}
    (h : ofValue env v = accept output) : output.destination.IsSettled := by
  obtain ⟨entries, -, hentries⟩ := record_eq_accept.1 h
  obtain ⟨-, hdestination, -⟩ := ofEntries_eq_accept.1 hentries
  have hread := field_eq_accept.1 hdestination
  split at hread
  · exact isSettled_of_readDestination hhomes hread
  · rw [← Except.ok.inj hread]
    trivial

lemma LogOutput.readLevel_toValue (level : Option Severity) :
    readLevel ((level.map (fun level => Value.text level.name)).getD .null).plain =
      accept level := by
  cases level with
  | none => rfl
  | some level => exact map_eq_accept.2 ⟨level, choice_severity level, rfl⟩

lemma LogOutput.ofValue_toValue {output : LogOutput} (h : output.destination.IsSettled) :
    ofValue env output.toValue.plain = accept output := by
  exact ofRecord_eq_accept.2 ⟨choice_format output.format, readDestination_text h,
    readLevel_toValue output.level⟩

lemma LogSettings.isSettled_of_ofValue (hhomes : env.HasRootedHomes) {v : Value}
    {settings : LogSettings} (h : ofValue env v = accept settings) :
    ∀ output ∈ settings.outputs, output.destination.IsSettled := by
  obtain ⟨entries, -, hentries⟩ := record_eq_accept.1 h
  obtain ⟨level, outputs, -, houtputs, rfl⟩ := fromEntries_eq_accept.1 hentries
  have hread := field_eq_accept.1 houtputs
  intro output hmem
  split at hread
  · obtain ⟨item, hitem⟩ := exists_of_mem_listOf hread hmem
    exact LogOutput.isSettled_of_ofValue hhomes hitem
  · obtain rfl := Except.ok.inj hread
    obtain rfl := List.mem_singleton.1 hmem
    trivial

lemma LogSettings.listOf_toValue {outputs : List LogOutput}
    (h : ∀ output ∈ outputs, output.destination.IsSettled) :
    listOf (LogOutput.ofValue env)
      (Value.list (outputs.map LogOutput.toValue)).plain = accept outputs := by
  refine listOf_eq_accept.2 ⟨_, .inl rfl, ?_⟩
  induction outputs with
  | nil => exact .nil
  | cons output rest ih =>
    rw [List.forall_mem_cons] at h
    exact .cons (LogOutput.ofValue_toValue h.1) (ih h.2)

lemma LogSettings.ofValue_toValue {settings : LogSettings}
    (h : ∀ output ∈ settings.outputs, output.destination.IsSettled) :
    ofValue env settings.toValue.plain = accept settings := by
  exact ofRecord_eq_accept.2 ⟨choice_severity settings.level, listOf_toValue h⟩

lemma Locations.ofValue_toValue {locations : Locations}
    (hsystem : env.IsSettled locations.systemRoot) (huser : env.IsSettled locations.userRoot)
    (hpackage : env.IsSettled locations.packageRoot) (hcache : env.IsSettled locations.cachePath) :
    ofValue env locations.toValue.plain = accept locations := by
  exact ofRecord_eq_accept.2 ⟨readPath_text hsystem, readPath_text huser, readPath_text hpackage,
    readPath_text hcache⟩

lemma ScannerSettings.le_of_ofValue {v : Value} {settings : ScannerSettings}
    (h : ofValue v = accept settings) : settings.leastVersion ≤ 99 := by
  obtain ⟨entries, -, hentries⟩ := record_eq_accept.1 h
  obtain ⟨-, hversion, -⟩ := ofEntries_eq_accept.1 hentries
  have hread := field_eq_accept.1 hversion
  split at hread
  · exact (readVersion_eq_accept.1 hread).2
  · rw [← Except.ok.inj hread]
    decide

lemma ScannerSettings.ofValue_toValue {settings : ScannerSettings}
    (h : settings.leastVersion ≤ 99) : ofValue settings.toValue.plain = accept settings := by
  exact ofRecord_eq_accept.2 ⟨rfl, readVersion_eq_accept.2 ⟨rfl, h⟩, rfl⟩

lemma WatcherSettings.pos_of_field {entries : List (Value × Value)} {name : String}
    {default n : Nat} (hdefault : 0 < default)
    (h : field entries name readDelay (.ok default) = accept n) : 0 < n := by
  have hread := field_eq_accept.1 h
  split at hread
  · exact (readDelay_eq_accept.1 hread).2
  · rwa [← Except.ok.inj hread]

lemma WatcherSettings.pos_of_ofValue {v : Value} {settings : WatcherSettings}
    (h : ofValue v = accept settings) : 0 < settings.pollDelay ∧ 0 < settings.debounce := by
  obtain ⟨entries, -, hentries⟩ := record_eq_accept.1 h
  obtain ⟨-, hdelay, hdebounce⟩ := ofEntries_eq_accept.1 hentries
  exact ⟨pos_of_field (by decide) hdelay, pos_of_field (by decide) hdebounce⟩

lemma WatcherSettings.ofValue_toValue {settings : WatcherSettings}
    (h : 0 < settings.pollDelay ∧ 0 < settings.debounce) :
    ofValue settings.toValue.plain = accept settings := by
  exact ofRecord_eq_accept.2 ⟨rfl, readDelay_eq_accept.2 ⟨rfl, h.1⟩,
    readDelay_eq_accept.2 ⟨rfl, h.2⟩⟩

/-- Locations that are read from a record with all fields are settled, whatever the fields hold. -/
lemma Locations.isSettled_of_ofValue (hhomes : env.HasRootedHomes) {name : String}
    {fields : List (String × Value)}
    (hfields : fields.map Prod.fst = Section.Kind.locations.fieldNames) {locations : Locations}
    (h : ofValue env (Value.record name fields).plain = accept locations) :
    env.IsSettled locations.systemRoot ∧ env.IsSettled locations.userRoot ∧
      env.IsSettled locations.packageRoot ∧ env.IsSettled locations.cachePath := by
  simp only [Section.Kind.fieldNames, List.map_eq_cons_iff, List.map_eq_nil_iff] at hfields
  obtain ⟨⟨_, a⟩, _, rfl, rfl, ⟨_, b⟩, _, rfl, rfl, ⟨_, c⟩, _, rfl, rfl, ⟨_, d⟩, _, rfl, rfl,
    rfl⟩ := hfields
  obtain ⟨hsystem, huser, hpackage, hcache⟩ := ofRecord_eq_accept.1 h
  exact ⟨isSettled_of_readPath hhomes hsystem, isSettled_of_readPath hhomes huser,
    isSettled_of_readPath hhomes hpackage, isSettled_of_readPath hhomes hcache⟩

end Sections

/-! ## All settings -/

namespace Settings

open Judged

/-- Whether settings keep to the rules of their fields and are read again from their own record. -/
structure IsSettled (env : Environment) (settings : Settings) : Prop where
  version : settings.scanner.leastVersion ≤ 99
  pollDelay : 0 < settings.watcher.pollDelay
  debounce : 0 < settings.watcher.debounce
  systemRoot : env.IsSettled settings.locations.systemRoot
  userRoot : env.IsSettled settings.locations.userRoot
  packageRoot : env.IsSettled settings.locations.packageRoot
  cachePath : env.IsSettled settings.locations.cachePath
  destinations : ∀ output ∈ settings.log.outputs, output.destination.IsSettled
  again : ofValue env settings.toValue.plain = accept settings

/-- Whatever way the locations come in, there is a record with all their fields. -/
lemma exists_fields_of_takeSection {layer : Layer} {v : Value}
    (h : takeSection layer "locations" .locations
      (fun v => Locations.toValue <$> Locations.ofValue env v)
      ((Locations.default env).map Locations.toValue) = accept v) :
    ∃ name fields, v = .record name fields ∧
      fields.map Prod.fst = Section.Kind.locations.fieldNames := by
  rw [takeSection] at h
  cases hgiven : layer.find? (.text "locations") with
  | none =>
    rw [hgiven] at h
    obtain ⟨locations, -, rfl⟩ := Outcome.map_eq_ok.1 (lift_eq_accept.1 h)
    exact ⟨_, locations.fields, rfl, rfl⟩
  | some given =>
    rw [hgiven] at h
    have htaken := inside_eq_accept.1 h
    cases given with
    | value v =>
      obtain ⟨locations, -, rfl⟩ := map_eq_accept.1 htaken
      exact ⟨_, locations.fields, rfl, rfl⟩
    | built s =>
      rw [takeGiven] at htaken
      split at htaken
      · rename_i hkind
        obtain rfl := accept_inj.1 htaken
        exact ⟨_, s.fields, rfl, hkind ▸ s.complete⟩
      · exact absurd htaken refuse_ne_accept

lemma isSettled_of_ofLayers (hhomes : env.HasRootedHomes) {layer : Layer} {settings : Settings}
    (h : ofLayers env layer = .ok settings) : settings.IsSettled env := by
  rw [ofLayers] at h
  split at h
  · obtain ⟨taken, htaken, hread⟩ := Outcome.bind_eq_ok.1 h
    obtain ⟨log, locations, scanner, watcher, -, hlocations, -, -, rfl⟩ :=
      exists_sections_of_takeLayer (settle_eq_ok.1 htaken)
    obtain ⟨hreadLog, hreadLocations, hreadScanner, hreadWatcher⟩ :=
      ofRecord_eq_accept.1 (settle_eq_ok.1 hread)
    obtain ⟨name, fields, rfl, hfields⟩ := exists_fields_of_takeSection hlocations
    obtain ⟨hsystem, huser, hpackage, hcache⟩ :=
      Locations.isSettled_of_ofValue hhomes hfields hreadLocations
    have hversion := ScannerSettings.le_of_ofValue hreadScanner
    have hdelays := WatcherSettings.pos_of_ofValue hreadWatcher
    have houtputs := LogSettings.isSettled_of_ofValue hhomes hreadLog
    refine ⟨hversion, hdelays.1, hdelays.2, hsystem, huser, hpackage, hcache, houtputs, ?_⟩
    exact ofRecord_eq_accept.2 ⟨LogSettings.ofValue_toValue houtputs,
      Locations.ofValue_toValue hsystem huser hpackage hcache,
      ScannerSettings.ofValue_toValue hversion, WatcherSettings.ofValue_toValue hdelays⟩
  · cases h

/-- Settings that are loaded are settled, whatever files, variables, values and sections they are
put together from. -/
theorem isSettled_of_load (hhomes : env.HasRootedHomes) {tree : FileTree} {common : Path}
    {named : Option Path} {given : Layer} {settings : Settings}
    (h : load env tree common named given = .ok settings) : settings.IsSettled env := by
  obtain ⟨files, -, hlayers⟩ := Outcome.bind_eq_ok.1 h
  obtain ⟨surroundings, -, hlayers⟩ := Outcome.bind_eq_ok.1 hlayers
  exact isSettled_of_ofLayers hhomes hlayers

/-- A user with a home folder and a variable for a setting. -/
def sampleEnvironment : Environment :=
  ⟨.ofList [("HOME", "/home/u"), ("EXTANNOTATIONS__WATCHER__DEBOUNCE_MS", "70")],
    [("root", "/root")], none⟩

/-- A file for all programs. -/
def sampleFiles : FileTree :=
  (FileTree.withCurrent ["w"]).put ["w", "common.yaml"]
    (.file (Text.utf8 "scanner: {min_platform_version: 20}") 0)

/-- Locations that nobody has looked at, and an output of which the same holds. -/
def sampleGiven : Layer :=
  [(.text "locations", .built ⟨.locations, [("system_root", .text "~root//a/."),
      ("user_root", .text "./b"), ("nuget_root", .bytes (Text.utf8 "~")),
      ("cache_path", .text "/")], rfl⟩),
    (.text "logging", .value (.ofFields [("outputs", .list
      [.record "LogOutputConfig" [("destination", .text "~/log")]])]))]

/-- What is loaded then. -/
def sampleSettings : Settings :=
  ⟨⟨.info, [⟨.console, .file ⟨.root, ["home", "u", "log"]⟩, none⟩]⟩,
    ⟨"/root/a", "b", "/home/u", "/"⟩, ⟨"ReSharperPlatformVs", 20, true⟩, ⟨false, 300, 70⟩⟩

theorem isSettled_of_load_sample :
    sampleEnvironment.HasRootedHomes ∧
      load sampleEnvironment sampleFiles (.ofText "common.yaml") none sampleGiven =
        .ok sampleSettings ∧
      sampleSettings.IsSettled sampleEnvironment := by
  have hload : load sampleEnvironment sampleFiles (.ofText "common.yaml") none sampleGiven =
      .ok sampleSettings := Outcome.eq_ok_of_toOption (by decide +kernel)
  exact ⟨by decide, hload, isSettled_of_load (by decide) hload⟩

end Settings

end Nullability
