import Nullability.Proofs.Settings.Judgement
import Nullability.Proofs.Value.Lookup
import Nullability.Settings.Reading

/-!
# Reading sections field by field

A section is read from the pairs of a mapping exactly if each of its fields is. From a record that
has all fields it is read if each field is read from what the record has for it. All settings are
made of their sections in the same way.
-/

namespace Nullability

open Judged

variable {env : Environment} {entries : List (Value × Value)} {name : String}

namespace LogOutput

lemma ofEntries_eq_accept {output : LogOutput} : ofEntries env entries = accept output ↔
    field entries "format"
        (choice [("json", LogFormat.json), ("console", LogFormat.console)])
        (.ok default.format) = accept output.format ∧
      field entries "destination" (readDestination env) (.ok default.destination) =
        accept output.destination ∧
      field entries "level" readLevel (.ok default.level) = accept output.level := by
  constructor
  · intro h
    obtain ⟨f, level, hf, hlevel, rfl⟩ := seq_eq_accept.1 h
    obtain ⟨f', destination, hf', hdestination, rfl⟩ := seq_eq_accept.1 hf
    obtain ⟨format, hformat, rfl⟩ := map_eq_accept.1 hf'
    exact ⟨hformat, hdestination, hlevel⟩
  · rintro ⟨hformat, hdestination, hlevel⟩
    exact seq_eq_accept.2 ⟨_, _, seq_eq_accept.2 ⟨_, _, map_eq_accept.2 ⟨_, hformat, rfl⟩,
      hdestination, rfl⟩, hlevel, rfl⟩

lemma ofRecord_eq_accept {a b c : Value} {output : LogOutput} :
    ofValue env (Value.record name [("format", a), ("destination", b), ("level", c)]).plain =
        accept output ↔
      choice [("json", LogFormat.json), ("console", LogFormat.console)] a.plain =
        accept output.format ∧
      readDestination env b.plain = accept output.destination ∧
      readLevel c.plain = accept output.level := by
  refine ofEntries_eq_accept.trans ?_
  simp [field_eq_accept, Value.plainFields]

end LogOutput

namespace LogSettings

lemma fromEntries_eq_accept {α β : Type} {make : Severity → List α → β} {read : Value → Judged α}
    {default : List α} {b : β} : fromEntries make read default entries = accept b ↔
      ∃ level outputs,
        field entries "level" (choice Severity.choices) (.ok LogSettings.default.level) =
          accept level ∧
        field entries "outputs" (listOf read) (.ok default) = accept outputs ∧
        make level outputs = b := by
  constructor
  · intro h
    obtain ⟨f, outputs, hf, houtputs, rfl⟩ := seq_eq_accept.1 h
    obtain ⟨level, hlevel, rfl⟩ := map_eq_accept.1 hf
    exact ⟨level, outputs, hlevel, houtputs, rfl⟩
  · rintro ⟨level, outputs, hlevel, houtputs, rfl⟩
    exact seq_eq_accept.2 ⟨_, _, map_eq_accept.2 ⟨_, hlevel, rfl⟩, houtputs, rfl⟩

lemma ofRecord_eq_accept {a b : Value} {settings : LogSettings} :
    ofValue env (Value.record name [("level", a), ("outputs", b)]).plain = accept settings ↔
      choice Severity.choices a.plain = accept settings.level ∧
      listOf (LogOutput.ofValue env) b.plain = accept settings.outputs := by
  refine fromEntries_eq_accept.trans ?_
  simp only [field_eq_accept, Value.plainFields, Value.lookup?_text_cons]
  constructor
  · rintro ⟨level, outputs, hlevel, houtputs, rfl⟩
    exact ⟨hlevel, houtputs⟩
  · rintro ⟨hlevel, houtputs⟩
    exact ⟨_, _, hlevel, houtputs, rfl⟩

end LogSettings

namespace Locations

lemma ofEntries_eq_accept {locations : Locations} : ofEntries env entries = accept locations ↔
    field entries "system_root" (readPath env) (.ok (defaultSystemRoot env)) =
        accept locations.systemRoot ∧
      field entries "user_root" (readPath env) (defaultUserRoot env) = accept locations.userRoot ∧
      field entries "nuget_root" (readPath env) (defaultPackageRoot env) =
        accept locations.packageRoot ∧
      field entries "cache_path" (readPath env) (defaultCachePath env) =
        accept locations.cachePath := by
  constructor
  · intro h
    obtain ⟨f, cache, hf, hcache, rfl⟩ := seq_eq_accept.1 h
    obtain ⟨f', package, hf', hpackage, rfl⟩ := seq_eq_accept.1 hf
    obtain ⟨f₂, user, hf₂, huser, rfl⟩ := seq_eq_accept.1 hf'
    obtain ⟨system, hsystem, rfl⟩ := map_eq_accept.1 hf₂
    exact ⟨hsystem, huser, hpackage, hcache⟩
  · rintro ⟨hsystem, huser, hpackage, hcache⟩
    exact seq_eq_accept.2 ⟨_, _, seq_eq_accept.2 ⟨_, _, seq_eq_accept.2 ⟨_, _,
      map_eq_accept.2 ⟨_, hsystem, rfl⟩, huser, rfl⟩, hpackage, rfl⟩, hcache, rfl⟩

lemma ofRecord_eq_accept {a b c d : Value} {locations : Locations} :
    ofValue env (Value.record name [("system_root", a), ("user_root", b), ("nuget_root", c),
        ("cache_path", d)]).plain = accept locations ↔
      readPath env a.plain = accept locations.systemRoot ∧
      readPath env b.plain = accept locations.userRoot ∧
      readPath env c.plain = accept locations.packageRoot ∧
      readPath env d.plain = accept locations.cachePath := by
  refine ofEntries_eq_accept.trans ?_
  simp [field_eq_accept, Value.plainFields]

end Locations

namespace ScannerSettings

lemma ofEntries_eq_accept {settings : ScannerSettings} : ofEntries entries = accept settings ↔
    field entries "platform_folder_prefix" text (.ok default.folderStart) =
        accept settings.folderStart ∧
      field entries "min_platform_version" readVersion (.ok default.leastVersion) =
        accept settings.leastVersion ∧
      field entries "include_nuget" truth (.ok default.includePackages) =
        accept settings.includePackages := by
  constructor
  · intro h
    obtain ⟨f, packages, hf, hpackages, rfl⟩ := seq_eq_accept.1 h
    obtain ⟨f', version, hf', hversion, rfl⟩ := seq_eq_accept.1 hf
    obtain ⟨start, hstart, rfl⟩ := map_eq_accept.1 hf'
    exact ⟨hstart, hversion, hpackages⟩
  · rintro ⟨hstart, hversion, hpackages⟩
    exact seq_eq_accept.2 ⟨_, _, seq_eq_accept.2 ⟨_, _, map_eq_accept.2 ⟨_, hstart, rfl⟩,
      hversion, rfl⟩, hpackages, rfl⟩

lemma ofRecord_eq_accept {a b c : Value} {settings : ScannerSettings} :
    ofValue (Value.record name [("platform_folder_prefix", a), ("min_platform_version", b),
        ("include_nuget", c)]).plain = accept settings ↔
      text a.plain = accept settings.folderStart ∧
      readVersion b.plain = accept settings.leastVersion ∧
      truth c.plain = accept settings.includePackages := by
  refine ofEntries_eq_accept.trans ?_
  simp [field_eq_accept, Value.plainFields]

end ScannerSettings

namespace WatcherSettings

lemma ofEntries_eq_accept {settings : WatcherSettings} : ofEntries entries = accept settings ↔
    field entries "force_polling" truth (.ok default.forcePolling) =
        accept settings.forcePolling ∧
      field entries "poll_delay_ms" readDelay (.ok default.pollDelay) =
        accept settings.pollDelay ∧
      field entries "debounce_ms" readDelay (.ok default.debounce) = accept settings.debounce := by
  constructor
  · intro h
    obtain ⟨f, debounce, hf, hdebounce, rfl⟩ := seq_eq_accept.1 h
    obtain ⟨f', delay, hf', hdelay, rfl⟩ := seq_eq_accept.1 hf
    obtain ⟨polling, hpolling, rfl⟩ := map_eq_accept.1 hf'
    exact ⟨hpolling, hdelay, hdebounce⟩
  · rintro ⟨hpolling, hdelay, hdebounce⟩
    exact seq_eq_accept.2 ⟨_, _, seq_eq_accept.2 ⟨_, _, map_eq_accept.2 ⟨_, hpolling, rfl⟩,
      hdelay, rfl⟩, hdebounce, rfl⟩

lemma ofRecord_eq_accept {a b c : Value} {settings : WatcherSettings} :
    ofValue (Value.record name [("force_polling", a), ("poll_delay_ms", b),
        ("debounce_ms", c)]).plain = accept settings ↔
      truth a.plain = accept settings.forcePolling ∧
      readDelay b.plain = accept settings.pollDelay ∧
      readDelay c.plain = accept settings.debounce := by
  refine ofEntries_eq_accept.trans ?_
  simp [field_eq_accept, Value.plainFields]

end WatcherSettings

namespace Settings

lemma ofEntries_eq_accept {settings : Settings} : ofEntries env entries = accept settings ↔
    field entries "logging" (LogSettings.ofValue env) (.ok .default) = accept settings.log ∧
      field entries "locations" (Locations.ofValue env) (Locations.default env) =
        accept settings.locations ∧
      field entries "scanner" ScannerSettings.ofValue (.ok .default) = accept settings.scanner ∧
      field entries "watcher" WatcherSettings.ofValue (.ok .default) =
        accept settings.watcher := by
  constructor
  · intro h
    obtain ⟨f, watcher, hf, hwatcher, rfl⟩ := seq_eq_accept.1 h
    obtain ⟨f', scanner, hf', hscanner, rfl⟩ := seq_eq_accept.1 hf
    obtain ⟨f₂, locations, hf₂, hlocations, rfl⟩ := seq_eq_accept.1 hf'
    obtain ⟨log, hlog, rfl⟩ := map_eq_accept.1 hf₂
    exact ⟨hlog, hlocations, hscanner, hwatcher⟩
  · rintro ⟨hlog, hlocations, hscanner, hwatcher⟩
    exact seq_eq_accept.2 ⟨_, _, seq_eq_accept.2 ⟨_, _, seq_eq_accept.2 ⟨_, _,
      map_eq_accept.2 ⟨_, hlog, rfl⟩, hlocations, rfl⟩, hscanner, rfl⟩, hwatcher, rfl⟩

lemma ofRecord_eq_accept {a b c d : Value} {settings : Settings} :
    ofValue env (Value.record name [("logging", a), ("locations", b), ("scanner", c),
        ("watcher", d)]).plain = accept settings ↔
      LogSettings.ofValue env a.plain = accept settings.log ∧
      Locations.ofValue env b.plain = accept settings.locations ∧
      ScannerSettings.ofValue c.plain = accept settings.scanner ∧
      WatcherSettings.ofValue d.plain = accept settings.watcher := by
  refine ofEntries_eq_accept.trans ?_
  simp [field_eq_accept, Value.plainFields]

/-- What is taken is a record of four sections. -/
lemma exists_sections_of_takeLayer {layer : Layer} {taken : Value}
    (h : takeLayer env layer = accept taken) :
    ∃ log locations scanner watcher,
      takeSection layer "logging" .log (LogSettings.take env) (.ok LogSettings.default.toValue) =
        accept log ∧
      takeSection layer "locations" .locations
        (fun v => Locations.toValue <$> Locations.ofValue env v)
        ((Locations.default env).map Locations.toValue) = accept locations ∧
      takeSection layer "scanner" .scanner
        (fun v => ScannerSettings.toValue <$> ScannerSettings.ofValue v)
        (.ok ScannerSettings.default.toValue) = accept scanner ∧
      takeSection layer "watcher" .watcher
        (fun v => WatcherSettings.toValue <$> WatcherSettings.ofValue v)
        (.ok WatcherSettings.default.toValue) = accept watcher ∧
      taken = .record "AnnotationsSettings" [("logging", log), ("locations", locations),
        ("scanner", scanner), ("watcher", watcher)] := by
  obtain ⟨f, -, hf, -, rfl⟩ := seq_eq_accept.1 h
  obtain ⟨f', watcher, hf', hwatcher, rfl⟩ := seq_eq_accept.1 hf
  obtain ⟨f₂, scanner, hf₂, hscanner, rfl⟩ := seq_eq_accept.1 hf'
  obtain ⟨f₃, locations, hf₃, hlocations, rfl⟩ := seq_eq_accept.1 hf₂
  obtain ⟨log, hlog, rfl⟩ := map_eq_accept.1 hf₃
  exact ⟨log, locations, scanner, watcher, hlog, hlocations, hscanner, hwatcher, rfl⟩

end Settings

end Nullability
