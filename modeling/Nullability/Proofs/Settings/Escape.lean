import Nullability.Proofs.Settings.Illegible

/-!
# Failures that are no faults

Whatever is wrong with settings, a user expects to be told by a fault that names the file or the
field. Most of the time that is so. What escapes is listed in `Settings.Escape`, and nothing else
does (`Settings.isTyped_load_iff`): a file that the system tells nothing about, one that is no UTF-8,
or one that writes a value which does not exist; two files whose merging has no end; a variable that
should be JSON and is not; a key of a file that is no text; a path whose home folder cannot be found;
and an issue with a value that has too many digits to be reported.
-/

namespace Nullability

open Value (mergeEntries)

namespace Settings

open Judged

/-! ## Keys -/

section Keys

/-- Whether all keys are texts. -/
def HasTextKeys (entries : List (Value × Value)) : Prop :=
  ∀ key ∈ entries.map Prod.fst, ∃ s, key = .text s

lemma hasTextKeys_ofEntries_iff {entries : List (Value × Value)} :
    (Layer.ofEntries entries).hasTextKeys = true ↔ HasTextKeys entries := by
  rw [Layer.hasTextKeys, Layer.ofEntries, List.all_map, List.all_eq_true, HasTextKeys,
    List.forall_mem_map]
  refine forall₂_congr fun entry _ => ?_
  obtain ⟨key, v⟩ := entry
  cases key <;> simp

lemma hasTextKeys_store_iff {s : String} {v : Value} {entries : List (Value × Value)} :
    HasTextKeys (Value.store (.text s) v entries) ↔ HasTextKeys entries := by
  rw [HasTextKeys, HasTextKeys]
  rcases Value.keys_store (.text s) v entries with hsame | ⟨-, hnew⟩
  · rw [hsame]
  · rw [hnew, List.forall_mem_append, List.forall_mem_singleton]
    exact and_iff_left ⟨s, rfl⟩

/-- If all keys of the upper pairs are texts, only a lower key can be none. -/
lemma hasTextKeys_mergeEntries_iff {lower upper : List (Value × Value)} (h : HasTextKeys upper) :
    HasTextKeys (mergeEntries lower upper) ↔ HasTextKeys lower := by
  induction upper generalizing lower with
  | nil => exact Iff.rfl
  | cons entry rest ih =>
    obtain ⟨key, v⟩ := entry
    obtain ⟨⟨s, rfl⟩, hrest⟩ := List.forall_mem_cons.1 h
    rw [mergeEntries, ih hrest, hasTextKeys_store_iff]

end Keys

/-! ## All sources together -/

section Together

variable {env : Environment} {tree : FileTree} {common : Path} {named : Option Path}
  {values : List (String × Value)} {failure : Failure}

lemma failureOfIssues_cons (issue : Issue) (rest : List Issue) :
    failureOfIssues (issue :: rest) =
      if issue.input.isWritable then .fault (faultOfIssues (issue :: rest)) else .badValue := by
  rw [failureOfIssues, List.head?_cons, Option.all_some]

lemma escapes_settle_iff {α : Type} {a : Judged α} :
    Escapes (settle a) failure ↔ a.stop? = some failure ∧ failure.isSettingsFault = false ∨
      failure = .badValue ∧
        ∃ issue rest, a = reject (issue :: rest) ∧ issue.input.isWritable = false := by
  rcases a with stopped | issues | x
  · constructor
    · rintro ⟨h, hfault⟩
      exact .inl ⟨congrArg some (Except.error.inj h), hfault⟩
    · rintro (⟨h, hfault⟩ | ⟨-, issue, rest, h, -⟩)
      · exact ⟨congrArg Except.error (Option.some.inj h), hfault⟩
      · cases h
  · constructor
    · intro h
      rcases issues with _ | ⟨issue, rest⟩
      · exact absurd h (not_escapes_fault rfl)
      · rw [settle, failureOfIssues_cons] at h
        split at h
        · exact absurd h (not_escapes_fault rfl)
        · rename_i hwritable
          exact .inr ⟨(Except.error.inj h.1).symm, issue, rest, rfl,
            Bool.eq_false_iff.2 hwritable⟩
    · rintro (⟨h, -⟩ | ⟨rfl, issue, rest, h, hwritable⟩)
      · cases h
      · obtain rfl := Except.error.inj (Except.ok.inj h)
        rw [settle, failureOfIssues_cons, hwritable]
        exact ⟨rfl, rfl⟩
  · constructor
    · intro h
      exact absurd h not_escapes_ok
    · rintro (⟨h, -⟩ | ⟨-, issue, rest, h, -⟩)
      · cases h
      · cases Except.ok.inj h

/-- The caller's own values, with their names as keys. -/
def byName (values : List (String × Value)) : List (Value × Value) :=
  values.map (fun (name, v) => (.text name, v))

/-- What all sources together give. -/
inductive Gathers (env : Environment) (tree : FileTree) (common : Path) (named : Option Path)
    (values : List (String × Value)) : List (Value × Value) → Prop where
  | merged {files surroundings : List (Value × Value)}
    (hfiles : entriesOfFiles tree common named = .ok files)
    (hvariables : variableLayer env = .ok (Layer.ofEntries surroundings)) :
    Gathers env tree common named values
      (mergeEntries (mergeEntries files surroundings) (byName values))

/-- The ways in which loading settings ends with a failure that is no fault of settings. -/
inductive Escape (env : Environment) (tree : FileTree) (common : Path) (named : Option Path)
    (values : List (String × Value)) : Failure → Prop where
  /-- The file for all programs cannot be read. -/
  | common {failure : Failure} (h : IllegibleFile tree common failure) :
    Escape env tree common named values failure
  /-- The named file cannot be read. -/
  | named {lower : Yaml.Document} {path : Path} {failure : Failure}
    (hcommon : documentOfFile tree common = .ok lower) (hnamed : named = some path)
    (h : IllegibleFile tree path failure) : Escape env tree common named values failure
  /-- The merging of the two files has no end. -/
  | endless {lower upper : Yaml.Document} {path : Path}
    (hcommon : documentOfFile tree common = .ok lower) (hnamed : named = some path)
    (hfile : documentOfFile tree path = .ok upper)
    (h : MeetEndlessly lower upper lower.root upper.root) :
    Escape env tree common named values .endless
  /-- A variable cannot be read. -/
  | environment {files : List (Value × Value)} {part : String}
    (hfiles : entriesOfFiles tree common named = .ok files) (hpart : part ∈ sectionKeys)
    (h : IllegibleVariable (lowerVariables env) part) :
    Escape env tree common named values .badEnvironment
  /-- A file has a key that is no text. -/
  | key {files : List (Value × Value)} {layer : Layer} {key : Value}
    (hfiles : entriesOfFiles tree common named = .ok files)
    (hlayer : variableLayer env = .ok layer) (hkey : key ∈ files.map Prod.fst)
    (h : ∀ s, key ≠ .text s) : Escape env tree common named values .badType
  /-- A path that is given lacks its home folder. -/
  | home {entries : List (Value × Value)} {text : String}
    (hgathers : Gathers env tree common named values entries) (hkeys : HasTextKeys entries)
    (htext : text ∈ pathTexts env (.mapping entries)) (h : env.lacksHome text = true) :
    Escape env tree common named values .noHome
  /-- The value of the first issue has too many digits to be reported. -/
  | issue {entries : List (Value × Value)} {issue : Issue} {rest : List Issue}
    (hgathers : Gathers env tree common named values entries) (hkeys : HasTextKeys entries)
    (htake : takeLayer env (Layer.ofEntries entries) = reject (issue :: rest))
    (h : issue.input.isWritable = false) : Escape env tree common named values .badValue
  /-- A path that was taken lacks its home folder when it is read once more. -/
  | homeAgain {entries : List (Value × Value)} {taken : Value} {text : String}
    (hgathers : Gathers env tree common named values entries) (hkeys : HasTextKeys entries)
    (htake : takeLayer env (Layer.ofEntries entries) = accept taken)
    (htext : text ∈ pathTexts env taken.plain) (h : env.lacksHome text = true) :
    Escape env tree common named values .noHome
  | issueAgain {entries : List (Value × Value)} {taken : Value} {issue : Issue} {rest : List Issue}
    (hgathers : Gathers env tree common named values entries) (hkeys : HasTextKeys entries)
    (htake : takeLayer env (Layer.ofEntries entries) = accept taken)
    (hread : Settings.ofValue env taken.plain = reject (issue :: rest))
    (h : issue.input.isWritable = false) : Escape env tree common named values .badValue

/-- A computation stopped by a missing home folder, or one whose first issue cannot be reported. -/
lemma escapes_settle_of_stopAt {α : Type} {a : Judged α} {texts : List String}
    (h : a.stop? = env.stopAt texts) : Escapes (settle a) failure ↔
      failure = .noHome ∧ (∃ text ∈ texts, env.lacksHome text = true) ∨
      failure = .badValue ∧
        ∃ issue rest, a = reject (issue :: rest) ∧ issue.input.isWritable = false := by
  rw [escapes_settle_iff, h, Environment.stopAt_eq_some]
  refine or_congr_left ⟨And.left, fun hhome => ⟨hhome, ?_⟩⟩
  rw [hhome.1]
  rfl

lemma hasTextKeys_byName : HasTextKeys (byName values) := by
  intro key hkey
  obtain ⟨entry, hentry, rfl⟩ := List.mem_map.1 hkey
  obtain ⟨⟨name, v⟩, -, rfl⟩ := List.mem_map.1 hentry
  exact ⟨name, rfl⟩

/-- What is loaded comes from what all sources together give. -/
lemma load_eq {files surroundings : List (Value × Value)}
    (hfiles : entriesOfFiles tree common named = .ok files)
    (hvariables : variableLayer env = .ok (Layer.ofEntries surroundings)) :
    load env tree common named (Layer.ofEntries (byName values)) =
      ofLayers env (Layer.ofEntries
        (mergeEntries (mergeEntries files surroundings) (byName values))) := by
  rw [← overlay_ofEntries, ← overlay_ofEntries, load, hfiles, hvariables]
  rfl

/-- What is given is taken, and what was taken is read once more. -/
lemma escapes_ofLayers_iff {entries : List (Value × Value)} :
    Escapes (ofLayers env (Layer.ofEntries entries)) failure ↔
      ¬ HasTextKeys entries ∧ failure = .badType ∨ HasTextKeys entries ∧
        (Escapes (settle (takeLayer env (Layer.ofEntries entries))) failure ∨
          ∃ taken, takeLayer env (Layer.ofEntries entries) = accept taken ∧
            Escapes (settle (Settings.ofValue env taken.plain)) failure) := by
  rw [ofLayers]
  split
  · rename_i hkeys
    rw [hasTextKeys_ofEntries_iff] at hkeys
    rw [escapes_bind]
    simp only [hkeys, not_true_eq_false, false_and, false_or, true_and, settle_eq_ok]
  · rename_i hkeys
    rw [hasTextKeys_ofEntries_iff] at hkeys
    simp only [hkeys, not_false_eq_true, true_and, false_and, or_false]
    constructor
    · exact fun h => (Except.error.inj h.1).symm
    · rintro rfl
      exact ⟨rfl, rfl⟩

lemma escape_of_ofLayers {entries : List (Value × Value)}
    (hgathers : Gathers env tree common named values entries) (hkeys : HasTextKeys entries)
    (h : Escapes (ofLayers env (Layer.ofEntries entries)) failure) :
    Escape env tree common named values failure := by
  rcases escapes_ofLayers_iff.1 h with ⟨hnot, -⟩ | ⟨-, hfirst | ⟨taken, htake, hsecond⟩⟩
  · exact absurd hkeys hnot
  · rcases (escapes_settle_of_stopAt (stop?_takeLayer entries)).1 hfirst with
      ⟨rfl, text, htext, hlacks⟩ | ⟨rfl, issue, rest, htake, hwritable⟩
    · exact .home hgathers hkeys htext hlacks
    · exact .issue hgathers hkeys htake hwritable
  · rcases (escapes_settle_of_stopAt (stop?_ofValue taken.plain)).1 hsecond with
      ⟨rfl, text, htext, hlacks⟩ | ⟨rfl, issue, rest, hread, hwritable⟩
    · exact .homeAgain hgathers hkeys htake htext hlacks
    · exact .issueAgain hgathers hkeys htake hread hwritable

lemma hasTextKeys_gathered_iff {files surroundings : List (Value × Value)}
    (h : HasTextKeys surroundings) :
    HasTextKeys (mergeEntries (mergeEntries files surroundings) (byName values)) ↔
      HasTextKeys files := by
  rw [hasTextKeys_mergeEntries_iff hasTextKeys_byName, hasTextKeys_mergeEntries_iff h]

lemma escape_of_load
    (h : Escapes (load env tree common named (Layer.ofEntries (byName values))) failure) :
    Escape env tree common named values failure := by
  cases hfiles : entriesOfFiles tree common named with
  | error stopped =>
    rw [load, hfiles] at h
    have hfailed : Escapes (entriesOfFiles tree common named) failure :=
      ⟨hfiles.trans (congrArg Except.error (Except.error.inj h.1)), h.2⟩
    obtain hcommon | ⟨lower, path, hcommon, hnamed, hfile | ⟨rfl, upper, hupper, hmeet⟩⟩ :=
      escapes_entriesOfFiles_iff.1 hfailed
    · exact .common hcommon
    · exact .named hcommon hnamed hfile
    · exact .endless hcommon hnamed hupper hmeet
  | ok files =>
    cases hlayer : variableLayer env with
    | error stopped =>
      rw [load, hfiles, hlayer] at h
      obtain ⟨rfl, part, hpart, hillegible⟩ := variableLayer_eq_error.1 hlayer
      obtain rfl := Except.error.inj h.1
      exact .environment hfiles hpart hillegible
    | ok layer =>
      obtain ⟨surroundings, rfl, htexts⟩ := exists_entries_of_variableLayer hlayer
      rw [load_eq hfiles hlayer] at h
      by_cases hkeys : HasTextKeys files
      · refine escape_of_ofLayers (.merged hfiles hlayer) ?_ h
        exact (hasTextKeys_gathered_iff htexts).2 hkeys
      · rcases escapes_ofLayers_iff.1 h with ⟨-, rfl⟩ | ⟨hmerged, -⟩
        · rw [HasTextKeys] at hkeys
          push Not at hkeys
          obtain ⟨key, hkey, hother⟩ := hkeys
          exact .key hfiles hlayer hkey hother
        · exact absurd ((hasTextKeys_gathered_iff htexts).1 hmerged) hkeys

lemma escapes_load_of_gathers {entries : List (Value × Value)}
    (hgathers : Gathers env tree common named values entries) (hkeys : HasTextKeys entries)
    (h : Escapes (settle (takeLayer env (Layer.ofEntries entries))) failure ∨
      ∃ taken, takeLayer env (Layer.ofEntries entries) = accept taken ∧
        Escapes (settle (Settings.ofValue env taken.plain)) failure) :
    Escapes (load env tree common named (Layer.ofEntries (byName values))) failure := by
  obtain ⟨hfiles, hvariables⟩ := hgathers
  rw [load_eq hfiles hvariables]
  exact escapes_ofLayers_iff.2 (.inr ⟨hkeys, h⟩)

lemma escapes_load_of_escape (h : Escape env tree common named values failure) :
    Escapes (load env tree common named (Layer.ofEntries (byName values))) failure := by
  cases h with
  | common hfile => exact escapes_bind.2 (.inl (escapes_entriesOfFiles_iff.2 (.inl hfile)))
  | named hcommon hnamed hfile =>
    exact escapes_bind.2 (.inl (escapes_entriesOfFiles_iff.2
      (.inr ⟨_, _, hcommon, hnamed, .inl hfile⟩)))
  | endless hcommon hnamed hfile hmeet =>
    exact escapes_bind.2 (.inl (escapes_entriesOfFiles_iff.2
      (.inr ⟨_, _, hcommon, hnamed, .inr ⟨rfl, _, hfile, hmeet⟩⟩)))
  | environment hfiles hpart hillegible =>
    have hlayer := variableLayer_eq_error.2 ⟨rfl, _, hpart, hillegible⟩
    rw [load, hfiles, hlayer]
    exact ⟨rfl, rfl⟩
  | key hfiles hlayer hkey hother =>
    obtain ⟨surroundings, rfl, htexts⟩ := exists_entries_of_variableLayer hlayer
    rw [load_eq hfiles hlayer]
    refine escapes_ofLayers_iff.2 (.inl ⟨?_, rfl⟩)
    rw [hasTextKeys_gathered_iff htexts]
    intro hall
    obtain ⟨s, hs⟩ := hall _ hkey
    exact hother s hs
  | home hgathers hkeys htext hlacks =>
    exact escapes_load_of_gathers hgathers hkeys (.inl
      ((escapes_settle_of_stopAt (stop?_takeLayer _)).2 (.inl ⟨rfl, _, htext, hlacks⟩)))
  | issue hgathers hkeys htake hwritable =>
    exact escapes_load_of_gathers hgathers hkeys (.inl
      (escapes_settle_iff.2 (.inr ⟨rfl, _, _, htake, hwritable⟩)))
  | homeAgain hgathers hkeys htake htext hlacks =>
    exact escapes_load_of_gathers hgathers hkeys (.inr ⟨_, htake,
      (escapes_settle_of_stopAt (stop?_ofValue _)).2 (.inl ⟨rfl, _, htext, hlacks⟩)⟩)
  | issueAgain hgathers hkeys htake hread hwritable =>
    exact escapes_load_of_gathers hgathers hkeys (.inr ⟨_, htake,
      escapes_settle_iff.2 (.inr ⟨rfl, _, _, hread, hwritable⟩)⟩)

/-- Loading settings ends with a failure that is no fault of settings exactly in the ways that are
listed. -/
lemma escapes_load_iff :
    Escapes (load env tree common named (Layer.ofEntries (byName values))) failure ↔
      Escape env tree common named values failure :=
  ⟨escape_of_load, escapes_load_of_escape⟩

/-- A user with a home folder and nothing else. -/
def plainEnvironment : Environment :=
  ⟨.ofList [("HOME", "/home/u")], [], none⟩

/-- A file for all programs, with a number in the place of the name of a section. -/
def numberedFiles : FileTree :=
  (FileTree.withCurrent ["w"]).put ["w", "common.yaml"] (.file (Text.utf8 "1: 2\n") 0)

/-- A file for all programs and one of the caller, both with a section that contains itself. -/
def entangledFiles : FileTree :=
  ((FileTree.withCurrent ["w"]).put ["w", "common.yaml"]
      (.file (Text.utf8 "scanner: &x \x7bx: *x\x7d") 0)).put
    ["w", "own.yaml"] (.file (Text.utf8 "scanner: &x \x7bx: *x\x7d") 0)

example : (Outcome.error? (load plainEnvironment entangledFiles (.ofText "common.yaml")
    (some (.ofText "own.yaml")) (Layer.ofEntries (byName [])))).map Failure.name =
      some "RecursionError" := by
  decide +kernel

end Together

end Settings

end Nullability
