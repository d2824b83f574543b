import Nullability.Proofs.Baseline.Ending

/-!
# Faults of the baseline

There are three faults of the baseline: no document was found, the documents that were found hold no
annotation, or something else went wrong. Which one it is can be told from the files alone, and the
files are left as they were (`create_eq_error`), with one exception each: if the system does not tell
whether there is a cache file, that counts as something else, and if there is a null character in the
path of the cache file, its folder may have been made.
-/

namespace Nullability

open FileTree

/-! ## Failures of the steps -/

/-- Whether a failure is neither a fault of the baseline yet nor a request to stop. -/
def Failure.IsInner : Failure → Prop
  | interrupted => False
  | fault reason => reason.family ≠ .baseline
  | _ => True

namespace Failure.IsInner

variable {failure : Failure} {tree : FileTree}

lemma of_isFileSystem (h : failure.isFileSystem = true) : failure.IsInner := by
  cases failure with
  | fault reason => cases h
  | interrupted => cases h
  | _ => trivial

lemma of_stops {path : Path} (h : Stops path failure) : failure.IsInner := by
  obtain hreason | rfl := h.isFileSystem_or
  · exact of_isFileSystem hreason
  · trivial

lemma of_denial (denial : Denial) : denial.failure.IsInner := by
  cases denial with
  | _ => trivial

lemma of_discovered {locations : Locations} {settings : ScannerSettings}
    (h : Installation.discovered tree locations settings = .error failure) : failure.IsInner := by
  rw [Installation.eq_badValue_of_all (Outcome.map_eq_error.1 (Outcome.map_eq_error.1 h))]
  trivial

lemma of_newest {documents : List Path} (h : Baseline.newest tree documents = .error failure) :
    failure.IsInner := by
  obtain h | ⟨times, -, h⟩ := Outcome.bind_eq_error.1 h
  · obtain ⟨document, -, hfile⟩ := Outcome.exists_of_mapM_eq_error h
    exact of_stops (stops_of_file (Outcome.map_eq_error.1 hfile))
  · split at h
    · exact Except.error.inj h ▸ trivial
    · cases h

lemma of_loadOutcome {m : AnnotationMap} {source : String} {bytes : List UInt8}
    (h : m.loadOutcome source bytes = .error failure) : failure.IsInner := by
  have hloaded : (m.loadDocument source bytes).2 = some failure := by
    rw [AnnotationMap.loadOutcome] at h
    split at h
    · cases h
    · rename_i hload
      rw [hload, Except.error.inj h]
  rw [AnnotationMap.loadDocument] at hloaded
  split at hloaded
  · rename_i refusal _
    obtain rfl := Option.some.inj hloaded
    cases refusal with
    | malformed => exact fun e => by cases e
    | _ => trivial
  · obtain ⟨lacking, -, rfl⟩ := Option.map_eq_some_iff.1 hloaded
    exact fun e => by cases e

lemma of_mergeDocuments {documents : List Path} {m : AnnotationMap}
    (h : Baseline.mergeDocuments tree documents m = .error failure) : failure.IsInner := by
  induction documents generalizing m with
  | nil => cases h
  | cons document rest ih =>
    obtain hread | ⟨content, -, h⟩ := Outcome.bind_eq_error.1 h
    · exact of_stops (stops_of_file (Outcome.map_eq_error.1 hread))
    · obtain hload | ⟨merged, -, hrest⟩ := Outcome.bind_eq_error.1 h
      · exact of_loadOutcome hload
      · exact ih hrest

lemma of_toBytes {cache : AnnotationCache} (h : cache.toBytes = .error failure) :
    failure.IsInner := by
  obtain rfl | rfl := Baseline.toBytes_eq_error h
  · trivial
  · trivial

end Failure.IsInner

namespace Baseline

variable {b : Baseline} {w w' : Workspace} {tree : FileTree} {documents : List Path} {time now : Int}
  {failure : Failure} {mishap : Option CacheWriter.Mishap} {found : Option AnnotationCache}

/-! ## The cache file -/

/-- Whether there is no cache file, or reading it gives no cache that can be used for documents of some
time, and no failure either but one that a cache file may have. -/
def LacksCache (b : Baseline) (tree : FileTree) (time : Int) : Prop :=
  tree.isFile b.cachePath = true →
    (∀ cache, AnnotationCache.load tree b.cachePath = .ok cache →
      cache.map.isEmpty = true ∨ cache.stamp.nanoseconds < time) ∧
    ∀ failure, AnnotationCache.load tree b.cachePath = .error failure →
      failure.isFileSystem = true ∨ failure.isDamagedCache = true

lemma isTolerable_iff : isTolerable failure = true ↔
    failure.isFileSystem = true ∨ failure.isDamagedCache = true := by
  constructor
  · intro h
    unfold isTolerable at h
    split at h
    · exact .inr rfl
    · exact .inr rfl
    · exact .inl h
  · rintro (h | h)
    · exact isTolerable_of_isFileSystem h
    · exact isTolerable_of_isDamagedCache h

/-- Then the cache file is no reason to fail, if the system tells whether it is there. -/
lemma LacksCache.usable_ne_error (h : b.LacksCache tree time)
    (htold : tree.denial? b.cachePath = none) : b.usable tree ≠ .error failure := by
  rw [usable_eq htold]
  split
  · rename_i hisFile
    intro husable
    obtain ⟨hload, hreason⟩ := counted_eq_error.1 husable
    rw [isTolerable_iff.2 ((h hisFile).2 failure hload)] at hreason
    cases hreason
  · intro husable
    cases husable

lemma lacksCache_of_isOutdated (husable : b.usable tree = .ok found)
    (houtdated : b.IsOutdated tree time) : b.LacksCache tree time := by
  have htold := told_of_usable husable
  intro hisFile
  constructor
  · intro cache hload
    cases hempty : cache.map.isEmpty with
    | true => exact .inl rfl
    | false =>
      exact .inr (of_decide_eq_true
        (houtdated cache (usable_eq_some_iff.2 ⟨htold, hload, hempty⟩)))
  · intro failure hload
    obtain htolerable | ⟨-, hbad⟩ := load_eq_error hisFile hload
    · exact isTolerable_iff.1 htolerable
    · exact absurd hbad (exists_usable_iff.1 ⟨found, husable⟩).2

lemma of_usable (h : b.usable tree = .error failure) : failure.IsInner := by
  obtain ⟨denial, -, rfl⟩ | ⟨-, rfl, -⟩ := usable_eq_error.1 h
  · exact .of_denial denial
  · trivial

/-! ## Which fault it is -/

/-- Whether documents are found and can all be read, and hold no annotation, while there is no cache
that could be used instead, and nothing unusual about the cache file. -/
def IsBarren (b : Baseline) (tree : FileTree) : Prop :=
  ∃ documents time all, b.discovered tree = .ok documents ∧ documents ≠ [] ∧
    newest tree documents = .ok time ∧ b.LacksCache tree time ∧
    mergeDocuments tree documents .empty = .ok all ∧ all.compact.isEmpty = true

lemma discovered_ne_nil (h : b.discovered tree = .ok documents) (hne : documents ≠ []) :
    b.discovered tree ≠ .ok [] := by
  rw [h]
  exact fun e => hne (Except.ok.inj e)

lemma IsBarren.discovered_ne (h : b.IsBarren tree) : b.discovered tree ≠ .ok [] := by
  obtain ⟨documents, time, all, hdocuments, hne, -⟩ := h
  exact discovered_ne_nil hdocuments hne

/-- Which documents are found is a matter of the tree alone. -/
lemma IsBarren.of_discovered (hbarren : b.IsBarren tree) (h : b.discovered tree = .ok documents) :
    ∃ time all, newest tree documents = .ok time ∧ b.LacksCache tree time ∧
      mergeDocuments tree documents .empty = .ok all ∧ all.compact.isEmpty = true := by
  obtain ⟨documents', time, all, hdocuments, -, hall⟩ := hbarren
  obtain rfl : documents = documents' := Except.ok.inj (h.symm.trans hdocuments)
  exact ⟨time, all, hall⟩

/-- Documents that hold an annotation are not barren. -/
lemma not_isBarren_of_merged {map : AnnotationMap} (h : b.discovered tree = .ok documents)
    (hmerged : b.merged tree documents = .ok map) : ¬ b.IsBarren tree := by
  intro hbarren
  obtain ⟨time, all, -, -, hall, hnothing⟩ := hbarren.of_discovered h
  have hmap : b.merged tree documents = .error (.fault (.documentsEmpty b.patterns)) := by
    rw [merged, hall]
    exact if_pos hnothing
  rw [hmerged] at hmap
  cases hmap

/-- What is not a fault of the baseline yet becomes that of loading. -/
lemma asFault_of_isInner (b : Baseline) (h : failure.IsInner) :
    b.asFault failure = .fault (.loadFailed b.patterns failure.describe) := by
  cases failure with
  | fault reason =>
    cases reason with
    | documentsMissing folders => exact absurd rfl h
    | documentsEmpty folders => exact absurd rfl h
    | loadFailed folders reason => exact absurd rfl h
    | _ => rfl
  | interrupted => exact h.elim
  | _ => rfl

/-- The three faults, and what the files are like. -/
inductive Verdict (b : Baseline) (tree : FileTree) : Fault → Prop
  | missing (h : b.discovered tree = .ok []) : Verdict b tree (.documentsMissing b.patterns)
  | barren (htold : tree.denial? b.cachePath = none) (h : b.IsBarren tree) :
    Verdict b tree (.documentsEmpty b.patterns)
  | other {reason : String} (hfound : b.discovered tree ≠ .ok [])
    (hfertile : tree.denial? b.cachePath = none → ¬ b.IsBarren tree) :
    Verdict b tree (.loadFailed b.patterns reason)

lemma verdict_of_isInner (hinner : failure.IsInner) (hfound : b.discovered tree ≠ .ok [])
    (hfertile : tree.denial? b.cachePath = none → ¬ b.IsBarren tree) :
    ∃ fault, b.asFault failure = .fault fault ∧ b.Verdict tree fault :=
  ⟨_, asFault_of_isInner b hinner, .other hfound hfertile⟩

/-- The fault that a failure ends in tells what the files are like. -/
lemma Refusal.verdict (h : b.Refusal tree failure) :
    ∃ fault, b.asFault failure = .fault fault ∧ b.Verdict tree fault := by
  cases h with
  | missing h => exact ⟨_, rfl, .missing h⟩
  | unscanned h =>
    refine verdict_of_isInner (.of_discovered h) ?_ ?_
    · rw [h]
      exact fun e => by cases e
    · rintro - ⟨documents, time, all, hdocuments, -⟩
      rw [h] at hdocuments
      cases hdocuments
  | untimed h hne htime =>
    refine verdict_of_isInner (.of_newest htime) (discovered_ne_nil h hne)
      fun htold hbarren => ?_
    obtain ⟨time, all, hnewest, -⟩ := hbarren.of_discovered h
    rw [htime] at hnewest
    cases hnewest
  | unread h hne htime husable =>
    refine verdict_of_isInner (of_usable husable) (discovered_ne_nil h hne)
      fun htold hbarren => ?_
    obtain ⟨time, all, -, hlacks, -⟩ := hbarren.of_discovered h
    exact hlacks.usable_ne_error htold husable
  | @unmerged documents time _ found h hne htime husable houtdated hmerged =>
    obtain hfailed | ⟨all, hall, hempty⟩ := Outcome.bind_eq_error.1 hmerged
    · refine verdict_of_isInner (.of_mergeDocuments hfailed) (discovered_ne_nil h hne)
        fun htold hbarren => ?_
      obtain ⟨time, all, -, -, hall, -⟩ := hbarren.of_discovered h
      rw [hfailed] at hall
      cases hall
    · split at hempty
      · rename_i hnothing
        rw [← Except.error.inj hempty]
        have hlacks := lacksCache_of_isOutdated husable houtdated
        exact ⟨_, rfl, .barren (told_of_usable husable)
          ⟨documents, time, all, h, hne, htime, hlacks, hall, hnothing⟩⟩
      · cases hempty
  | @unpacked documents time map _ h hne htime hmerged hpack =>
    exact verdict_of_isInner (.of_toBytes hpack) (discovered_ne_nil h hne)
      fun _ => not_isBarren_of_merged h hmerged

/-- The name of the fault says which of the three it is. -/
lemma Verdict.name_iff {fault : Fault} (h : b.Verdict tree fault) :
    (fault.name = "ANNOTATIONS_NOT_FOUND" ↔ b.discovered tree = .ok []) ∧
    (fault.name = "ANNOTATIONS_EMPTY" ↔ tree.denial? b.cachePath = none ∧ b.IsBarren tree) ∧
    (fault.name = "ANNOTATIONS_LOAD_FAILED" ↔
      ¬ (b.discovered tree = .ok [] ∨ tree.denial? b.cachePath = none ∧ b.IsBarren tree)) := by
  cases h with
  | missing h => simp [Fault.name, h, show ¬ b.IsBarren tree from fun e => e.discovered_ne h]
  | barren htold h => simp [Fault.name, htold, h, h.discovered_ne]
  | other hfound hfertile => simpa [Fault.name, hfound] using hfertile

lemma Verdict.family_eq {fault : Fault} (h : b.Verdict tree fault) : fault.family = .baseline := by
  cases h with
  | _ => rfl

/-- A save that is barred fails for another reason than a lack of documents or annotations. -/
lemma verdict_of_isBarred {map : AnnotationMap} (h : b.discovered tree = .ok documents)
    (hne : documents ≠ []) (hmerged : b.merged tree documents = .ok map) {after : FileTree}
    (hbarred : IsBarred b.cachePath tree failure after) :
    ∃ fault, b.asFault failure = .fault fault ∧ b.Verdict tree fault := by
  have hinner : failure.IsInner := hbarred.failure ▸ trivial
  exact verdict_of_isInner hinner (discovered_ne_nil h hne) fun _ => not_isBarren_of_merged h hmerged

/-- If there is no baseline, the failure is a fault of the baseline, which is named for the state of
the files: no document is found, or documents that hold no annotation, as far as the system tells
whether there is a cache file, or anything else. No file is changed then, the cache file included, and
no folder is made, unless there is a null character in the path of the cache file: then folders on the
way to it may be new. -/
theorem create_eq_error (htree : w.tree.WellFormed) (hpath : b.cachePath.Proper)
    (h : b.createAt now mishap w = (.error failure, w')) :
    (w'.tree = w.tree ∨ b.cachePath.hasNull = true ∧
      Grown (CacheWriter.way w.tree b.cachePath) (fun _ => false) w.tree w'.tree) ∧
    ∃ fault, failure = .fault fault ∧ fault.family = .baseline ∧
      (fault.name = "ANNOTATIONS_NOT_FOUND" ↔ b.discovered w.tree = .ok []) ∧
      (fault.name = "ANNOTATIONS_EMPTY" ↔
        w.tree.denial? b.cachePath = none ∧ b.IsBarren w.tree) ∧
      (fault.name = "ANNOTATIONS_LOAD_FAILED" ↔
        ¬ (b.discovered w.tree = .ok [] ∨
          w.tree.denial? b.cachePath = none ∧ b.IsBarren w.tree)) := by
  obtain ⟨inner, rfl, hobtain⟩ := createAt_eq_error h
  have hending := ending b mishap { w with now := now }
  rw [hobtain] at hending
  cases hending with
  | refused hrefusal hleads =>
    obtain ⟨fault, hfault, hverdict⟩ := hrefusal.verdict
    exact ⟨.inl hleads.tree, fault, hfault, hverdict.family_eq, hverdict.name_iff⟩
  | barred hdocuments hne htime hmerged hbarred =>
    obtain ⟨fault, hfault, hverdict⟩ := verdict_of_isBarred hdocuments hne hmerged hbarred
    exact ⟨.inr ⟨hbarred.hasNull, hbarred.folders htree hpath⟩, fault, hfault,
      hverdict.family_eq, hverdict.name_iff⟩

/-- A workspace with a document that says nothing, and a cache file that is too short. -/
def barrenWorkspace : Workspace :=
  let w := cachedWorkspace [1, 2, 3]
  let document := Text.utf8 "<assembly/>"
  { w with tree :=
      (install w.tree (.ofText (samplePath "sys")) document 1).toOption.getD w.tree }

/-- The name of the fault that an outcome is, if it is one. -/
def faultName : Except Failure AnnotationMap → String
  | .error (.fault fault) => fault.name
  | _ => ""

lemma exists_error_of_faultName {outcome : Except Failure AnnotationMap}
    (h : faultName outcome ≠ "") : ∃ failure, outcome = .error failure := by
  cases outcome with
  | ok map => exact absurd rfl h
  | error failure => exact ⟨failure, rfl⟩

theorem create_eq_error_sample :
    let b := sampleBaseline "sys"
    let w := barrenWorkspace
    w.tree.WellFormed ∧ b.cachePath.Proper ∧ ∃ failure w', b.createAt 2 none w = (.error failure, w') ∧
      w'.tree = w.tree ∧ b.IsBarren w.tree := by
  intro b w
  have hplaces : w.tree.WellFormed ∧ b.cachePath.Proper ∧ b.cachePath.hasNull = false := by
    decide +kernel
  have hname : faultName (b.createAt 2 none w).1 = "ANNOTATIONS_EMPTY" := by
    decide +kernel
  obtain ⟨htree, hpath, hnull⟩ := hplaces
  cases hmade : b.createAt 2 none w with
  | mk outcome w' =>
    rw [hmade] at hname
    have hfails : faultName outcome ≠ "" := by
      rw [show faultName outcome = _ from hname]
      decide
    obtain ⟨failure, rfl⟩ := exists_error_of_faultName hfails
    obtain ⟨hsame, fault, rfl, -, -, hbarren, -⟩ := create_eq_error htree hpath hmade
    have hunchanged : w'.tree = w.tree := by
      refine hsame.resolve_right fun hgrown => ?_
      rw [hnull] at hgrown
      cases hgrown.1
    exact ⟨htree, hpath, .fault fault, w', rfl, hunchanged, (hbarren.1 hname).2⟩

/-- A workspace with a document that says nothing, and a folder that the user may not look into. -/
def deniedWorkspace : Workspace :=
  let tree := FileTree.withCurrent ["w"]
  let document := Text.utf8 "<assembly/>"
  let installed := (install tree (.ofText (samplePath "sys")) document 1).toOption.getD tree
  .ofTree { installed with denials := [(.ofText "cache/annotations.cache", .notPermitted)] } 0

/-- The baseline of the samples, with a path for the cache file that is not taken. -/
def barredBaseline : Baseline :=
  { sampleBaseline "sys" with cachePath := .ofText "cache/a\x00b" }

/-- Neither exception can be left out: where the system does not tell whether there is a cache file,
documents without annotations are not the reason that is given; and where the cache file has a path
with a null character, its folder is new. -/
theorem not_empty_or_unchanged :
    (¬ ∀ (b : Baseline) (w : Workspace), w.tree.WellFormed → b.cachePath.Proper →
      b.IsBarren w.tree → faultName (b.create w).1 = "ANNOTATIONS_EMPTY") ∧
    ¬ ∀ (b : Baseline) (w : Workspace), w.tree.WellFormed → b.cachePath.Proper →
      (∃ failure, (b.create w).1 = .error failure) → (b.create w).2.tree = w.tree := by
  constructor
  · intro hclaim
    let b := sampleBaseline "sys"
    let w := deniedWorkspace
    let document := Path.ofText (samplePath "sys")
    have hfacts : w.tree.WellFormed ∧ b.cachePath.Proper ∧ w.tree.isFile b.cachePath = false ∧
        (b.discovered w.tree).toOption = some [document] ∧
        (newest w.tree [document]).toOption = some 1 ∧
        (mergeDocuments w.tree [document] .empty).toOption = some .empty ∧
        faultName (b.create w).1 = "ANNOTATIONS_LOAD_FAILED" := by
      decide +kernel
    obtain ⟨htree, hpath, hmissing, hdiscovered, hnewest, hmerge, hname⟩ := hfacts
    have hlacks : b.LacksCache w.tree 1 := by
      intro hisFile
      rw [hmissing] at hisFile
      cases hisFile
    have hbarren : b.IsBarren w.tree :=
      ⟨[document], 1, .empty, Outcome.eq_ok_of_toOption hdiscovered, List.cons_ne_nil _ _,
        Outcome.eq_ok_of_toOption hnewest, hlacks, Outcome.eq_ok_of_toOption hmerge, rfl⟩
    rw [hclaim b w htree hpath hbarren] at hname
    exact absurd hname (by decide)
  · intro hclaim
    let b := barredBaseline
    let w := sampleWorkspace (some (samplePath "sys"))
    have hfacts : w.tree.WellFormed ∧ b.cachePath.Proper ∧
        faultName (b.create w).1 = "ANNOTATIONS_LOAD_FAILED" ∧
        (b.create w).2.tree ≠ w.tree := by
      decide +kernel
    obtain ⟨htree, hpath, hname, hchanged⟩ := hfacts
    have hfails : faultName (b.create w).1 ≠ "" := by
      rw [hname]
      decide
    exact hchanged (hclaim b w htree hpath (exists_error_of_faultName hfails))

end Baseline

end Nullability
