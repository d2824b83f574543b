import Nullability.Baseline
import Nullability.Proofs.Cache.Damage
import Nullability.Proofs.Installation.Found
import Nullability.Proofs.SideBySide.Document

/-!
# The baseline afresh

What the baseline would be without a cache file: the compacted map of all documents that a scan
finds (`Baseline.afresh`). Scanning, reading and building are described one by one as functions of
the files alone; none of them changes a file, and reports only add up.
-/

namespace Nullability

/-! ## Jobs -/

namespace Job

variable {α β : Type} {w w' : Workspace}

lemma bind_of_ok {job : Job α} {next : α → Job β} {a : α} (h : job w = (.ok a, w')) :
    (job >>= next) w = next a w' := by
  change Job.andThen job next w = _
  rw [andThen, h]

lemma bind_of_error {job : Job α} {next : α → Job β} {failure : Failure}
    (h : job w = (.error failure, w')) : (job >>= next) w = (.error failure, w') := by
  change Job.andThen job next w = _
  rw [andThen, h]

lemma phase_eq (name : String) {job : Job α} {outcome : Except Failure α}
    (h : job w = (outcome, w')) :
    Job.phase name job w = (outcome, w'.report (.phaseEnded name w'.elapsed)) := by
  rw [Job.phase, h]

lemma outcome_eq {job : Job α} {outcome : Except Failure α} (h : job w = (outcome, w')) :
    Job.outcome job w = (.ok outcome, w') := by
  rw [Job.outcome, h]

end Job

/-- Whether files were left alone, and reports only added. -/
structure Workspace.Leads (w w' : Workspace) : Prop where
  tree : w'.tree = w.tree
  events : w.events <+: w'.events

namespace Workspace.Leads

variable {w w' w'' : Workspace}

lemma refl (w : Workspace) : w.Leads w :=
  ⟨rfl, List.prefix_rfl⟩

lemma trans (h : w.Leads w') (h' : w'.Leads w'') : w.Leads w'' :=
  ⟨h'.tree.trans h.tree, h.events.trans h'.events⟩

lemma report (h : w.Leads w') (event : Event) : w.Leads (w'.report event) :=
  ⟨h.tree, h.events.trans (List.prefix_append w'.events [event])⟩

end Workspace.Leads

namespace Baseline

open FileTree

variable {b : Baseline} {w : Workspace} {tree : FileTree}

/-! ## Without a cache file -/

/-- The documents that a scan finds. -/
def discovered (b : Baseline) (tree : FileTree) : Except Failure (List Path) :=
  Installation.discovered tree b.locations b.scanner

/-- Merges documents into a map, one after the other. -/
def mergeDocuments (tree : FileTree) : List Path → AnnotationMap → Except Failure AnnotationMap
  | [], m => .ok m
  | path :: rest, m => do
    let content ← tree.read path
    mergeDocuments tree rest (← m.loadOutcome path.text content)

/-- The compacted map of some documents, which must not be empty. -/
def merged (b : Baseline) (tree : FileTree) (documents : List Path) :
    Except Failure AnnotationMap := do
  let all ← mergeDocuments tree documents .empty
  if all.compact.isEmpty then .error (.fault (.documentsEmpty b.patterns)) else .ok all.compact

/-- The compacted map of all documents that are found, of which there must be some. -/
def mergedDiscovered (b : Baseline) (tree : FileTree) : Except Failure AnnotationMap := do
  let documents ← b.discovered tree
  if documents.isEmpty then .error (.fault (.documentsMissing b.patterns))
  else b.merged tree documents

/-- The baseline that is built without a cache file. -/
def afresh (b : Baseline) (tree : FileTree) : Except Failure AnnotationMap :=
  (b.mergedDiscovered tree).mapError b.asFault

/-- What the outcome of reading the cache file is taken for: a cache that can be used, none, or a
failure. -/
def counted (read : Except Failure AnnotationCache) : Except Failure (Option AnnotationCache) :=
  match read with
  | .ok cache => .ok (if cache.map.isEmpty then none else some cache)
  | .error failure => if isTolerable failure then .ok none else .error failure

/-- The cache in the cache file, if there is one that can be used. -/
def usable (b : Baseline) (tree : FileTree) : Except Failure (Option AnnotationCache) := do
  if ← tree.asksFile b.cachePath then counted (AnnotationCache.load tree b.cachePath)
  else .ok none

/-- Whether the cache file can be looked for: the path is one that is taken, and the system tells
what it leads to. -/
structure IsOpen (b : Baseline) (tree : FileTree) : Prop where
  noNull : b.cachePath.hasNull = false
  told : tree.denial? b.cachePath = none

instance (b : Baseline) (tree : FileTree) : Decidable (b.IsOpen tree) :=
  decidable_of_iff (b.cachePath.hasNull = false ∧ tree.denial? b.cachePath = none)
    ⟨fun ⟨noNull, told⟩ => ⟨noNull, told⟩, fun ⟨noNull, told⟩ => ⟨noNull, told⟩⟩

/-- Where the system does not tell what the path of the cache file leads to, that is passed on. -/
lemma usable_of_denial {denial : Denial} (h : tree.denial? b.cachePath = some denial) :
    b.usable tree = .error denial.failure := by
  rw [usable, asksFile_eq_error.2 ⟨denial, h, rfl⟩]
  rfl

lemma usable_eq (h : tree.denial? b.cachePath = none) :
    b.usable tree = if tree.isFile b.cachePath then
      counted (AnnotationCache.load tree b.cachePath) else .ok none := by
  rw [usable, asksFile_eq_ok.2 ⟨h, rfl⟩]
  rfl

lemma merged_of_mergeDocuments {documents : List Path} {map : AnnotationMap}
    (hmerge : mergeDocuments tree documents .empty = .ok map) (hcompact : map.compact = map)
    (hempty : map.isEmpty = false) : b.merged tree documents = .ok map := by
  refine Outcome.bind_eq_ok.2 ⟨map, hmerge, ?_⟩
  rw [hcompact, hempty]
  rfl

lemma afresh_of_merged {documents : List Path} {map : AnnotationMap}
    (hdiscovered : b.discovered tree = .ok documents) (hne : documents ≠ [])
    (hmerged : b.merged tree documents = .ok map) : b.afresh tree = .ok map := by
  have hall : b.mergedDiscovered tree = .ok map := by
    refine Outcome.bind_eq_ok.2 ⟨documents, hdiscovered, ?_⟩
    rw [if_neg (fun e => hne (List.isEmpty_iff.1 e))]
    exact hmerged
  rw [afresh, hall]
  rfl

/-! ## What jobs do -/

/-- A scan reads no document. -/
lemma findDocuments_eq (b : Baseline) (w : Workspace) :
    ∃ w', b.findDocuments w = (b.discovered w.tree, w') ∧ w.Leads w' ∧
      w'.documents = w.documents := by
  have hscan : ∃ w', (do
      let folders ← Job.inspect (fun tree =>
        Installation.foldersToScan tree b.locations b.scanner)
      Documents.find folders) w = (b.discovered w.tree, w') ∧ w.Leads w' ∧
        w'.documents = w.documents := by
    rw [discovered, Installation.discovered]
    cases hfolders : Installation.foldersToScan w.tree b.locations b.scanner with
    | error failure =>
      have hinspect : Job.inspect (fun tree =>
          Installation.foldersToScan tree b.locations b.scanner) w = (.error failure, w) := by
        rw [Job.inspect, hfolders]
      exact ⟨w, Job.bind_of_error hinspect, .refl w, rfl⟩
    | ok folders =>
      have hinspect : Job.inspect (fun tree =>
          Installation.foldersToScan tree b.locations b.scanner) w = (.ok folders, w) := by
        rw [Job.inspect, hfolders]
      refine ⟨_, Job.bind_of_ok hinspect, ?_, ?_⟩
      · exact (Workspace.Leads.refl w).report _
      · rfl
  obtain ⟨w', hscan, hleads, hdocuments⟩ := hscan
  exact ⟨_, Job.phase_eq "annotation_cache:scan" hscan, hleads.report _, hdocuments⟩

lemma loadAll_eq (documents : List Path) (m : AnnotationMap) (w : Workspace) :
    ∃ w', loadAll documents m w = (mergeDocuments w.tree documents m, w') ∧ w.Leads w' := by
  -- What was read so far goes into the map, and into the workspace.
  induction documents generalizing m w with
  | nil => exact ⟨w, rfl, .refl w⟩
  | cons path rest ih =>
    have hload := AnnotationMap.loadFile_eq path m w
    have hleads : w.Leads { w with documents := w.documents ++ [path] } := ⟨rfl, List.prefix_rfl⟩
    rw [loadAll, mergeDocuments]
    cases hread : w.tree.read path with
    | error failure =>
      rw [hread] at hload
      exact ⟨_, Job.bind_of_error hload, hleads⟩
    | ok content =>
      rw [hread] at hload
      change _ = (m.loadOutcome path.text content, _) at hload
      change ∃ w', _ = (m.loadOutcome path.text content >>= mergeDocuments w.tree rest, w') ∧ _
      cases houtcome : m.loadOutcome path.text content with
      | error failure =>
        rw [houtcome] at hload
        exact ⟨_, Job.bind_of_error hload, hleads⟩
      | ok merged =>
        rw [houtcome] at hload
        obtain ⟨w', hrest, hleads'⟩ := ih merged { w with documents := w.documents ++ [path] }
        exact ⟨w', (Job.bind_of_ok hload).trans hrest, hleads.trans hleads'⟩

lemma rebuild_eq (b : Baseline) (documents : List Path) (time : Int) (w : Workspace) :
    ∃ w', b.rebuild documents time w =
      ((b.merged w.tree documents).map (fun map => ⟨.time time, map⟩), w') ∧ w.Leads w' := by
  obtain ⟨w', hload, hleads⟩ := loadAll_eq documents .empty w
  have hphase := Job.phase_eq "annotation_cache:create" hload
  rw [rebuild, merged]
  cases hmerge : mergeDocuments w.tree documents .empty with
  | error failure =>
    rw [hmerge] at hphase
    exact ⟨_, Job.bind_of_error hphase, hleads.report _⟩
  | ok all =>
    rw [hmerge] at hphase
    rw [Job.bind_of_ok hphase]
    change ∃ w', _ = ((if all.compact.isEmpty then Except.error _ else Except.ok all.compact).map _,
      w') ∧ _
    split
    · exact ⟨_, rfl, hleads.report _⟩
    · exact ⟨_, rfl, (hleads.report _).report _⟩

/-- That a cache file cannot be used is at most reported. -/
lemma withoutCache_eq (b : Baseline) (failure : Failure) (w : Workspace) :
    ∃ w', b.withoutCache failure w =
      (if isTolerable failure then .ok none else .error failure, w') ∧ w.Leads w' ∧
        w'.documents = w.documents := by
  rw [withoutCache]
  split
  · split
    · exact ⟨_, rfl, (Workspace.Leads.refl w).report _, rfl⟩
    · exact ⟨w, rfl, .refl w, rfl⟩
  · exact ⟨w, rfl, .refl w, rfl⟩

/-- A cache file is read without a change. -/
lemma cached?_eq (b : Baseline) (w : Workspace) :
    ∃ w', b.cached? w = (b.usable w.tree, w') ∧ w.Leads w' ∧ w'.documents = w.documents := by
  rw [cached?, usable]
  cases hasked : w.tree.asksFile b.cachePath with
  | error failure =>
    have hinspect : Job.inspect (fun tree => tree.asksFile b.cachePath) w = (.error failure, w) := by
      rw [Job.inspect, hasked]
    exact ⟨w, Job.bind_of_error hinspect, .refl w, rfl⟩
  | ok isFile =>
    have hinspect : Job.inspect (fun tree => tree.asksFile b.cachePath) w = (.ok isFile, w) := by
      rw [Job.inspect, hasked]
    rw [Job.bind_of_ok hinspect]
    cases isFile with
    | false => exact ⟨w, rfl, .refl w, rfl⟩
    | true =>
      have hread : Job.inspect (fun tree => AnnotationCache.load tree b.cachePath) w =
          (AnnotationCache.load w.tree b.cachePath, w) := rfl
      have hphase := Job.outcome_eq (Job.phase_eq "annotation_cache:read" hread)
      dsimp only
      rw [if_pos rfl, Job.bind_of_ok hphase]
      change ∃ w', _ = (counted (AnnotationCache.load w.tree b.cachePath), w') ∧ _
      cases AnnotationCache.load w.tree b.cachePath with
      | ok cache => exact ⟨_, rfl, (Workspace.Leads.refl w).report _, rfl⟩
      | error failure =>
        obtain ⟨w', hwithout, hleads, hdocuments⟩ := withoutCache_eq b failure
          (w.report (.phaseEnded "annotation_cache:read" w.elapsed))
        exact ⟨w', hwithout, ((Workspace.Leads.refl w).report _).trans hleads, hdocuments⟩

/-- Whether it was reported, on the way from one workspace to another, that the cache file could not
be written. -/
def ReportsUnsaved (b : Baseline) (w w' : Workspace) : Prop :=
  unsaved b.cachePath ∈ w'.events.drop w.events.length

/-- A save never fails for a reason of the file system; if writing does, that is reported. -/
lemma saveWith_eq (b : Baseline) {write : AnnotationCache → Job Unit} {cache : AnnotationCache}
    {outcome : Except Failure Unit} {written : FileTree} (w : Workspace)
    (hwrite : write cache w = (outcome, { w with tree := written }))
    (hfailed : ∀ failure, outcome = .error failure → failure.isFileSystem = true) :
    ∃ w', b.saveWith write cache w = (.ok (), w') ∧ w'.tree = written ∧ w.events <+: w'.events ∧
      (∀ failure, outcome = .error failure → b.ReportsUnsaved w w') := by
  have hphase := Job.outcome_eq (Job.phase_eq "annotation_cache:write" hwrite)
  rw [saveWith, Job.bind_of_ok hphase]
  cases outcome with
  | ok _ =>
    refine ⟨_, rfl, rfl, List.prefix_append _ _, ?_⟩
    intro failure h
    cases h
  | error failure =>
    have hfile := hfailed failure rfl
    let phased := { w with tree := written }.report
      (.phaseEnded "annotation_cache:write" { w with tree := written }.elapsed)
    have hevents : (phased.report (unsaved b.cachePath)).events =
        w.events ++ [.phaseEnded "annotation_cache:write" w.elapsed, unsaved b.cachePath] :=
      List.append_assoc w.events _ _
    refine ⟨phased.report (unsaved b.cachePath), ?_, rfl, ?_, ?_⟩
    · simp only [hfile, if_true]
      rfl
    · rw [hevents]
      exact List.prefix_append _ _
    · intro _ _
      rw [ReportsUnsaved, hevents, List.drop_left]
      exact List.mem_cons_of_mem _ List.mem_cons_self

/-- A failure that is no matter of the file system is passed on by a save. -/
lemma saveWith_eq_error (b : Baseline) {write : AnnotationCache → Job Unit}
    {cache : AnnotationCache} {failure : Failure} {written : FileTree}
    (hwrite : write cache w = (.error failure, { w with tree := written }))
    (hreason : failure.isFileSystem = false) :
    ∃ w', b.saveWith write cache w = (.error failure, w') ∧ w'.tree = written ∧
      w.events <+: w'.events := by
  have hphase := Job.outcome_eq (Job.phase_eq "annotation_cache:write" hwrite)
  rw [saveWith, Job.bind_of_ok hphase]
  simp only [hreason, Bool.false_eq_true, if_false]
  exact ⟨_, rfl, rfl, List.prefix_append _ _⟩

end Baseline

end Nullability
