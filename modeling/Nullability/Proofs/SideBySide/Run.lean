import Nullability.Proofs.SideBySide.Document
import Nullability.SideBySide.Eviction
import Nullability.SideBySide.Lookup

/-!
# What happens to documents beside assemblies

What lookups, changes and disposals do when they run without others in between. None of them
changes a file. A lookup that finds its document kept leaves everything as it is; one that does not
reads the document and keeps what it read, unless that fails. A change takes at most the entry of
its path, and a disposal takes all.
-/

namespace Nullability.SideBySide

/-- How a lookup without rivals ends. -/
inductive Lookup.Ending (documents : SideBySide) (w : Workspace) (path : Path) :
    Except Failure AnnotationMap → SideBySide → Prop where
  /-- The document was kept. -/
  | kept {entry : Entry} (h : documents.get? (key w.tree path) = some entry) :
    Ending documents w path (.ok entry.map) documents
  /-- The document was not kept and could not be read. -/
  | failed {failure : Failure} (h : documents.get? (key w.tree path) = none)
    (hload : (AnnotationMap.loadFile path .empty w).1 = .error failure) :
    Ending documents w path (.error failure) documents
  /-- The document was not kept; it was read and is kept from now on. -/
  | read {map : AnnotationMap} (watch : Nat) (h : documents.get? (key w.tree path) = none)
    (hload : (AnnotationMap.loadFile path .empty w).1 = .ok map) :
    Ending documents w path (.ok map) (documents.insert (key w.tree path) ⟨map, watch⟩)

namespace Lookup

variable {documents : SideBySide} {w : Workspace} {path : Path}

/-- Reading a document leaves the files as they are. -/
lemma tree_loadFile (path : Path) (m : AnnotationMap) (w : Workspace) :
    (AnnotationMap.loadFile path m w).2.tree = w.tree := by
  rw [AnnotationMap.loadFile_eq]

/-- A lookup of a kept document is over with its first step. -/
lemma runToWatch_of_kept {entry : Entry} (h : documents.get? (key w.tree path) = some entry) :
    (ofPath path).runToWatch documents w = (⟨path, .found entry⟩, documents, w) := by
  simp [runToWatch, step, advance, ofPath, h]

/-- A lookup of a document that cannot be read fails with its second step. -/
lemma runToWatch_of_failed {failure : Failure} (h : documents.get? (key w.tree path) = none)
    (hload : (AnnotationMap.loadFile path .empty w).1 = .error failure) :
    (ofPath path).runToWatch documents w =
      (⟨path, .failed failure⟩, documents, (AnnotationMap.loadFile path .empty w).2) := by
  cases hrun : AnnotationMap.loadFile path .empty w with
  | mk outcome w' =>
    rw [hrun] at hload
    simp [runToWatch, step, advance, ofPath, h, hrun, show outcome = .error failure from hload]

/-- What is left of a workspace when a document was read and a watch on it was started. -/
def opened (path : Path) (w : Workspace) : Workspace :=
  { w with documents := w.documents ++ [path], watches := w.watches ++ [⟨path, 0⟩] }

/-- A lookup of a document that can be read starts a new watch with its third step. -/
lemma runToWatch_eq_of_read {map : AnnotationMap} (h : documents.get? (key w.tree path) = none)
    (hload : (AnnotationMap.loadFile path .empty w).1 = .ok map) :
    (ofPath path).runToWatch documents w =
      (⟨path, .watched ⟨map, w.watches.length⟩⟩, documents, opened path w) := by
  have hrun : AnnotationMap.loadFile path .empty w =
      (.ok map, { w with documents := w.documents ++ [path] }) := by
    rw [AnnotationMap.loadFile_eq] at hload ⊢
    exact congrArg (·, _) hload
  simp [runToWatch, step, advance, ofPath, h, hrun, Workspace.startWatch, opened]

lemma runToWatch_of_read {map : AnnotationMap} (h : documents.get? (key w.tree path) = none)
    (hload : (AnnotationMap.loadFile path .empty w).1 = .ok map) :
    ∃ watch w', (ofPath path).runToWatch documents w =
      (⟨path, .watched ⟨map, watch⟩⟩, documents, w') ∧ w'.tree = w.tree :=
  ⟨_, _, runToWatch_eq_of_read h hload, rfl⟩

/-- Nothing happens to a lookup that has come to its end. -/
lemma runFromWatch_of_finished {lookup : Lookup} (h : lookup.isFinished = true) :
    lookup.runFromWatch documents w = (lookup, documents, w) := by
  obtain ⟨path, stage⟩ := lookup
  cases stage with
  | found entry => rfl
  | failed failure => rfl
  | _ => cases h

/-- What a lookup has read and watches is kept if nobody else keeps the document. -/
lemma runFromWatch_eq_of_watched {entry : Entry} (h : documents.get? (key w.tree path) = none) :
    runFromWatch ⟨path, .watched entry⟩ documents w =
      (⟨path, .found entry⟩, documents.insert (key w.tree path) entry,
        w.report (loadedEvent path entry.map.size)) := by
  simp [runFromWatch, step, advance, keep, Workspace.report, h]

lemma runFromWatch_of_watched {entry : Entry} (h : documents.get? (key w.tree path) = none) :
    ∃ w', runFromWatch ⟨path, .watched entry⟩ documents w =
      (⟨path, .found entry⟩, documents.insert (key w.tree path) entry, w') ∧ w'.tree = w.tree :=
  ⟨_, runFromWatch_eq_of_watched h, rfl⟩

end Lookup

/-! ## Changes -/

/-- An eviction of a path that is not kept does nothing. -/
lemma Eviction.run_of_not_kept {documents : SideBySide} {w : Workspace} {path : Path}
    (h : documents.get? (key w.tree path) = none) (kind : FileChange.Kind) :
    run ⟨path, kind, .arrived⟩ documents w = (documents, w) := by
  simp [run, step, h]

/-- An eviction of a path that is kept takes its entry out and stops the watch that goes with it. -/
lemma Eviction.run_of_kept {documents : SideBySide} {w : Workspace} {path : Path} {entry : Entry}
    (h : documents.get? (key w.tree path) = some entry) (kind : FileChange.Kind) :
    run ⟨path, kind, .arrived⟩ documents w = (documents.erase (key w.tree path),
      (w.stopWatch entry.watch).report (evictedEvent path kind.name)) := by
  simp [run, step, h]

/-- An eviction takes out the entry of its path and touches no file. -/
lemma Eviction.run_eq (documents : SideBySide) (w : Workspace) (path : Path)
    (kind : FileChange.Kind) :
    ∃ w', run ⟨path, kind, .arrived⟩ documents w =
      (if (documents.get? (key w.tree path)).isSome then documents.erase (key w.tree path)
        else documents, w') ∧ w'.tree = w.tree := by
  cases h : documents.get? (key w.tree path) with
  | none => exact ⟨w, run_of_not_kept h kind, rfl⟩
  | some entry => exact ⟨_, run_of_kept h kind, rfl⟩

/-- A change that is understood is an eviction of the path in question. -/
lemma change_of_ok {change : FileChange} {path : Path} (h : change.watchedPath = .ok path)
    (documents : SideBySide) (w : Workspace) :
    SideBySide.change documents change w =
      (.ok (), Eviction.run ⟨path, change.kind, .arrived⟩ documents w) := by
  simp [SideBySide.change, Eviction.ofChange, h, Except.map]

/-- After a change the entry of the path in question is gone, and all others are still there. -/
lemma get?_change {documents : SideBySide} {change : FileChange} {w : Workspace} {path : Path}
    (h : change.watchedPath = .ok path) (k : String) :
    (SideBySide.change documents change w).2.1.get? k =
      if key w.tree path = k then none else documents.get? k := by
  obtain ⟨w', hrun, -⟩ := Eviction.run_eq documents w path change.kind
  rw [change_of_ok h, hrun]
  cases hget : documents.get? (key w.tree path) with
  | none =>
    simp only [Option.isSome_none, Bool.false_eq_true, if_false]
    by_cases hk : key w.tree path = k
    · rw [if_pos hk, ← hk, hget]
    · rw [if_neg hk]
  | some entry => simp only [Option.isSome_some, if_true, OrderedMap.get?_erase]

/-- A change that cannot be understood changes nothing. -/
lemma change_of_error {documents : SideBySide} {change : FileChange} {w : Workspace}
    {failure : Failure} (h : change.watchedPath = .error failure) :
    SideBySide.change documents change w = (.error failure, documents, w) := by
  simp [SideBySide.change, Eviction.ofChange, h, Except.map]

/-- A change of the documents touches no file. -/
lemma tree_change (documents : SideBySide) (change : FileChange) (w : Workspace) :
    (SideBySide.change documents change w).2.2.tree = w.tree := by
  cases h : change.watchedPath with
  | error failure => rw [change_of_error h]
  | ok path =>
    obtain ⟨w', hrun, htree⟩ := Eviction.run_eq documents w path change.kind
    rw [change_of_ok h, hrun]
    exact htree

/-! ## Disposal -/

namespace Disposal

/-- A map with entries has a newest one, without which it has one entry less. -/
lemma exists_popLast? {documents : SideBySide} {n : Nat} (h : documents.size = n + 1) :
    ∃ k entry rest, documents.popLast? = some ((k, entry), rest) ∧ rest.size = n := by
  rw [OrderedMap.size] at h
  cases hpop : documents.popLast? with
  | none =>
    rw [OrderedMap.entries_eq_nil_of_popLast? hpop] at h
    cases h
  | some popped =>
    obtain ⟨⟨k, entry⟩, rest⟩ := popped
    refine ⟨k, entry, rest, rfl, ?_⟩
    rw [OrderedMap.entries_of_popLast? hpop, List.length_append] at h
    exact Nat.succ.inj h

/-- What is left of a workspace when the watches of all entries are stopped, the newest first. -/
def allStopped (documents : SideBySide) (w : Workspace) : Workspace :=
  documents.entries.foldr (fun entry w => w.stopWatch entry.2.watch) w

/-- A disposal needs three steps for each entry and a last test; no entry is left. -/
lemma steps_testing (n : Nat) (documents : SideBySide) (w : Workspace) (h : documents.size = n) :
    steps (3 * n + 1) testing documents w = (done, .empty, allStopped documents w) := by
  induction n generalizing documents w with
  | zero =>
    have hempty : documents = .empty := OrderedMap.ext (List.eq_nil_of_length_eq_zero h)
    rw [hempty]
    rfl
  | succ n ih =>
    obtain ⟨k, entry, rest, hpop, hsize⟩ := exists_popLast? h
    have hnonempty : documents.isEmpty = false := by
      rw [OrderedMap.isEmpty, List.isEmpty_eq_false_iff]
      intro e
      rw [OrderedMap.size, e] at h
      cases h
    have hstopped : allStopped documents w = allStopped rest (w.stopWatch entry.watch) := by
      rw [allStopped, OrderedMap.entries_of_popLast? hpop, List.foldr_append]
      rfl
    rw [show 3 * (n + 1) + 1 = (3 * n + 1) + 1 + 1 + 1 by omega, hstopped]
    simp only [steps, step, hnonempty, hpop, Bool.false_eq_true, if_false]
    exact ih rest (w.stopWatch entry.watch) hsize

lemma tree_allStopped (documents : SideBySide) (w : Workspace) :
    (allStopped documents w).tree = w.tree := by
  rw [allStopped]
  induction documents.entries with
  | nil => rfl
  | cons entry rest ih => exact ih

end Disposal

/-- A disposal succeeds, keeps no entry and stops the watches of all. -/
lemma dispose_eq_allStopped (documents : SideBySide) (w : Workspace) :
    dispose documents w = (.ok (), .empty, Disposal.allStopped documents w) := by
  rw [dispose, Disposal.steps_testing _ documents w rfl]
  rfl

end Nullability.SideBySide
