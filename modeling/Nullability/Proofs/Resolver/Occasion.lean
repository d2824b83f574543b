import Nullability.Proofs.Resolver.Refinement
import Nullability.Proofs.SideBySide.Ownership

/-!
# Occasions

An occasion is an action together with the program that finds it. On every occasion a resolver
either reads a document, watches and keeps it, or gives up the documents that the occasion
invalidates, and their watches with them (`Occasion.Course`). Watches that are given up are stopped,
and those of the documents that are kept go on (`SideBySide.Balanced.freed`).
-/

namespace Nullability

/-- The file that a change leaves behind: after a renaming the one under the old path, which must
lie in a folder. -/
def FileChange.former? (change : FileChange) : Option Path :=
  match change.kind with
  | .renamed => change.oldPath.filter (fun path => path.parent ≠ path)
  | _ => some change.path

lemma FileChange.watchedPath_eq (change : FileChange) :
    change.watchedPath =
      match change.former? with
      | some path => .ok path
      | none => .error (badRenaming change.oldPath) := by
  obtain ⟨kind, path, oldPath⟩ := change
  cases kind with
  | renamed =>
    cases oldPath with
    | none => rfl
    | some old =>
      by_cases h : old.parent = old
      · simp [watchedPath, former?, Option.filter, h]
      · simp [watchedPath, former?, Option.filter, h]
  | _ => rfl

/-- Whether a job starts and stops no watch, and stays in the current folder. -/
def Job.KeepsOff {α : Type} (job : Job α) : Prop :=
  ∀ w, (job w).2.watches = w.watches ∧ (job w).2.tree.current = w.tree.current

/-- Whether an action leaves the current folder where it is. -/
def Action.StaysIn (current : Place) : Action → Prop
  | .edit tree => tree.current = current
  | _ => True

/-- An action, and the program as it finds it. -/
structure Occasion where
  program : Program
  action : Action

/-- The program after an occasion. -/
def Occasion.next (occasion : Occasion) (resolver : Nat) : Program :=
  occasion.program.after resolver occasion.action

namespace Program

/-- The watch on the document that a resolver keeps under a key. -/
def watchOf? (program : Program) (resolver : Nat) (k : String) : Option Nat :=
  ((program.documents? resolver).bind (fun documents => documents.get? k)).map (fun entry =>
    entry.watch)

end Program

namespace Occasion

/-- The key of the document that is parsed on an occasion: a lookup gets to it, reads it beyond what
the provided map has read, and has an answer. -/
def parsed? (occasion : Occasion) (resolver : Nat) (provider : Provider) : Option String :=
  match occasion.action with
  | .lookup query =>
    let asked := (occasion.program.provide provider).2
    let (answer, done) := occasion.program.lookup resolver query
    (occasion.program.documentBeside? provider query).bind (fun path =>
      if answer.isOk ∧ done.workspace.documents = asked.workspace.documents ++ [path] then
        some (SideBySide.key done.workspace.tree path)
      else none)
  | _ => none

/-- Whether on an occasion a resolver is disposed, or told a change of the document with a key. -/
def invalidates (occasion : Occasion) (resolver : Nat) (k : String) : Bool :=
  match occasion.action with
  | .tell watch change =>
    occasion.program.starters[watch]? = some resolver &&
      change.former?.any (fun path => SideBySide.key occasion.program.workspace.tree path = k)
  | .dispose => true
  | _ => false

/-- Whether the document with a key is kept before an occasion and not after it. -/
def evicts (occasion : Occasion) (resolver : Nat) (k : String) : Bool :=
  (occasion.program.watchOf? resolver k).isSome &&
    ((occasion.next resolver).watchOf? resolver k).isNone

end Occasion

/-- The keys of the documents that watches were started on, in the order in which they were
started. -/
def Workspace.watchedKeys (w : Workspace) : List String :=
  w.watches.map (fun found => SideBySide.key w.tree found.path)

/-- Whether some watches were stopped, each as many times as it is listed, and nothing else was done
to watches. -/
def SideBySide.Stopped (taken : List Nat) (w w' : Workspace) : Prop :=
  ∀ n : Nat, w'.watches[n]? =
    w.watches[n]?.map (fun found => ⟨found.path, found.stops + taken.count n⟩)

/-! ## Courses -/

/-- What can become of documents and watches on an occasion. -/
inductive Occasion.Course (occasion : Occasion) (resolver : Nat) (provider : Provider)
    (documents documents' : SideBySide) (w' : Workspace) : Prop where
  /-- A document is parsed, watched and kept. -/
  | read (path : Path) (map : AnnotationMap)
    (hparsed : occasion.parsed? resolver provider = some (SideBySide.key w'.tree path))
    (hvalid : ∀ k, occasion.invalidates resolver k = false)
    (hnone : documents.get? (SideBySide.key w'.tree path) = none)
    (hkept : documents' = documents.insert (SideBySide.key w'.tree path)
      ⟨map, occasion.program.workspace.watches.length⟩)
    (hwatches : w'.watches = occasion.program.workspace.watches ++ [⟨path, 0⟩])
  /-- The documents that are not valid any more are given up, and their watches are stopped. -/
  | freed (taken : List Nat) (hparsed : occasion.parsed? resolver provider = none)
    (hkept : ∀ k, documents'.get? k =
      if occasion.invalidates resolver k then none else documents.get? k)
    (hwatches : documents.watches.Perm (taken ++ documents'.watches))
    (hstopped : SideBySide.Stopped taken occasion.program.workspace w')

namespace SideBySide

variable {documents : SideBySide} {w w' : Workspace}

lemma mem_watches_iff (documents : SideBySide) (watch : Nat) :
    watch ∈ documents.watches ↔
      ∃ k entry, documents.get? k = some entry ∧ entry.watch = watch := by
  rw [watches, List.mem_map]
  constructor
  · rintro ⟨⟨k, entry⟩, hmem, rfl⟩
    exact ⟨k, entry, (documents.mem_entries_iff k entry).1 hmem, rfl⟩
  · rintro ⟨k, entry, hget, rfl⟩
    exact ⟨(k, entry), (documents.mem_entries_iff k entry).2 hget, rfl⟩

lemma stopped_allStopped (documents : SideBySide) (w : Workspace) :
    Stopped documents.watches w (Disposal.allStopped documents w) := by
  intro n
  rw [Disposal.allStopped, watches]
  induction documents.entries generalizing w with
  | nil => simp
  | cons entry rest ih =>
    rw [List.foldr_cons, Workspace.getElem?_stopWatch, ih, Option.map_map, List.map_cons,
      List.count_cons]
    congr 1
    funext found
    simp only [Function.comp_apply, Watch.mk.injEq, true_and, beq_iff_eq]
    omega

/-- When owned watches are stopped, the others are still balanced. -/
lemma Balanced.freed {taken owned : List Nat} (h : Balanced (taken ++ owned) w)
    (hstopped : Stopped taken w w') : Balanced owned w' := by
  have hcount : ∀ n, taken.count n + owned.count n = if w.isLive n then 1 else 0 := by
    intro n
    rw [← List.count_append]
    exact h.count n
  refine ⟨?_, ?_⟩
  · intro n
    have hn := hcount n
    rw [Workspace.isLive, hstopped]
    rw [Workspace.isLive] at hn
    cases hfound : w.watches[n]? with
    | none =>
      simp only [hfound, Option.any_none, Bool.false_eq_true, if_false] at hn
      simp only [Option.map_none, Option.any_none, Bool.false_eq_true, if_false]
      omega
    | some found =>
      simp only [hfound, Option.any_some, decide_eq_true_eq] at hn
      simp only [Option.map_some, Option.any_some, decide_eq_true_eq]
      split at hn
      · split <;> omega
      · split <;> omega
  · intro watch hmem
    obtain ⟨n, hn⟩ := List.mem_iff_getElem?.1 hmem
    rw [hstopped] at hn
    obtain ⟨found, hfound, rfl⟩ := Option.map_eq_some_iff.1 hn
    have hle := h.stops found (List.mem_of_getElem? hfound)
    have htaken := hcount n
    simp only [Workspace.isLive, hfound, Option.any_some, decide_eq_true_eq] at htaken
    split at htaken
    · simp only
      omega
    · simp only
      omega

lemma IsWatchOn.of_stopped {taken : List Nat} {watch : Nat} {k : String} (h : IsWatchOn w watch k)
    (htree : w'.tree.current = w.tree.current)
    (hstopped : Stopped taken w w') : IsWatchOn w' watch k := by
  obtain ⟨found, hfound, hk⟩ := h
  refine ⟨⟨found.path, found.stops + taken.count watch⟩, ?_, ?_⟩
  · rw [hstopped, hfound, Option.map_some]
  · rw [key, FileTree.currentText, htree]
    exact hk

lemma stopped_nil (h : w'.watches = w.watches) : Stopped [] w w' := by
  intro n
  rw [h]
  cases w.watches[n]? <;> rfl

lemma stopped_stopWatch (w : Workspace) (watch : Nat) : Stopped [watch] w (w.stopWatch watch) := by
  intro n
  rw [Workspace.getElem?_stopWatch]
  simp only [List.count_singleton, beq_iff_eq]

end SideBySide

namespace Occasion

variable {occasion : Occasion} {resolver : Nat} {provider : Provider} {documents : SideBySide}
  {w' : Workspace}

/-- Nothing may happen to what is valid. -/
lemma Course.idle (hparsed : occasion.parsed? resolver provider = none)
    (hvalid : ∀ k, occasion.invalidates resolver k = true → documents.get? k = none)
    (hwatches : w'.watches = occasion.program.workspace.watches) :
    Course occasion resolver provider documents documents w' := by
  refine .freed [] hparsed ?_ (.refl _) (SideBySide.stopped_nil hwatches)
  intro k
  split
  · rename_i hinvalid
    exact hvalid k hinvalid
  · rfl

end Occasion
end Nullability
