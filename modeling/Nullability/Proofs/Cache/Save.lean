import Nullability.Proofs.Cache.Writer

/-!
# Saving cache files

A save comes to an end within four steps. What it leaves behind can be said without looking at its
steps, and holds as well if it breaks off at any point for a reason outside of the tree (`Saved`). If
there is a null character in the path of the cache file, a save comes no further than to make the
folder of the file (`Barred`).
-/

namespace Nullability.CacheWriter

open FileTree

variable {writer : CacheWriter} {tree start : FileTree} {path : Path}

/-! ## Coming to an end -/

/-- The stage behind a step that succeeds. -/
def Stage.next : Stage → Stage
  | .arrived => .folderMade
  | .folderMade => .fileMade
  | .fileMade => .contentWritten
  | .contentWritten | .done => .done
  | .failed failure => .failed failure

lemma Change.stage_eq {made : FileTree} {stage : Stage} (h : Change writer tree stage made) :
    stage = writer.stage.next := by
  cases h with
  | makeFolder hstage hmade => rw [hstage, Stage.next]
  | makeFile hstage hmade => rw [hstage, Stage.next]
  | writeContent hstage hmade => rw [hstage, Stage.next]
  | replace hstage hmade => rw [hstage, Stage.next]
  | rest hfinished =>
    rw [isFinished] at hfinished
    cases hstage : writer.stage with
    | done => rfl
    | failed failure => rfl
    | _ =>
      rw [hstage] at hfinished
      cases hfinished

/-- A step leads to the next stage, or it fails, and that for a reason of the file system unless
there is a null character in a path. -/
lemma stage_step (writer : CacheWriter) (tree : FileTree) :
    (writer.step tree).1.stage = writer.stage.next ∨
      ∃ failure, (writer.step tree).1.stage = .failed failure ∧
        (writer.HasNoNull → failure.isFileSystem = true) := by
  rw [step]
  cases hchange : writer.change tree with
  | error failure => exact .inr ⟨failure, rfl, fun hnull => isFileSystem_of_change hnull hchange⟩
  | ok change => exact .inl (change_of_eq_ok hchange).stage_eq

/-- How many steps a writer has before it. -/
def Stage.remaining : Stage → Nat
  | .arrived => 4
  | .folderMade => 3
  | .fileMade => 2
  | .contentWritten => 1
  | .done | .failed _ => 0

/-- Within its steps a writer comes to an end. -/
lemma isFinished_steps {n : Nat} (writer : CacheWriter) (tree : FileTree)
    (h : writer.stage.remaining ≤ n) : (steps n writer tree).1.isFinished = true := by
  -- A step that does not fail leaves one step less.
  induction n generalizing writer tree with
  | zero =>
    rw [steps, isFinished]
    cases hstage : writer.stage with
    | done => rfl
    | failed failure => rfl
    | _ =>
      rw [hstage] at h
      exact absurd h (by decide)
  | succ n ih =>
    refine ih (writer.step tree).1 (writer.step tree).2 ?_
    cases stage_step writer tree with
    | inl hnext =>
      rw [hnext]
      cases hstage : writer.stage with
      | done => exact Nat.zero_le n
      | failed failure => exact Nat.zero_le n
      | _ =>
        rw [hstage] at h
        exact Nat.le_of_succ_le_succ h
    | inr hfailed =>
      obtain ⟨failure, hfailed, -⟩ := hfailed
      rw [hfailed]
      exact Nat.zero_le n

lemma isFileSystem_of_step_failed (hnull : writer.HasNoNull) {failure : Failure}
    (h : (writer.step tree).1.stage = .failed failure) :
    writer.stage = .failed failure ∨ failure.isFileSystem = true := by
  rcases stage_step writer tree with hnext | ⟨reason, hfailed, hreason⟩
  · left
    rw [h] at hnext
    cases hstage : writer.stage with
    | failed reason =>
      rw [hstage] at hnext
      exact hnext.symm
    | _ =>
      rw [hstage] at hnext
      cases hnext
  · obtain rfl : failure = reason := Stage.failed.inj (h.symm.trans hfailed)
    exact .inr (hreason hnull)

lemma isFileSystem_of_steps_failed (hnull : writer.HasNoNull) {n : Nat} {failure : Failure}
    (h : (steps n writer tree).1.stage = .failed failure) :
    writer.stage = .failed failure ∨ failure.isFileSystem = true := by
  induction n generalizing writer tree with
  | zero => exact .inl h
  | succ n ih =>
    have hnext : (writer.step tree).1.HasNoNull := by
      rw [step]
      cases writer.change tree with
      | error failure => exact hnull
      | ok change => exact hnull
    rcases ih hnext h with hstep | hreason
    · exact isFileSystem_of_step_failed hnull hstep
    · exact .inr hreason

/-! ## Saves -/

/-- What a writer that has come to its end reports. -/
def outcome (writer : CacheWriter) : Except Failure Unit :=
  match writer.stage with
  | .failed failure => .error failure
  | _ => .ok ()

/-- When a save fails: some of the folders on the way may be made before, and a writer takes some
steps. The temporary file may stay behind. -/
structure Mishap where
  folders : Nat
  steps : Nat
  leaves : Bool
  deriving DecidableEq, Repr, Inhabited

/-- The folder on the way to a path after some of its components. -/
def folderAfter (path : Path) (components : Nat) : Path :=
  ⟨path.anchor, path.parent.parts.take components⟩

/-- What becomes of a writer that has to give up, unless it is through. -/
def interrupt (leaves : Bool) (writer : CacheWriter) (tree : FileTree) :
    CacheWriter × FileTree :=
  if writer.isFinished then (writer, tree)
  else if leaves then ({ writer with stage := .failed .systemLimit }, tree)
  else writer.giveUp .systemLimit tree

def runUntil (mishap : Mishap) (path : Path) (content : List UInt8) (now : Int)
    (tree : FileTree) : CacheWriter × FileTree :=
  let tree := (tree.makeFolders (folderAfter path mishap.folders)).toOption.getD tree
  let (writer, tree) := steps mishap.steps (arriving tree path content now) tree
  interrupt mishap.leaves writer tree

/-- What a save has done to a tree, whatever its outcome. -/
structure Saved (path : Path) (content : List UInt8) (now : Int) (before : FileTree)
    (outcome : Except Failure Unit) (after : FileTree) : Prop where
  grown : Grown (way before path) (isSpare (before.spelled path)) before after
  wellFormed : after.WellFormed
  old : ∀ found modified, after.at? (before.spelled path) = some (.file found modified) →
    before.at? (before.spelled path) = some (.file found modified) ∨ found = content
  saved : outcome = .ok () → after.resolve path = .ok (before.spelled path) ∧
    after.at? (before.spelled path) = some (.file content now)
  failed : path.hasNull = false → ∀ failure, outcome = .error failure →
    failure.isFileSystem = true

/-- A writer that has come to its end has saved its content, or failed. -/
lemma Progress.saved (h : Progress start writer tree) (hfinished : writer.isFinished = true) :
    Saved writer.path writer.content writer.now start writer.outcome tree := by
  have hholds := h.holds
  rw [HoldsAt] at hholds
  rw [isFinished] at hfinished
  refine ⟨h.grown, h.wellFormed, h.old, ?_, ?_⟩
  · intro hok
    rw [outcome] at hok
    cases hstage : writer.stage with
    | done =>
      rw [hstage] at hholds
      exact hholds
    | failed failure =>
      rw [hstage] at hok
      cases hok
    | _ =>
      rw [hstage] at hfinished
      cases hfinished
  · intro hnull failure herror
    rw [outcome] at herror
    cases hstage : writer.stage with
    | failed failure' =>
      rw [hstage] at hholds herror
      exact Except.error.inj herror ▸ hholds hnull
    | _ =>
      rw [hstage] at herror
      cases herror

lemma fields_step (writer : CacheWriter) (tree : FileTree) :
    (writer.step tree).1.path = writer.path ∧ (writer.step tree).1.content = writer.content ∧
      (writer.step tree).1.now = writer.now := by
  rw [step]
  cases writer.change tree with
  | error failure => exact ⟨rfl, rfl, rfl⟩
  | ok change => exact ⟨rfl, rfl, rfl⟩

lemma fields_steps (n : Nat) (writer : CacheWriter) (tree : FileTree) :
    (steps n writer tree).1.path = writer.path ∧
      (steps n writer tree).1.content = writer.content ∧
      (steps n writer tree).1.now = writer.now := by
  induction n generalizing writer tree with
  | zero => exact ⟨rfl, rfl, rfl⟩
  | succ n ih =>
    obtain ⟨hpath, hcontent, hnow⟩ := ih (writer.step tree).1 (writer.step tree).2
    obtain ⟨hpath', hcontent', hnow'⟩ := fields_step writer tree
    exact ⟨hpath.trans hpath', hcontent.trans hcontent', hnow.trans hnow'⟩

lemma eq_failed_of_outcome {failure : Failure} (h : writer.outcome = .error failure) :
    writer.stage = .failed failure := by
  rw [outcome] at h
  split at h
  · rename_i reason hreason
    rw [hreason, Except.error.inj h]
  · cases h

/-- A save fails for a reason of the file system, unless there is a null character in the path. -/
lemma isFileSystem_of_run (hnull : path.hasNull = false) {content : List UInt8} {now : Int}
    {failure : Failure}
    (h : ((arriving tree path content now).run tree).1.outcome = .error failure) :
    failure.isFileSystem = true := by
  have hstage := eq_failed_of_outcome h
  rw [run_eq_steps] at hstage
  obtain harrived | hreason :=
    isFileSystem_of_steps_failed (hasNoNull_arriving hnull tree content now) hstage
  · cases harrived
  · exact hreason

/-- Whatever the mishap, the same holds of a save. -/
lemma isFileSystem_of_runUntil (hnull : path.hasNull = false) {mishap : Mishap}
    {content : List UInt8} {now : Int} {failure : Failure}
    (h : (runUntil mishap path content now tree).1.outcome = .error failure) :
    failure.isFileSystem = true := by
  have hstage := eq_failed_of_outcome h
  rw [runUntil] at hstage
  dsimp only at hstage
  rw [interrupt] at hstage
  split at hstage
  · obtain harrived | hreason :=
      isFileSystem_of_steps_failed (hasNoNull_arriving hnull _ content now) hstage
    · cases harrived
    · exact hreason
  · split at hstage
    · exact Stage.failed.inj hstage ▸ rfl
    · exact Stage.failed.inj hstage ▸ rfl

/-- Some of the folders on the way may be made beforehand. -/
lemma furthered_of_folderAfter {spare : Place → Bool} (htree : tree.WellFormed)
    (hpath : path.Proper) (components : Nat) :
    Furthered (way tree path) spare tree
      ((tree.makeFolders (folderAfter path components)).toOption.getD tree) := by
  cases hmade : tree.makeFolders (folderAfter path components) with
  | error failure => exact ⟨.refl _ spare tree, htree⟩
  | ok made =>
    have hproper : (folderAfter path components).Proper :=
      fun part hpart => hpath.parent part (List.mem_of_mem_take hpart)
    refine furthered_of_makeFoldersFrom htree hproper ?_ hmade
    intro parts hparts
    exact mem_way (hparts.trans (List.take_prefix components path.parent.parts))

lemma saved_run (htree : tree.WellFormed) (hpath : path.Proper) (content : List UInt8)
    (now : Int) :
    let finished := (arriving tree path content now).run tree
    Saved path content now tree finished.1.outcome finished.2 := by
  have harrived : Progress tree (arriving tree path content now) tree :=
    progress_of_arrived hpath fun spare => ⟨.refl _ spare tree, htree⟩
  have hfinished := isFinished_steps (arriving tree path content now) tree (le_refl 4)
  have hsaved := (harrived.steps 4).saved hfinished
  obtain ⟨hpath', hcontent', hnow'⟩ := fields_steps 4 (arriving tree path content now) tree
  rw [hpath', hcontent', hnow'] at hsaved
  exact hsaved

/-- A save up to a mishap. -/
lemma saved_runUntil (htree : tree.WellFormed) (hpath : path.Proper) (mishap : Mishap)
    (content : List UInt8) (now : Int) :
    let finished := runUntil mishap path content now tree
    Saved path content now tree finished.1.outcome finished.2 := by
  -- A mishap ends a save in three ways: the writer is through, or leaves all as it is, or gives up.
  let made := (tree.makeFolders (folderAfter path mishap.folders)).toOption.getD tree
  let arrived := arriving made path content now
  have hmade : ∀ spare, Furthered (way tree path) spare tree made :=
    fun spare => furthered_of_folderAfter htree hpath mishap.folders
  have harrived : Progress tree arrived made := progress_of_arrived hpath hmade
  obtain ⟨hpath', hcontent', hnow'⟩ := fields_steps mishap.steps arrived made
  have hsteps := harrived.steps mishap.steps
  rw [runUntil]
  change Saved path content now tree
    (interrupt mishap.leaves (steps mishap.steps arrived made).1
      (steps mishap.steps arrived made).2).1.outcome
    (interrupt mishap.leaves (steps mishap.steps arrived made).1
      (steps mishap.steps arrived made).2).2
  rw [interrupt]
  split
  · rename_i hfinished
    have hsaved := hsteps.saved hfinished
    rw [hpath', hcontent', hnow'] at hsaved
    exact hsaved
  · split
    · have hleft : Progress tree
          { (steps mishap.steps arrived made).1 with stage := .failed .systemLimit }
          (steps mishap.steps arrived made).2 :=
        ⟨hsteps.proper, hsteps.temporary, hsteps.grown, hsteps.wellFormed, hsteps.old,
          fun _ => rfl⟩
      have hsaved := hleft.saved rfl
      rw [hpath', hcontent', hnow'] at hsaved
      exact hsaved
    · have hgiveUp : Progress tree
          ((steps mishap.steps arrived made).1.giveUp .systemLimit
            (steps mishap.steps arrived made).2).1 _ :=
        hsteps.giveUp fun _ => rfl
      have hsaved := hgiveUp.saved rfl
      rw [giveUp, hpath', hcontent', hnow'] at hsaved
      exact hsaved

/-! ## Paths with a null character -/

/-- How far a save has come if the temporary file cannot be made, since its path has a null
character. -/
def Barred (start : FileTree) (writer : CacheWriter) (tree : FileTree) : Prop :=
  match writer.stage with
  | .arrived => tree = start
  | .folderMade => start.makeFolders writer.path.parent = .ok tree
  | .failed failure => start.makeFolders writer.path.parent = .error failure ∧ tree = start ∨
      start.makeFolders writer.path.parent = .ok tree ∧ failure = .badValue
  | _ => False

lemma Barred.step (h : Barred start writer tree) (hnull : writer.temporary.hasNull = true) :
    Barred start (writer.step tree).1 (writer.step tree).2 := by
  rw [CacheWriter.step]
  rw [Barred] at h
  cases hstage : writer.stage with
  | arrived =>
    rw [hstage] at h
    obtain rfl : tree = start := h
    rw [change, hstage]
    cases hmade : tree.makeFolders writer.path.parent with
    | error failure =>
      have hsame : writer.withoutTemporary tree = tree := by rw [withoutTemporary, hstage]
      exact .inl ⟨hmade, hsame⟩
    | ok made => exact hmade
  | folderMade =>
    rw [hstage] at h
    have hwrite : tree.write writer.temporary [] writer.now = .error .badValue := by
      rw [write, resolve_of_hasNull hnull]
      rfl
    have hreached : start.makeFolders writer.path.parent = .ok (writer.withoutTemporary tree) := by
      rw [withoutTemporary, hstage]
      exact h
    rw [change, hstage]
    simp only [hwrite, Except.map]
    exact .inr ⟨hreached, rfl⟩
  | failed failure =>
    rw [hstage] at h
    rw [change, hstage]
    exact h
  | _ =>
    rw [hstage] at h
    exact h.elim

lemma Barred.steps (h : Barred start writer tree) (hnull : writer.temporary.hasNull = true) (n : Nat) :
    Barred start (CacheWriter.steps n writer tree).1 (CacheWriter.steps n writer tree).2 := by
  induction n generalizing writer tree with
  | zero => exact h
  | succ n ih =>
    have hnext : (writer.step tree).1.temporary.hasNull = true := by
      rw [CacheWriter.step]
      cases writer.change tree with
      | error failure => exact hnull
      | ok change => exact hnull
    exact ih (h.step hnull) hnext

lemma barred_steps_arriving (hnull : path.hasNull = true) (n : Nat) (content : List UInt8)
    (now : Int) (tree : FileTree) :
    let reached := steps n (arriving tree path content now) tree
    Barred tree reached.1 reached.2 := by
  have harrived : Barred tree (arriving tree path content now) tree := rfl
  exact harrived.steps ((hasNull_temporary path _).trans hnull) n

/-- A save that is barred fails as making the folder does, or else at the temporary file. -/
lemma run_of_hasNull (hnull : path.hasNull = true) (content : List UInt8) (now : Int)
    (tree : FileTree) :
    ((arriving tree path content now).run tree).1.outcome =
      match tree.makeFolders path.parent with
      | .error failure => .error failure
      | .ok _ => .error .badValue := by
  have hbarred := barred_steps_arriving hnull 4 content now tree
  have hfinished := isFinished_steps (arriving tree path content now) tree (le_refl 4)
  obtain ⟨hpath, -⟩ := fields_steps 4 (arriving tree path content now) tree
  rw [run_eq_steps, outcome]
  generalize steps 4 (arriving tree path content now) tree = reached at hbarred hfinished hpath ⊢
  dsimp only at hbarred
  rw [Barred, hpath] at hbarred
  rw [isFinished] at hfinished
  cases hstage : reached.1.stage with
  | failed failure =>
    rw [hstage] at hbarred
    obtain ⟨hmade, -⟩ | ⟨hmade, rfl⟩ := hbarred
    · change tree.makeFolders path.parent = _ at hmade
      rw [hmade]
    · change tree.makeFolders path.parent = _ at hmade
      rw [hmade]
  | done =>
    rw [hstage] at hbarred
    exact hbarred.elim
  | _ =>
    rw [hstage] at hfinished
    cases hfinished

/-- There is no temporary file yet that could be taken away. -/
lemma Barred.withoutTemporary_eq (h : Barred start writer tree) :
    writer.withoutTemporary tree = tree := by
  rw [Barred] at h
  rw [withoutTemporary]
  cases hstage : writer.stage with
  | fileMade =>
    rw [hstage] at h
    exact h.elim
  | contentWritten =>
    rw [hstage] at h
    exact h.elim
  | _ => rfl

/-- It fails as making the folder does, or at the temporary file. -/
lemma Barred.isFileSystem_or (h : Barred start writer tree) {failure : Failure}
    (hstage : writer.stage = .failed failure) :
    failure.isFileSystem = true ∨ failure = .badValue := by
  rw [Barred, hstage] at h
  obtain ⟨hmade, -⟩ | ⟨-, hvalue⟩ := h
  · exact (stops_of_makeFolders hmade).isFileSystem_or
  · exact .inr hvalue

/-- What a barred save has made are folders on the way. -/
lemma Barred.furthered (h : Barred start writer tree) (hstart : start.WellFormed)
    (hpath : writer.path.Proper) (spare : Place → Bool) :
    Furthered (way start writer.path) spare start tree := by
  have hmakes : ∀ made, start.makeFolders writer.path.parent = .ok made →
      Furthered (way start writer.path) spare start made :=
    fun made => furthered_of_makeFoldersFrom hstart hpath.parent fun parts => mem_way
  rw [Barred] at h
  split at h
  · rw [h]
    exact ⟨.refl _ spare start, hstart⟩
  · exact hmakes tree h
  · obtain ⟨-, rfl⟩ | ⟨hmade, -⟩ := h
    · exact ⟨.refl _ spare tree, hstart⟩
    · exact hmakes tree hmade
  · exact h.elim

/-- A save that is barred fails, whatever the mishap, and has made folders at most. -/
lemma barred_runUntil (hnull : path.hasNull = true) (mishap : Mishap) (content : List UInt8)
    (now : Int) (tree : FileTree) :
    let finished := runUntil mishap path content now tree
    (∀ failure, finished.1.outcome = .error failure →
      failure.isFileSystem = true ∨ failure = .badValue) ∧
    (tree.WellFormed → path.Proper →
      Grown (way tree path) (fun _ => false) tree finished.2) := by
  let made := (tree.makeFolders (folderAfter path mishap.folders)).toOption.getD tree
  have hbarred := barred_steps_arriving hnull mishap.steps content now made
  obtain ⟨hpath, -⟩ := fields_steps mishap.steps (arriving made path content now) made
  rw [runUntil]
  dsimp only
  change (∀ failure, (interrupt _ (steps mishap.steps (arriving made path content now) made).1
      (steps mishap.steps (arriving made path content now) made).2).1.outcome = _ → _) ∧
    (_ → _ → Grown _ _ _ (interrupt _ (steps mishap.steps (arriving made path content now) made).1
      (steps mishap.steps (arriving made path content now) made).2).2)
  generalize steps mishap.steps (arriving made path content now) made = reached at hbarred hpath ⊢
  -- Wherever the save is cut off, the tree is the one that was reached.
  have htree : (interrupt mishap.leaves reached.1 reached.2).2 = reached.2 := by
    rw [interrupt]
    split
    · rfl
    · split
      · rfl
      · exact hbarred.withoutTemporary_eq
  refine ⟨?_, fun hwellFormed hproper => ?_⟩
  · intro failure hfailure
    have hstage := eq_failed_of_outcome hfailure
    rw [interrupt] at hstage
    split at hstage
    · exact hbarred.isFileSystem_or hstage
    · split at hstage
      · exact .inl (Stage.failed.inj hstage ▸ rfl)
      · exact .inl (Stage.failed.inj hstage ▸ rfl)
  · rw [htree]
    have hmade : Furthered (way tree path) (fun _ => false) tree made :=
      furthered_of_folderAfter hwellFormed hproper mishap.folders
    have hpath : reached.1.path = path := hpath
    have hreached := hbarred.furthered hmade.2 (hpath ▸ hproper) (fun _ => false)
    rw [hpath, way_eq_of_grown hmade.1] at hreached
    exact hmade.1.trans hreached.1

/-- The same without a mishap. -/
lemma barred_run (hnull : path.hasNull = true) (content : List UInt8) (now : Int)
    (tree : FileTree) :
    let finished := (arriving tree path content now).run tree
    (∀ failure, finished.1.outcome = .error failure →
      failure.isFileSystem = true ∨ failure = .badValue) ∧
    (tree.WellFormed → path.Proper →
      Grown (way tree path) (fun _ => false) tree finished.2) := by
  intro finished
  have hbarred : Barred tree finished.1 finished.2 :=
    barred_steps_arriving hnull 4 content now tree
  have hpath : finished.1.path = path :=
    (fields_steps 4 (arriving tree path content now) tree).1
  refine ⟨fun failure h => hbarred.isFileSystem_or (eq_failed_of_outcome h), ?_⟩
  intro hwellFormed hproper
  have hreached := hbarred.furthered hwellFormed (hpath ▸ hproper) (fun _ => false)
  rw [hpath] at hreached
  exact hreached.1

end Nullability.CacheWriter
