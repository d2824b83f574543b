import Nullability.Once
import Mathlib.Data.List.Induction
import Mathlib.Logic.Function.Basic
import Mathlib.Tactic.Common

/-!
# The lock around a value that is built once

Any number of readers, known by their numbers, take their steps in any order. What each of them did
when it built the value is noted as a call. All that a step can do is told by `Step`, and whatever
the steps are, the lock keeps all but one reader outside (`Guarded`).
-/

namespace Nullability.Once

variable {α : Type}

/-- Whether a reader at this stage holds the lock. -/
def Stage.isInside : Stage α → Bool
  | .holding | .building | .attempted _ | .kept | .leaving | .abandoning _ => true
  | _ => false

/-- The calls of a job so far: who called it, and how that ended. -/
abbrev Calls (α : Type) := List (Nat × Except Failure α)

/-- Whether all calls were interrupted. -/
def Interrupted (calls : Calls α) : Prop :=
  ∀ call ∈ calls, isFinal call.2 = false

/-- The outcome of the call that a step was, if it was one. -/
def called? : (before after : Stage α) → Option (Except Failure α)
  | .building, .attempted outcome => some outcome
  | _, _ => none

variable {n k : Nat} {once made : Once α} {calls more : Calls α} {stage next : Stage α}
  {outcome : Except Failure α} {stageOf : Nat → Option (Stage α)}

lemma Interrupted.not_mem (h : Interrupted calls) (hfinal : isFinal outcome = true) :
    (n, outcome) ∉ calls := by
  intro hmem
  have hinterrupted := h _ hmem
  rw [hfinal] at hinterrupted
  cases hinterrupted

/-! ## Steps -/

/-- All that a reader can do: the stages before and behind a step, the value, and the calls. -/
inductive Step (n : Nat) (once : Once α) (calls : Calls α) :
    Stage α → Stage α → Once α → Calls α → Prop
  | found (h : once.isBuilt = true) : Step n once calls .arrived .reading once calls
  | missed (h : once.isBuilt = false) : Step n once calls .arrived .waiting once calls
  | wait (h : once.isLocked = true) : Step n once calls .waiting .waiting once calls
  | enter (h : once.isLocked = false) :
    Step n once calls .waiting .holding { once with isLocked := true } calls
  | foundLate (h : once.isBuilt = true) : Step n once calls .holding .leaving once calls
  | begin (h : once.isBuilt = false) : Step n once calls .holding .building once calls
  | call (outcome : Except Failure α) :
    Step n once calls .building (.attempted outcome) once (calls ++ [(n, outcome)])
  | keep {outcome : Except Failure α} (h : isFinal outcome = true) :
    Step n once calls (.attempted outcome) .kept { once with outcome := some outcome } calls
  | drop {outcome : Except Failure α} (h : isFinal outcome = false) :
    Step n once calls (.attempted outcome) (.abandoning outcome) once calls
  | mark : Step n once calls .kept .leaving { once with isBuilt := true } calls
  | leave : Step n once calls .leaving .reading { once with isLocked := false } calls
  | abandon (outcome : Except Failure α) :
    Step n once calls (.abandoning outcome) (.answered (some outcome))
      { once with isLocked := false } calls
  | read : Step n once calls .reading (.answered once.outcome) once calls
  | rest (found : Option (Except Failure α)) :
    Step n once calls (.answered found) (.answered found) once calls

/-- A step is one of these. -/
lemma step_step (n : Nat) (once : Once α) (calls : Calls α) (stage : Stage α) (w : Workspace) :
    let taken := step stage once w
    Step n once calls stage taken.1 taken.2.1
      (calls ++ ((called? stage taken.1).map (fun outcome => (n, outcome))).toList) := by
  intro taken
  cases stage with
  | arrived =>
    cases h : once.isBuilt with
    | true =>
      have htaken : taken = (.reading, once, w) := by simp [taken, step, h]
      simpa [htaken, called?] using Step.found h
    | false =>
      have htaken : taken = (.waiting, once, w) := by simp [taken, step, h]
      simpa [htaken, called?] using Step.missed h
  | waiting =>
    cases h : once.isLocked with
    | true =>
      have htaken : taken = (.waiting, once, w) := by simp [taken, step, h]
      simpa [htaken, called?] using Step.wait h
    | false =>
      have htaken : taken = (.holding, { once with isLocked := true }, w) := by
        simp [taken, step, h]
      simpa [htaken, called?] using Step.enter h
  | holding =>
    cases h : once.isBuilt with
    | true =>
      have htaken : taken = (.leaving, once, w) := by simp [taken, step, h]
      simpa [htaken, called?] using Step.foundLate h
    | false =>
      have htaken : taken = (.building, once, w) := by simp [taken, step, h]
      simpa [htaken, called?] using Step.begin h
  | building => exact .call (once.build w).1
  | attempted outcome =>
    cases h : isFinal outcome with
    | true =>
      have htaken : taken = (.kept, { once with outcome := some outcome }, w) := by
        simp [taken, step, keep, h]
      simpa [htaken, called?] using Step.keep h
    | false =>
      have htaken : taken = (.abandoning outcome, once, w) := by simp [taken, step, keep, h]
      simpa [htaken, called?] using Step.drop h
  | kept => simpa [taken, step, called?] using Step.mark
  | leaving => simpa [taken, step, called?] using Step.leave
  | abandoning outcome => simpa [taken, step, called?] using Step.abandon outcome
  | reading => simpa [taken, step, called?] using Step.read
  | answered found => simpa [taken, step, called?] using Step.rest found

lemma Step.build_eq (h : Step n once calls stage next made more) : made.build = once.build := by
  cases h with
  | _ => rfl

/-! ## The lock -/

/-- Whether a reader holds the lock. -/
def isHeldBy (stageOf : Nat → Option (Stage α)) (n : Nat) : Bool :=
  (stageOf n).any Stage.isInside

lemma isHeldBy_of_stage (h : stageOf n = some stage) : isHeldBy stageOf n = stage.isInside := by
  rw [isHeldBy, h, Option.any_some]

lemma exists_stage_of_isHeldBy (h : isHeldBy stageOf n = true) :
    ∃ stage, stageOf n = some stage ∧ stage.isInside = true :=
  (Option.any_eq_true _ _).1 h

lemma isHeldBy_update (stageOf : Nat → Option (Stage α)) (n : Nat) (next : Stage α) (k : Nat) :
    isHeldBy (Function.update stageOf n (some next)) k =
      if k = n then next.isInside else isHeldBy stageOf k := by
  rw [isHeldBy, Function.update_apply]
  split
  · rfl
  · rfl

/-- The lock is taken just as long as somebody holds it, and nobody else does. -/
structure Guarded (isLocked : Bool) (stageOf : Nat → Option (Stage α)) : Prop where
  locked : isLocked = true ↔ ∃ n, isHeldBy stageOf n = true
  alone : ∀ n k, isHeldBy stageOf n = true → isHeldBy stageOf k = true → n = k

namespace Guarded

lemma not_isHeldBy (h : Guarded false stageOf) (n : Nat) : isHeldBy stageOf n = false := by
  cases hheld : isHeldBy stageOf n with
  | false => rfl
  | true => cases h.locked.2 ⟨n, hheld⟩

lemma isLocked_eq_false {isLocked : Bool} (h : Guarded isLocked stageOf)
    (houtside : ∀ n stage, stageOf n = some stage → stage.isInside = false) : isLocked = false := by
  cases isLocked with
  | false => rfl
  | true =>
    obtain ⟨n, hheld⟩ := h.locked.1 rfl
    obtain ⟨stage, hstage, hinside⟩ := exists_stage_of_isHeldBy hheld
    rw [houtside n stage hstage] at hinside
    cases hinside

/-- A step on the same side of the lock. -/
lemma move {isLocked : Bool} (h : Guarded isLocked stageOf)
    (hsame : next.isInside = isHeldBy stageOf n) :
    Guarded isLocked (Function.update stageOf n (some next)) := by
  have hheld : isHeldBy (Function.update stageOf n (some next)) = isHeldBy stageOf := by
    funext k
    rw [isHeldBy_update]
    split
    · rename_i heq
      rw [hsame, heq]
    · rfl
  refine ⟨?_, ?_⟩
  · rw [hheld]
    exact h.locked
  · rw [hheld]
    exact h.alone

lemma enter (h : Guarded false stageOf) (hinside : next.isInside = true) :
    Guarded true (Function.update stageOf n (some next)) := by
  have hheld : ∀ k, isHeldBy (Function.update stageOf n (some next)) k = true → k = n := by
    intro k hk
    rw [isHeldBy_update] at hk
    split at hk
    · assumption
    · rw [h.not_isHeldBy k] at hk
      cases hk
  refine ⟨⟨fun _ => ⟨n, ?_⟩, fun _ => rfl⟩, ?_⟩
  · rw [isHeldBy_update, if_pos rfl, hinside]
  · intro i k hi hk
    rw [hheld i hi, hheld k hk]

lemma leave {isLocked : Bool} (h : Guarded isLocked stageOf) (hstage : isHeldBy stageOf n = true)
    (houtside : next.isInside = false) :
    Guarded false (Function.update stageOf n (some next)) := by
  have hfree : ∀ k, isHeldBy (Function.update stageOf n (some next)) k = false := by
    intro k
    rw [isHeldBy_update]
    split
    · exact houtside
    · rename_i hne
      cases hk : isHeldBy stageOf k with
      | false => rfl
      | true => exact absurd (h.alone k n hk hstage) hne
  refine ⟨⟨fun e => (Bool.false_ne_true e).elim, ?_⟩, ?_⟩
  · rintro ⟨k, hk⟩
    rw [hfree k] at hk
    cases hk
  · intro i k hi
    rw [hfree i] at hi
    cases hi

end Guarded

end Nullability.Once
