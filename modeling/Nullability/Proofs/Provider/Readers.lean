import Nullability.Proofs.Provider.Lock

/-!
# Readers of a value that is built once

What a reader may rely on is said stage by stage (`Stage.Fits`); all of it holds on from step to step
(`Orderly.step`). A reader without rivals does what `get` does (`Orderly.steps_eq_get`).
-/

namespace Nullability.Once

variable {α : Type} {n k : Nat} {once made : Once α} {calls more : Calls α}
  {stage next : Stage α} {outcome : Except Failure α} {stageOf : Nat → Option (Stage α)}

/-- What a reader at a stage may rely on. -/
def Stage.Fits (once : Once α) (calls : Calls α) (n : Nat) : Stage α → Prop
  | .arrived | .waiting => True
  | .holding => once.isBuilt = false → Interrupted calls
  | .building => once.isBuilt = false ∧ Interrupted calls
  | .attempted outcome => once.isBuilt = false ∧ calls.getLast? = some (n, outcome)
  | .kept => ∃ outcome, once.outcome = some outcome
  | .leaving | .reading => once.isBuilt = true
  | .abandoning outcome => once.isBuilt = false ∧ Interrupted calls ∧ (n, outcome) ∈ calls
  | .answered found => ∃ outcome, found = some outcome ∧
      (once.outcome = some outcome ∨ isFinal outcome = false ∧ (n, outcome) ∈ calls)

/-- The outcome that a reader has come by, if it has one already. -/
def Stage.outcome? : Stage α → Option (Except Failure α)
  | .attempted outcome | .abandoning outcome => some outcome
  | .answered found => found
  | _ => none

/-- What holds of a value, its calls and its readers at any time. -/
structure Orderly (once : Once α) (calls : Calls α) (stageOf : Nat → Option (Stage α)) : Prop where
  guarded : Guarded once.isLocked stageOf
  /-- All calls but the last one were interrupted. -/
  earlier : Interrupted calls.dropLast
  /-- If nobody is at it, the value is built or still to be built. -/
  unlocked : once.isLocked = false → once.isBuilt = false → Interrupted calls
  /-- What is kept is the final outcome of the last call. -/
  kept : ∀ outcome, once.outcome = some outcome →
    isFinal outcome = true ∧ ∃ n, calls.getLast? = some (n, outcome)
  built : once.isBuilt = true → ∃ outcome, once.outcome = some outcome
  stages : ∀ n stage, stageOf n = some stage → stage.Fits once calls n
  /-- Who was interrupted does not call again. -/
  stopped : ∀ n outcome, (n, outcome) ∈ calls → isFinal outcome = false →
    ∃ stage, stageOf n = some stage ∧ stage.outcome? = some outcome

namespace Orderly

/-- Nobody has asked for the value. -/
lemma ofJob (build : Job α) : Orderly (ofJob build) [] (fun _ => none) := by
  refine ⟨⟨?_, ?_⟩, ?_, ?_, ?_, ?_, ?_, ?_⟩
  · constructor
    · intro h
      cases h
    · rintro ⟨n, h⟩
      cases h
  · intro n k h
    cases h
  · intro call h
    cases h
  · intro _ _ call h
    cases h
  · intro outcome h
    cases h
  · intro h
    cases h
  · intro n stage h
    cases h
  · intro n outcome h
    cases h

lemma outcome_eq_none (h : Orderly once calls stageOf) (hcalls : Interrupted calls) :
    once.outcome = none := by
  cases houtcome : once.outcome with
  | none => rfl
  | some outcome =>
    obtain ⟨hfinal, n, hlast⟩ := h.kept outcome houtcome
    exact absurd (List.mem_of_getLast? hlast) (hcalls.not_mem hfinal)

lemma isBuilt_eq_false (h : Orderly once calls stageOf) (hcalls : Interrupted calls) :
    once.isBuilt = false := by
  cases hbuilt : once.isBuilt with
  | false => rfl
  | true =>
    obtain ⟨outcome, houtcome⟩ := h.built hbuilt
    rw [h.outcome_eq_none hcalls] at houtcome
    cases houtcome

/-- A reader outside relies on nothing that changes later on. -/
lemma fits_of_outside (hfits : stage.Fits once calls n) (houtside : stage.isInside = false)
    (hbuilt : once.isBuilt = true → made.isBuilt = true)
    (houtcome : ∀ outcome, once.outcome = some outcome → made.outcome = some outcome)
    (hcalls : calls ⊆ more) : stage.Fits made more n := by
  cases stage with
  | arrived => trivial
  | waiting => trivial
  | reading => exact hbuilt hfits
  | answered found =>
    obtain ⟨outcome, rfl, hkept | ⟨hstopped, hmem⟩⟩ := hfits
    · exact ⟨outcome, rfl, .inl (houtcome outcome hkept)⟩
    · exact ⟨outcome, rfl, .inr ⟨hstopped, hcalls hmem⟩⟩
  | _ => cases houtside

/-- What the others rely on, and what the reader that took a step may rely on. -/
lemma stages_update (hothers : ∀ k stage, k ≠ n → stageOf k = some stage → stage.Fits made more k)
    (hfits : next.Fits made more n) (k : Nat) (stage : Stage α)
    (hk : Function.update stageOf n (some next) k = some stage) : stage.Fits made more k := by
  rw [Function.update_apply] at hk
  split at hk
  · rename_i heq
    rw [← Option.some.inj hk, heq]
    exact hfits
  · rename_i hne
    exact hothers k stage hne hk

lemma stopped_update (h : Orderly once calls stageOf)
    (hothers : ∀ k outcome, k ≠ n → (k, outcome) ∈ more → (k, outcome) ∈ calls)
    (hstopped : ∀ outcome, (n, outcome) ∈ more → isFinal outcome = false → next.outcome? = some outcome)
    (k : Nat) (outcome : Except Failure α) (hmem : (k, outcome) ∈ more)
    (hinterrupted : isFinal outcome = false) :
    ∃ stage, Function.update stageOf n (some next) k = some stage ∧ stage.outcome? = some outcome := by
  by_cases heq : k = n
  · subst heq
    exact ⟨next, Function.update_self .., hstopped outcome hmem hinterrupted⟩
  · rw [Function.update_of_ne heq]
    exact h.stopped k outcome (hothers k outcome heq hmem) hinterrupted

lemma outcome?_of_stage (h : Orderly once calls stageOf) (hn : stageOf n = some stage)
    (hmem : (n, outcome) ∈ calls) (hinterrupted : isFinal outcome = false) :
    stage.outcome? = some outcome := by
  obtain ⟨found, hfound, hstopped⟩ := h.stopped n outcome hmem hinterrupted
  rw [hn] at hfound
  exact Option.some.inj hfound ▸ hstopped

/-- Somebody else arrives. -/
lemma arrive (h : Orderly once calls stageOf) (hnew : stageOf n = none) :
    Orderly once calls (Function.update stageOf n (some .arrived)) := by
  have hheld : isHeldBy stageOf n = false := by rw [isHeldBy, hnew, Option.any_none]
  refine ⟨h.guarded.move hheld.symm, h.earlier, h.unlocked, h.kept, h.built,
    stages_update (fun k stage _ => h.stages k stage) trivial,
    h.stopped_update (fun _ _ _ hmem => hmem) ?_⟩
  intro outcome hmem hinterrupted
  obtain ⟨stage, hstage, -⟩ := h.stopped n outcome hmem hinterrupted
  rw [hnew] at hstage
  cases hstage

/-- A step that changes neither the value nor the lock. -/
lemma stay (h : Orderly once calls stageOf) (hn : stageOf n = some stage)
    (hside : next.isInside = stage.isInside) (hfits : next.Fits once calls n)
    (hstopped : ∀ outcome, stage.outcome? = some outcome → isFinal outcome = false →
      next.outcome? = some outcome) :
    Orderly once calls (Function.update stageOf n (some next)) := by
  have hsame : next.isInside = isHeldBy stageOf n := hside.trans (isHeldBy_of_stage hn).symm
  refine ⟨h.guarded.move hsame, h.earlier, h.unlocked, h.kept, h.built,
    stages_update (fun k stage _ => h.stages k stage) hfits,
    h.stopped_update (fun _ _ _ hmem => hmem) ?_⟩
  intro outcome hmem hinterrupted
  exact hstopped outcome (h.outcome?_of_stage hn hmem hinterrupted) hinterrupted

lemma fits_of_lock (isLocked : Bool) (h : stage.Fits once calls n) :
    stage.Fits { once with isLocked := isLocked } calls n := by
  cases stage with
  | _ => exact h

lemma lock (h : Orderly once calls stageOf) (hn : stageOf n = some .waiting)
    (hfree : once.isLocked = false) :
    Orderly { once with isLocked := true } calls (Function.update stageOf n (some .holding)) := by
  have hguarded := h.guarded
  rw [hfree] at hguarded
  refine ⟨hguarded.enter rfl, h.earlier, ?_, h.kept, h.built,
    stages_update (fun k stage _ hk => fits_of_lock true (h.stages k stage hk)) (h.unlocked hfree),
    h.stopped_update (fun _ _ _ hmem => hmem) ?_⟩
  · intro hlocked
    cases hlocked
  · intro outcome hmem hinterrupted
    cases h.outcome?_of_stage hn hmem hinterrupted

lemma unlock (h : Orderly once calls stageOf) (hn : stageOf n = some stage)
    (hinside : stage.isInside = true) (houtside : next.isInside = false)
    (hcalls : once.isBuilt = false → Interrupted calls) (hfits : next.Fits once calls n)
    (hstopped : ∀ outcome, stage.outcome? = some outcome → isFinal outcome = false →
      next.outcome? = some outcome) :
    Orderly { once with isLocked := false } calls (Function.update stageOf n (some next)) := by
  have hheld : isHeldBy stageOf n = true := (isHeldBy_of_stage hn).trans hinside
  refine ⟨h.guarded.leave hheld houtside, h.earlier, fun _ => hcalls, h.kept, h.built,
    stages_update (fun k stage _ hk => fits_of_lock false (h.stages k stage hk))
      (fits_of_lock false hfits),
    h.stopped_update (fun _ _ _ hmem => hmem) ?_⟩
  intro outcome hmem hinterrupted
  exact hstopped outcome (h.outcome?_of_stage hn hmem hinterrupted) hinterrupted

/-- A step on the value itself, which takes the lock. -/
lemma work (h : Orderly once calls stageOf) (hn : stageOf n = some stage)
    (hinside : stage.isInside = true) (hnext : next.isInside = true)
    (hlock : made.isLocked = once.isLocked)
    (hbuilt : once.isBuilt = true → made.isBuilt = true)
    (houtcome : ∀ outcome, once.outcome = some outcome → made.outcome = some outcome)
    (hcalls : calls ⊆ more) (hearlier : Interrupted more.dropLast)
    (hkept : ∀ outcome, made.outcome = some outcome →
      isFinal outcome = true ∧ ∃ n, more.getLast? = some (n, outcome))
    (hmade : made.isBuilt = true → ∃ outcome, made.outcome = some outcome)
    (hfits : next.Fits made more n)
    (hothers : ∀ k outcome, k ≠ n → (k, outcome) ∈ more → (k, outcome) ∈ calls)
    (hstopped : ∀ outcome, (n, outcome) ∈ more → isFinal outcome = false →
      next.outcome? = some outcome) :
    Orderly made more (Function.update stageOf n (some next)) := by
  have hheld : isHeldBy stageOf n = true := (isHeldBy_of_stage hn).trans hinside
  have hguarded : Guarded made.isLocked (Function.update stageOf n (some next)) := by
    rw [hlock]
    exact h.guarded.move (hnext.trans hheld.symm)
  refine ⟨hguarded, hearlier, ?_, hkept, hmade, stages_update ?_ hfits,
    h.stopped_update hothers hstopped⟩
  · intro hfree
    rw [hlock, h.guarded.locked.2 ⟨n, hheld⟩] at hfree
    cases hfree
  · -- The others are outside, since the lock is taken.
    intro k stage hne hk
    have houtside : stage.isInside = false := by
      cases hside : stage.isInside with
      | false => rfl
      | true => exact absurd (h.guarded.alone k n ((isHeldBy_of_stage hk).trans hside) hheld) hne
    exact fits_of_outside (h.stages k stage hk) houtside hbuilt houtcome hcalls

lemma call (h : Orderly once calls stageOf) (hn : stageOf n = some .building)
    (outcome : Except Failure α) :
    Orderly once (calls ++ [(n, outcome)])
      (Function.update stageOf n (some (.attempted outcome))) := by
  obtain ⟨hbuilt, hcalls⟩ : once.isBuilt = false ∧ Interrupted calls := h.stages n _ hn
  refine h.work hn rfl rfl rfl id (fun _ => id) (List.subset_append_left calls _) ?_ ?_ h.built
    ⟨hbuilt, List.getLast?_concat⟩ ?_ ?_
  · rw [List.dropLast_concat]
    exact hcalls
  · intro kept hkept
    rw [h.outcome_eq_none hcalls] at hkept
    cases hkept
  · intro k other hne hmem
    obtain hold | hnew := List.mem_append.1 hmem
    · exact hold
    · obtain ⟨rfl, -⟩ := Prod.mk.inj (List.mem_singleton.1 hnew)
      exact absurd rfl hne
  · intro other hmem hinterrupted
    obtain hold | hnew := List.mem_append.1 hmem
    · cases h.outcome?_of_stage hn hold hinterrupted
    · obtain ⟨-, rfl⟩ := Prod.mk.inj (List.mem_singleton.1 hnew)
      rfl

lemma keep (h : Orderly once calls stageOf) (hn : stageOf n = some (.attempted outcome))
    (hfinal : isFinal outcome = true) :
    Orderly { once with outcome := some outcome } calls
      (Function.update stageOf n (some .kept)) := by
  obtain ⟨hbuilt, hlast⟩ : once.isBuilt = false ∧ calls.getLast? = some (n, outcome) :=
    h.stages n _ hn
  refine h.work hn rfl rfl rfl id ?_ (fun _ => id) h.earlier ?_ (fun _ => ⟨outcome, rfl⟩)
    ⟨outcome, rfl⟩ (fun _ _ _ => id) ?_
  · -- Nothing was kept before, or the value would have been built by an earlier call.
    intro kept hkept
    obtain ⟨-, k, hlast'⟩ := h.kept kept hkept
    obtain ⟨-, rfl⟩ := Prod.mk.inj (Option.some.inj (hlast.symm.trans hlast'))
    rfl
  · intro kept hkept
    obtain rfl := Option.some.inj hkept
    exact ⟨hfinal, n, hlast⟩
  · intro other hmem hinterrupted
    obtain rfl := Option.some.inj (h.outcome?_of_stage hn hmem hinterrupted)
    rw [hfinal] at hinterrupted
    cases hinterrupted

lemma mark (h : Orderly once calls stageOf) (hn : stageOf n = some .kept) :
    Orderly { once with isBuilt := true } calls (Function.update stageOf n (some .leaving)) := by
  refine h.work hn rfl rfl rfl (fun _ => rfl) (fun _ => id) (fun _ => id) h.earlier h.kept
    (fun _ => h.stages n _ hn) rfl (fun _ _ _ => id) ?_
  intro outcome hmem hinterrupted
  cases h.outcome?_of_stage hn hmem hinterrupted

lemma interrupted_of_attempted (h : Orderly once calls stageOf)
    (hn : stageOf n = some (.attempted outcome)) (hinterrupted : isFinal outcome = false) :
    Interrupted calls ∧ (n, outcome) ∈ calls := by
  obtain ⟨-, hlast⟩ : once.isBuilt = false ∧ calls.getLast? = some (n, outcome) :=
    h.stages n _ hn
  obtain ⟨earlier, rfl⟩ := List.getLast?_eq_some_iff.1 hlast
  have hearlier := h.earlier
  rw [List.dropLast_concat] at hearlier
  refine ⟨?_, List.mem_concat_self⟩
  intro call hmem
  obtain hold | hnew := List.mem_append.1 hmem
  · exact hearlier call hold
  · rw [List.mem_singleton.1 hnew]
    exact hinterrupted

/-- Whatever step a reader takes, all stays in order. -/
lemma step (h : Orderly once calls stageOf) (hn : stageOf n = some stage)
    (hstep : Step n once calls stage next made more) :
    Orderly made more (Function.update stageOf n (some next)) := by
  have hfits := h.stages n stage hn
  cases hstep with
  | found hbuilt => exact h.stay hn rfl hbuilt fun _ hown _ => by cases hown
  | missed hbuilt => exact h.stay hn rfl trivial fun _ hown _ => by cases hown
  | wait hlocked => exact h.stay hn rfl trivial fun _ hown _ => hown
  | enter hfree => exact h.lock hn hfree
  | foundLate hbuilt => exact h.stay hn rfl hbuilt fun _ hown _ => by cases hown
  | begin hbuilt => exact h.stay hn rfl ⟨hbuilt, hfits hbuilt⟩ fun _ hown _ => by cases hown
  | call outcome => exact h.call hn outcome
  | keep hfinal => exact h.keep hn hfinal
  | drop hinterrupted =>
    obtain ⟨hcalls, hmem⟩ := h.interrupted_of_attempted hn hinterrupted
    exact h.stay hn rfl ⟨h.isBuilt_eq_false hcalls, hcalls, hmem⟩ fun _ hown _ => hown
  | mark => exact h.mark hn
  | leave =>
    have hbuilt : once.isBuilt = true := hfits
    refine h.unlock hn rfl rfl ?_ hbuilt fun _ hown _ => by cases hown
    intro hunbuilt
    rw [hbuilt] at hunbuilt
    cases hunbuilt
  | abandon outcome =>
    obtain ⟨-, hcalls, hmem⟩ := hfits
    exact h.unlock hn rfl rfl (fun _ => hcalls) ⟨outcome, rfl, .inr ⟨hcalls _ hmem, hmem⟩⟩
      fun _ hown _ => hown
  | read =>
    obtain ⟨outcome, houtcome⟩ := h.built hfits
    exact h.stay hn rfl ⟨outcome, houtcome, .inl houtcome⟩ fun _ hown _ => by cases hown
  | rest found => exact h.stay hn rfl hfits fun _ hown _ => hown

/-! ## What readers find -/

/-- A final outcome is that of the last call. -/
lemma getLast?_of_final (h : Orderly once calls stageOf) (hmem : (n, outcome) ∈ calls)
    (hfinal : isFinal outcome = true) : calls.getLast? = some (n, outcome) := by
  cases calls using List.reverseRecOn with
  | nil => cases hmem
  | append_singleton earlier last =>
    have hearlier := h.earlier
    rw [List.dropLast_concat] at hearlier
    obtain hold | hnew := List.mem_append.1 hmem
    · exact absurd hold (hearlier.not_mem hfinal)
    · rw [List.mem_singleton.1 hnew, List.getLast?_concat]

/-- Nobody calls after a final outcome. -/
lemma ne_building_of_final (h : Orderly once calls stageOf) (hmem : (n, outcome) ∈ calls)
    (hfinal : isFinal outcome = true) (k : Nat) : stageOf k ≠ some .building := by
  intro hk
  obtain ⟨-, hcalls⟩ : once.isBuilt = false ∧ Interrupted calls := h.stages k _ hk
  exact hcalls.not_mem hfinal hmem

/-- What a reader finds is the outcome of a call, and an interrupted call was its own. -/
lemma exists_call_of_answered (h : Orderly once calls stageOf) {found : Option (Except Failure α)}
    (hn : stageOf n = some (.answered found)) :
    ∃ outcome, found = some outcome ∧ ∃ caller, (caller, outcome) ∈ calls ∧
      (isFinal outcome = false → caller = n) := by
  obtain ⟨outcome, rfl, hkept | ⟨hinterrupted, hmem⟩⟩ := h.stages n _ hn
  · obtain ⟨hfinal, caller, hlast⟩ := h.kept outcome hkept
    refine ⟨outcome, rfl, caller, List.mem_of_getLast? hlast, ?_⟩
    intro hinterrupted
    rw [hfinal] at hinterrupted
    cases hinterrupted
  · exact ⟨outcome, rfl, n, hmem, fun _ => rfl⟩

end Orderly

/-! ## Readers without rivals -/

/-- While nobody is at it, a value is marked as built just if an outcome was kept. -/
lemma Orderly.isBuilt_eq (h : Orderly once calls stageOf) (hfree : once.isLocked = false) :
    once.isBuilt = once.outcome.isSome := by
  cases hbuilt : once.isBuilt with
  | true =>
    obtain ⟨outcome, houtcome⟩ := h.built hbuilt
    rw [houtcome, Option.isSome_some]
  | false => rw [h.outcome_eq_none (h.unlocked hfree hbuilt), Option.isSome_none]

/-- A number of steps of one reader. -/
def steps : (number : Nat) → Stage α → Once α → Workspace → Stage α × Once α × Workspace
  | 0, stage, once, w => (stage, once, w)
  | number + 1, stage, once, w =>
    let (stage, once, w) := step stage once w
    steps number stage once w

lemma steps_of_answered (number : Nat) (found : Option (Except Failure α)) (once : Once α)
    (w : Workspace) : steps number (.answered found) once w = (.answered found, once, w) := by
  induction number with
  | zero => rfl
  | succ number ih => exact ih

/-- A reader that takes all its steps at once finds what `get` gives, and leaves what it leaves. -/
theorem Orderly.steps_eq_get (h : Orderly once calls stageOf) (hfree : once.isLocked = false)
    (w : Workspace) :
    steps stepsOfReader .arrived once w = (.answered (some (once.get w).1), (once.get w).2) := by
  have hbuilt := h.isBuilt_eq hfree
  obtain ⟨build, isLocked, isBuilt, outcome⟩ := once
  obtain rfl : isLocked = false := hfree
  obtain rfl : isBuilt = outcome.isSome := hbuilt
  cases outcome with
  | some outcome => exact steps_of_answered 7 (some outcome) _ w
  | none =>
    -- The reader has the lock when it calls the job.
    change steps 5 (.attempted (build w).1) ⟨build, true, false, none⟩ (build w).2 = _
    cases hfinal : isFinal (build w).1 with
    | true => simp [steps, Once.step, Once.keep, get, attempt, hfinal]
    | false => simp [steps, Once.step, Once.keep, get, attempt, hfinal]

/-! ## Coming to an end -/

/-- How many steps a reader has before it at most, unless it has to wait. -/
def Stage.remaining : Stage α → Nat
  | .arrived => 8
  | .waiting => 7
  | .holding => 6
  | .building => 5
  | .attempted _ => 4
  | .kept => 3
  | .leaving => 2
  | .abandoning _ | .reading => 1
  | .answered _ => 0

/-- Nothing keeps a reader that has the lock or finds it free. -/
lemma Step.remaining_lt (hstep : Step n once calls stage next made more)
    (hfree : once.isLocked = false ∨ stage.isInside = true) (hopen : stage.isAnswered = false) :
    next.remaining < stage.remaining ∧ (made.isLocked = false ∨ next.isInside = true) := by
  cases hstep with
  | found _ => exact ⟨by simp [Stage.remaining], hfree.imp_right fun e => by cases e⟩
  | missed _ => exact ⟨by simp [Stage.remaining], hfree.imp_right fun e => by cases e⟩
  | wait hlocked =>
    rw [hlocked] at hfree
    obtain h | h := hfree
    · cases h
    · cases h
  | enter _ => exact ⟨by simp [Stage.remaining], .inr rfl⟩
  | foundLate _ => exact ⟨by simp [Stage.remaining], .inr rfl⟩
  | begin _ => exact ⟨by simp [Stage.remaining], .inr rfl⟩
  | call outcome => exact ⟨by simp [Stage.remaining], .inr rfl⟩
  | keep _ => exact ⟨by simp [Stage.remaining], .inr rfl⟩
  | drop _ => exact ⟨by simp [Stage.remaining], .inr rfl⟩
  | mark => exact ⟨by simp [Stage.remaining], .inr rfl⟩
  | leave => exact ⟨by simp [Stage.remaining], .inl rfl⟩
  | abandon _ => exact ⟨by simp [Stage.remaining], .inl rfl⟩
  | read => exact ⟨by simp [Stage.remaining], hfree.imp_right fun e => by cases e⟩
  | rest _ => cases hopen

end Nullability.Once
