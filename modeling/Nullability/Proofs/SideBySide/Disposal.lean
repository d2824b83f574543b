import Nullability.Proofs.SideBySide.Invalidation

/-!
# Disposals among others

A disposal tests whether documents are kept, takes one out, stops its watch, and tests again. While
it is at work, evictions and other disposals take documents out as well, but nobody brings new ones.
So it comes to an end however its steps are mixed with those of the others: it needs at most three
steps for every document that was kept when it began, and one more. Nothing is kept any more then.

Yet it may end badly. If others take the last document out between its test and its removal, there
is nothing left for it to take. `Traffic.disposal_ends` says that it fails then, and only then, and
`Traffic.not_succeeds_of_robbed` that this can happen.
-/

namespace Nullability.SideBySide

/-- Whether a lookup begins. -/
def Move.isLook : Move → Bool
  | .look _ _ => true
  | _ => false

/-- Whether the party with a number takes a step. -/
def Move.isStepOf (n : Nat) : Move → Bool
  | .step m => m = n
  | _ => false

/-- Whether a party brings no document any more. -/
def Party.isQuiet : Party → Bool
  | .looking lookup => lookup.isFinished
  | _ => true

namespace Disposal

def isOver : Disposal → Bool
  | done | failed _ => true
  | _ => false

/-- How many steps a disposal takes at most if a number of documents is kept. -/
def remaining (disposal : Disposal) (size : Nat) : Nat :=
  match disposal with
  | testing => 3 * size + 1
  | removing => max (3 * size) 1
  | removed _ => 3 * size + 2
  | done | failed _ => 0

/-- Nothing has been taken from under the disposal. -/
def IsSafe (size : Nat) : Disposal → Prop
  | removing => 0 < size
  | done => size = 0
  | failed _ => False
  | _ => True

/-- The disposal is about to take what is not there, or has tried so. -/
def IsRobbed (size : Nat) : Disposal → Prop
  | removing => size = 0
  | failed failure => failure = .noEntry ∧ size = 0
  | _ => False

end Disposal

namespace Traffic

/-- Whether nobody brings documents. -/
def isQuiet (traffic : Traffic) : Bool :=
  traffic.parties.all Party.isQuiet

/-- The disposal with a number. -/
def disposal? (traffic : Traffic) (n : Nat) : Option Disposal :=
  match traffic.parties[n]? with
  | some (.disposing disposal) => some disposal
  | _ => none

/-- Whether a disposal has found documents and is to take one out. -/
def isRemoving (traffic : Traffic) (n : Nat) : Bool :=
  match traffic.disposal? n with
  | some .removing => true
  | _ => false

/-- Whether a move takes the last document out when a disposal has found it and not taken it. -/
def robs (traffic : Traffic) (n : Nat) (move : Move) : Bool :=
  traffic.isRemoving n && (traffic.after move).isRemoving n &&
    !traffic.documents.isEmpty && (traffic.after move).documents.isEmpty

/-- Whether nobody takes the last document out when a disposal has found it and not taken it. -/
def Spares (n : Nat) : Traffic → List Move → Prop
  | _, [] => True
  | traffic, move :: rest => traffic.robs n move = false ∧ (traffic.after move).Spares n rest

instance decidableSpares (n : Nat) : (traffic : Traffic) → (moves : List Move) →
    Decidable (traffic.Spares n moves)
  | _, [] => .isTrue trivial
  | traffic, move :: rest =>
    have := decidableSpares n (traffic.after move) rest
    inferInstanceAs (Decidable (_ ∧ _))

end Traffic

lemma isEmpty_iff_size {documents : SideBySide} :
    documents.isEmpty = true ↔ documents.size = 0 := by
  rw [OrderedMap.isEmpty, OrderedMap.size, List.isEmpty_iff, List.length_eq_zero_iff]

lemma isEmpty_eq_false_iff_size {documents : SideBySide} :
    documents.isEmpty = false ↔ 0 < documents.size := by
  rw [← Bool.not_eq_true, isEmpty_iff_size, Nat.pos_iff_ne_zero]

/-! ## Steps -/

section Steps

variable {documents documents' : SideBySide} {w w' : Workspace} {party party' : Party}
  {disposal disposal' : Disposal}

lemma size_of_popLast? {k : String} {entry : Entry} {rest : SideBySide}
    (h : documents.popLast? = some ((k, entry), rest)) : documents.size = rest.size + 1 := by
  rw [OrderedMap.size, OrderedMap.entries_of_popLast? h, List.length_append]
  rfl

/-- Who brings no documents does not do so in the next step either. -/
lemma Party.Step.isQuiet (h : party.Step documents w party' documents' w')
    (hquiet : party.isQuiet = true) :
    party'.isQuiet = true ∧ documents'.size ≤ documents.size := by
  cases h with
  | miss hnone => cases hquiet
  | fail hload => cases hquiet
  | read hload => cases hquiet
  | watch => cases hquiet
  | keep hnone => cases hquiet
  | outrun hkept => cases hquiet
  | evict hkept => exact ⟨rfl, List.length_filter_le _ _⟩
  | pop hpop => exact ⟨rfl, (size_of_popLast? hpop).ge.trans' (Nat.le_succ _)⟩
  | rest hfinished => exact ⟨hquiet, le_rfl⟩
  | _ => exact ⟨rfl, le_rfl⟩

lemma Party.isQuiet_refuse {failure : Failure} (h : party.isQuiet = true) :
    (party.refuse failure).isQuiet = true := by
  cases party with
  | looking lookup =>
    obtain ⟨path, stage⟩ := lookup
    cases stage with
    | found entry => rfl
    | failed reason => rfl
    | _ => cases h
  | _ => rfl

namespace Disposal

/-- Every step of a disposal brings it closer to its end. -/
lemma remaining_step (h : Party.Step documents w (.disposing disposal) (.disposing disposal')
      documents' w') :
    disposal'.remaining documents'.size ≤ disposal.remaining documents.size - 1 := by
  cases h with
  | finish hempty => exact Nat.zero_le _
  | proceed hempty =>
    have hpos := isEmpty_eq_false_iff_size.1 hempty
    simp only [remaining]
    omega
  | pop hpop =>
    have hsize := size_of_popLast? hpop
    simp only [remaining]
    omega
  | overdo hpop => exact Nat.zero_le _
  | discard =>
    simp only [remaining]
    omega
  | rest hfinished =>
    cases disposal with
    | done => exact Nat.zero_le _
    | failed failure => exact Nat.zero_le _
    | _ => cases hfinished

/-- When others take documents out, no more is left to do for the disposal. -/
lemma remaining_mono {size size' : Nat} (h : size' ≤ size) :
    disposal.remaining size' ≤ disposal.remaining size := by
  cases disposal with
  | done => exact le_rfl
  | failed failure => exact le_rfl
  | _ =>
    simp only [remaining]
    omega

lemma isOver_of_remaining {size : Nat} (h : disposal.remaining size = 0) :
    disposal.isOver = true := by
  cases disposal with
  | done => rfl
  | failed failure => rfl
  | _ =>
    simp only [remaining] at h
    omega

lemma IsSafe.step (h : disposal.IsSafe documents.size)
    (hstep : Party.Step documents w (.disposing disposal) (.disposing disposal') documents' w') :
    disposal'.IsSafe documents'.size := by
  cases hstep with
  | finish hempty => exact isEmpty_iff_size.1 hempty
  | proceed hempty => exact isEmpty_eq_false_iff_size.1 hempty
  | pop hpop => trivial
  | overdo hpop =>
    -- The disposal has found documents.
    rw [IsSafe, OrderedMap.size, OrderedMap.entries_eq_nil_of_popLast? hpop] at h
    cases h
  | discard => trivial
  | rest hfinished => exact h

lemma IsRobbed.step (h : disposal.IsRobbed documents.size)
    (hstep : Party.Step documents w (.disposing disposal) (.disposing disposal') documents' w') :
    disposal'.IsRobbed documents'.size := by
  cases hstep with
  | finish hempty => cases h
  | proceed hempty => cases h
  | pop hpop =>
    rw [IsRobbed, size_of_popLast? hpop] at h
    cases h
  | overdo hpop => exact ⟨rfl, h⟩
  | discard => cases h
  | rest hfinished => exact h

lemma IsRobbed.mono {size size' : Nat} (h : disposal.IsRobbed size) (hsize : size' ≤ size) :
    disposal.IsRobbed size' := by
  cases disposal with
  | removing => exact Nat.le_zero.1 (h ▸ hsize)
  | failed failure => exact ⟨h.1, Nat.le_zero.1 (h.2 ▸ hsize)⟩
  | _ => cases h

/-- When others take documents out, the disposal stays safe unless they take what it has found. -/
lemma IsSafe.mono {size size' : Nat} (h : disposal.IsSafe size) (hsize : size' ≤ size)
    (hspared : disposal = removing → 0 < size') : disposal.IsSafe size' := by
  cases disposal with
  | removing => exact hspared rfl
  | done => exact Nat.le_zero.1 (h ▸ hsize)
  | failed failure => cases h
  | _ => trivial

lemma IsSafe.outcome_eq {size : Nat} (h : disposal.IsSafe size) (hover : disposal.isOver = true) :
    size = 0 ∧ disposal.outcome = .ok () := by
  cases disposal with
  | done => exact ⟨h, rfl⟩
  | failed failure => cases h
  | _ => cases hover

lemma IsRobbed.outcome_eq {size : Nat} (h : disposal.IsRobbed size)
    (hover : disposal.isOver = true) : size = 0 ∧ disposal.outcome = .error .noEntry := by
  cases disposal with
  | failed failure => exact ⟨h.2, congrArg Except.error h.1⟩
  | done => cases h
  | _ => cases hover

end Disposal

end Steps

/-! ## Moves -/

namespace Traffic

variable {traffic : Traffic} {move : Move} {moves : List Move} {n : Nat} {disposal : Disposal}

lemma disposal?_eq_some :
    traffic.disposal? n = some disposal ↔ traffic.parties[n]? = some (.disposing disposal) := by
  rw [disposal?]
  split
  · rename_i own hown
    rw [hown, Option.some.injEq, Option.some.injEq, Party.disposing.injEq]
  · rename_i hother
    refine ⟨?_, fun h => absurd h (hother disposal)⟩
    intro h
    cases h

lemma isRemoving_iff (h : traffic.disposal? n = some disposal) :
    traffic.isRemoving n = true ↔ disposal = .removing := by
  rw [isRemoving, h]
  cases disposal <;> simp

lemma isQuiet_join {party : Party} (h : traffic.isQuiet = true) (hparty : party.isQuiet = true) :
    (traffic.join party).isQuiet = true := by
  rw [isQuiet, join, List.all_append, List.all_cons, hparty]
  simpa [isQuiet] using h

lemma isQuiet_set {party : Party} {documents : SideBySide} {w : Workspace}
    (h : traffic.isQuiet = true) (hparty : party.isQuiet = true) :
    isQuiet ⟨documents, w, traffic.parties.set n party⟩ = true := by
  refine List.all_eq_true.2 ?_
  intro other hmem
  rcases List.mem_or_eq_of_mem_set hmem with hold | rfl
  · exact List.all_eq_true.1 h _ hold
  · exact hparty

/-- If no lookup begins, still nobody brings documents. -/
lemma isQuiet_after (h : traffic.isQuiet = true) (hmove : move.isLook = false) :
    (traffic.after move).isQuiet = true ∧
      (traffic.after move).documents.size ≤ traffic.documents.size := by
  cases move with
  | look path proper => cases hmove
  | tell change =>
    rw [after]
    cases Eviction.ofChange change with
    | error failure => exact ⟨h, le_rfl⟩
    | ok eviction => exact ⟨isQuiet_join h rfl, le_rfl⟩
  | dispose => exact ⟨isQuiet_join h rfl, le_rfl⟩
  | step m =>
    rw [after, step]
    cases hparty : traffic.parties[m]? with
    | none => exact ⟨h, le_rfl⟩
    | some party =>
      have hquiet := List.all_eq_true.1 h _ (List.mem_of_getElem? hparty)
      have hstep := (party.step_spec traffic.documents traffic.workspace).isQuiet hquiet
      exact ⟨isQuiet_set h hstep.1, hstep.2⟩
  | refuse m failure =>
    rw [after, refuse]
    cases hparty : traffic.parties[m]? with
    | none => exact ⟨h, le_rfl⟩
    | some party =>
      have hquiet := List.all_eq_true.1 h _ (List.mem_of_getElem? hparty)
      exact ⟨isQuiet_set h (Party.isQuiet_refuse hquiet), le_rfl⟩
  | edit nodes => exact ⟨h, le_rfl⟩

/-- A disposal is where it was unless it takes a step itself. -/
lemma disposal?_after_of_others (h : traffic.disposal? n = some disposal)
    (hmove : move.isStepOf n = false) : (traffic.after move).disposal? n = some disposal := by
  rw [disposal?_eq_some] at h ⊢
  have hjoin : ∀ party, (traffic.join party).parties[n]? = some (.disposing disposal) := by
    intro party
    rw [join, List.getElem?_append_left (List.getElem?_eq_some_iff.1 h).1]
    exact h
  cases move with
  | look path proper => exact hjoin _
  | tell change =>
    rw [after]
    cases Eviction.ofChange change with
    | error failure => exact h
    | ok eviction => exact hjoin _
  | dispose => exact hjoin _
  | step m =>
    rw [after, step]
    cases hparty : traffic.parties[m]? with
    | none => exact h
    | some party => exact (List.getElem?_set_ne (of_decide_eq_false hmove)).trans h
  | refuse m failure =>
    rw [after, refuse]
    cases hparty : traffic.parties[m]? with
    | none => exact h
    | some party =>
      by_cases hm : m = n
      · subst hm
        obtain rfl := Option.some.inj (hparty.symm.trans h)
        exact List.getElem?_set_self (List.getElem?_eq_some_iff.1 h).1
      · exact (List.getElem?_set_ne hm).trans h
  | edit nodes => exact h

/-- When a disposal takes its step, this is what happens. -/
lemma disposal?_after_of_own (h : traffic.disposal? n = some disposal)
    (hmove : move.isStepOf n = true) :
    ∃ disposal', (traffic.after move).disposal? n = some disposal' ∧
      Party.Step traffic.documents traffic.workspace (.disposing disposal) (.disposing disposal')
        (traffic.after move).documents (traffic.after move).workspace := by
  rw [disposal?_eq_some] at h
  cases move with
  | step m =>
    obtain rfl := of_decide_eq_true hmove
    refine ⟨(disposal.step traffic.documents traffic.workspace).1, ?_, ?_⟩
    · rw [disposal?_eq_some, after, step, h]
      exact List.getElem?_set_self (List.getElem?_eq_some_iff.1 h).1
    · rw [after, step, h]
      exact Party.step_spec (.disposing disposal) traffic.documents traffic.workspace
  | _ => cases hmove

/-- What a move means for a disposal: it takes its next step, or others take documents out. -/
inductive Advance (traffic : Traffic) (move : Move) (n : Nat) (disposal : Disposal) :
    Disposal → Prop where
  | own {disposal' : Disposal} (hmove : move.isStepOf n = true)
    (hstep : Party.Step traffic.documents traffic.workspace (.disposing disposal)
      (.disposing disposal') (traffic.after move).documents (traffic.after move).workspace) :
    Advance traffic move n disposal disposal'
  | others (hmove : move.isStepOf n = false)
    (hsize : (traffic.after move).documents.size ≤ traffic.documents.size) :
    Advance traffic move n disposal disposal

lemma exists_advance (hquiet : traffic.isQuiet = true) (hmove : move.isLook = false)
    (h : traffic.disposal? n = some disposal) :
    ∃ disposal', (traffic.after move).disposal? n = some disposal' ∧
      traffic.Advance move n disposal disposal' := by
  cases hown : move.isStepOf n with
  | true =>
    obtain ⟨disposal', hafter, hstep⟩ := disposal?_after_of_own h hown
    exact ⟨disposal', hafter, .own hown hstep⟩
  | false =>
    exact ⟨disposal, disposal?_after_of_others h hown, .others hown (isQuiet_after hquiet hmove).2⟩

section Advance

variable {disposal' : Disposal}

lemma Advance.remaining_le (h : traffic.Advance move n disposal disposal') :
    disposal'.remaining (traffic.after move).documents.size ≤
      disposal.remaining traffic.documents.size - if move.isStepOf n then 1 else 0 := by
  cases h with
  | own hmove hstep =>
    rw [if_pos hmove]
    exact Disposal.remaining_step hstep
  | others hmove hsize =>
    rw [hmove]
    exact Disposal.remaining_mono hsize

lemma Advance.isRobbed (h : traffic.Advance move n disposal disposal')
    (hrobbed : disposal.IsRobbed traffic.documents.size) :
    disposal'.IsRobbed (traffic.after move).documents.size := by
  cases h with
  | own hmove hstep => exact hrobbed.step hstep
  | others hmove hsize => exact hrobbed.mono hsize

lemma Advance.isSafe (h : traffic.Advance move n disposal disposal')
    (hat : traffic.disposal? n = some disposal) (hspared : traffic.robs n move = false)
    (hsafe : disposal.IsSafe traffic.documents.size) :
    disposal'.IsSafe (traffic.after move).documents.size := by
  cases h with
  | own hmove hstep => exact hsafe.step hstep
  | others hmove hsize =>
    refine hsafe.mono hsize ?_
    rintro rfl
    refine Nat.pos_of_ne_zero (fun hnone => ?_)
    -- Otherwise this very move would rob the disposal.
    have hbefore := (isRemoving_iff hat).2 rfl
    have hafter := (isRemoving_iff (disposal?_after_of_others hat hmove)).2 rfl
    rw [robs, hbefore, hafter, isEmpty_eq_false_iff_size.2 hsafe, isEmpty_iff_size.2 hnone]
      at hspared
    cases hspared

end Advance

lemma isRobbed_of_robs (h : traffic.robs n move = true)
    (hat : (traffic.after move).disposal? n = some disposal) :
    disposal.IsRobbed (traffic.after move).documents.size := by
  simp only [robs, Bool.and_eq_true] at h
  obtain ⟨⟨⟨-, hremoving⟩, -⟩, hempty⟩ := h
  obtain rfl := (isRemoving_iff hat).1 hremoving
  exact isEmpty_iff_size.1 hempty

/-! ## Runs -/

/-- How a disposal stands after a run. -/
structure Standing (traffic : Traffic) (moves : List Move) (n : Nat)
    (disposal disposal' : Disposal) : Prop where
  at_end : (traffic.run moves).disposal? n = some disposal'
  remaining_le : disposal'.remaining (traffic.run moves).documents.size ≤
    disposal.remaining traffic.documents.size - moves.countP (Move.isStepOf n)
  isRobbed : disposal.IsRobbed traffic.documents.size →
    disposal'.IsRobbed (traffic.run moves).documents.size
  isSafe : disposal.IsSafe traffic.documents.size → traffic.Spares n moves →
    disposal'.IsSafe (traffic.run moves).documents.size
  isRobbed_of_not_spares : ¬ traffic.Spares n moves →
    disposal'.IsRobbed (traffic.run moves).documents.size

lemma exists_standing (hquiet : traffic.isQuiet = true)
    (hmoves : ∀ move ∈ moves, move.isLook = false) (h : traffic.disposal? n = some disposal) :
    ∃ disposal', traffic.Standing moves n disposal disposal' := by
  induction moves generalizing traffic disposal with
  | nil => exact ⟨disposal, h, le_rfl, id, fun hsafe _ => hsafe, fun hnot => absurd trivial hnot⟩
  | cons move rest ih =>
    obtain ⟨hmove, hrest⟩ := List.forall_mem_cons.1 hmoves
    obtain ⟨next, hnext, hadvance⟩ := exists_advance hquiet hmove h
    obtain ⟨disposal', hstanding⟩ := ih (isQuiet_after hquiet hmove).1 hrest hnext
    refine ⟨disposal', hstanding.at_end, ?_, ?_, ?_, ?_⟩
    · have hfirst := hadvance.remaining_le
      have hothers := hstanding.remaining_le
      rw [List.countP_cons]
      exact hothers.trans (by omega)
    · exact fun hrobbed => hstanding.isRobbed (hadvance.isRobbed hrobbed)
    · exact fun hsafe hspares =>
        hstanding.isSafe (hadvance.isSafe h hspares.1 hsafe) hspares.2
    · intro hnot
      -- The disposal is robbed right now, or later on.
      cases hrobs : traffic.robs n move with
      | true => exact hstanding.isRobbed (isRobbed_of_robs hrobs hnext)
      | false =>
        exact hstanding.isRobbed_of_not_spares (fun hlater => hnot ⟨hrobs, hlater⟩)

/-- A disposal that begins among evictions and other disposals comes to an end after at most three
steps of its own for every document that is kept, and one more. Then nothing is kept. It fails
exactly if somebody takes the last document out when it has found it and not taken it. -/
theorem disposal_ends {traffic : Traffic} {moves : List Move} (hquiet : traffic.isQuiet = true)
    (hmoves : ∀ move ∈ moves, move.isLook = false) :
    ∃ disposal, ((traffic.after .dispose).run moves).disposal? traffic.parties.length =
        some disposal ∧
      (3 * traffic.documents.size + 1 ≤ moves.countP (Move.isStepOf traffic.parties.length) →
        disposal.isOver = true) ∧
      (disposal.isOver = true →
        ((traffic.after .dispose).run moves).documents.size = 0 ∧
        disposal.outcome =
          if (traffic.after .dispose).Spares traffic.parties.length moves then .ok ()
          else .error .noEntry) := by
  have hbegins : (traffic.after .dispose).disposal? traffic.parties.length = some .testing := by
    rw [disposal?_eq_some]
    exact List.getElem?_concat_length
  obtain ⟨disposal, hstanding⟩ :=
    exists_standing (isQuiet_join hquiet rfl) hmoves hbegins
  refine ⟨disposal, hstanding.at_end, ?_, ?_⟩
  · intro hsteps
    have hle := hstanding.remaining_le
    refine Disposal.isOver_of_remaining (Nat.le_zero.1 (hle.trans (Nat.sub_eq_zero_of_le ?_).le))
    exact hsteps
  · intro hover
    split
    · rename_i hspares
      exact (hstanding.isSafe trivial hspares).outcome_eq hover
    · rename_i hnot
      exact (hstanding.isRobbed_of_not_spares hnot).outcome_eq hover

/-- The document is looked up and kept. -/
def sampleKept : Traffic :=
  (start sampleWorkspace).run [sampleLook, .step 0, .step 0, .step 0, .step 0]

/-- The disposal has taken the document out when its change is told. -/
def sparingRun : List Move :=
  [.step 1, .step 1, sampleTell, .step 2, .step 1, .step 1]

theorem disposal_ends_sample :
    ∃ disposal, ((sampleKept.after .dispose).run sparingRun).disposal? 1 = some disposal ∧
      ((sampleKept.after .dispose).run sparingRun).documents.size = 0 ∧
      disposal.outcome = .ok () := by
  have hrun : sampleKept.isQuiet = true ∧ (∀ move ∈ sparingRun, move.isLook = false) ∧
      3 * sampleKept.documents.size + 1 ≤ sparingRun.countP (Move.isStepOf 1) ∧
      sampleKept.parties.length = 1 ∧ (sampleKept.after .dispose).Spares 1 sparingRun := by
    decide +kernel
  obtain ⟨hquiet, hmoves, hsteps, hlength, hspares⟩ := hrun
  obtain ⟨disposal, hat, hends, houtcome⟩ := disposal_ends hquiet hmoves
  rw [hlength] at hat hends houtcome
  rw [if_pos hspares] at houtcome
  exact ⟨disposal, hat, houtcome (hends hsteps)⟩

/-- The change is told, and the document taken out, when the disposal has found it. -/
def robbingRun : List Move :=
  [.step 1, sampleTell, .step 2, .step 1]

/-- A disposal of a document that somebody has looked up fails when the document is evicted at that
very time. -/
theorem not_succeeds_of_robbed :
    ¬ ∀ (w : Workspace) (before moves : List Move) (disposal : Disposal),
      ((start w).run before).isQuiet = true → (∀ move ∈ moves, move.isLook = false) →
      ((((start w).run before).after .dispose).run moves).disposal?
          ((start w).run before).parties.length = some disposal →
        disposal.outcome = .ok () := by
  intro hclaim
  have hrun : sampleKept.isQuiet = true ∧ (∀ move ∈ robbingRun, move.isLook = false) ∧
      (((sampleKept.after .dispose).run robbingRun).disposal? sampleKept.parties.length).any
        (fun disposal => !disposal.outcome.isOk) = true := by
    decide +kernel
  obtain ⟨hquiet, hmoves, hany⟩ := hrun
  obtain ⟨disposal, hat, hfailed⟩ := (Option.any_eq_true _ _).1 hany
  rw [hclaim _ _ _ disposal hquiet hmoves hat] at hfailed
  cases hfailed

end Traffic

end Nullability.SideBySide
