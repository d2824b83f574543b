import Mathlib.Data.List.Forall2
import Nullability.Proofs.Outcome
import Nullability.Settings.Layers

/-!
# Accepted values

When a judgement accepts a value, so do all judgements that it is made of. Here this is said once
for each way of making judgements.
-/

namespace Nullability

namespace Judged

variable {α β : Type}

lemma accept_inj {a b : α} : accept a = accept b ↔ a = b := by
  constructor
  · intro h
    exact Except.ok.inj (Except.ok.inj h)
  · intro h
    rw [h]

lemma refuse_ne_accept {defect : Defect} {v : Value} {a : α} :
    (refuse defect v : Judged α) ≠ accept a := by
  intro h
  cases Except.ok.inj h

lemma seq_eq_accept {f : Judged (α → β)} {a : Judged α} {b : β} :
    f <*> a = accept b ↔ ∃ g x, f = accept g ∧ a = accept x ∧ g x = b := by
  constructor
  · intro h
    change both f (fun _ => a) = accept b at h
    rcases f with failure | issues | g
    · cases h
    · rcases a with failure | others | x
      · cases h
      · cases Except.ok.inj h
      · cases Except.ok.inj h
    · rcases a with failure | issues | x
      · cases h
      · cases Except.ok.inj h
      · exact ⟨g, x, rfl, rfl, accept_inj.1 h⟩
  · rintro ⟨g, x, rfl, rfl, rfl⟩
    rfl

lemma map_eq_accept {f : α → β} {a : Judged α} {b : β} :
    f <$> a = accept b ↔ ∃ x, a = accept x ∧ f x = b := by
  change (pure f <*> a) = accept b ↔ _
  rw [seq_eq_accept]
  constructor
  · rintro ⟨g, x, hg, ha, rfl⟩
    obtain rfl := accept_inj.1 hg
    exact ⟨x, ha, rfl⟩
  · rintro ⟨x, ha, hx⟩
    exact ⟨f, x, rfl, ha, hx⟩

lemma andThen_eq_accept {a : Judged α} {f : α → Judged β} {b : β} :
    a.andThen f = accept b ↔ ∃ x, a = accept x ∧ f x = accept b := by
  constructor
  · intro h
    cases a with
    | error failure => cases h
    | ok a =>
      cases a with
      | error issues => cases Except.ok.inj h
      | ok x => exact ⟨x, rfl, h⟩
  · rintro ⟨x, rfl, hx⟩
    exact hx

/-- A number is accepted if the test of its field lets it pass. -/
lemma tested_eq_accept {test : Int → Prop} [DecidablePred test] {defect : Int → Defect}
    {v : Value} {n : Nat} :
    ((integer v).andThen fun m =>
      if test m then accept m.toNat else refuse (defect m) v) = accept n ↔
      ∃ m, integer v = accept m ∧ test m ∧ m.toNat = n := by
  rw [andThen_eq_accept]
  refine exists_congr fun m => and_congr_right fun _ => ?_
  by_cases hm : test m
  · rw [if_pos hm, accept_inj, and_iff_right hm]
  · rw [if_neg hm]
    exact iff_of_false refuse_ne_accept fun h => hm h.1

lemma inside_eq_accept {step : String} {a : Judged α} {b : α} :
    inside step a = accept b ↔ a = accept b := by
  cases a with
  | error failure => rfl
  | ok a =>
    cases a with
    | error issues =>
      constructor
      · intro h
        cases Except.ok.inj h
      · intro h
        cases Except.ok.inj h
    | ok x => rfl

lemma lift_eq_accept {a : Except Failure α} {b : α} : lift a = accept b ↔ a = .ok b := by
  constructor
  · intro h
    obtain ⟨x, rfl, hx⟩ := Outcome.map_eq_ok.1 h
    rw [Except.ok.inj hx]
  · rintro rfl
    rfl

lemma expanded_eq_accept {v : Value} {path : Except Failure α} {a : α} :
    expanded v path = accept a ↔ path = .ok a := by
  rw [expanded.eq_def]
  split
  · constructor
    · intro h
      exact absurd h refuse_ne_accept
    · intro h
      cases h
  · exact lift_eq_accept

lemma field_eq_accept {entries : List (Value × Value)} {name : String} {read : Value → Judged α}
    {default : Except Failure α} {a : α} :
    field entries name read default = accept a ↔
      match Value.lookup? (.text name) entries with
      | some v => read v = accept a
      | none => default = .ok a := by
  rw [field]
  cases Value.lookup? (.text name) entries with
  | some v => exact inside_eq_accept
  | none => exact lift_eq_accept

lemma record_eq_accept {name : String} {read : List (Value × Value) → Judged α} {v : Value}
    {a : α} : record name read v = accept a ↔ ∃ entries, v = .mapping entries ∧
      read entries = accept a := by
  constructor
  · intro h
    cases v with
    | mapping entries => exact ⟨entries, rfl, h⟩
    | _ => exact absurd h refuse_ne_accept
  · rintro ⟨entries, rfl, h⟩
    exact h

lemma itemsFrom_eq_accept {read : Value → Judged α} {index : Nat} {items : List Value}
    {results : List α} : itemsFrom read index items = accept results ↔
      List.Forall₂ (fun v a => read v = accept a) items results := by
  induction items generalizing index results with
  | nil =>
    rw [itemsFrom, accept_inj, List.forall₂_nil_left_iff]
    exact eq_comm
  | cons v rest ih =>
    rw [itemsFrom, seq_eq_accept, List.forall₂_cons_left_iff]
    constructor
    · rintro ⟨g, others, hg, hrest, rfl⟩
      obtain ⟨a, ha, rfl⟩ := map_eq_accept.1 hg
      exact ⟨a, others, inside_eq_accept.1 ha, ih.1 hrest, rfl⟩
    · rintro ⟨a, others, ha, hrest, rfl⟩
      exact ⟨List.cons a, others, map_eq_accept.2 ⟨a, inside_eq_accept.2 ha, rfl⟩, ih.2 hrest, rfl⟩

lemma listOf_eq_accept {read : Value → Judged α} {v : Value} {results : List α} :
    listOf read v = accept results ↔
      ∃ items, (v = .list items ∨ v = .tuple items ∨ v = .set items) ∧
        List.Forall₂ (fun v a => read v = accept a) items results := by
  constructor
  · intro h
    cases v with
    | list items => exact ⟨items, .inl rfl, itemsFrom_eq_accept.1 h⟩
    | tuple items => exact ⟨items, .inr (.inl rfl), itemsFrom_eq_accept.1 h⟩
    | set items => exact ⟨items, .inr (.inr rfl), itemsFrom_eq_accept.1 h⟩
    | _ => exact absurd h refuse_ne_accept
  · rintro ⟨items, rfl | rfl | rfl, h⟩ <;> exact itemsFrom_eq_accept.2 h

/-- Every result of a list was read from an item. -/
lemma exists_of_mem_listOf {read : Value → Judged α} {v : Value} {results : List α}
    (h : listOf read v = accept results) {a : α} (hmem : a ∈ results) :
    ∃ item, read item = accept a := by
  obtain ⟨items, -, hitems⟩ := listOf_eq_accept.1 h
  clear h
  induction hitems with
  | nil => cases hmem
  | cons hread hrest ih =>
    rcases List.mem_cons.1 hmem with rfl | hlater
    · exact ⟨_, hread⟩
    · exact ih hlater

end Judged

lemma Settings.settle_eq_ok {α : Type} {a : Judged α} {x : α} :
    settle a = .ok x ↔ a = Judged.accept x := by
  rcases a with failure | issues | y
  · constructor <;> intro h <;> cases h
  · constructor
    · intro h
      cases h
    · intro h
      cases Except.ok.inj h
  · constructor
    · intro h
      rw [Except.ok.inj h]
      rfl
    · intro h
      rw [Judged.accept_inj.1 h]
      rfl

end Nullability
