import Mathlib.Data.List.Basic
import Nullability.Sorting

/-!
# Stability of sorting

Items of which neither comes before the other stay in their order. So whatever is known of the order
of a list still holds of such items when it is sorted; and where no two different items are level,
the sorted list does not depend on the order at all.
-/

namespace Nullability

universe u

variable {α : Type u} {le : α → α → Bool} {items more : List α}

lemma perm_insertBy (le : α → α → Bool) (a : α) (items : List α) :
    (insertBy le a items).Perm (a :: items) := by
  induction items with
  | nil => exact .refl _
  | cons b rest ih =>
    rw [insertBy]
    split
    · exact .refl _
    · exact (ih.cons b).trans (.swap a b rest)

lemma perm_sortBy (le : α → α → Bool) (items : List α) : (sortBy le items).Perm items := by
  induction items with
  | nil => exact .refl _
  | cons a rest ih => exact (perm_insertBy le a _).trans (ih.cons a)

section Order

variable (trans : ∀ a b c, le a b → le b c → le a c) (total : ∀ a b, le a b || le b a)

include trans total

/-- An item that is inserted stands before those that it is level with. -/
lemma stable_insertBy {S : α → α → Prop} {a : α} (ha : ∀ b ∈ items, S a b)
    (h : items.Pairwise (fun b c => le b c ∧ (le c b → S b c))) :
    (insertBy le a items).Pairwise (fun b c => le b c ∧ (le c b → S b c)) := by
  induction items with
  | nil => exact List.pairwise_singleton _ a
  | cons b rest ih =>
    obtain ⟨hb, hrest⟩ := List.pairwise_cons.1 h
    rw [insertBy]
    split
    · rename_i hab
      refine List.pairwise_cons.2 ⟨?_, h⟩
      intro c hc
      refine ⟨?_, fun _ => ha c hc⟩
      cases List.mem_cons.1 hc with
      | inl hc => exact hc ▸ hab
      | inr hc => exact trans a b c hab (hb c hc).1
    · rename_i hab
      refine List.pairwise_cons.2 ⟨?_, ih (fun c hc => ha c (List.mem_cons_of_mem b hc)) hrest⟩
      intro c hc
      cases mem_insertBy.1 hc with
      | inl hc =>
        subst hc
        have hba : le b c = true := by
          have hcb := total c b
          rw [Bool.or_eq_true] at hcb
          exact hcb.resolve_left hab
        exact ⟨hba, fun hcb => absurd hcb hab⟩
      | inr hc => exact hb c hc

/-- Items that are level are in the order that they were in. -/
lemma stable_sortBy {S : α → α → Prop} (h : items.Pairwise S) :
    (sortBy le items).Pairwise (fun a b => le a b ∧ (le b a → S a b)) := by
  induction items with
  | nil => exact List.Pairwise.nil
  | cons a rest ih =>
    obtain ⟨ha, hrest⟩ := List.pairwise_cons.1 h
    exact stable_insertBy trans total (fun b hb => ha b (mem_sortBy.1 hb)) (ih hrest)

/-- Different items that are never level are in strict order. -/
lemma strict_sortBy (antisymm : ∀ a ∈ items, ∀ b ∈ items, le a b → le b a → a = b)
    (h : items.Nodup) : (sortBy le items).Pairwise (fun a b => le a b ∧ ¬le b a) := by
  refine List.Pairwise.imp_of_mem ?_ (stable_sortBy trans total h)
  intro a b ha hb hab
  exact ⟨hab.1, fun hba =>
    hab.2 hba (antisymm a (mem_sortBy.1 ha) b (mem_sortBy.1 hb) hab.1 hba)⟩

/-- If no two items are level, their order before does not matter. -/
lemma sortBy_eq_of_perm (antisymm : ∀ a ∈ items, ∀ b ∈ items, le a b → le b a → a = b)
    (h : more.Perm items) : sortBy le more = sortBy le items := by
  have hperm : (sortBy le more).Perm (sortBy le items) :=
    (perm_sortBy le more).trans (h.trans (perm_sortBy le items).symm)
  refine hperm.eq_of_pairwise ?_ (pairwise_sortBy trans total more)
    (pairwise_sortBy trans total items)
  intro a b ha hb hab hba
  exact antisymm a (h.mem_iff.1 (mem_sortBy.1 ha)) b (mem_sortBy.1 hb) hab hba

end Order

end Nullability
