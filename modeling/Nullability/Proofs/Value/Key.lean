import Mathlib.Tactic
import Nullability.Value

/-!
# Keys

Two values are the same key exactly if they are of one class (`sameKey_iff`): a number, an instant,
or a content. So being the same key is an equivalence. A text is the same key as itself only.
-/

namespace Nullability

/-! ## Content -/

namespace Value

mutual

theorem same_iff (a b : Value) : same a b = true ↔ a = b := by
  cases a with
  | list items => cases b <;> simp [same, sameItems_iff items]
  | tuple items => cases b <;> simp [same, sameItems_iff items]
  | set items => cases b <;> simp [same, sameItems_iff items]
  | mapping entries => cases b <;> simp [same, sameEntries_iff entries]
  | record name fields => cases b <;> simp [same, sameFields_iff fields]
  | _ => cases b <;> simp [same]
termination_by structural a

theorem sameItems_iff (as bs : List Value) : sameItems as bs = true ↔ as = bs := by
  cases as with
  | nil => cases bs <;> simp [sameItems]
  | cons a as => cases bs <;> simp [sameItems, same_iff a, sameItems_iff as]
termination_by structural as

theorem sameEntries_iff (as bs : List (Value × Value)) : sameEntries as bs = true ↔ as = bs := by
  match as, bs with
  | [], [] => simp [sameEntries]
  | [], _ :: _ => simp [sameEntries]
  | (k, a) :: as, [] => simp [sameEntries]
  | (k, a) :: as, (l, b) :: bs =>
    simp [sameEntries, same_iff k, same_iff a, sameEntries_iff as, and_assoc]
termination_by structural as

theorem sameFields_iff (as bs : List (String × Value)) : sameFields as bs = true ↔ as = bs := by
  match as, bs with
  | [], [] => simp [sameFields]
  | [], _ :: _ => simp [sameFields]
  | (m, a) :: as, [] => simp [sameFields]
  | (m, a) :: as, (n, b) :: bs =>
    simp [sameFields, same_iff a, sameFields_iff as, and_assoc]
termination_by structural as

end

end Value

/-! ## Classes of keys -/

namespace Binary64

/-- What a number is compared by: its size, if it is finite. -/
def numberClass (x : Binary64) : ℚ ⊕ Binary64 :=
  match x.toRatio? with
  | some (num, den) => .inl (num / den)
  | none => .inr x

lemma pos_of_toRatio? {x : Binary64} {num : Int} {den : Nat} (h : x.toRatio? = some (num, den)) :
    0 < den := by
  cases x with
  | finite negative significand exponent =>
    cases h
    exact Nat.pow_pos Nat.two_pos
  | _ => cases h

/-- Numbers that are equal, or the same, are of one class. -/
lemma numberClass_eq_iff (x y : Binary64) :
    x.numberClass = y.numberClass ↔ (x == y || x.numEq y) = true := by
  cases x <;> cases y
  case finite.finite s m e t n f =>
    obtain ⟨⟨a, b⟩, hx⟩ : ∃ ratio, (finite s m e).toRatio? = some ratio := ⟨_, rfl⟩
    obtain ⟨⟨c, d⟩, hy⟩ : ∃ ratio, (finite t n f).toRatio? = some ratio := ⟨_, rfl⟩
    have hb : (b : ℚ) ≠ 0 := Nat.cast_ne_zero.2 (pos_of_toRatio? hx).ne'
    have hd : (d : ℚ) ≠ 0 := Nat.cast_ne_zero.2 (pos_of_toRatio? hy).ne'
    have hclass : (finite s m e).numberClass = (finite t n f).numberClass ↔ a * d = c * b := by
      simp only [numberClass, hx, hy, Sum.inl.injEq]
      rw [div_eq_div_iff hb hd]
      exact_mod_cast Iff.rfl
    have hnumEq : (finite s m e).numEq (finite t n f) = true ↔ a * d = c * b := by
      simp [numEq, hx, hy]
    rw [Bool.or_eq_true, beq_iff_eq, hnumEq, ← hclass]
    exact ⟨.inr, fun h => h.elim (congrArg numberClass) id⟩
  all_goals simp [numberClass, toRatio?, numEq]

end Binary64

namespace Value

/-- The class of a key: a number, which may be whole, or an instant, or a content. -/
def keyClass (v : Value) : (Int ⊕ (ℚ ⊕ Binary64)) ⊕ (Int ⊕ Value) :=
  match v.numeric? with
  | some (.inr n) => .inl (.inl n)
  | some (.inl x) => .inl (.inr x.numberClass)
  | none =>
    match v.instant? with
    | some t => .inr (.inl t)
    | none => .inr (.inr v)

/-- Values are the same key exactly if they are of one class. -/
theorem sameKey_iff (a b : Value) : a.sameKey b = true ↔ a.keyClass = b.keyClass := by
  have hsame : (a == b) = true ↔ a = b := same_iff a b
  rw [sameKey, keyClass, keyClass]
  cases ha : a.numeric? with
  | some x =>
    cases hb : b.numeric? with
    | some y => cases x <;> cases y <;> simp [Binary64.numberClass_eq_iff]
    | none => cases x <;> cases b.instant? <;> simp
  | none =>
    cases hb : b.numeric? with
    | some y => cases y <;> cases a.instant? <;> simp
    | none =>
      cases ha' : a.instant? <;> cases hb' : b.instant?
      case some.some => simp
      case none.none => simpa using hsame
      -- one of two equal values does not name an instant alone
      all_goals
        refine iff_of_false (fun h => ?_) (by simp)
        rw [hsame.1 h, hb'] at ha'
        cases ha'

theorem sameKey_refl (a : Value) : a.sameKey a = true :=
  (sameKey_iff a a).2 rfl

theorem sameKey_comm (a b : Value) : a.sameKey b = b.sameKey a := by
  rw [Bool.eq_iff_iff, sameKey_iff, sameKey_iff, eq_comm]

/-- Values that are the same key are the same keys as others. -/
theorem sameKey_congr_left {a b : Value} (h : a.sameKey b = true) (c : Value) :
    a.sameKey c = b.sameKey c := by
  rw [Bool.eq_iff_iff, sameKey_iff, sameKey_iff, (sameKey_iff a b).1 h]

theorem sameKey_congr_right {a b : Value} (h : a.sameKey b = true) (c : Value) :
    c.sameKey a = c.sameKey b := by
  rw [sameKey_comm c a, sameKey_comm c b, sameKey_congr_left h]

/-! ## Texts -/

/-- Only a text is the same key as a text. -/
theorem sameKey_text_iff (key : Value) (s : String) :
    key.sameKey (.text s) = true ↔ key = .text s := by
  cases key with
  | real x =>
    rw [sameKey, numeric?]
    cases x.toInt? <;> simp [numeric?]
  | _ => simp [sameKey, numeric?, instant?, BEq.beq, same]

theorem text_sameKey_iff (s : String) (key : Value) :
    (text s).sameKey key = true ↔ key = .text s := by
  cases key with
  | real x =>
    rw [sameKey]
    cases h : x.toInt? <;> simp [numeric?, h]
  | text t => simp [sameKey, numeric?, instant?, BEq.beq, same, eq_comm]
  | _ => simp [sameKey, numeric?, instant?, BEq.beq, same]

end Value

end Nullability
