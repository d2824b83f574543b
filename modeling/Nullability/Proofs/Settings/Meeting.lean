import Nullability.Proofs.Settings.File

/-!
# Documents that cannot be merged

Merging two mappings comes to merging the mappings that are under one key of both. Two documents that
contain themselves may go on like that for ever. Their pairs of mappings are finitely many, and so it
is enough to follow them for a bounded number of steps (`Settings.meet_iff_meetEndlessly`). If they
come to an end, both documents are read to their ends, however much further they might be read
(`Settings.readToEnd_of_not_meetEndlessly`).
-/

namespace Nullability.Settings

open Value (lookup?)
open Yaml (Document Item)

section Meeting

variable {lower upper d other : Document} {a b : Item} {n : ℕ}

/-- How merging two items comes to merging two others: both are mappings, and the others are under
one key of both. -/
inductive LeadsTo (lower upper : Document) : Item × Item → Item × Item → Prop where
  | under {a b under inner : Item} {key : Value} {entries others : List (Value × Item)}
    (hlower : lower.entries? a = some entries) (hupper : upper.entries? b = some others)
    (hmem : (key, inner) ∈ others) (hunder : lookup? key entries = some under) :
    LeadsTo lower upper (a, b) (under, inner)

/-- Whether merging two items comes to merging others again and again. -/
def MeetEndlessly (lower upper : Document) (a b : Item) : Prop :=
  ∃ way : ℕ → Item × Item, way 0 = (a, b) ∧ ∀ n, LeadsTo lower upper (way n) (way (n + 1))

lemma meet_zero : meet lower upper 0 a b = true ↔
    (∃ entries, lower.entries? a = some entries) ∧ ∃ others, upper.entries? b = some others := by
  rw [meet]
  cases lower.entries? a <;> cases upper.entries? b <;> simp

lemma LeadsTo.meet_zero {pair next : Item × Item} (h : LeadsTo lower upper pair next) :
    meet lower upper 0 pair.1 pair.2 = true := by
  obtain ⟨hlower, hupper, -, -⟩ := h
  exact Settings.meet_zero.2 ⟨⟨_, hlower⟩, _, hupper⟩

lemma meet_succ : meet lower upper (n + 1) a b = true ↔
    ∃ pair, LeadsTo lower upper (a, b) pair ∧ meet lower upper n pair.1 pair.2 = true := by
  constructor
  · intro h
    rw [meet] at h
    split at h
    · rename_i entries others hlower hupper
      obtain ⟨⟨key, inner⟩, hmem, h⟩ := List.any_eq_true.1 h
      obtain ⟨under, hunder, hmeet⟩ := (Option.any_eq_true _ _).1 h
      exact ⟨(under, inner), .under hlower hupper hmem hunder, hmeet⟩
    · cases h
  · rintro ⟨_, ⟨hlower, hupper, hmem, hunder⟩, hmeet⟩
    rw [meet, hlower, hupper]
    exact List.any_eq_true.2 ⟨_, hmem, (Option.any_eq_true _ _).2 ⟨_, hunder, hmeet⟩⟩

lemma meet_of_succ (h : meet lower upper (n + 1) a b = true) : meet lower upper n a b = true := by
  induction n generalizing a b with
  | zero =>
    obtain ⟨pair, hpair, -⟩ := meet_succ.1 h
    exact hpair.meet_zero
  | succ n ih =>
    obtain ⟨pair, hpair, hmeet⟩ := meet_succ.1 h
    exact meet_succ.2 ⟨pair, hpair, ih hmeet⟩

/-- A key of one mapping that is found in the other one leads to what both have under it. -/
lemma leadsTo_of_mem (hlower : lower.IsTidy) {key : Value} {under inner : Item}
    {entries others : List (Value × Item)} (hentries : lower.entries? a = some entries)
    (hothers : upper.entries? b = some others) (hmem : (key, under) ∈ entries)
    (hinner : lookup? key others = some inner) : LeadsTo lower upper (a, b) (under, inner) := by
  obtain ⟨⟨other, found⟩, hfind, rfl⟩ := Option.map_eq_some_iff.1 hinner
  refine .under hentries hothers (List.mem_of_find?_eq_some hfind) ?_
  have hsame : other.sameKey key = true := by simpa using List.find?_some hfind
  rw [Value.lookup?_congr hsame]
  exact Value.lookup?_of_mem_of_distinctKeys (hlower.of_entries? hentries).1 hmem

lemma LeadsTo.swap {pair next : Item × Item} (h : LeadsTo lower upper pair next)
    (hupper : upper.IsTidy) : LeadsTo upper lower pair.swap next.swap := by
  obtain ⟨hentries, hothers, hmem, hunder⟩ := h
  exact leadsTo_of_mem hupper hothers hentries hmem hunder

lemma MeetEndlessly.swap (h : MeetEndlessly lower upper a b) (hupper : upper.IsTidy) :
    MeetEndlessly upper lower b a := by
  obtain ⟨way, hstart, hway⟩ := h
  exact ⟨fun n => (way n).swap, congrArg Prod.swap hstart, fun n => (hway n).swap hupper⟩

/-! ## Pairs of mappings are finitely many -/

/-- The numbers of the collections of two documents. -/
def numbers (lower upper : Document) : Finset (ℕ × ℕ) :=
  (lower.collections.map Prod.fst).toFinset ×ˢ (upper.collections.map Prod.fst).toFinset

lemma card_numbers_le : (numbers lower upper).card ≤ meetingBound lower upper := by
  rw [numbers, Finset.card_product, meetingBound]
  refine Nat.mul_le_mul ?_ ?_
  · exact (List.toFinset_card_le _).trans_eq (List.length_map _)
  · exact (List.toFinset_card_le _).trans_eq (List.length_map _)

lemma exists_of_entries? {item : Item} {entries : List (Value × Item)}
    (h : d.entries? item = some entries) :
    ∃ number ∈ (d.collections.map Prod.fst).toFinset, item = .collection number := by
  cases item with
  | value v => cases h
  | collection number =>
    rw [Document.entries?] at h
    split at h
    · rename_i hfound
      obtain ⟨entry, hfind, -⟩ := Option.map_eq_some_iff.1 hfound
      have hnumber : entry.1 = number := by simpa using List.find?_some hfind
      refine ⟨number, List.mem_toFinset.2 (List.mem_map.2 ⟨entry, ?_, hnumber⟩), rfl⟩
      exact List.mem_of_find?_eq_some hfind
    · cases h

lemma exists_of_meet (h : meet lower upper n a b = true) :
    ∃ pair ∈ numbers lower upper, a = .collection pair.1 ∧ b = .collection pair.2 := by
  have hzero : meet lower upper 0 a b = true := by
    induction n with
    | zero => exact h
    | succ n ih => exact ih (meet_of_succ h)
  obtain ⟨⟨entries, hentries⟩, others, hothers⟩ := meet_zero.1 hzero
  obtain ⟨i, hi, rfl⟩ := exists_of_entries? hentries
  obtain ⟨j, hj, rfl⟩ := exists_of_entries? hothers
  exact ⟨(i, j), Finset.mem_product.2 ⟨hi, hj⟩, rfl, rfl⟩

/-- The pairs of collections that do not meet so many times. They get more and more, until the first
time that they stay the same. -/
def apart (lower upper : Document) (n : ℕ) : Finset (ℕ × ℕ) :=
  (numbers lower upper).filter fun pair =>
    meet lower upper n (.collection pair.1) (.collection pair.2) = false

lemma apart_subset_succ : apart lower upper n ⊆ apart lower upper (n + 1) := by
  intro pair hpair
  obtain ⟨hmem, hapart⟩ := Finset.mem_filter.1 hpair
  refine Finset.mem_filter.2 ⟨hmem, Bool.eq_false_iff.2 fun hmeet => ?_⟩
  rw [meet_of_succ hmeet] at hapart
  cases hapart

/-- If the pairs stay the same, so does whether any two items meet. -/
lemma meet_succ_of_apart (h : apart lower upper n = apart lower upper (n + 1))
    (hmeet : meet lower upper n a b = true) : meet lower upper (n + 1) a b = true := by
  obtain ⟨pair, hpair, rfl, rfl⟩ := exists_of_meet hmeet
  refine Bool.of_not_eq_false fun hapart => ?_
  have hmem : pair ∈ apart lower upper n := h ▸ Finset.mem_filter.2 ⟨hpair, hapart⟩
  rw [(Finset.mem_filter.1 hmem).2] at hmeet
  cases hmeet

lemma apart_succ_of_apart (h : apart lower upper n = apart lower upper (n + 1)) :
    apart lower upper (n + 1) = apart lower upper (n + 2) := by
  refine Finset.Subset.antisymm apart_subset_succ fun pair hpair => ?_
  obtain ⟨hmem, hapart⟩ := Finset.mem_filter.1 hpair
  refine Finset.mem_filter.2 ⟨hmem, Bool.eq_false_iff.2 fun hmeet => ?_⟩
  obtain ⟨next, hnext, hrest⟩ := meet_succ.1 hmeet
  rw [meet_succ.2 ⟨next, hnext, meet_succ_of_apart h hrest⟩] at hapart
  cases hapart

lemma apart_meetingBound : apart lower upper (meetingBound lower upper) =
    apart lower upper (meetingBound lower upper + 1) := by
  -- until the pairs stay the same, every step adds one
  have hgrows (n : ℕ) : apart lower upper n = apart lower upper (n + 1) ∨
      n + 1 ≤ (apart lower upper (n + 1)).card := by
    induction n with
    | zero =>
      rcases eq_or_ne (apart lower upper 0) (apart lower upper 1) with hsame | hmore
      · exact .inl hsame
      · have hless := Finset.card_lt_card (apart_subset_succ.ssubset_of_ne hmore)
        exact .inr (by omega)
    | succ n ih =>
      rcases eq_or_ne (apart lower upper (n + 1)) (apart lower upper (n + 2)) with hsame | hmore
      · exact .inl hsame
      · have hless := Finset.card_lt_card (apart_subset_succ.ssubset_of_ne hmore)
        obtain hstays | hcard := ih
        · exact absurd (apart_succ_of_apart hstays) hmore
        · exact .inr (by omega)
  obtain hsame | hcard := hgrows (meetingBound lower upper)
  · exact hsame
  · have hsubset : apart lower upper (meetingBound lower upper + 1) ⊆ numbers lower upper :=
      Finset.filter_subset _ _
    have hall := (Finset.card_le_card hsubset).trans card_numbers_le
    exact absurd (hcard.trans hall) (by omega)

/-- A step that can always be followed by another one goes on for ever. -/
lemma exists_way {α : Type} {step : α → α → Prop} {allows : α → Prop}
    (hstep : ∀ a, allows a → ∃ next, step a next ∧ allows next) {start : α} (h : allows start) :
    ∃ way : ℕ → α, way 0 = start ∧ ∀ n, step (way n) (way (n + 1)) := by
  choose next hnext hallows using hstep
  let way (n : ℕ) : {a // allows a} := (fun a => ⟨next a.1 a.2, hallows a.1 a.2⟩)^[n] ⟨start, h⟩
  have hsucc (n : ℕ) : (way (n + 1)).1 = next (way n).1 (way n).2 :=
    congrArg Subtype.val (Function.iterate_succ_apply' _ _ _)
  refine ⟨fun n => (way n).1, rfl, fun n => ?_⟩
  dsimp only
  rw [hsucc]
  exact hnext (way n).1 (way n).2

/-- Two items that meet as often as there are pairs of mappings meet without end. -/
theorem meet_iff_meetEndlessly :
    meet lower upper (meetingBound lower upper) a b = true ↔ MeetEndlessly lower upper a b := by
  constructor
  · intro h
    refine @exists_way _ (LeadsTo lower upper)
      (fun pair => meet lower upper (meetingBound lower upper) pair.1 pair.2 = true)
      (fun pair hpair => ?_) (a, b) h
    exact meet_succ.1 (meet_succ_of_apart apart_meetingBound hpair)
  · rintro ⟨way, hstart, hway⟩
    have hall (n k : ℕ) : meet lower upper n (way k).1 (way k).2 = true := by
      induction n generalizing k with
      | zero => exact (hway k).meet_zero
      | succ n ih => exact meet_succ.2 ⟨way (k + 1), hway k, ih (k + 1)⟩
    have hmeet := hall (meetingBound lower upper) 0
    rwa [hstart] at hmeet

/-! ## Reading to the end -/

section Depth

variable {beside : Option Item} {item : Item} {role : Role} {fuel : ℕ}

/-- What does not meet the item beside it is not merged with it. -/
lemma unmerged_of_not_meet (h : ∀ b, beside = some b → meet d other 0 item b = false) :
    d.entries? item = none ∨ beside.bind other.entries? = none := by
  rw [or_iff_not_imp_left, Option.bind_eq_none_iff]
  intro hentries b hb
  obtain ⟨entries, hentries⟩ := Option.ne_none_iff_exists'.1 hentries
  refine Option.eq_none_iff_forall_ne_some.2 fun others hothers => ?_
  have hmeet := h b hb
  rw [meet_zero.2 ⟨⟨_, hentries⟩, _, hothers⟩] at hmeet
  cases hmeet

/-- Under a key both documents meet once less. -/
lemma not_meet_under (hd : d.IsTidy) (h : ∀ b, beside = some b → meet d other (n + 1) item b = false)
    {entries : List (Value × Item)} (hentries : d.entries? item = some entries) {key : Value}
    {inner : Item} (hmem : (key, inner) ∈ entries) :
    ∀ found, beside.bind (under? other key) = some found → meet d other n inner found = false := by
  refine fun found hfound => Bool.eq_false_iff.2 fun hmeet => ?_
  obtain ⟨b, hb, hunder⟩ := Option.bind_eq_some_iff.1 hfound
  obtain ⟨others, hothers, hlookup⟩ := Option.bind_eq_some_iff.1 hunder
  have hleads := leadsTo_of_mem hd hentries hothers hmem hlookup
  have happart := h b hb
  rw [meet_succ.2 ⟨_, hleads, hmeet⟩] at happart
  cases happart

/-- A document is read to its end where it does not meet the other one so many times. -/
lemma valueBeside_of_meet {more : ℕ} (hd : d.IsTidy)
    (h : ∀ b, beside = some b → meet d other n item b = false) (hfuel : n ≤ fuel)
    (hdepth : role.depth ≤ fuel) :
    valueBeside d other (fuel + more) role beside item =
      valueBeside d other fuel role beside item := by
  induction n generalizing fuel role beside item with
  | zero =>
    have hunmerged := unmerged_of_not_meet h
    rw [valueBeside_of_unmerged hunmerged, valueBeside_of_unmerged hunmerged]
    exact valueBeside_alone (by omega) hdepth
  | succ n ih =>
    cases hentries : d.entries? item with
    | none =>
      have hunmerged : d.entries? item = none ∨ beside.bind other.entries? = none := .inl hentries
      rw [valueBeside_of_unmerged hunmerged, valueBeside_of_unmerged hunmerged]
      exact valueBeside_alone (by omega) hdepth
    | some entries =>
      obtain ⟨fuel, rfl⟩ := Nat.exists_eq_add_of_le' (Nat.zero_lt_of_lt hfuel)
      have hinner : ∀ entry ∈ entries,
          valueBeside d other (fuel + more) (role.ofKey entry.1)
              (beside.bind (under? other entry.1)) entry.2 =
            valueBeside d other fuel (role.ofKey entry.1)
              (beside.bind (under? other entry.1)) entry.2 := by
        rintro ⟨key, inner⟩ hmem
        have hkey : (role.ofKey key).depth ≤ role.depth - 1 := role.depth_ofKey key
        exact ih (not_meet_under hd h hentries hmem) (by omega) (by dsimp only; omega)
      rw [Nat.add_right_comm, valueBeside, valueBeside, hentries]
      dsimp only
      split
      · exact congrArg Value.mapping (List.map_congr_left fun entry hmem =>
          Prod.ext rfl (hinner entry hmem))
      · rfl

/-- A document that does not meet another one without end is read to its end beside it, and reading
further changes nothing. -/
lemma valueBeside_of_not_meetEndlessly (hd : d.IsTidy)
    (h : ¬ MeetEndlessly d other d.root other.root) (hfuel : meetingBound d other + 4 ≤ fuel) :
    valueBeside d other fuel .settings (some other.root) d.root =
      valueBeside d other (meetingBound d other + 4) .settings (some other.root) d.root := by
  obtain ⟨more, rfl⟩ := Nat.exists_eq_add_of_le hfuel
  have hdepth : Role.settings.depth ≤ meetingBound d other + 4 := Nat.le_add_left _ _
  refine valueBeside_of_meet hd (fun b hb => ?_) (Nat.le_add_right _ _) hdepth
  obtain rfl := Option.some.inj hb
  exact Bool.eq_false_iff.2 (meet_iff_meetEndlessly.not.2 h)

/-- Two documents that can be merged are both read to their ends. -/
theorem readToEnd_of_not_meetEndlessly (hlower : lower.IsTidy) (hupper : upper.IsTidy)
    (h : ¬ MeetEndlessly lower upper lower.root upper.root)
    (hfuel : meetingBound lower upper + 4 ≤ fuel) :
    valueBeside lower upper fuel .settings (some upper.root) lower.root =
        valueBeside lower upper (meetingBound lower upper + 4) .settings (some upper.root)
          lower.root ∧
      valueBeside upper lower fuel .settings (some lower.root) upper.root =
        valueBeside upper lower (meetingBound upper lower + 4) .settings (some lower.root)
          upper.root := by
  refine ⟨valueBeside_of_not_meetEndlessly hlower h hfuel, ?_⟩
  have hswap : meetingBound upper lower = meetingBound lower upper := Nat.mul_comm _ _
  exact valueBeside_of_not_meetEndlessly hupper (fun hmeet => h (hmeet.swap hlower)) (hswap ▸ hfuel)

end Depth

end Meeting

end Nullability.Settings
