import Nullability.Proofs.Outcome
import Nullability.Proofs.Value.Overlay
import Nullability.Yaml.Document

/-!
# Mappings of documents

However the pairs of a mapping are written, merged and repeated, no key comes twice in a mapping of
a document (`isTidy_of_read`), and so none does in a value of the document, neither in the value
itself nor in a mapping anywhere inside it (`Document.isTidy_value`).
-/

namespace Nullability.Yaml

open Value (DistinctKeys)

lemma WrittenMoment.isMapping_value {written : WrittenMoment} {v : Value}
    (h : written.value = .ok v) : v.isMapping = false := by
  rw [WrittenMoment.value] at h
  split at h
  · split at h
    · cases h
      rfl
    · cases h
  · obtain ⟨offset, -, hmoment⟩ := Outcome.bind_eq_ok.1 h
    split at hmoment
    · cases hmoment
      rfl
    · cases hmoment

/-- A scalar stands for no mapping. -/
lemma isMapping_scalarValue {tag : Tag} {text : String} {v : Value}
    (h : scalarValue tag text = .ok v) : v.isMapping = false := by
  rw [scalarValue.eq_def] at h
  split at h
  · cases h
    rfl
  · obtain ⟨b, -, rfl⟩ := Outcome.map_eq_ok.1 h
    rfl
  · obtain ⟨n, -, rfl⟩ := Outcome.map_eq_ok.1 h
    rfl
  · obtain ⟨x, -, rfl⟩ := Outcome.map_eq_ok.1 h
    rfl
  · obtain ⟨content, -, rfl⟩ := Outcome.map_eq_ok.1 h
    rfl
  · split at h
    · exact WrittenMoment.isMapping_value h
    · cases h
  · cases h
    rfl
  · cases h

lemma Node.isMapping_scalarAt {nodes : List Node} {number : Nat} {v : Value}
    (h : Node.scalarAt nodes number = .ok v) : v.isMapping = false := by
  rw [Node.scalarAt] at h
  split at h
  case h_8 =>
    obtain ⟨text, -, h⟩ := Outcome.bind_eq_ok.1 h
    cases h
  case h_9 => cases h
  all_goals
    obtain ⟨text, -, hscalar⟩ := Outcome.bind_eq_ok.1 h
    exact isMapping_scalarValue hscalar

/-- Whether an item is a collection or a value that is no mapping. -/
def Item.IsPlain : Item → Prop
  | .value v => v.isMapping = false
  | .collection _ => True

/-- Whether no key comes twice in a collection that is a mapping, and what is under its keys is
plain. -/
def Collection.IsTidy : Collection → Prop
  | .mapping entries => DistinctKeys entries ∧ ∀ entry ∈ entries, entry.2.IsPlain
  | _ => True

namespace Document

/-- Whether all collections of a document are tidy. -/
structure IsTidy (d : Document) : Prop where
  collections : ∀ entry ∈ d.collections, entry.2.IsTidy
  root : d.root.IsPlain

/-! ## Filling collections -/

section Filling

variable {α β : Type} {expected : α → Prop} {wanted : β → Prop}

/-- Whether all that was filled up to here is tidy. -/
structure Progress.IsTidy (progress : Progress) : Prop where
  items : ∀ entry ∈ progress.items, entry.2.IsPlain
  collections : ∀ entry ∈ progress.collections, entry.2.IsTidy

/-- Whether a step keeps all tidy and gives what is expected. -/
def Fills (step : Filling α) (expected : α → Prop) : Prop :=
  ∀ before a after, before.IsTidy → step.run before = .ok (a, after) → after.IsTidy ∧ expected a

lemma fills_pure {a : α} (h : expected a) : Fills (pure a) expected := by
  rintro before a after hbefore hrun
  cases hrun
  exact ⟨hbefore, h⟩

lemma fills_refuse {refusal : Refusal} : Fills (refuse refusal : Filling α) expected := by
  rintro before a after - ⟨⟩

lemma Fills.bind {step : Filling α} {next : α → Filling β} (h : Fills step expected)
    (hnext : ∀ a, expected a → Fills (next a) wanted) : Fills (step >>= next) wanted := by
  intro before b after hbefore hrun
  obtain ⟨⟨a, between⟩, hstep, hrest⟩ := Outcome.bind_eq_ok.1 hrun
  obtain ⟨hbetween, ha⟩ := h before a between hbefore hstep
  exact hnext a ha between b after hbetween hrest

lemma Fills.mapM {step : β → Filling α} (h : ∀ b, Fills (step b) expected) (items : List β) :
    Fills (items.mapM step) (fun results => ∀ a ∈ results, expected a) := by
  induction items with
  | nil =>
    rw [List.mapM_nil]
    exact fills_pure (List.forall_mem_nil _)
  | cons item rest ih =>
    rw [List.mapM_cons]
    exact (h item).bind fun a ha => ih.bind fun results hresults =>
      fills_pure (List.forall_mem_cons.2 ⟨ha, hresults⟩)

lemma fills_item (number : Nat) : Fills (item number) Item.IsPlain := by
  intro before a after hbefore hrun
  change item number before = .ok (a, after) at hrun
  rw [item] at hrun
  split at hrun
  · rename_i entry hentry
    cases hrun
    exact ⟨hbefore, hbefore.items entry (List.mem_of_find?_eq_some hentry)⟩
  · have hmet : ∀ found : Item, found.IsPlain → ∀ waiting,
        Progress.IsTidy { before with items := (number, found) :: before.items, waiting := waiting }
          ∧ found.IsPlain := fun found hfound waiting =>
      ⟨⟨List.forall_mem_cons.2 ⟨hfound, hbefore.items⟩, hbefore.collections⟩, hfound⟩
    split at hrun
    case h_5 =>
      obtain ⟨v, hv, h⟩ := Outcome.bind_eq_ok.1 hrun
      cases h
      exact hmet (.value v) (Node.isMapping_scalarAt hv) _
    all_goals
      cases hrun
      exact hmet (.collection number) trivial _

lemma fills_get : Fills get Progress.IsTidy := by
  rintro before _ _ hbefore ⟨⟩
  exact ⟨hbefore, hbefore⟩

lemma fills_set {progress : Progress} (h : progress.IsTidy) :
    Fills (set progress) (fun _ => True) := by
  rintro before _ _ - ⟨⟩
  exact ⟨h, trivial⟩

lemma fills_modify {change : Progress → Progress}
    (h : ∀ before, before.IsTidy → (change before).IsTidy) :
    Fills (modify change) (fun _ => True) := by
  rintro before _ _ hbefore ⟨⟩
  exact ⟨h before hbefore, trivial⟩

lemma fills_onlyPair (number : Nat) : Fills (onlyPair number) (fun _ => True) := by
  rw [onlyPair]
  refine fills_get.bind fun progress _ => ?_
  split
  · exact (fills_item _).bind fun _ _ => (fills_item _).bind fun _ _ => fills_pure trivial
  · exact fills_refuse

lemma fills_entry (pair : Nat × Nat) : Fills (entry pair) (fun found => found.2.IsPlain) := by
  rw [entry]
  refine (fills_item _).bind fun key _ => ?_
  split
  · exact (fills_item _).bind fun found hfound => fills_pure hfound
  · exact fills_refuse

lemma distinctKeys_distinct (entries : List (Value × Item)) : DistinctKeys (distinct entries) :=
  Value.distinctKeys_foldl_store Prod.fst Prod.snd entries Value.distinctKeys_nil

lemma fills_entries (number : Nat) : Fills (entries number) (fun found =>
    DistinctKeys found ∧ ∀ entry ∈ found, entry.2.IsPlain) := by
  rw [entries]
  refine fills_get.bind fun progress hprogress => ?_
  have hflatten : Fills (liftM (Node.flatten (Node.mergeDepth progress.nodes) number |>.run
      progress.nodes) : Filling (Unit × List Node)) (fun _ => True) := by
    intro before a after hbefore hrun
    obtain ⟨found, -, h⟩ := Outcome.bind_eq_ok.1 hrun
    cases h
    exact ⟨hbefore, trivial⟩
  refine hflatten.bind fun (_, nodes) _ => ?_
  have hset := @fills_set { progress with nodes := nodes }
    ⟨hprogress.items, hprogress.collections⟩
  refine hset.bind fun _ _ => ?_
  refine (Fills.mapM fills_entry _).bind fun found hfound => fills_pure ⟨distinctKeys_distinct _, ?_⟩
  intro entry hentry
  obtain ⟨pair, hpair, hsnd⟩ | hnone := Value.mem_foldl_store hentry
  · exact hsnd ▸ hfound pair hpair
  · cases hnone

lemma fills_contents (number : Nat) : Fills (contents number) Collection.IsTidy := by
  rw [contents]
  refine fills_get.bind fun progress _ => ?_
  dsimp only
  split
  · exact (Fills.mapM fills_item _).bind fun _ _ => fills_pure trivial
  · exact (Fills.mapM fills_onlyPair _).bind fun _ _ => fills_pure trivial
  · exact (fills_entries number).bind fun found hfound => fills_pure hfound
  · exact (fills_entries number).bind fun found _ => fills_pure trivial
  · exact fills_refuse

lemma fills_fill (fuel : Nat) : Fills (fill fuel) (fun _ => True) := by
  induction fuel with
  | zero => exact fills_pure trivial
  | succ fuel ih =>
    rw [fill]
    refine fills_get.bind fun progress hprogress => ?_
    split
    · exact fills_pure trivial
    · rename_i number rest _
      have hset := @fills_set { progress with waiting := rest }
        ⟨hprogress.items, hprogress.collections⟩
      refine hset.bind fun _ _ => ?_
      refine (fills_contents number).bind fun found hfound => ?_
      refine (fills_modify fun before hbefore => ?_).bind fun _ _ => ih
      exact ⟨hbefore.items, List.forall_mem_cons.2 ⟨hfound, hbefore.collections⟩⟩

lemma isTidy_of_ofNodes {nodes : List Node} {root : Nat} {d : Document}
    (h : ofNodes nodes root = .ok d) : d.IsTidy := by
  obtain ⟨⟨item, progress⟩, hrun, h⟩ := Outcome.bind_eq_ok.1 h
  cases h
  have hfills : Fills (do
      let root ← Document.item root
      fill nodes.length
      return root) Item.IsPlain :=
    (fills_item root).bind fun found hfound => (fills_fill _).bind fun _ _ => fills_pure hfound
  obtain ⟨hprogress, hroot⟩ :=
    hfills _ _ _ ⟨List.forall_mem_nil _, List.forall_mem_nil _⟩ hrun
  exact ⟨hprogress.collections, hroot⟩

end Filling

/-! ## Values -/

section Values

variable {d : Document} {item : Item}

/-- A document without anything in it. -/
lemma isTidy_nothing : IsTidy ⟨[], .value .null⟩ :=
  ⟨List.forall_mem_nil _, rfl⟩

lemma IsTidy.of_collection? (h : d.IsTidy) {number : Nat} {found : Collection}
    (hfound : d.collection? number = some found) : found.IsTidy := by
  obtain ⟨entry, hentry, rfl⟩ := Option.map_eq_some_iff.1 hfound
  exact h.collections entry (List.mem_of_find?_eq_some hentry)

lemma IsTidy.of_entries? (h : d.IsTidy) {found : List (Value × Item)}
    (hfound : d.entries? item = some found) :
    DistinctKeys found ∧ ∀ entry ∈ found, entry.2.IsPlain := by
  cases item with
  | value v => cases hfound
  | collection number =>
    rw [entries?] at hfound
    split at hfound
    · rename_i entries hentries
      obtain rfl := Option.some.inj hfound
      exact h.of_collection? hentries
    · cases hfound

lemma isTidy_of_not_isMapping {v : Value} (h : v.isMapping = false) : v.isTidy = true := by
  cases v with
  | mapping entries => cases h
  | _ => rfl

/-- A mapping with the keys of a tidy one and other values is tidy if all its values are. -/
lemma isTidy_map {α : Type} {entries : List (Value × α)} (h : DistinctKeys entries)
    {inner : Value × α → Value} (hinner : ∀ entry ∈ entries, (inner entry).isTidy = true) :
    (Value.mapping (entries.map (fun entry => (entry.1, inner entry)))).isTidy = true := by
  refine Value.isTidy_mapping_iff.2 ⟨?_, List.forall_mem_map.2 hinner⟩
  rw [DistinctKeys, List.map_map]
  exact h

lemma isTidy_valueFrom (h : d.IsTidy) (fuel : Nat) (outer : List Nat) (hitem : item.IsPlain) :
    (d.valueFrom fuel outer item).isTidy = true := by
  induction fuel generalizing outer item with
  | zero =>
    cases item with
    | value v => exact isTidy_of_not_isMapping hitem
    | collection number => rfl
  | succ fuel ih =>
    cases item with
    | value v => exact isTidy_of_not_isMapping hitem
    | collection number =>
      rw [valueFrom]
      cases hfound : d.collection? number with
      | none => rfl
      | some found =>
        have htidy := h.of_collection? hfound
        cases found with
        | mapping entries =>
          dsimp only
          split
          · rfl
          · exact isTidy_map htidy.1 fun entry hentry => ih _ (htidy.2 entry hentry)
        | set keys => rfl
        | _ =>
          dsimp only
          split <;> rfl

/-- In no mapping of a value of a document does a key come twice, however deep it is inside it. -/
theorem isTidy_value (h : d.IsTidy) (hitem : item.IsPlain) : (d.value item).isTidy = true :=
  isTidy_valueFrom h _ _ hitem

end Values

end Document

/-- In no mapping of a document does a key come twice. -/
theorem isTidy_of_read {text : String} {d : Document} (h : read text = .ok d) : d.IsTidy := by
  rw [read] at h
  split at h
  · split at h
    · exact Document.isTidy_of_ofNodes h
    · cases h
      exact Document.isTidy_nothing
    · cases h
  · cases h

end Nullability.Yaml
