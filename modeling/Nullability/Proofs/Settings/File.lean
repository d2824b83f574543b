import Nullability.Proofs.FileTree.Content
import Nullability.Proofs.Settings.Variables
import Nullability.Proofs.Yaml.Document
import Nullability.Settings.File

/-!
# What is read from settings files

In the entries of a settings file no key comes twice, however deep (`Settings.isTidy_entriesBeside`).
A file that is to be merged with another one is read further, down to the mappings in both of them.
All fields but those that are mappings have the same values as in the file alone
(`Settings.agrees_fieldOf?_entriesBeside`).
-/

namespace Nullability.Settings

open Value (lookup? DistinctKeys)
open Yaml (Document Item)

section Reading

variable {d other : Document} {item : Item} {role : Role} {beside : Option Item} {fuel : ℕ}

/-! ## Tidiness -/

lemma isTidy_valueBeside (h : d.IsTidy) (hitem : item.IsPlain) :
    (valueBeside d other fuel role beside item).isTidy = true := by
  induction fuel generalizing role beside item with
  | zero => exact Document.isTidy_value h hitem
  | succ fuel ih =>
    rw [valueBeside]
    split
    · rename_i entries _ hentries
      split
      · obtain ⟨hdistinct, hplain⟩ := h.of_entries? hentries
        exact Document.isTidy_map hdistinct fun entry hentry => ih (hplain entry hentry)
      · exact Document.isTidy_value h hitem
    · split
      · rfl
      · exact Document.isTidy_value h hitem
    · exact Document.isTidy_value h hitem

/-- In the entries of a settings file no key comes twice, neither at the top nor below it. -/
theorem isTidy_entriesBeside (h : d.IsTidy) :
    (Value.mapping (entriesBeside d other)).isTidy = true := by
  rw [entriesBeside]
  split
  · rename_i entries hentries
    rw [← hentries]
    exact isTidy_valueBeside h h.root
  · rfl

/-! ## Mappings and other items -/

lemma isMapping_value (hitem : item.IsPlain) (hentries : d.entries? item = none) :
    (d.value item).isMapping = false := by
  cases item with
  | value v => exact hitem
  | collection number =>
    rw [Document.value, Document.valueFrom]
    rw [Document.entries?] at hentries
    cases hfound : d.collection? number with
    | none => rfl
    | some found =>
      rw [hfound] at hentries
      cases found with
      | mapping entries => cases hentries
      | _ => rfl

lemma isMapping_valueBeside (hitem : item.IsPlain) (hentries : d.entries? item = none) :
    (valueBeside d other fuel role beside item).isMapping = false := by
  cases fuel with
  | zero => exact isMapping_value hitem hentries
  | succ fuel =>
    rw [valueBeside, hentries]
    cases d.items? item with
    | none => exact isMapping_value hitem hentries
    | some items =>
      dsimp only
      split
      · rfl
      · exact isMapping_value hitem hentries

/-! ## Parts read to their ends -/

/-- How deep a file is read part by part below what stands somewhere. -/
def Role.depth : Role → ℕ
  | settings => 4
  | log => 3
  | outputs => 2
  | output | part => 1
  | field => 0

lemma Role.depth_ofKey (role : Role) (key : Value) : (role.ofKey key).depth ≤ role.depth - 1 := by
  rw [Role.ofKey.eq_def]
  split
  · split
    · exact le_rfl
    · split <;> decide
  · split <;> decide
  · exact Nat.zero_le _

lemma Role.depth_ofItems (role : Role) : role.ofItems.depth ≤ role.depth - 1 := by
  cases role <;> decide

lemma Role.opens_of_depth (h : role.depth = 0) :
    role.opensMapping = false ∧ role.opensList = false := by
  cases role <;> first | exact ⟨rfl, rfl⟩ | cases h

/-- A field is read as a whole if nothing is to be merged into it. -/
lemma valueBeside_of_field (h : role.depth = 0) (hbeside : beside.bind other.entries? = none) :
    valueBeside d other fuel role beside item = d.value item := by
  cases fuel with
  | zero => rfl
  | succ fuel =>
    obtain ⟨hmapping, hlist⟩ := Role.opens_of_depth h
    rw [valueBeside, hbeside, hmapping, hlist]
    cases d.entries? item <;> cases d.items? item <;> rfl

/-- Where nothing is to be merged, only the parts of a file are read one by one. The other document
does not matter then, and neither does how deep the parts might be read. -/
lemma valueBeside_alone {more : Document} {fuel' : ℕ} (h : role.depth ≤ fuel)
    (h' : role.depth ≤ fuel') :
    valueBeside d other fuel role none item = valueBeside d more fuel' role none item := by
  induction fuel generalizing role item fuel' with
  | zero =>
    rw [valueBeside_of_field (Nat.le_zero.1 h) rfl, valueBeside_of_field (Nat.le_zero.1 h) rfl]
  | succ fuel ih =>
    cases fuel' with
    | zero =>
      rw [valueBeside_of_field (Nat.le_zero.1 h') rfl, valueBeside_of_field (Nat.le_zero.1 h') rfl]
    | succ fuel' =>
      have hkey (key : Value) (inner : Item) :
          valueBeside d other fuel (role.ofKey key) none inner =
            valueBeside d more fuel' (role.ofKey key) none inner := by
        have hdepth := role.depth_ofKey key
        exact ih (by omega) (by omega)
      have hitems : valueBeside d other fuel role.ofItems none =
          valueBeside d more fuel' role.ofItems none := by
        have hdepth := role.depth_ofItems
        exact funext fun inner => ih (by omega) (by omega)
      rw [valueBeside, valueBeside, hitems]
      simp only [Option.bind_none, hkey]

/-- Where one of two items is no mapping, nothing is merged. -/
lemma valueBeside_of_unmerged (h : d.entries? item = none ∨ beside.bind other.entries? = none) :
    valueBeside d other fuel role beside item = valueBeside d other fuel role none item := by
  cases fuel with
  | zero => rfl
  | succ fuel =>
    rw [valueBeside, valueBeside]
    obtain hentries | hothers := h
    · rw [hentries]
      cases d.items? item <;> rfl
    · have hunder (key : Value) : beside.bind (under? other key) = none := by
        change (beside.bind fun found => (other.entries? found).bind (lookup? key)) = none
        rw [← Option.bind_assoc, hothers, Option.bind_none]
      simp only [hothers, hunder, Option.bind_none]

/-! ## Fields -/

variable {part name : String} {α β : Type}

/-- What is under a text in pairs whose values were worked on. -/
lemma lookup?_map_text (f : Value → α → β) (entries : List (Value × α)) :
    lookup? (.text name) (entries.map (fun entry => (entry.1, f entry.1 entry.2))) =
      (lookup? (.text name) entries).map (f (.text name)) := by
  induction entries with
  | nil => rfl
  | cons entry rest ih =>
    obtain ⟨key, a⟩ := entry
    rw [List.map_cons, Value.lookup?_cons, Value.lookup?_cons, ih]
    split
    · rename_i hsame
      rw [(Value.sameKey_text_iff _ _).1 hsame]
      rfl
    · rfl

/-- What is under a text in an item that is read part by part. -/
lemma field?_valueBeside (hitem : item.IsPlain)
    (hopens : role.opensMapping = true) :
    Value.field? name (valueBeside d other (fuel + 1) role beside item) =
      (under? d (.text name) item).map (valueBeside d other fuel (role.ofKey (.text name))
        (beside.bind (under? other (.text name)))) := by
  cases hentries : d.entries? item with
  | none =>
    rw [under?, hentries]
    have hmapping := @isMapping_valueBeside d other item role beside (fuel + 1) hitem hentries
    cases hvalue : valueBeside d other (fuel + 1) role beside item with
    | mapping entries =>
      rw [hvalue] at hmapping
      cases hmapping
    | _ => rfl
  | some entries =>
    rw [under?, hentries, valueBeside, hentries, hopens]
    exact lookup?_map_text (fun key inner => valueBeside d other fuel (role.ofKey key)
      (beside.bind (under? other key)) inner) entries

/-- What is found in the entries of a file under a text. -/
lemma lookup?_entriesBeside (h : d.IsTidy) :
    lookup? (.text name) (entriesBeside d other) =
      (under? d (.text name) d.root).map (valueBeside d other (meetingBound d other + 3)
        (Role.settings.ofKey (.text name)) (under? other (.text name) other.root)) := by
  have hfield : lookup? (.text name) (entriesBeside d other) = Value.field? name
      (valueBeside d other (meetingBound d other + 4) .settings (some other.root) d.root) := by
    rw [entriesBeside]
    cases valueBeside d other (meetingBound d other + 4) .settings (some other.root) d.root <;> rfl
  rw [hfield, field?_valueBeside h.root rfl, Option.bind_some]

/-- A field is read like that of the file alone, unless a mapping is to be merged into it. -/
lemma agrees_valueBeside {more : Document} {fuel' : ℕ} (h : role.depth ≤ fuel)
    (h' : role.depth ≤ fuel') (hopens : role.opensMapping = false) :
    Agrees (some (valueBeside d other fuel role beside item))
      (some (valueBeside d more fuel' role none item)) := by
  cases fuel with
  | zero => exact .inl (congrArg some (valueBeside_of_field (Nat.le_zero.1 h) rfl).symm)
  | succ fuel =>
    rw [← @valueBeside_alone d other item role _ more fuel' h h']
    cases hentries : d.entries? item with
    | none => exact .inl (congrArg some (valueBeside_of_unmerged (.inl hentries)))
    | some entries =>
      rw [valueBeside, valueBeside, hentries, hopens]
      dsimp only
      split
      · exact .inr ⟨_, rfl, rfl⟩
      · exact .refl _

lemma opensMapping_of_mem (hpart : part ∈ sectionKeys) :
    (Role.settings.ofKey (.text part)).opensMapping = true := by
  revert part
  decide

lemma role_of_mem (hpart : part ∈ sectionKeys) (hname : name ∈ fieldNames part) :
    let role := (Role.settings.ofKey (.text part)).ofKey (.text name)
    role.depth ≤ 2 ∧ role.opensMapping = false := by
  have hall : (sectionKeys.all fun part => (fieldNames part).all fun name =>
      let role := (Role.settings.ofKey (.text part)).ofKey (.text name)
      decide (role.depth ≤ 2) && !role.opensMapping) = true := by
    decide
  have hfacts := List.all_eq_true.1 (List.all_eq_true.1 hall part hpart) name hname
  rwa [Bool.and_eq_true, decide_eq_true_iff, Bool.not_eq_true'] at hfacts

/-- Beside another file the fields of a file are those of the file alone, or mappings. -/
theorem agrees_field?_entriesBeside (h : d.IsTidy) (hpart : part ∈ sectionKeys)
    (hname : name ∈ fieldNames part) :
    Agrees ((lookup? (.text part) (entriesBeside d other)).bind (Value.field? name))
      ((lookup? (.text part) (entriesOf d)).bind (Value.field? name)) := by
  obtain ⟨hdepth, hclosed⟩ := role_of_mem hpart hname
  rw [entriesOf, lookup?_entriesBeside h, lookup?_entriesBeside h]
  cases hinner : under? d (.text part) d.root with
  | none => exact .refl _
  | some inner =>
    obtain ⟨entries, hentries, hfound⟩ := Option.bind_eq_some_iff.1 hinner
    obtain ⟨entry, hentry, rfl⟩ := Value.exists_mem_of_lookup? hfound
    have hplain := (h.of_entries? hentries).2 entry hentry
    have hopens := opensMapping_of_mem hpart
    rw [Option.map_some, Option.map_some, Option.bind_some, Option.bind_some,
      field?_valueBeside hplain hopens, field?_valueBeside hplain hopens]
    cases under? d (.text name) entry.2 with
    | none => exact .refl _
    | some field => exact agrees_valueBeside (by omega) (by omega) hclosed

/-- Beside another file a section of a file is a mapping if it is one in the file alone. -/
lemma isMapping_section_entriesBeside (h : d.IsTidy) (hpart : part ∈ sectionKeys)
    (hmapping : (lookup? (.text part) (entriesOf d)).all Value.isMapping = true) :
    (lookup? (.text part) (entriesBeside d other)).all Value.isMapping = true := by
  rw [entriesOf, lookup?_entriesBeside h] at hmapping
  rw [lookup?_entriesBeside h]
  cases hinner : under? d (.text part) d.root with
  | none => rfl
  | some inner =>
    obtain ⟨entries, hentries, hfound⟩ := Option.bind_eq_some_iff.1 hinner
    obtain ⟨entry, hentry, rfl⟩ := Value.exists_mem_of_lookup? hfound
    rw [hinner, Option.map_some, Option.all_some] at hmapping
    rw [Option.map_some, Option.all_some]
    cases hinside : d.entries? entry.2 with
    | none =>
      rw [isMapping_valueBeside ((h.of_entries? hentries).2 entry hentry) hinside] at hmapping
      cases hmapping
    | some inside =>
      rw [valueBeside, hinside, opensMapping_of_mem hpart]
      rfl

/-- If a section in the entries of a file is a mapping, no key comes twice in it. -/
lemma isSection_entriesBeside (h : d.IsTidy)
    (hmapping : (lookup? (.text part) (entriesBeside d other)).all Value.isMapping = true) :
    IsSection (lookup? (.text part) (entriesBeside d other)) := by
  intro v hv
  rw [hv] at hmapping
  obtain ⟨inner, rfl⟩ := Value.isMapping_iff.1 hmapping
  have htidy := Value.isTidy_of_lookup? (isTidy_entriesBeside h) hv
  exact ⟨inner, rfl, (Value.isTidy_mapping_iff.1 htidy).1⟩

end Reading

/-! ## Documents in files -/

section Files

variable {tree : FileTree} {path : Path} {d : Document}

lemma isTidy_of_documentOfContent {content : List UInt8}
    (h : documentOfContent path content = .ok d) : d.IsTidy := by
  rw [documentOfContent] at h
  split at h
  · cases h
  · split at h
    · cases h
    · rename_i hread
      split at h
      · obtain rfl := Except.ok.inj h
        exact Yaml.isTidy_of_read hread
      · obtain rfl := Except.ok.inj h
        exact Yaml.isTidy_of_read hread
      · cases h

lemma isTidy_of_documentOfFile (h : documentOfFile tree path = .ok d) : d.IsTidy := by
  obtain ⟨isThere, -, h⟩ := Outcome.bind_eq_ok.1 h
  split at h
  · obtain ⟨content, -, hcontent⟩ := Outcome.bind_eq_ok.1 h
    exact isTidy_of_documentOfContent hcontent
  · obtain rfl := Except.ok.inj h
    exact Document.isTidy_nothing

end Files

end Nullability.Settings
