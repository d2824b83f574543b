import Nullability.Proofs.Settings.File
import Nullability.Settings.Load

/-!
# Sources of settings

Settings are put together from the caller's own values, the variables, the named file and the file
for all programs. These are laid over one another section by section. In each step a field of the
result is that of the upper pairs, if they have it, else that of the lower ones
(`Settings.Gives.mergeEntries`). Only mappings in the place of a field are merged further, and no
field is read from a mapping. So all sources together come to one layer, which gives each field as the
first source that supplies it (`Settings.exists_gives_of_load`).
-/

namespace Nullability.Settings

open Value (lookup? mergeEntries DistinctKeys)

/-! ## Sources -/

/-- What settings are put together from: the caller's own values, the variables with their names in
lower case, and the pairs of the named file and of the file for all programs. -/
structure Sources where
  values : List (Value × Value)
  texts : OrderedMap String String
  named : List (Value × Value)
  common : List (Value × Value)

/-- What some pairs give for a field of a section. -/
def fieldOf? (part name : String) (entries : List (Value × Value)) : Option Value :=
  (lookup? (.text part) entries).bind (Value.field? name)

/-- The pairs of a named file; without one there are none. -/
def entriesOfNamed (tree : FileTree) : Option Path → Except Failure (List (Value × Value))
  | none => .ok []
  | some path => entriesOfFile tree path

namespace Sources

/-- The sources of an environment, with the files in a tree. -/
def read (env : Environment) (tree : FileTree) (common : Path) (named : Option Path)
    (values : List (Value × Value)) : Except Failure Sources := do
  let lower ← entriesOfFile tree common
  let upper ← entriesOfNamed tree named
  return ⟨values, lowerVariables env, upper, lower⟩

/-- Whether every source that mentions a section gives a mapping for it. -/
def haveSections (s : Sources) : Bool :=
  sectionKeys.all fun part =>
    (lookup? (.text part) s.values).all Value.isMapping && isJsonObject s.texts part &&
      (lookup? (.text part) s.named).all Value.isMapping &&
      (lookup? (.text part) s.common).all Value.isMapping

/-- Whether no key comes twice in the caller's own values and in their sections. -/
def haveDistinctKeys (s : Sources) : Bool :=
  decide (DistinctKeys s.values) && sectionKeys.all fun part =>
    match lookup? (.text part) s.values with
    | some (.mapping entries) => decide (DistinctKeys entries)
    | _ => true

/-- The value of a field in the first source that supplies it. The variable for the field alone
comes before the object for its section. -/
def inOrder? (s : Sources) (part name : String) : Option Value :=
  (fieldOf? part name s.values).or ((ofVariable? s.texts part name).or
    ((lastSpelled? name (jsonObject s.texts part)).or
      ((fieldOf? part name s.named).or (fieldOf? part name s.common))))

/-- The value that is supplied for a field: that of the first source, but if the object for its
section respells the field, the last value there counts before the variable for the field. -/
def field? (s : Sources) (part name : String) : Option Value :=
  let object := jsonObject s.texts part
  if isRespelled name object then (fieldOf? part name s.values).or (lastSpelled? name object)
  else s.inOrder? part name

/-- A field is that of the caller, of all variables together, or of the files. -/
lemma field?_eq (s : Sources) (part name : String) : s.field? part name =
    (fieldOf? part name s.values).or ((ofVariables? s.texts part name).or
      ((fieldOf? part name s.named).or (fieldOf? part name s.common))) := by
  rw [field?, ofVariables?]
  split
  · rename_i hrespelled
    obtain ⟨v, hv⟩ := Option.isSome_iff_exists.1 (isSome_lastSpelled?_of_isRespelled hrespelled)
    rw [hv, Option.some_or]
  · rw [inOrder?, Option.or_assoc]

end Sources

/-! ## Layers -/

section Layers

variable {part : String} {lower upper : List (Value × Value)}

/-- Whether pairs give a section as a mapping, or not at all, with the fields that are expected. -/
structure Gives (part : String) (entries : List (Value × Value))
    (expected : String → Option Value) : Prop where
  mapping : (lookup? (.text part) entries).all Value.isMapping = true
  fields : ∀ name ∈ fieldNames part, Agrees (fieldOf? part name entries) (expected name)

lemma Gives.refl {entries : List (Value × Value)}
    (h : (lookup? (.text part) entries).all Value.isMapping = true) :
    Gives part entries (fun name => fieldOf? part name entries) :=
  ⟨h, fun _ _ => .refl _⟩

/-- Pairs laid over other pairs give the fields of both, their own ones first. -/
lemma Gives.mergeEntries {expected below : String → Option Value}
    (hupper : Gives part upper expected) (hlower : Gives part lower below)
    (hdistinct : DistinctKeys upper) (hsection : IsSection (lookup? (.text part) upper)) :
    Gives part (mergeEntries lower upper) (fun name => (expected name).or (below name)) := by
  have hlookup : lookup? (.text part) (Value.mergeEntries lower upper) =
      ((lookup? (.text part) upper).map (Value.mergeUnder (lookup? (.text part) lower))).or
        (lookup? (.text part) lower) := Value.lookup?_mergeEntries hdistinct
  -- it is enough to find the fields of both, as they are merged, in the result
  suffices hresult : (lookup? (.text part) (Value.mergeEntries lower upper)).all
      Value.isMapping = true ∧ ∀ name, ∃ under,
        fieldOf? part name (Value.mergeEntries lower upper) =
          ((fieldOf? part name upper).map (Value.mergeUnder under)).or
            (fieldOf? part name lower) by
    refine ⟨hresult.1, fun name hname => ?_⟩
    obtain ⟨under, hfield⟩ := hresult.2 name
    rw [hfield]
    exact (hupper.fields name hname).layOver under (hlower.fields name hname)
  cases hup : lookup? (.text part) upper with
  | none =>
    rw [hup, Option.map_none, Option.none_or] at hlookup
    refine ⟨hlookup ▸ hlower.mapping, fun name => ⟨none, ?_⟩⟩
    rw [fieldOf?, hlookup, fieldOf?, hup]
    rfl
  | some v =>
    obtain ⟨entries, rfl, hentries⟩ := hsection v hup
    rw [hup, Option.map_some, Option.some_or] at hlookup
    cases hlow : lookup? (.text part) lower with
    | none =>
      rw [hlow, Value.mergeUnder_none] at hlookup
      have hid : Value.mergeUnder none = id := funext Value.mergeUnder_none
      refine ⟨by rw [hlookup]; rfl, fun name => ⟨none, ?_⟩⟩
      rw [fieldOf?, hlookup, fieldOf?, hup, fieldOf?, hlow, hid, Option.map_id, Option.bind_none,
        Option.or_none]
      rfl
    | some w =>
      obtain ⟨under, rfl⟩ := Value.isMapping_iff.1 (by simpa [hlow] using hlower.mapping)
      rw [hlow] at hlookup
      refine ⟨by rw [hlookup]; rfl, fun name => ⟨lookup? (.text name) under, ?_⟩⟩
      rw [fieldOf?, hlookup, fieldOf?, hup, fieldOf?, hlow]
      exact Value.lookup?_mergeEntries hentries

lemma lookup?_ofEntries (key : Value) (entries : List (Value × Value)) :
    lookup? key (Layer.ofEntries entries) = (lookup? key entries).map Given.value := by
  induction entries with
  | nil => rfl
  | cons entry rest ih =>
    obtain ⟨k, v⟩ := entry
    rw [Layer.ofEntries, List.map_cons, Value.lookup?_cons, Value.lookup?_cons]
    split
    · rfl
    · exact ih

lemma store_ofEntries (key v : Value) (entries : List (Value × Value)) :
    Value.store key (Given.value v) (Layer.ofEntries entries) =
      Layer.ofEntries (Value.store key v entries) := by
  induction entries with
  | nil => rfl
  | cons entry rest ih =>
    obtain ⟨k, w⟩ := entry
    rw [Layer.ofEntries, List.map_cons, Value.store, Value.store]
    split
    · rfl
    · exact congrArg _ ih

lemma putOver_value (lower : Option Value) (v : Value) :
    Layer.putOver (lower.map Given.value) (.value v) = .value (Value.mergeUnder lower v) := by
  cases lower with
  | none => rw [Value.mergeUnder_none]; rfl
  | some under => rfl

/-- Layers of plain values are laid over one another as their pairs are merged. -/
lemma overlay_ofEntries (lower upper : List (Value × Value)) :
    (Layer.ofEntries lower).overlay (Layer.ofEntries upper) =
      Layer.ofEntries (mergeEntries lower upper) := by
  induction upper generalizing lower with
  | nil => rfl
  | cons entry rest ih =>
    obtain ⟨key, v⟩ := entry
    rw [Value.mergeEntries, ← ih, ← store_ofEntries, ← putOver_value, ← lookup?_ofEntries]
    rfl

end Layers

/-! ## All sources together -/

section Together

variable {env : Environment} {tree : FileTree} {common path : Path} {named : Option Path}
  {values : List (Value × Value)} {s : Sources} {settings : Settings}

/-- What the sources are if they can be read. -/
lemma Sources.read_eq_ok : Sources.read env tree common named values = .ok s ↔
    entriesOfFile tree common = .ok s.common ∧ entriesOfNamed tree named = .ok s.named ∧
      s.texts = lowerVariables env ∧ s.values = values := by
  constructor
  · intro h
    obtain ⟨lower, hlower, h⟩ := Outcome.bind_eq_ok.1 h
    obtain ⟨upper, hupper, h⟩ := Outcome.bind_eq_ok.1 h
    obtain rfl := Except.ok.inj h
    exact ⟨hlower, hupper, rfl, rfl⟩
  · obtain ⟨given, texts, upper, lower⟩ := s
    rintro ⟨hlower, hupper, rfl, rfl⟩
    exact Outcome.bind_eq_ok.2 ⟨lower, hlower, Outcome.bind_eq_ok.2 ⟨upper, hupper, rfl⟩⟩

/-- Beside another file a file gives the fields that it gives alone. -/
lemma gives_entriesBeside {d other : Yaml.Document} {part : String} (hd : d.IsTidy)
    (hpart : part ∈ sectionKeys)
    (hmapping : (lookup? (.text part) (entriesOf d)).all Value.isMapping = true) :
    Gives part (entriesBeside d other) (fun name => fieldOf? part name (entriesOf d)) :=
  ⟨isMapping_section_entriesBeside hd hpart hmapping,
    fun _ hname => agrees_field?_entriesBeside hd hpart hname⟩

/-- The files together give the fields of the named file, and below them those of the file for all
programs. -/
lemma gives_entriesOfFiles {files : List (Value × Value)} {part : String}
    (hread : Sources.read env tree common named values = .ok s) (hpart : part ∈ sectionKeys)
    (hmappingNamed : (lookup? (.text part) s.named).all Value.isMapping = true)
    (hmappingCommon : (lookup? (.text part) s.common).all Value.isMapping = true)
    (h : entriesOfFiles tree common named = .ok files) :
    Gives part files
      (fun name => (fieldOf? part name s.named).or (fieldOf? part name s.common)) := by
  obtain ⟨hcommon, hnamed, -, -⟩ := Sources.read_eq_ok.1 hread
  obtain ⟨lower, hlower, h⟩ := Outcome.bind_eq_ok.1 h
  have hentriesCommon : entriesOf lower = s.common := by
    rw [entriesOfFile, hlower] at hcommon
    exact Except.ok.inj hcommon
  rw [← hentriesCommon] at hmappingCommon ⊢
  cases named with
  | none =>
    obtain rfl := Except.ok.inj h
    rw [← Except.ok.inj hnamed]
    exact .refl hmappingCommon
  | some path =>
    obtain ⟨isThere, -, h⟩ := Outcome.bind_eq_ok.1 h
    split at h
    · obtain ⟨upper, hupper, h⟩ := Outcome.bind_eq_ok.1 h
      have hentriesNamed : entriesOf upper = s.named := by
        rw [entriesOfNamed, entriesOfFile, hupper] at hnamed
        exact Except.ok.inj hnamed
      rw [← hentriesNamed] at hmappingNamed ⊢
      have hlowerTidy := isTidy_of_documentOfFile hlower
      have hupperTidy := isTidy_of_documentOfFile hupper
      rw [mergedDocuments] at h
      split at h
      · cases h
      · obtain rfl := Except.ok.inj h
        have hgives := @gives_entriesBeside upper lower part hupperTidy hpart hmappingNamed
        exact hgives.mergeEntries (gives_entriesBeside hlowerTidy hpart hmappingCommon)
          (Value.isTidy_mapping_iff.1 (isTidy_entriesBeside hupperTidy)).1
          (isSection_entriesBeside hupperTidy hgives.mapping)
    · cases h

/-- Settings that are loaded are those of one layer that gives what the sources supply. -/
lemma exists_gives_of_load (hread : Sources.read env tree common named values = .ok s)
    (hvalues : s.haveDistinctKeys = true) (hsections : s.haveSections = true)
    (h : load env tree common named (Layer.ofEntries values) = .ok settings) :
    ∃ entries, ofLayers env (Layer.ofEntries entries) = .ok settings ∧
      ∀ part ∈ sectionKeys, Gives part entries (s.field? part) := by
  obtain ⟨files, hfiles, h⟩ := Outcome.bind_eq_ok.1 h
  obtain ⟨layer, hlayer, h⟩ := Outcome.bind_eq_ok.1 h
  obtain ⟨surroundings, rfl, hdistinct, hfound⟩ := variableLayer_facts hlayer
  rw [overlay_ofEntries, overlay_ofEntries] at h
  refine ⟨_, h, fun part hpart => ?_⟩
  obtain ⟨hcommon, hnamed, htexts, hgiven⟩ := Sources.read_eq_ok.1 hread
  rw [Sources.haveDistinctKeys, Bool.and_eq_true, decide_eq_true_iff] at hvalues
  have hmappings := List.all_eq_true.1 hsections part hpart
  simp only [Bool.and_eq_true] at hmappings
  obtain ⟨⟨⟨hmappingValues, hobject⟩, hmappingNamed⟩, hmappingCommon⟩ := hmappings
  have hsectionValues : IsSection (lookup? (.text part) s.values) := by
    intro v hv
    have hpartValues := List.all_eq_true.1 hvalues.2 part hpart
    rw [hv] at hmappingValues hpartValues
    obtain ⟨entries, rfl⟩ := Value.isMapping_iff.1 hmappingValues
    exact ⟨entries, rfl, of_decide_eq_true hpartValues⟩
  rw [htexts] at hobject
  obtain ⟨hsectionTexts, hfields⟩ :=
    sectionValue?_facts (isSmall_lowerVariables env) hpart hobject (hfound part hpart)
  have hgivesTexts : Gives part surroundings (ofVariables? s.texts part) := by
    refine ⟨?_, fun name hname => htexts ▸ hfields name hname⟩
    cases hlookup : lookup? (.text part) surroundings with
    | none => rfl
    | some v =>
      obtain ⟨entries, rfl, -⟩ := hsectionTexts v hlookup
      rfl
  have hgivesFiles := gives_entriesOfFiles hread hpart hmappingNamed hmappingCommon hfiles
  rw [← hgiven, funext (s.field?_eq part)]
  exact (Gives.refl hmappingValues).mergeEntries
    (hgivesTexts.mergeEntries hgivesFiles hdistinct hsectionTexts) hvalues.1 hsectionValues

end Together

end Nullability.Settings
