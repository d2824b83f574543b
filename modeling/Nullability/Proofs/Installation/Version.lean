import Nullability.Proofs.Installation.Scan
import Nullability.Proofs.Text.Digits

/-!
# Names of versions

A name tells a version if it consists of two to four numerals with a point between two of them; the
numerals may be of any scripts and have leading zeros. All other names tell none. Versions that are
written out tell themselves, so two packages whose folders have the names of different versions are
never equal in the order of the scan (`ofName_exact`).
-/

namespace Nullability

namespace Installation

variable {tree : FileTree} {locations : Locations} {settings : ScannerSettings} {name : String}
  {a b installation : Installation}

/-! ## Order -/

/-- Whether the order of the scan puts an installation before another one and does not leave that to
where they were found. -/
def ScannedBefore (a b : Installation) : Prop :=
  le a b = true ∧ le b a = false

lemma version_le_eq_false {a b : PackageVersion} (h : a < b) : PackageVersion.le b a = false := by
  rw [Bool.eq_false_iff]
  intro hle
  cases lt_or_eq_of_version_le hle with
  | inl hlt => exact List.lt_asymm h hlt
  | inr heq => exact List.lt_irrefl a (heq ▸ h)

lemma scannedBefore_of_version_lt (hcategory : a.category = b.category) (hscope : a.scope = b.scope)
    (h : a.version < b.version) : ScannedBefore a b := by
  have hlater := version_le_eq_false h
  have htotal := version_le_total a.version b.version
  rw [hlater, Bool.or_false] at htotal
  simp [ScannedBefore, le, hcategory, hscope, hlater, htotal]

/-! ## Packages -/

/-- Whether an installation is that of a package in the folder with some name. -/
structure IsPackage (tree : FileTree) (locations : Locations) (settings : ScannerSettings)
    (name : String) (installation : Installation) : Prop where
  installed : Installed tree locations settings installation
  scope : installation.scope = .package
  ownName : installation.ownName = name

/-- Packages have one category, and the versions that the names of their folders tell. -/
lemma IsPackage.told (h : IsPackage tree locations settings name installation) :
    installation.category = .annotations ∧
      PackageVersion.ofName name = .ok (some installation.version) := by
  obtain ⟨hinstalled, hscope, hname⟩ := h
  cases hinstalled with
  | platform hroot =>
    obtain rfl := hscope
    cases hroot
  | package _ hversion hpath =>
    subst hpath
    rw [← hname]
    exact ⟨rfl, (congrArg PackageVersion.ofName (ownName_package _ _)).trans hversion⟩

end Installation

namespace PackageVersion

open Installation

variable {name component : String} {components : List String} {version a b : PackageVersion}
  {tree : FileTree} {locations : Locations} {settings : ScannerSettings}
  {installation first second : Installation}

/-- Whether a name consists of the numerals of a version, two to four of them, with a point between
two of them. -/
def Names (name : String) (version : PackageVersion) : Prop :=
  ∃ numerals : List String, 2 ≤ numerals.length ∧ numerals.length ≤ 4 ∧
    name = Text.join '.' numerals ∧ List.Forall₂ Text.IsNumeral numerals version

/-- Whether a version has two to four numbers, none with more digits than are read. -/
structure IsWritable (version : PackageVersion) : Prop where
  two_le : 2 ≤ version.length
  le_four : version.length ≤ 4
  digits : ∀ n ∈ version, (Nat.digits 10 n).length ≤ digitLimit

/-! ## Numerals -/

lemma numeral_iff {n : Nat} : Text.IsNumeral component n ↔
    isNumeral component = true ∧ Text.decimalNumber component.toList = n := by
  have hcomponent : isNumeral component = true ↔
      component.toList ≠ [] ∧ ∀ c ∈ component.toList, Text.isDecimal c = true := by
    simp [isNumeral]
  rw [Text.isNumeral_iff, hcomponent, and_assoc]

/-- Components are numerals of the numbers that are read from them. -/
lemma numerals_iff : List.Forall₂ Text.IsNumeral components version ↔
    components.all isNumeral = true ∧
      components.map (fun component => Text.decimalNumber component.toList) = version := by
  have hpointwise : Text.IsNumeral = fun component n =>
      isNumeral component = true ∧ Text.decimalNumber component.toList = n :=
    funext₂ fun _ _ => propext numeral_iff
  rw [hpointwise, List.forall₂_and_left, List.all_eq_true, ← List.forall₂_eq_eq_eq,
    List.forall₂_map_left_iff]

/-- There is no point in a numeral, so numerals are found again where they were joined. -/
lemma split_join_numerals (h : List.Forall₂ Text.IsNumeral components version)
    (htwo : 2 ≤ components.length) : Text.split '.' (Text.join '.' components) = components := by
  have hall := List.all_eq_true.1 (numerals_iff.1 h).1
  apply Text.split_join
  · exact List.ne_nil_of_length_pos (Nat.zero_lt_of_lt htwo)
  · intro component hcomponent
    exact (numeral_iff.2 ⟨hall component hcomponent, rfl⟩).not_mem (by decide +kernel)

/-- Each number of a version is written as a numeral of itself. -/
lemma numerals_toString (version : PackageVersion) :
    List.Forall₂ Text.IsNumeral (version.map toString) version := by
  rw [List.forall₂_map_left_iff, List.forall₂_same]
  exact fun n _ => Text.isNumeral_toString n

lemma mapM_number (h : ∀ component ∈ components, component.length ≤ digitLimit) :
    components.mapM number =
      .ok (components.map (fun component => Text.decimalNumber component.toList)) := by
  rw [Outcome.mapM_eq_ok, List.forall₂_map_right_iff, List.forall₂_same]
  exact fun component hcomponent => if_neg (Nat.not_lt.2 (h component hcomponent))

/-! ## Names -/

/-- The numerals of a name are its components. -/
lemma names_iff : Names name version ↔ 2 ≤ (Text.split '.' name).length ∧
    (Text.split '.' name).length ≤ 4 ∧
    List.Forall₂ Text.IsNumeral (Text.split '.' name) version := by
  constructor
  · rintro ⟨numerals, htwo, hfour, rfl, hnumerals⟩
    rw [split_join_numerals hnumerals htwo]
    exact ⟨htwo, hfour, hnumerals⟩
  · rintro ⟨htwo, hfour, hnumerals⟩
    exact ⟨_, htwo, hfour, (Text.join_split '.' name).symm, hnumerals⟩

/-- A name whose components are not too long is read, and it tells the version that it names. -/
lemma exists_ofName_iff_names
    (h : ∀ component ∈ Text.split '.' name, component.length ≤ digitLimit) :
    ∃ answer, ofName name = .ok answer ∧
      ∀ version, answer = some version ↔ Names name version := by
  by_cases hname : 2 ≤ (Text.split '.' name).length ∧ (Text.split '.' name).length ≤ 4 ∧
      (Text.split '.' name).all isNumeral = true
  · refine ⟨_, by rw [ofName, if_pos hname, mapM_number h]; rfl, fun version => ?_⟩
    obtain ⟨htwo, hfour, hall⟩ := hname
    rw [names_iff, numerals_iff, Option.some_inj]
    exact ⟨fun hversion => ⟨htwo, hfour, hall, hversion⟩, fun hnames => hnames.2.2.2⟩
  · refine ⟨none, by rw [ofName, if_neg hname], fun version => ?_⟩
    rw [names_iff, numerals_iff]
    constructor
    · intro hnone
      cases hnone
    · intro hnames
      exact absurd ⟨hnames.1, hnames.2.1, hnames.2.2.1⟩ hname

namespace IsWritable

lemma two_le_toString (h : IsWritable version) : 2 ≤ (version.map toString).length := by
  rw [List.length_map]
  exact h.two_le

lemma names (h : IsWritable version) : Names version.render version := by
  refine ⟨version.map toString, h.two_le_toString, ?_, rfl, numerals_toString version⟩
  rw [List.length_map]
  exact h.le_four

/-- What a version is written as tells that version again. -/
lemma ofName_render (h : IsWritable version) : ofName version.render = .ok (some version) := by
  have hlength : ∀ component ∈ Text.split '.' version.render, component.length ≤ digitLimit := by
    rw [render, split_join_numerals (numerals_toString version) h.two_le_toString]
    intro component hcomponent
    obtain ⟨n, hn, rfl⟩ := List.mem_map.1 hcomponent
    exact (Text.length_toString_le_iff (by decide)).2 (h.digits n hn)
  obtain ⟨answer, hanswer, hiff⟩ := exists_ofName_iff_names hlength
  rw [hanswer, (hiff version).2 h.names]

end IsWritable

/-! ## Scans -/

lemma version_eq_of_isPackage (h : IsWritable version)
    (hpackage : IsPackage tree locations settings version.render installation) :
    installation.version = version := by
  have htold := hpackage.told.2
  rw [h.ofName_render, Except.ok.injEq, Option.some_inj] at htold
  exact htold.symm

/-- Packages in folders with the names of versions are in the order of these. -/
lemma scannedBefore_of_lt (ha : IsWritable a) (hb : IsWritable b)
    (hfirst : IsPackage tree locations settings a.render first)
    (hsecond : IsPackage tree locations settings b.render second) (h : a < b) :
    ScannedBefore first second := by
  have hcategory := hfirst.told.1.trans hsecond.told.1.symm
  have hscope := hfirst.scope.trans hsecond.scope.symm
  apply scannedBefore_of_version_lt hcategory hscope
  rwa [version_eq_of_isPackage ha hfirst, version_eq_of_isPackage hb hsecond]

/-- Names tell exactly the versions that they consist of; every version is told by its own name; and
the scan puts the packages in the folders with the names of two versions in the order of these. -/
theorem ofName_exact :
    (∀ name : String, (∀ component ∈ Text.split '.' name, component.length ≤ digitLimit) →
      ∃ answer, ofName name = .ok answer ∧
        ∀ version, answer = some version ↔ Names name version) ∧
    (∀ version : PackageVersion, IsWritable version →
      ofName version.render = .ok (some version)) ∧
    ∀ a b : PackageVersion, IsWritable a → IsWritable b → a ≠ b →
      ∀ (tree : FileTree) (locations : Locations) (settings : ScannerSettings)
        (first second : Installation), IsPackage tree locations settings a.render first →
        IsPackage tree locations settings b.render second →
        a < b ∧ ScannedBefore first second ∨ b < a ∧ ScannedBefore second first := by
  refine ⟨fun name h => exists_ofName_iff_names h, fun version h => h.ofName_render, ?_⟩
  intro a b ha hb hne tree locations settings first second hfirst hsecond
  obtain hlt | heq | hlt := Std.lt_trichotomy a b
  · exact .inl ⟨hlt, scannedBefore_of_lt ha hb hfirst hsecond hlt⟩
  · exact absurd heq hne
  · exact .inr ⟨hlt, scannedBefore_of_lt hb ha hsecond hfirst hlt⟩

/-- Two packages whose versions differ in a last zero only. -/
def twinTree : FileTree :=
  ⟨.ofList ([["p"], ["p", "1.2.0"], ["p", "1.2.0", "DotFiles"],
    ["p", "1.2.0", "DotFiles", "ExternalAnnotations"], ["p", "1.2"], ["p", "1.2", "DotFiles"],
    ["p", "1.2", "DotFiles", "ExternalAnnotations"]].map (fun place => (place, .folder))), [], []⟩

theorem ofName_exact_sample :
    let mixed := "\u0663.0012.\u09ed"
    let largest := [10 ^ digitLimit - 1, 0]
    let folder := fun name => Path.append (Path.ofText "p") [name, "DotFiles", "ExternalAnnotations"]
    let first : Installation := ⟨.package, .annotations, [1, 2], folder "1.2"⟩
    let second : Installation := ⟨.package, .annotations, [1, 2, 0], folder "1.2.0"⟩
    ((∀ component ∈ Text.split '.' mixed, component.length ≤ digitLimit) ∧
      Names mixed [3, 12, 7]) ∧
    (IsWritable largest ∧ ofName (render largest) = .ok (some largest)) ∧
    (IsWritable [1, 2] ∧ IsWritable [1, 2, 0] ∧
      IsPackage twinTree ⟨"", "", "p", ""⟩ ⟨"", 0, true⟩ "1.2" first ∧
      IsPackage twinTree ⟨"", "", "p", ""⟩ ⟨"", 0, true⟩ "1.2.0" second ∧
      ScannedBefore first second) := by
  intro mixed largest folder first second
  obtain ⟨hnames, hrender, hscan⟩ := ofName_exact
  have hlength : ∀ component ∈ Text.split '.' mixed, component.length ≤ digitLimit := by
    decide +kernel
  obtain ⟨answer, hanswer, hiff⟩ := hnames mixed hlength
  have hmixed : ofName mixed = .ok (some [3, 12, 7]) :=
    Outcome.eq_ok_of_toOption (by decide +kernel)
  have hlargest : IsWritable largest := by
    refine ⟨Nat.le_refl 2, Nat.le_add_left 2 2, List.forall_mem_cons.2 ⟨?_, ?_⟩⟩
    · exact (Nat.digits_length_le_iff (by decide) _).2 (Nat.sub_one_lt (NeZero.ne _))
    · rw [List.forall_mem_singleton, Nat.digits_zero]
      exact Nat.zero_le _
  have hshort : IsWritable [1, 2] := ⟨by decide, by decide, by simp [digitLimit]⟩
  have hlong : IsWritable [1, 2, 0] := ⟨by decide, by decide, by simp [digitLimit]⟩
  have hfirst : IsPackage twinTree ⟨"", "", "p", ""⟩ ⟨"", 0, true⟩ "1.2" first :=
    ⟨.package rfl (Outcome.eq_ok_of_toOption (by decide +kernel)) rfl (by decide +kernel), rfl,
      ownName_package _ _⟩
  have hsecond : IsPackage twinTree ⟨"", "", "p", ""⟩ ⟨"", 0, true⟩ "1.2.0" second :=
    ⟨.package rfl (Outcome.eq_ok_of_toOption (by decide +kernel)) rfl (by decide +kernel), rfl,
      ownName_package _ _⟩
  refine ⟨⟨hlength, ?_⟩, ⟨hlargest, hrender largest hlargest⟩, hshort, hlong, hfirst, hsecond, ?_⟩
  · exact (hiff _).1 (Except.ok.inj (hanswer.symm.trans hmixed))
  · have hnot : ¬ [1, 2, 0] < [1, 2] := by decide
    obtain ⟨-, hbefore⟩ | ⟨hlt, -⟩ := hscan [1, 2] [1, 2, 0] hshort hlong (by decide) twinTree
      ⟨"", "", "p", ""⟩ ⟨"", 0, true⟩ first second hfirst hsecond
    · exact hbefore
    · exact absurd hlt hnot

/-- Names with a component that is no numeral tell no version. -/
example : ofName "1..2" = .ok none ∧ ofName "\u00b2.1" = .ok none ∧
    ofName "1.2-beta" = .ok none :=
  ⟨rfl, rfl, rfl⟩

end PackageVersion

end Nullability
