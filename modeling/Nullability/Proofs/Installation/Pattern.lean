import Nullability.Proofs.Installation.Scan

/-!
# What the patterns cover

A pattern stands for paths of as many components as it has itself, each component for itself. The
patterns of a scan cover a folder that is scanned unless the name of its platform goes on behind the
version (`exists_pattern_iff`): the scan takes such names, but a pattern leaves room for the two
digits only.
-/

namespace Nullability

/-- A text without a slash is read as a component by itself. -/
lemma Path.ofText_of_isComponent {part : String} (h : IsComponent part) :
    ofText part = ⟨.relative, [part]⟩ := by
  have hanchor : anchorOf part.toList = .relative := by
    have hslash := h.no_slash
    cases hchars : part.toList with
    | nil => rfl
    | cons c rest =>
      rw [hchars, List.mem_cons, not_or] at hslash
      have hc : c ≠ '/' := fun e => hslash.1 e.symm
      simp [anchorOf, hc]
  have hsplit : Text.split '/' part = [part] := by
    rw [Text.split, Text.splitChars_of_not_mem h.no_slash, List.map_singleton, String.ofList_toList]
  have hfilter : [part].filter (fun part => part ≠ "" && part ≠ ".") = [part] := by
    rw [List.filter_eq_self]
    intro found hfound
    rw [List.mem_singleton.1 hfound, Bool.and_eq_true, decide_eq_true_iff, decide_eq_true_iff]
    exact ⟨h.ne_empty, h.ne_dot⟩
  rw [ofText, hanchor, hsplit, hfilter]

namespace Installation

/-! ## Patterns -/

/-- A mark in a component of a pattern: one that is taken literally, one for any character, or one
for any text. -/
inductive Mark where
  | literal (c : Char)
  | character
  | text
  deriving DecidableEq

/-- The character by which a mark is written. -/
def Mark.symbol : Mark → Char
  | .literal c => c
  | .character => '?'
  | .text => '*'

/-- What some marks stand for. -/
inductive Stands : List Mark → List Char → Prop where
  | nothing : Stands [] []
  | literal {marks : List Mark} {cs : List Char} (c : Char) (h : Stands marks cs) :
    Stands (.literal c :: marks) (c :: cs)
  | character {marks : List Mark} {cs : List Char} (c : Char) (h : Stands marks cs) :
    Stands (.character :: marks) (c :: cs)
  | text {marks : List Mark} {cs : List Char} (taken : List Char) (h : Stands marks cs) :
    Stands (.text :: marks) (taken ++ cs)

/-- A pattern of paths, with the marks of each component. -/
structure Pattern where
  anchor : Path.Anchor
  components : List (List Mark)

namespace Pattern

/-- The text by which a pattern is written. -/
def text (pattern : Pattern) : String :=
  Path.text ⟨pattern.anchor,
    pattern.components.map (fun marks => String.ofList (marks.map Mark.symbol))⟩

/-- Whether a path matches a pattern, component by component. -/
def Matches (pattern : Pattern) (path : Path) : Prop :=
  path.anchor = pattern.anchor ∧
    List.Forall₂ (fun marks part => Stands marks part.toList) pattern.components path.parts

end Pattern

/-- The marks of a component that is taken literally. -/
def literally (name : String) : List Mark :=
  name.toList.map .literal

/-- The path of which the name stands for the platforms below a root. -/
def platformName (settings : ScannerSettings) (root : String) : Path :=
  ((Path.ofText root).append platformParts).join (Path.ofText (settings.folderStart ++ "??"))

/-- The pattern of one category for the platforms below a root. In the name only the two characters
behind the start are open. -/
def platformWildcard (settings : ScannerSettings) (root : String) (category : Category) : Pattern :=
  let named := platformName settings root
  let start := named.name.toList.dropLast.dropLast
  ⟨named.anchor, named.parent.parts.map literally ++
    [start.map .literal ++ [.character, .character], literally category.folder]⟩

/-- The pattern of the packages. -/
def packageWildcard (root : String) : Pattern :=
  ⟨(Path.ofText root).anchor,
    (Path.ofText root).parts.map literally ++ [.text] :: packageParts.map literally⟩

/-- The patterns of a scan; roots and the start of names are taken literally. -/
def wildcards (locations : Locations) (settings : ScannerSettings) : List Pattern :=
  Category.all.map (platformWildcard settings locations.systemRoot) ++
    (if settings.includePackages then [packageWildcard locations.packageRoot] else []) ++
    Category.all.map (platformWildcard settings locations.userRoot)

/-- Whether a name goes on behind the two digits of a version. -/
def IsSuffixed (start name : String) : Prop :=
  ∃ tens ones rest, rest ≠ [] ∧ name.toList = start.toList ++ tens :: ones :: rest ∧
    Text.isDecimal tens = true ∧ Text.isDecimal ones = true

variable {tree : FileTree} {folder : Path} {locations : Locations} {settings : ScannerSettings}
  {root name : String} {category : Category} {pattern : Pattern}

/-! ## Texts of patterns -/

lemma symbols_literal (cs : List Char) : (cs.map Mark.literal).map Mark.symbol = cs := by
  rw [List.map_map]
  exact List.map_id cs

lemma text_literally (names : List String) :
    (names.map literally).map (fun marks => String.ofList (marks.map Mark.symbol)) = names := by
  rw [List.map_map]
  refine (List.map_congr_left fun name _ => ?_).trans (List.map_id names)
  exact (congrArg String.ofList (symbols_literal name.toList)).trans String.ofList_toList

/-- What stands behind the last separator goes on with what the text goes on with. -/
lemma splitChars_append_of_not_mem {separator : Char} {more : List Char} (h : separator ∉ more)
    (cs : List Char) : ∃ before last,
      Text.splitChars separator (cs ++ more) = before ++ [last ++ more] := by
  induction cs with
  | nil => exact ⟨[], [], Text.splitChars_of_not_mem h⟩
  | cons c rest ih =>
    obtain ⟨before, last, hrest⟩ := ih
    by_cases hc : c = separator
    · refine ⟨[] :: before, last, ?_⟩
      rw [hc, List.cons_append, Text.splitChars_separator, hrest, List.cons_append]
    · cases before with
      | nil => exact ⟨[], c :: last, Text.splitChars_of_ne hc hrest⟩
      | cons first before => exact ⟨(c :: first) :: before, last, Text.splitChars_of_ne hc hrest⟩

/-- What contains a question mark is neither dropped as empty nor as a dot. -/
lemma ne_of_mem_mark {part : String} (h : '?' ∈ part.toList) : part ≠ "" ∧ part ≠ "." := by
  constructor
  · rintro rfl
    exact absurd h (by decide)
  · rintro rfl
    exact absurd h (by decide)

/-- The name that stands for the platforms ends in the two question marks. -/
lemma platformName_parts (settings : ScannerSettings) (root : String) : ∃ before start,
    (platformName settings root).parts = before ++ [String.ofList (start ++ ['?', '?'])] := by
  obtain ⟨before, last, hsplit⟩ := splitChars_append_of_not_mem
    (show '/' ∉ ['?', '?'] by decide) settings.folderStart.toList
  have hmarks : "??".toList = ['?', '?'] := rfl
  have hmem : '?' ∈ (String.ofList (last ++ ['?', '?'])).toList := by simp
  have hparts : ∃ before, (Path.ofText (settings.folderStart ++ "??")).parts =
      before ++ [String.ofList (last ++ ['?', '?'])] := by
    rw [Path.ofText, Text.split, String.toList_append, hmarks, hsplit, List.map_append,
      List.filter_append]
    refine ⟨_, congrArg _ (List.filter_cons_of_pos ?_)⟩
    rw [Bool.and_eq_true, decide_eq_true_iff, decide_eq_true_iff]
    exact ne_of_mem_mark hmem
  obtain ⟨before, hparts⟩ := hparts
  rw [platformName, Path.join]
  split
  · exact ⟨before, last, hparts⟩
  · refine ⟨((Path.ofText root).append platformParts).parts ++ before, last, ?_⟩
    rw [Path.append, hparts, List.append_assoc]

lemma text_platformWildcard (settings : ScannerSettings) (root : String) (category : Category) :
    (platformWildcard settings root category).text =
      ((platformName settings root).append [category.folder]).text := by
  obtain ⟨before, start, hparts⟩ := platformName_parts settings root
  have hname : (platformName settings root).name = String.ofList (start ++ ['?', '?']) := by
    rw [Path.name, hparts, List.getLast?_concat]
    rfl
  have hparent : (platformName settings root).parent.parts = before := by
    rw [Path.parent, hparts, List.dropLast_concat]
  have hstart : (String.ofList (start ++ ['?', '?'])).toList.dropLast.dropLast = start := by
    rw [String.toList_ofList]
    simp [List.dropLast_append_of_ne_nil]
  have hfolder : String.ofList ((literally category.folder).map Mark.symbol) = category.folder :=
    List.singleton_inj.1 (text_literally [category.folder])
  simp only [platformWildcard, Pattern.text, Path.append, hname, hparent, hstart, hparts,
    List.map_append, text_literally, symbols_literal, Mark.symbol, List.map_cons, List.map_nil,
    hfolder, List.append_assoc, List.singleton_append]

lemma text_packageWildcard (root : String) : (packageWildcard root).text =
    ((Path.ofText root).append ("*" :: packageParts)).text := by
  simp only [packageWildcard, Pattern.text, Path.append, List.map_append, text_literally,
    List.map_cons]
  rfl

/-- The patterns of a scan are written as it reports them. -/
lemma patterns_eq (locations : Locations) (settings : ScannerSettings) :
    patterns locations settings = (wildcards locations settings).map Pattern.text := by
  have hplatforms : ∀ root, platformPatterns settings root =
      (Category.all.map (platformWildcard settings root)).map Pattern.text := by
    intro root
    rw [List.map_map]
    exact (List.map_congr_left fun category _ => text_platformWildcard settings root category).symm
  rw [patterns, wildcards, List.map_append, List.map_append, hplatforms, hplatforms]
  split
  · rw [List.map_singleton, text_packageWildcard]
  · rfl

/-! ## Marks -/

/-- What is taken literally stands for itself, and the other marks for the rest. -/
lemma stands_literal_append {cs found : List Char} {marks : List Mark} :
    Stands (cs.map .literal ++ marks) found ↔ ∃ rest, found = cs ++ rest ∧ Stands marks rest := by
  induction cs generalizing found with
  | nil =>
    constructor
    · intro h
      exact ⟨found, rfl, h⟩
    · rintro ⟨rest, rfl, h⟩
      exact h
  | cons c cs ih =>
    constructor
    · intro h
      cases h with
      | literal _ h =>
        obtain ⟨rest, rfl, hrest⟩ := ih.1 h
        exact ⟨rest, rfl, hrest⟩
    · rintro ⟨rest, rfl, hrest⟩
      exact .literal c (ih.2 ⟨rest, rfl, hrest⟩)

lemma stands_nil {found : List Char} : Stands [] found ↔ found = [] := by
  constructor
  · intro h
    cases h with
    | nothing => rfl
  · rintro rfl
    exact .nothing

lemma stands_literally {found : List Char} : Stands (literally name) found ↔ found = name.toList := by
  rw [literally, ← List.append_nil (name.toList.map Mark.literal), stands_literal_append]
  simp [stands_nil]

lemma stands_characters {found : List Char} :
    Stands [.character, .character] found ↔ ∃ a b, found = [a, b] := by
  constructor
  · intro h
    cases h with
    | character a h =>
      cases h with
      | character b h =>
        rw [stands_nil.1 h]
        exact ⟨a, b, rfl⟩
  · rintro ⟨a, b, rfl⟩
    exact .character a (.character b .nothing)

lemma stands_text (found : List Char) : Stands [.text] found := by
  have h := Stands.text found .nothing
  rwa [List.append_nil] at h

lemma forall₂_literally (names : List String) :
    List.Forall₂ (fun marks part => Stands marks part.toList) (names.map literally) names := by
  rw [List.forall₂_map_left_iff, List.forall₂_same]
  exact fun name _ => stands_literally.2 rfl

/-- The last component but one is that of the folder that a matching path lies in. -/
lemma stands_parent_name {before : List (List Mark)} {marks last : List Mark}
    (h : pattern.Matches folder) (hcomponents : pattern.components = before ++ [marks, last]) :
    Stands marks folder.parent.name.toList := by
  obtain ⟨-, hall⟩ := h
  rw [hcomponents] at hall
  have hend := List.forall₂_drop_append _ _ _ hall.flip
  have hparts := List.take_append_drop before.length folder.parts
  generalize folder.parts.drop before.length = behind at hend hparts
  obtain ⟨name, more, hname, hmore, rfl⟩ := List.forall₂_cons_right_iff.1 hend
  obtain ⟨child, rest, -, hrest, rfl⟩ := List.forall₂_cons_right_iff.1 hmore
  obtain rfl := List.forall₂_nil_right_iff.1 hrest
  have hfolder : folder =
      Path.append ⟨folder.anchor, folder.parts.take before.length⟩ ([name] ++ [child]) := by
    rw [Path.append, List.singleton_append, hparts]
  have hparent : folder.parent.name = name := by
    rw [hfolder, parent_append]
    exact name_append [] name
  rw [hparent]
  exact hname

/-! ## Patterns of platforms and packages -/

/-- A start without a slash is the start of the name itself. -/
lemma platformWildcard_eq (hslash : '/' ∉ settings.folderStart.toList) (root : String)
    (category : Category) : platformWildcard settings root category =
      ⟨(Path.ofText root).anchor, ((Path.ofText root).parts ++ platformParts).map literally ++
        [settings.folderStart.toList.map .literal ++ [.character, .character],
          literally category.folder]⟩ := by
  have hmarks : (settings.folderStart ++ "??").toList = settings.folderStart.toList ++ ['?', '?'] :=
    String.toList_append
  have hmem : '?' ∈ (settings.folderStart ++ "??").toList := by
    rw [hmarks]
    exact List.mem_append_right _ List.mem_cons_self
  have hnone : '/' ∉ (settings.folderStart ++ "??").toList := by
    rw [hmarks, List.mem_append, not_or]
    exact ⟨hslash, by decide⟩
  obtain ⟨hempty, hdot⟩ := ne_of_mem_mark hmem
  have hcomponent : Path.IsComponent (settings.folderStart ++ "??") := ⟨hempty, hdot, hnone⟩
  have hnamed : platformName settings root = ((Path.ofText root).append platformParts).append
      ([] ++ [settings.folderStart ++ "??"]) := by
    rw [platformName, Path.join, Path.ofText_of_isComponent hcomponent]
    rfl
  have hname : (platformName settings root).name.toList.dropLast.dropLast =
      settings.folderStart.toList := by
    rw [hnamed, name_append, hmarks]
    simp [List.dropLast_append_of_ne_nil]
  have hparent : (platformName settings root).parent.parts =
      (Path.ofText root).parts ++ platformParts := by
    rw [hnamed, parent_append, Path.append, List.append_nil]
    rfl
  have hanchor : (platformName settings root).anchor = (Path.ofText root).anchor := by
    rw [hnamed]
    rfl
  simp only [platformWildcard, hname, hparent, hanchor]

lemma matches_platformWildcard (hslash : '/' ∉ settings.folderStart.toList) {a b : Char}
    (hname : name.toList = settings.folderStart.toList ++ [a, b]) (root : String)
    (category : Category) : (platformWildcard settings root category).Matches
      ((Path.ofText root).append ["JetBrains", "Installations", name, category.folder]) := by
  rw [platformWildcard_eq hslash]
  refine ⟨rfl, ?_⟩
  have hparts : ((Path.ofText root).append
      ["JetBrains", "Installations", name, category.folder]).parts =
      ((Path.ofText root).parts ++ platformParts) ++ [name, category.folder] := by
    rw [Path.append, List.append_assoc]
    rfl
  rw [hparts]
  refine List.rel_append (forall₂_literally _) (.cons ?_ (.cons ?_ .nil))
  · rw [hname]
    exact stands_literal_append.2 ⟨[a, b], rfl, stands_characters.2 ⟨a, b, rfl⟩⟩
  · exact stands_literally.2 rfl

lemma matches_packageWildcard (root name : String) : (packageWildcard root).Matches
    ((Path.ofText root).append [name, "DotFiles", "ExternalAnnotations"]) := by
  refine ⟨rfl, ?_⟩
  rw [packageWildcard, Path.append]
  exact List.rel_append (forall₂_literally _)
    (.cons (stands_text name.toList) (forall₂_literally packageParts))

/-! ## What is covered -/

/-- There is a pattern for every scope of platforms and every category. -/
lemma mem_wildcards {scope : Scope} (hroot : platformRoot? locations scope = some root)
    (category : Category) :
    platformWildcard settings root category ∈ wildcards locations settings := by
  have hall : category ∈ Category.all := by
    cases category with
    | annotations => exact List.mem_cons_self
    | extensions => exact List.mem_cons_of_mem _ List.mem_cons_self
  cases scope with
  | system =>
    obtain rfl := Option.some.inj hroot
    exact List.mem_append_left _ (List.mem_append_left _ (List.mem_map_of_mem hall))
  | user =>
    obtain rfl := Option.some.inj hroot
    exact List.mem_append_right _ (List.mem_map_of_mem hall)
  | package => cases hroot

/-- The pattern of what is installed matches, unless a platform's name goes on behind its version. -/
lemma exists_wildcard_of_installed {installation : Installation}
    (h : Installed tree locations settings installation)
    (hslash : '/' ∉ installation.path.parent.name.toList)
    (hsuffixed : ¬ IsSuffixed settings.folderStart installation.path.parent.name) :
    ∃ pattern ∈ wildcards locations settings, pattern.Matches installation.path := by
  cases h with
  | @platform scope root name version category path hroot hname hversion hpath hfolder =>
    obtain ⟨tens, ones, rest, hchars, htens, hones, -⟩ := hname
    have hparent : path.parent.name = name := by
      rw [hpath]
      exact (congrArg Path.name (parent_append ["JetBrains", "Installations", name] _)).trans
        (name_append ["JetBrains", "Installations"] name)
    change '/' ∉ path.parent.name.toList at hslash
    change ¬ IsSuffixed settings.folderStart path.parent.name at hsuffixed
    rw [hparent] at hslash hsuffixed
    have hstart : '/' ∉ settings.folderStart.toList := by
      rw [hchars] at hslash
      exact fun hmem => hslash (List.mem_append_left _ hmem)
    have hrest : rest = [] := by
      by_contra hne
      exact hsuffixed ⟨tens, ones, rest, hne, hchars, htens, hones⟩
    rw [hrest] at hchars
    have hmatches : (platformWildcard settings root category).Matches path := by
      rw [hpath]
      exact matches_platformWildcard hstart hchars root category
    exact ⟨platformWildcard settings root category, mem_wildcards hroot category, hmatches⟩
  | @package name version path hincluded hname hpath hfolder =>
    refine ⟨packageWildcard locations.packageRoot, ?_, ?_⟩
    · rw [wildcards, if_pos hincluded]
      exact List.mem_append_left _ (List.mem_append_right _ List.mem_cons_self)
    · rw [hpath]
      exact matches_packageWildcard locations.packageRoot name

/-- A pattern leaves room for two characters behind the start, and no more. -/
lemma not_isSuffixed_of_matches (hpattern : pattern ∈ wildcards locations settings)
    (h : pattern.Matches folder) (hslash : '/' ∉ folder.parent.name.toList) :
    ¬ IsSuffixed settings.folderStart folder.parent.name := by
  rintro ⟨tens, ones, rest, hne, hchars, htens, -⟩
  have hstart : '/' ∉ settings.folderStart.toList := by
    rw [hchars] at hslash
    exact fun hmem => hslash (List.mem_append_left _ hmem)
  have hplatform : ∀ root, pattern ∉ Category.all.map (platformWildcard settings root) := by
    intro root hmem
    obtain ⟨category, -, rfl⟩ := List.mem_map.1 hmem
    rw [platformWildcard_eq hstart] at h
    obtain ⟨more, hmore, hcharacters⟩ := stands_literal_append.1 (stands_parent_name h rfl)
    obtain ⟨a, b, rfl⟩ := stands_characters.1 hcharacters
    rw [hchars] at hmore
    have hbehind := List.append_cancel_left hmore
    simp only [List.cons.injEq] at hbehind
    exact hne hbehind.2.2
  rw [wildcards, List.mem_append, List.mem_append, List.mem_ite_nil_right,
    List.mem_singleton] at hpattern
  obtain (hsystem | ⟨-, rfl⟩) | huser := hpattern
  · exact hplatform locations.systemRoot hsystem
  · -- There is no digit in the name of the folder that all packages have.
    have hcomponents : (packageWildcard locations.packageRoot).components =
        ((Path.ofText locations.packageRoot).parts.map literally ++ [[.text]]) ++
          [literally "DotFiles", literally "ExternalAnnotations"] := by
      rw [List.append_assoc]
      rfl
    have hname := stands_literally.1 (stands_parent_name h hcomponents)
    have hdigits : "DotFiles".toList.all (fun c => !Text.isDecimal c) = true := by decide
    have hmem : tens ∈ "DotFiles".toList := by
      rw [← hname, hchars]
      exact List.mem_append_right _ List.mem_cons_self
    have hnone := List.all_eq_true.1 hdigits tens hmem
    rw [htens] at hnone
    cases hnone
  · exact hplatform locations.userRoot huser

/-- The patterns of a scan, taken as what they are written as, cover a folder that is scanned unless
the name of its platform goes on behind the version. -/
theorem exists_pattern_iff (h : tree.WellFormed) {folders : List Path}
    (hfolders : foldersToScan tree locations settings = .ok folders) (hmem : folder ∈ folders) :
    patterns locations settings = (wildcards locations settings).map Pattern.text ∧
      ((∃ pattern ∈ wildcards locations settings, pattern.Matches folder) ↔
        ¬ IsSuffixed settings.folderStart folder.parent.name) := by
  obtain ⟨root, -, installation, hbehind, rfl⟩ := exists_root_of_mem_foldersToScan h hfolders hmem
  have hslash : '/' ∉ installation.path.parent.name.toList := hbehind.proper.parent.no_slash_name
  refine ⟨patterns_eq locations settings, ?_, ?_⟩
  · rintro ⟨pattern, hpattern, hmatches⟩
    exact not_isSuffixed_of_matches hpattern hmatches hslash
  · intro hsuffixed
    obtain ⟨found, hall, rfl⟩ := Outcome.map_eq_ok.1 hfolders
    obtain ⟨installed, hinstalled, hpath⟩ := List.mem_map.1 hmem
    rw [← hpath] at hslash hsuffixed ⊢
    exact exists_wildcard_of_installed ((mem_all hall).1 (mem_sortBy.1 hinstalled)) hslash hsuffixed

/-- In the tree with two versions of a platform and a package, the package's folder is covered, and
the folder of the platform with more behind its version is not. -/
theorem exists_pattern_iff_sample :
    let locations : Locations := ⟨"sys", "/w/user", "packages", "cache"⟩
    let settings : ScannerSettings := ⟨"Platform", 11, true⟩
    let covered := Path.ofText "packages/2023.3/DotFiles/ExternalAnnotations"
    let missed := Path.ofText "sys/JetBrains/Installations/Platform15_2/ExternalAnnotations"
    sampleTree.WellFormed ∧ foldersToScan sampleTree locations settings = .ok [missed, covered] ∧
      (∃ pattern ∈ wildcards locations settings, pattern.Matches covered) ∧
      ¬ ∃ pattern ∈ wildcards locations settings, pattern.Matches missed := by
  intro locations settings covered missed
  have hwell : sampleTree.WellFormed := by decide +kernel
  have hfolders : foldersToScan sampleTree locations settings = .ok [missed, covered] :=
    Outcome.eq_ok_of_toOption (by decide +kernel)
  have hparent : covered.parent.name = "DotFiles" := by decide +kernel
  have hcovered : ¬ IsSuffixed settings.folderStart covered.parent.name := by
    rintro ⟨tens, ones, rest, -, hchars, -⟩
    rw [hparent] at hchars
    have hlength := congrArg List.length hchars
    simp [settings] at hlength
  have hmissed : IsSuffixed settings.folderStart missed.parent.name :=
    ⟨'1', '5', ['_', '2'], by decide, by decide +kernel, by decide, by decide⟩
  refine ⟨hwell, hfolders, ?_, ?_⟩
  · exact (exists_pattern_iff hwell hfolders (by simp)).2.2 hcovered
  · exact fun hpattern => (exists_pattern_iff hwell hfolders (by simp)).2.1 hpattern hmissed

/-- The scan takes a folder that none of its patterns covers. -/
theorem not_forall_exists_pattern : ¬ ∀ (tree : FileTree) (locations : Locations)
    (settings : ScannerSettings) (folders : List Path) (folder : Path), tree.WellFormed →
    foldersToScan tree locations settings = .ok folders → folder ∈ folders →
    ∃ pattern ∈ wildcards locations settings, pattern.Matches folder := by
  intro h
  have hwell : sampleTree.WellFormed := by decide +kernel
  have hfolders : foldersToScan sampleTree ⟨"sys", "/w/user", "packages", "cache"⟩
      ⟨"Platform", 11, false⟩ =
        .ok [Path.ofText "sys/JetBrains/Installations/Platform15_2/ExternalAnnotations"] :=
    Outcome.eq_ok_of_toOption (by decide +kernel)
  obtain ⟨pattern, hpattern, hmatches⟩ := h _ _ _ _ _ hwell hfolders List.mem_cons_self
  refine not_isSuffixed_of_matches hpattern hmatches (by decide +kernel) ?_
  exact ⟨'1', '5', ['_', '2'], by decide, by decide +kernel, by decide, by decide⟩

end Installation

end Nullability
