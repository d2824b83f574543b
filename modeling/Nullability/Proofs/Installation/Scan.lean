import Nullability.Proofs.Installation.Order

/-!
# What is scanned, and in which order

The folders to scan are exactly those that belong to an installation (`Installed`), each once, in
the strict order of installations (`Precedes`). The scan puts only category, scope and version in
order; where these agree, the folders were found in the order of their names, and sorting keeps it.
-/

namespace Nullability

namespace Installation

open FileTree

variable {tree other : FileTree} {folder : Path} {locations : Locations}
  {settings : ScannerSettings} {name : String} {a b installation : Installation}

/-- Whether the names decide the order of installations that belong together. -/
def NamesDecide (a b : Installation) : Prop :=
  a.category = b.category → a.scope = b.scope → a.ownName < b.ownName

lemma mem_scannedPlatforms {root : String} {scope : Scope} {category : Category} :
    installation ∈ scanned tree (platformFolder root)
      (platformCandidate settings root scope category) ↔ ∃ name version,
      TellsPlatform settings.folderStart name version ∧ settings.leastVersion ≤ version ∧
        installation = ⟨scope, category, [version, 0],
          (platformFolder root).append [name, category.folder]⟩ ∧
        tree.isFolder installation.path = true := by
  rw [mem_scanned (inside_platformCandidate root scope category)]
  · simp only [platformCandidate_eq_some]
    constructor
    · rintro ⟨name, ⟨version, hname, hversion, heq⟩, hfolder⟩
      exact ⟨name, version, hname, hversion, heq, hfolder⟩
    · rintro ⟨name, version, hname, hversion, heq, hfolder⟩
      exact ⟨name, ⟨version, hname, hversion, heq⟩, hfolder⟩
  · intro found hfound
    obtain ⟨version, hname, -⟩ := platformCandidate_eq_some.1 hfound
    exact hname.ne_dots rfl

lemma pairwise_scannedPlatforms (root : String) (scope : Scope) (category : Category)
    (hscope : scope ≠ .package) :
    (scanned tree (platformFolder root)
      (platformCandidate settings root scope category)).Pairwise
        (fun a b => a.ownName < b.ownName) := by
  refine pairwise_scanned fun name found hfound => ?_
  obtain ⟨version, -, -, rfl⟩ := platformCandidate_eq_some.1 hfound
  have hown : ∀ path, (⟨scope, category, [version, 0], path⟩ : Installation).ownName =
      path.parent.name := by
    intro path
    cases scope with
    | package => exact absurd rfl hscope
    | _ => rfl
  rw [hown]
  exact (congrArg Path.name (parent_append [name] category.folder)).trans (name_append [] name)

lemma scope_of_mem_ofPlatforms {root : String} {scope : Scope}
    (h : installation ∈ ofPlatforms tree settings root scope) : installation.scope = scope := by
  obtain ⟨category, -, h⟩ := List.mem_flatMap.1 h
  obtain ⟨name, version, -, -, rfl, -⟩ := mem_scannedPlatforms.1 h
  rfl

lemma pairwise_ofPlatforms (root : String) {scope : Scope} (hscope : scope ≠ .package) :
    (ofPlatforms tree settings root scope).Pairwise NamesDecide := by
  have hcategory : ∀ category, ∀ found ∈ scanned tree (platformFolder root)
      (platformCandidate settings root scope category), found.category = category := by
    intro category found hfound
    obtain ⟨name, version, -, -, rfl, -⟩ := mem_scannedPlatforms.1 hfound
    rfl
  have hone : ∀ category, (scanned tree (platformFolder root)
      (platformCandidate settings root scope category)).Pairwise NamesDecide :=
    fun category => (pairwise_scannedPlatforms root scope category hscope).imp fun h _ _ => h
  rw [ofPlatforms, Category.all, List.flatMap_cons, List.flatMap_singleton, List.pairwise_append]
  refine ⟨hone .annotations, hone .extensions, ?_⟩
  intro a ha b hb heq
  rw [hcategory .annotations a ha, hcategory .extensions b hb] at heq
  cases heq

lemma mem_scannedPackages {root : String} :
    installation ∈ scanned tree (Path.ofText root) (packageCandidate root) ↔ ∃ name version,
      PackageVersion.ofName name = .ok (some version) ∧ installation =
        ⟨.package, .annotations, version, (Path.ofText root).append (name :: packageParts)⟩ ∧
        tree.isFolder installation.path = true := by
  rw [mem_scanned (inside_packageCandidate root)]
  · simp only [packageCandidate_eq_some]
    constructor
    · rintro ⟨name, ⟨version, hname, heq⟩, hfolder⟩
      exact ⟨name, version, hname, heq, hfolder⟩
    · rintro ⟨name, version, hname, heq, hfolder⟩
      exact ⟨name, ⟨version, hname, heq⟩, hfolder⟩
  · intro found hfound
    obtain ⟨version, hname, -⟩ := packageCandidate_eq_some.1 hfound
    have hnone : PackageVersion.ofName ".." = .ok none := rfl
    rw [hnone] at hname
    cases hname

lemma pairwise_scannedPackages (root : String) :
    (scanned tree (Path.ofText root) (packageCandidate root)).Pairwise
      (fun a b => a.ownName < b.ownName) := by
  refine pairwise_scanned fun name found hfound => ?_
  obtain ⟨version, -, rfl⟩ := packageCandidate_eq_some.1 hfound
  exact ownName_package name version

lemma mem_ofPlatforms {root : String} {scope : Scope} :
    installation ∈ ofPlatforms tree settings root scope ↔ ∃ category name version,
      TellsPlatform settings.folderStart name version ∧ settings.leastVersion ≤ version ∧
        installation = ⟨scope, category, [version, 0], (Path.ofText root).append
          ["JetBrains", "Installations", name, category.folder]⟩ ∧
        tree.isFolder installation.path = true := by
  have hpath : ∀ names : List String, (platformFolder root).append names =
      (Path.ofText root).append ("JetBrains" :: "Installations" :: names) := by
    intro names
    rw [platformFolder, Path.append, Path.append, Path.append, List.append_assoc]
    rfl
  rw [ofPlatforms, List.mem_flatMap]
  simp only [mem_scannedPlatforms, hpath]
  constructor
  · rintro ⟨category, -, found⟩
    exact ⟨category, found⟩
  · rintro ⟨category, found⟩
    refine ⟨category, ?_, found⟩
    cases category with
    | annotations => exact List.mem_cons_self
    | extensions => exact List.mem_cons_of_mem _ List.mem_cons_self

/-- What is found is what is installed. -/
lemma mem_all {found : List Installation} (hall : all tree locations settings = .ok found) :
    installation ∈ found ↔ Installed tree locations settings installation := by
  obtain ⟨-, -, rfl⟩ := all_eq_ok.1 hall
  rw [List.mem_append, List.mem_append, mem_ofPlatforms, mem_ofPlatforms, ofPackages,
    List.mem_ite_nil_right, mem_scannedPackages]
  constructor
  · rintro ((⟨category, name, version, hname, hversion, rfl, hfolder⟩ |
      ⟨category, name, version, hname, hversion, rfl, hfolder⟩) |
      ⟨hincluded, name, version, hname, rfl, hfolder⟩)
    · exact .platform rfl hname hversion rfl hfolder
    · exact .platform rfl hname hversion rfl hfolder
    · exact .package hincluded hname rfl hfolder
  · intro h
    cases h with
    | @platform scope root name version category path hroot hname hversion hpath hfolder =>
      left
      cases scope with
      | system =>
        obtain rfl := Option.some.inj hroot
        exact .inl ⟨category, name, version, hname, hversion, by rw [hpath], hfolder⟩
      | user =>
        obtain rfl := Option.some.inj hroot
        exact .inr ⟨category, name, version, hname, hversion, by rw [hpath], hfolder⟩
      | package => cases hroot
    | @package name version path hincluded hname hpath hfolder =>
      exact .inr ⟨hincluded, name, version, hname, by rw [hpath]; rfl, hfolder⟩

lemma pairwise_all {found : List Installation} (hall : all tree locations settings = .ok found) :
    found.Pairwise NamesDecide := by
  obtain ⟨-, -, rfl⟩ := all_eq_ok.1 hall
  rw [ofPackages, List.pairwise_append, List.pairwise_append]
  refine ⟨⟨?_, ?_, ?_⟩, ?_, ?_⟩
  · exact pairwise_ofPlatforms locations.systemRoot (by decide)
  · exact pairwise_ofPlatforms locations.userRoot (by decide)
  · intro a ha b hb _ hscope
    rw [scope_of_mem_ofPlatforms ha, scope_of_mem_ofPlatforms hb] at hscope
    cases hscope
  · split
    · exact (pairwise_scannedPackages locations.packageRoot).imp fun h _ _ => h
    · exact List.Pairwise.nil
  · intro a ha b hb _ hscope
    obtain ⟨-, hb⟩ := List.mem_ite_nil_right.1 hb
    obtain ⟨name, version, -, rfl, -⟩ := mem_scannedPackages.1 hb
    cases List.mem_append.1 ha with
    | inl ha =>
      rw [scope_of_mem_ofPlatforms ha] at hscope
      cases hscope
    | inr ha =>
      rw [scope_of_mem_ofPlatforms ha] at hscope
      cases hscope

/-- Whether no name in a tree is longer than a numeral may be. File systems allow only much shorter
names. -/
def NamesFit (tree : FileTree) : Prop :=
  ∀ entry ∈ tree.nodes.entries, ∀ name ∈ entry.1, name.length ≤ PackageVersion.digitLimit

instance (tree : FileTree) : Decidable (NamesFit tree) :=
  inferInstanceAs (Decidable (∀ entry ∈ tree.nodes.entries, ∀ name ∈ entry.1, _ ≤ _))

/-- Then the version in every name can be told. -/
lemma NamesFit.exists_version (h : NamesFit tree) (hname : name ∈ listed tree folder) :
    ∃ version, PackageVersion.ofName name = .ok version := by
  cases hresolve : tree.resolve folder with
  | error failure =>
    rw [listed_of_error hresolve] at hname
    exact absurd hname List.not_mem_nil
  | ok place =>
    rw [listed_of_resolve hresolve, mem_sortBy, List.mem_filter, names_eq,
      List.mem_filterMap] at hname
    obtain ⟨⟨entry, hentry, hname⟩, -⟩ := hname
    refine exists_ofName (h entry hentry name ?_)
    rw [nameIn_eq_some.1 hname]
    exact List.mem_concat_self

/-- If no root has a null character, the installations can be found. -/
lemma NamesFit.exists_all (h : NamesFit tree)
    (hroots : ∀ root ∈ roots locations settings, (Path.ofText root).hasNull = false) :
    ∃ found, all tree locations settings = .ok found :=
  ⟨_, all_eq_ok.2 ⟨hroots, fun _ _ hname => h.exists_version hname, rfl⟩⟩

/-- If a root has one, the search stops there. -/
lemma all_eq_badValue {root : String} (hroot : root ∈ roots locations settings)
    (hnull : (Path.ofText root).hasNull = true) : all tree locations settings = .error .badValue := by
  cases hall : all tree locations settings with
  | error failure => rw [eq_badValue_of_all hall]
  | ok found =>
    rw [(all_eq_ok.1 hall).1 root hroot] at hnull
    cases hnull

lemma foldersToScan_eq_of_relisted (h : Relisted tree other) :
    foldersToScan other locations settings = foldersToScan tree locations settings := by
  have hplatforms : platforms other = platforms tree := by
    funext settings root scope category
    simp only [platforms, subfolders_eq_of_relisted h, h.isFolder_eq]
  have hpackages : packages other = packages tree := by
    funext root
    simp only [packages, subfolders_eq_of_relisted h, h.isFolder_eq]
  rw [foldersToScan, foldersToScan, all, all, hplatforms, hpackages]

/-- The scan gives the folders of what is installed and no others, in the strict order of
installations, and the order in which folders are listed makes no difference; but a null character
in a root, below which there can be nothing, stops it. -/
theorem foldersToScan_exact (hnames : NamesFit tree) (locations : Locations)
    (settings : ScannerSettings) :
    ((∃ root ∈ roots locations settings, (Path.ofText root).hasNull = true) →
      foldersToScan tree locations settings = .error .badValue) ∧
    ((∀ root ∈ roots locations settings, (Path.ofText root).hasNull = false) →
      ∃ found : List Installation,
        foldersToScan tree locations settings = .ok (found.map Installation.path) ∧
        (∀ installation,
          installation ∈ found ↔ Installed tree locations settings installation) ∧
        found.Pairwise Precedes ∧
        ∀ other, Relisted tree other →
          foldersToScan other locations settings = .ok (found.map Installation.path)) := by
  refine ⟨?_, fun hroots => ?_⟩
  · rintro ⟨root, hroot, hnull⟩
    rw [foldersToScan, all_eq_badValue hroot hnull]
    rfl
  obtain ⟨found, hall⟩ := hnames.exists_all hroots
  have hscan : foldersToScan tree locations settings =
      .ok ((sortBy le found).map Installation.path) := by
    rw [foldersToScan, hall]
    rfl
  refine ⟨sortBy le found, hscan, ?_, ?_, ?_⟩
  · intro installation
    rw [mem_sortBy]
    exact mem_all hall
  · refine (stable_sortBy transitive_le total_le (pairwise_all hall)).imp ?_
    intro a b hab
    exact precedes_of_le hab.1 hab.2
  · intro other hother
    rw [foldersToScan_eq_of_relisted hother]
    exact hscan

/-- Two versions of a platform for all users, one of them too old, and a package. -/
def sampleTree : FileTree :=
  let folders := fun (root : Place) (names : List String) =>
    (List.range names.length).map (fun n => (root ++ names.take (n + 1), Node.folder))
  ⟨.ofList ((["w"], .folder) ::
    folders ["w"] ["sys", "JetBrains", "Installations", "Platform15_2", "ExternalAnnotations"] ++
    folders ["w"] ["sys", "JetBrains", "Installations", "Platform10", "Extensions"] ++
    folders ["w"] ["packages", "2023.3", "DotFiles", "ExternalAnnotations"]), ["w"], []⟩

theorem foldersToScan_exact_sample :
    let locations : Locations := ⟨"sys", "/w/user", "packages", "cache"⟩
    let settings : ScannerSettings := ⟨"Platform", 11, true⟩
    NamesFit sampleTree ∧ (∀ root ∈ roots locations settings, (Path.ofText root).hasNull = false) ∧
      ∃ found : List Installation,
        foldersToScan sampleTree locations settings = .ok (found.map Installation.path) ∧
        found.length = 2 ∧ found.Pairwise Precedes := by
  intro locations settings
  have hnames : NamesFit sampleTree := by decide +kernel
  have hroots : ∀ root ∈ roots locations settings, (Path.ofText root).hasNull = false := by
    decide +kernel
  obtain ⟨found, hscan, -, hpairwise, -⟩ := (foldersToScan_exact hnames locations settings).2 hroots
  have hlength :
      (foldersToScan sampleTree locations settings).toOption.map List.length = some 2 := by
    decide +kernel
  rw [hscan] at hlength
  refine ⟨hnames, hroots, found, hscan, ?_, hpairwise⟩
  simpa using Option.some.inj hlength

/-- A root that cannot be there is not passed over like one that is missing. -/
theorem not_foldersToScan_of_null :
    ¬ ∀ (tree : FileTree) (locations : Locations) (settings : ScannerSettings), NamesFit tree →
      ∃ folders, foldersToScan tree locations settings = .ok folders := by
  intro hclaim
  let locations : Locations := ⟨"sys", "/us\x00er", "packages", "cache"⟩
  obtain ⟨folders, hscan⟩ := hclaim sampleTree locations .default (by decide +kernel)
  obtain ⟨found, hall, -⟩ := Outcome.map_eq_ok.1 hscan
  have hroot : locations.userRoot ∈ roots locations .default := by decide
  have hstops : all sampleTree locations .default = .error .badValue :=
    all_eq_badValue hroot (by decide +kernel)
  rw [hstops] at hall
  cases hall

end Installation

end Nullability
