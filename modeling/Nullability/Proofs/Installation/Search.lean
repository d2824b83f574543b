import Nullability.Installation
import Nullability.Proofs.Installation.Documents

/-!
# The search for installations

All installations are found in one way: a name below some root may belong to an installation, and
counts if the installation's folder is there (`Installation.scanned`). The search comes to its end
unless a root has a null character or the version of a package has too many digits, and what it
finds then is told part by part (`Installation.all_eq_ok`).
-/

namespace Nullability

open FileTree

variable {tree : FileTree} {folder path : Path} {place : Place}

namespace Installation

variable {locations : Locations} {settings : ScannerSettings}

/-- The names of the folders that a folder lists, if it can be looked into. -/
def listed (tree : FileTree) (folder : Path) : List String :=
  (subfolders tree folder).toOption.getD []

/-- A folder can be looked into, or be told to be missing, unless its path has a null character. -/
lemma subfolders_eq (tree : FileTree) (folder : Path) :
    subfolders tree folder =
      if folder.hasNull then .error .badValue else .ok (listed tree folder) := by
  rw [listed, subfolders]
  cases hresolve : tree.resolve folder with
  | ok place => simp [hasNull_of_resolve hresolve, Except.toOption]
  | error failure =>
    have hstops := Stops.of_resolve hresolve
    cases hnull : folder.hasNull with
    | true => simp [hstops.eq_badValue hnull, Failure.isFileSystem]
    | false => simp [hstops.isFileSystem hnull, Except.toOption]

lemma listed_of_resolve (hresolve : tree.resolve folder = .ok place) :
    listed tree folder = sortBy (fun a b => a ≤ b)
      ((tree.names place).filter (fun name => tree.isFolder (folder.append [name]))) := by
  rw [listed, subfolders, hresolve]
  rfl

/-- What leads nowhere lists nothing. -/
lemma listed_of_error {failure : Failure} (hresolve : tree.resolve folder = .error failure) :
    listed tree folder = [] := by
  rw [listed, subfolders, hresolve]
  dsimp only
  split
  · rfl
  · rfl

/-- The installations below a folder, where a name may belong to a candidate. -/
def scanned (tree : FileTree) (folder : Path) (candidate : String → Option Installation) :
    List Installation :=
  (listed tree folder).filterMap (fun name =>
    (candidate name).filter (fun found => tree.isFolder found.path))

/-- The folder in which the folders of the platforms below a root are. -/
def platformFolder (root : String) : Path :=
  (Path.ofText root).append platformParts

/-- The platform that a name below a root may belong to. -/
def platformCandidate (settings : ScannerSettings) (root : String) (scope : Scope)
    (category : Category) (name : String) : Option Installation :=
  match platformVersion? settings.folderStart name with
  | some version =>
    if settings.leastVersion ≤ version then
      some ⟨scope, category, [version, 0],
        (platformFolder root).append [name, category.folder]⟩
    else none
  | none => none

/-- The package that a name may belong to. -/
def packageCandidate (root : String) (name : String) : Option Installation :=
  match PackageVersion.ofName name with
  | .ok (some version) =>
    some ⟨.package, .annotations, version, (Path.ofText root).append (name :: packageParts)⟩
  | _ => none

/-- The roots below which installations are looked for. -/
def roots (locations : Locations) (settings : ScannerSettings) : List String :=
  [locations.systemRoot, locations.userRoot] ++
    (if settings.includePackages then [locations.packageRoot] else [])

/-- The platforms can be looked for unless there is a null character in the root's path. -/
lemma platforms_eq_ok {root : String} {scope : Scope} {category : Category}
    {found : List Installation} :
    platforms tree settings root scope category = .ok found ↔
      (Path.ofText root).hasNull = false ∧
      found = scanned tree (platformFolder root)
        (platformCandidate settings root scope category) := by
  have hnull : (platformFolder root).hasNull = (Path.ofText root).hasNull := by
    rw [platformFolder, Path.hasNull_append]
    exact Bool.or_false _
  have hfound : scanned tree (platformFolder root)
      (platformCandidate settings root scope category) =
        (listed tree (platformFolder root)).filterMap (fun name =>
          let path := (platformFolder root).append [name, category.folder]
          match platformVersion? settings.folderStart name with
          | some version =>
            if settings.leastVersion ≤ version ∧ tree.isFolder path then
              some ⟨scope, category, [version, 0], path⟩
            else none
          | none => none) := by
    apply List.filterMap_congr
    intro name _
    dsimp only
    rw [platformCandidate]
    cases platformVersion? settings.folderStart name with
    | none => rfl
    | some version =>
      by_cases hversion : settings.leastVersion ≤ version
      · simp only [hversion, true_and, if_true]
        rfl
      · simp [hversion]
  rw [hfound, ← hnull, platforms, Outcome.bind_eq_ok]
  change (∃ names, subfolders tree (platformFolder root) = .ok names ∧ _) ↔ _
  rw [subfolders_eq]
  cases (platformFolder root).hasNull with
  | true => simp
  | false =>
    simp only [Bool.false_eq_true, if_false, Except.ok.injEq, exists_eq_left', true_and]
    exact ⟨fun h => (Except.ok.inj h).symm, fun h => congrArg Except.ok h.symm⟩

/-- The package that a name belongs to, if its folder is there. -/
def package? (tree : FileTree) (root name : String) : Except Failure (Option Installation) := do
  let path := (Path.ofText root).append (name :: packageParts)
  match ← PackageVersion.ofName name with
  | some version =>
    return if tree.isFolder path then some ⟨.package, .annotations, version, path⟩ else none
  | none => return none

/-- A name whose version can be told belongs to its candidate, if that is there. -/
lemma package?_eq_ok {root name : String} {found : Option Installation} :
    package? tree root name = .ok found ↔ (∃ version, PackageVersion.ofName name = .ok version) ∧
      found = (packageCandidate root name).filter (fun found => tree.isFolder found.path) := by
  rw [package?, packageCandidate, Outcome.bind_eq_ok]
  cases PackageVersion.ofName name with
  | error failure => simp
  | ok version =>
    simp only [Except.ok.injEq, exists_eq_left', exists_eq', true_and]
    cases version with
    | none => exact ⟨fun h => (Except.ok.inj h).symm, fun h => congrArg Except.ok h.symm⟩
    | some version =>
      rw [Option.filter_some]
      exact ⟨fun h => (Except.ok.inj h).symm, fun h => congrArg Except.ok h.symm⟩

/-- The packages that names belong to. -/
lemma package?_of_forall₂ {root : String} {names : List String}
    {results : List (Option Installation)}
    (h : List.Forall₂ (fun name result => package? tree root name = .ok result) names results) :
    (∀ name ∈ names, ∃ version, PackageVersion.ofName name = .ok version) ∧
      results.filterMap id = names.filterMap (fun name =>
        (packageCandidate root name).filter (fun found => tree.isFolder found.path)) := by
  induction h with
  | nil => exact ⟨fun name hname => absurd hname List.not_mem_nil, rfl⟩
  | @cons name result names results hname _ ih =>
    obtain ⟨hversion, hresult⟩ := package?_eq_ok.1 hname
    refine ⟨?_, ?_⟩
    · intro other hother
      cases List.mem_cons.1 hother with
      | inl heq => exact heq ▸ hversion
      | inr hrest => exact ih.1 other hrest
    · rw [List.filterMap_cons, List.filterMap_cons, ih.2, hresult]
      rfl

/-- The packages are found if there is no null character in the root's path and the version in every
name can be told. -/
lemma packages_eq_ok {root : String} {found : List Installation} :
    packages tree root = .ok found ↔ (Path.ofText root).hasNull = false ∧
      (∀ name ∈ listed tree (Path.ofText root),
        ∃ version, PackageVersion.ofName name = .ok version) ∧
      found = scanned tree (Path.ofText root) (packageCandidate root) := by
  have hpackages : packages tree root = (subfolders tree (Path.ofText root) >>= fun names =>
      names.mapM (package? tree root) >>= fun found => pure (found.filterMap id)) := rfl
  rw [hpackages, subfolders_eq, scanned]
  cases (Path.ofText root).hasNull with
  | true =>
    constructor
    · intro h
      cases h
    · rintro ⟨h, -⟩
      cases h
  | false =>
    rw [if_neg Bool.false_ne_true]
    change (List.mapM (package? tree root) _ >>= _) = _ ↔ _
    rw [Outcome.bind_eq_ok]
    constructor
    · rintro ⟨results, hresults, hok⟩
      obtain ⟨hversions, hfound⟩ := package?_of_forall₂ (Outcome.mapM_eq_ok.1 hresults)
      exact ⟨rfl, hversions, by rw [← hfound]; exact (Except.ok.inj hok).symm⟩
    · rintro ⟨-, hversions, rfl⟩
      have hnames : ∀ name ∈ listed tree (Path.ofText root),
          ∃ result, package? tree root name = .ok result :=
        fun name hname => ⟨_, package?_eq_ok.2 ⟨hversions name hname, rfl⟩⟩
      obtain ⟨results, hresults⟩ := Outcome.exists_mapM hnames
      exact ⟨results, hresults,
        congrArg Except.ok (package?_of_forall₂ (Outcome.mapM_eq_ok.1 hresults)).2⟩

/-- The installations of one scope for platforms. -/
def ofPlatforms (tree : FileTree) (settings : ScannerSettings) (root : String) (scope : Scope) :
    List Installation :=
  Category.all.flatMap (fun category =>
    scanned tree (platformFolder root) (platformCandidate settings root scope category))

/-- The packages, if they are included. -/
def ofPackages (tree : FileTree) (settings : ScannerSettings) (root : String) :
    List Installation :=
  if settings.includePackages then scanned tree (Path.ofText root) (packageCandidate root) else []

lemma ofPlatforms_eq_ok {root : String} {scope : Scope} {found : List Installation} :
    (Category.all.mapM (platforms tree settings root scope)).map List.flatten = .ok found ↔
      (Path.ofText root).hasNull = false ∧ found = ofPlatforms tree settings root scope := by
  rw [Outcome.map_eq_ok]
  simp only [Outcome.mapM_eq_ok, platforms_eq_ok]
  constructor
  · rintro ⟨results, hresults, rfl⟩
    cases hresults with
    | cons hannotations hrest =>
      cases hrest with
      | cons hextensions hrest =>
        cases hrest
        refine ⟨hannotations.1, ?_⟩
        rw [hannotations.2, hextensions.2]
        rfl
  · rintro ⟨hnull, rfl⟩
    exact ⟨_, .cons ⟨hnull, rfl⟩ (.cons ⟨hnull, rfl⟩ .nil), rfl⟩

/-- The packages are looked for only if they are included. -/
lemma ofPackages_eq_ok {root : String} {before found : List Installation} :
    (if settings.includePackages then
        packages tree root >>= fun packaged => pure (before ++ packaged)
      else Except.ok [] >>= fun packaged => pure (before ++ packaged)) = .ok found ↔
      (settings.includePackages = true → (Path.ofText root).hasNull = false ∧
        ∀ name ∈ listed tree (Path.ofText root),
          ∃ version, PackageVersion.ofName name = .ok version) ∧
      found = before ++ ofPackages tree settings root := by
  rw [ofPackages]
  split
  · rename_i hinclude
    rw [Outcome.bind_eq_ok]
    constructor
    · rintro ⟨packaged, hpackaged, hfound⟩
      obtain ⟨hnull, hversions, rfl⟩ := packages_eq_ok.1 hpackaged
      exact ⟨fun _ => ⟨hnull, hversions⟩, (Except.ok.inj hfound).symm⟩
    · rintro ⟨h, rfl⟩
      exact ⟨_, packages_eq_ok.2 ⟨(h hinclude).1, (h hinclude).2, rfl⟩, rfl⟩
  · rename_i hexclude
    exact ⟨fun h => ⟨fun h => absurd h hexclude, (Except.ok.inj h).symm⟩, fun h => h.2 ▸ rfl⟩

lemma forall_mem_roots {allows : String → Prop} :
    (∀ root ∈ roots locations settings, allows root) ↔ allows locations.systemRoot ∧
      allows locations.userRoot ∧
      (settings.includePackages = true → allows locations.packageRoot) := by
  rw [roots]
  cases settings.includePackages with
  | true => simp
  | false => simp

/-- All installations are those of the platforms below two roots, and the packages if they are
included. They can be looked for unless there is a null character in a root. -/
lemma all_eq_ok {found : List Installation} :
    all tree locations settings = .ok found ↔
      (∀ root ∈ roots locations settings, (Path.ofText root).hasNull = false) ∧
      (settings.includePackages = true → ∀ name ∈ listed tree (Path.ofText locations.packageRoot),
        ∃ version, PackageVersion.ofName name = .ok version) ∧
      found = ofPlatforms tree settings locations.systemRoot .system ++
        ofPlatforms tree settings locations.userRoot .user ++
        ofPackages tree settings locations.packageRoot := by
  rw [all, forall_mem_roots, Outcome.bind_eq_ok]
  simp only [Outcome.bind_eq_ok, ofPlatforms_eq_ok]
  constructor
  · rintro ⟨system, ⟨hsystem, rfl⟩, user, ⟨huser, rfl⟩, h⟩
    obtain ⟨hpackage, hfound⟩ := ofPackages_eq_ok.1 h
    exact ⟨⟨hsystem, huser, fun h => (hpackage h).1⟩, fun h => (hpackage h).2, hfound⟩
  · rintro ⟨⟨hsystem, huser, hpackage⟩, hversions, hfound⟩
    exact ⟨_, ⟨hsystem, rfl⟩, _, ⟨huser, rfl⟩,
      ofPackages_eq_ok.2 ⟨fun h => ⟨hpackage h, hversions h⟩, hfound⟩⟩

/-! ## What stops the search -/

variable {failure : Failure}

lemma eq_badValue_of_subfolders (h : subfolders tree folder = .error failure) :
    failure = .badValue := by
  rw [subfolders_eq] at h
  split at h
  · exact (Except.error.inj h).symm
  · cases h

/-- The number in the name of a package can be too long. -/
lemma eq_badValue_of_ofName {name : String} (h : PackageVersion.ofName name = .error failure) :
    failure = .badValue := by
  rw [PackageVersion.ofName] at h
  split at h
  · obtain ⟨component, -, hnumber⟩ :=
      Outcome.exists_of_mapM_eq_error (Outcome.map_eq_error.1 h)
    rw [PackageVersion.number] at hnumber
    split at hnumber
    · exact (Except.error.inj hnumber).symm
    · cases hnumber
  · cases h

lemma eq_badValue_of_platforms {root : String} {scope : Scope} {category : Category}
    (h : platforms tree settings root scope category = .error failure) : failure = .badValue := by
  obtain h | ⟨names, -, h⟩ := Outcome.bind_eq_error.1 h
  · exact eq_badValue_of_subfolders h
  · cases h

lemma eq_badValue_of_packages {root : String} (h : packages tree root = .error failure) :
    failure = .badValue := by
  obtain h | ⟨names, -, h⟩ := Outcome.bind_eq_error.1 h
  · exact eq_badValue_of_subfolders h
  obtain h | ⟨found, -, h⟩ := Outcome.bind_eq_error.1 h
  · obtain ⟨name, -, hname⟩ := Outcome.exists_of_mapM_eq_error h
    obtain hversion | ⟨version, -, hname⟩ := Outcome.bind_eq_error.1 hname
    · exact eq_badValue_of_ofName hversion
    · split at hname
      · cases hname
      · cases hname
  · cases h

/-- Whatever stops the search for installations, it is a bad value: a null character in a root, or a
number that is too long. -/
lemma eq_badValue_of_all (h : all tree locations settings = .error failure) :
    failure = .badValue := by
  have hplatforms : ∀ root scope,
      (Category.all.mapM (platforms tree settings root scope)).map List.flatten = .error failure →
        failure = .badValue := by
    intro root scope h
    obtain ⟨category, -, h⟩ := Outcome.exists_of_mapM_eq_error (Outcome.map_eq_error.1 h)
    exact eq_badValue_of_platforms h
  obtain hsystem | ⟨system, -, h⟩ := Outcome.bind_eq_error.1 h
  · exact hplatforms _ _ hsystem
  obtain huser | ⟨user, -, h⟩ := Outcome.bind_eq_error.1 h
  · exact hplatforms _ _ huser
  split at h
  · obtain hpackages | ⟨found, -, h⟩ := Outcome.bind_eq_error.1 h
    · exact eq_badValue_of_packages hpackages
    · cases h
  · cases h

end Installation

end Nullability
