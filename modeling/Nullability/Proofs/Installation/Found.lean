import Nullability.Proofs.Installation.Search

/-!
# What is found

Every installation that is found is behind one of the roots (`Installation.IsBehind`), and the
documents that a scan of the installed folders finds are files, under paths that lead to them
(`Installation.IsDocument`).
-/

namespace Nullability

open FileTree

variable {tree : FileTree} {folder path : Path} {place : Place}

namespace Installation

variable {locations : Locations} {settings : ScannerSettings}

/-- A folder inside another one has a name. -/
lemma isName_of_mem_listed (h : tree.WellFormed) {name : String}
    (hname : name ∈ listed tree folder) : Path.IsName name := by
  cases hresolve : tree.resolve folder with
  | error failure =>
    rw [listed_of_error hresolve] at hname
    exact absurd hname List.not_mem_nil
  | ok place =>
    rw [listed_of_resolve hresolve, mem_sortBy, List.mem_filter, names_eq,
      List.mem_filterMap] at hname
    obtain ⟨⟨entry, hentry, hnameIn⟩, -⟩ := hname
    refine ((h.nodes entry hentry).2.1 name ?_).toIsName
    rw [nameIn_eq_some.1 hnameIn]
    exact List.mem_concat_self

/-- Whether all that a name may belong to lies below it, under further names. -/
def Inside (folder : Path) (candidate : String → Option Installation) : Prop :=
  ∀ name found, candidate name = some found → ∃ parts : List String, parts ≠ [] ∧
    (∀ part ∈ parts, Path.IsName part) ∧ found.path = folder.append (name :: parts)

lemma inside_platformCandidate (root : String) (scope : Scope) (category : Category) :
    Inside (platformFolder root) (platformCandidate settings root scope category) := by
  intro name found h
  rw [platformCandidate] at h
  split at h
  · split at h
    · obtain rfl := Option.some.inj h
      refine ⟨[category.folder], List.cons_ne_nil _ _, ?_, rfl⟩
      cases category with
      | annotations => decide
      | extensions => decide
    · cases h
  · cases h

lemma inside_packageCandidate (root : String) :
    Inside (Path.ofText root) (packageCandidate root) := by
  intro name found h
  rw [packageCandidate] at h
  split at h
  · obtain rfl := Option.some.inj h
    exact ⟨packageParts, List.cons_ne_nil _ _, by decide, rfl⟩
  · cases h

/-- Where installations are found: at a folder under names behind a root. -/
def IsBehind (tree : FileTree) (root : String) (found : Installation) : Prop :=
  tree.isFolder found.path = true ∧ ∃ names : List String, (∀ name ∈ names, Path.IsName name) ∧
    found.path = (Path.ofText root).append names

/-- What is scanned lies behind the root. -/
lemma isBehind_of_mem_scanned (h : tree.WellFormed) {root : String} {before : List String}
    (hbefore : ∀ name ∈ before, Path.IsName name) {candidate : String → Option Installation}
    (hinside : Inside ((Path.ofText root).append before) candidate) {found : Installation}
    (hfound : found ∈ scanned tree ((Path.ofText root).append before) candidate) :
    IsBehind tree root found := by
  rw [scanned, List.mem_filterMap] at hfound
  obtain ⟨name, hname, hfound⟩ := hfound
  rw [Option.filter_eq_some_iff] at hfound
  obtain ⟨parts, -, hparts, hpath⟩ := hinside name found hfound.1
  refine ⟨hfound.2, before ++ name :: parts, ?_, ?_⟩
  · intro part hpart
    cases List.mem_append.1 hpart with
    | inl hpart => exact hbefore part hpart
    | inr hpart =>
      cases List.mem_cons.1 hpart with
      | inl hpart => exact hpart ▸ isName_of_mem_listed h hname
      | inr hpart => exact hparts part hpart
  · rw [hpath, Path.append, Path.append, Path.append, List.append_assoc]

/-- All installations are folders under names behind a root. -/
lemma exists_root_of_mem_all (h : tree.WellFormed) {found : List Installation}
    (hall : all tree locations settings = .ok found) {installation : Installation}
    (hmem : installation ∈ found) :
    ∃ root ∈ roots locations settings, IsBehind tree root installation := by
  have hplatform : ∀ root scope, installation ∈ ofPlatforms tree settings root scope →
      IsBehind tree root installation := by
    intro root scope hmem
    obtain ⟨category, -, hmem⟩ := List.mem_flatMap.1 hmem
    exact isBehind_of_mem_scanned h (by decide) (inside_platformCandidate root scope category) hmem
  obtain ⟨-, -, rfl⟩ := all_eq_ok.1 hall
  rw [List.mem_append, List.mem_append] at hmem
  obtain (hsystem | huser) | hpackage := hmem
  · exact ⟨_, by simp [roots], hplatform _ _ hsystem⟩
  · exact ⟨_, by simp [roots], hplatform _ _ huser⟩
  · rw [ofPackages, List.mem_ite_nil_right] at hpackage
    obtain ⟨hinclude, hpackage⟩ := hpackage
    refine ⟨locations.packageRoot, by simp [roots, hinclude], ?_⟩
    have hroot : Path.ofText locations.packageRoot =
        (Path.ofText locations.packageRoot).append [] := by
      rw [Path.append, List.append_nil]
    rw [hroot] at hpackage
    refine isBehind_of_mem_scanned h (fun name hname => absurd hname List.not_mem_nil) ?_ hpackage
    rw [← hroot]
    exact inside_packageCandidate locations.packageRoot

lemma IsBehind.proper {root : String} {found : Installation} (h : IsBehind tree root found) :
    found.path.Proper := by
  obtain ⟨-, names, hnames, hpath⟩ := h
  rw [hpath]
  exact (Path.proper_ofText root).append hnames

/-- The folders that are scanned lie behind a root. -/
lemma exists_root_of_mem_foldersToScan (h : tree.WellFormed) {folders : List Path}
    (hfolders : foldersToScan tree locations settings = .ok folders) (hmem : folder ∈ folders) :
    ∃ root ∈ roots locations settings, ∃ installation, IsBehind tree root installation ∧
      installation.path = folder := by
  obtain ⟨found, hall, rfl⟩ := Outcome.map_eq_ok.1 hfolders
  obtain ⟨installation, hinstallation, rfl⟩ := List.mem_map.1 hmem
  obtain ⟨root, hroot, hbehind⟩ := exists_root_of_mem_all h hall (mem_sortBy.1 hinstallation)
  exact ⟨root, hroot, installation, hbehind, rfl⟩

/-- The documents that a scan finds. -/
def discovered (tree : FileTree) (locations : Locations) (settings : ScannerSettings) :
    Except Failure (List Path) :=
  (foldersToScan tree locations settings).map (Documents.ofFolders tree)

/-- What a document is that a scan finds: a file with the right ending under a proper path. -/
structure IsDocument (tree : FileTree) (document : Path) (place : Place) : Prop where
  proper : document.Proper
  resolve : tree.resolve document = .ok place
  file : ∃ content modified, tree.at? place = some (.file content modified)
  ending : Documents.hasEnding document = true
  name : document.name = place.getLast?.getD ""

lemma isDocument_of_mem_below (h : tree.WellFormed) (hfolder : folder.Proper)
    (hfound : path ∈ Documents.below tree folder) : ∃ place, IsDocument tree path place := by
  by_cases hisFolder : tree.isFolder folder = true
  · obtain ⟨place, hresolve, hplace⟩ := isFolder_iff.1 hisFolder
    rw [Documents.below_of_folder hresolve hplace, mem_sortBy, List.mem_filterMap] at hfound
    obtain ⟨⟨other, node⟩, hentry, hfound⟩ := hfound
    obtain ⟨content, modified, hnode, hbelow, hne, hending, rfl⟩ :=
      Documents.foundAt_eq_some.1 hfound
    obtain ⟨parts, rfl⟩ := hbelow
    have hparts : parts ≠ [] := fun e => hne (by rw [e, List.append_nil])
    have hnames := (h.nodes _ hentry).2.1
    have hresolved := Documents.resolve_found h hresolve hentry (List.prefix_append place parts)
    rw [List.drop_left] at hending hresolved ⊢
    refine ⟨place ++ parts, ?_, hresolved, ⟨content, modified, ?_⟩, hending, ?_⟩
    · exact hfolder.append fun part hpart =>
        (hnames part (List.mem_append_right place hpart)).toIsName
    · rw [(mem_entries_iff (h.nodes _ hentry).1).1 hentry, ← hnode]
    · rw [Path.name, Path.append, List.getLast?_append_of_ne_nil _ hparts,
        List.getLast?_append_of_ne_nil _ hparts]
  · rw [Documents.below_of_not_folder (by simpa using hisFolder)] at hfound
    exact absurd hfound List.not_mem_nil

lemma isDocument_of_mem_discovered (h : tree.WellFormed) {documents : List Path}
    (hdiscovered : discovered tree locations settings = .ok documents)
    (hmem : path ∈ documents) : ∃ place, IsDocument tree path place := by
  obtain ⟨folders, hfolders, rfl⟩ := Outcome.map_eq_ok.1 hdiscovered
  obtain ⟨folder, hfolder, hfound⟩ :=
    List.mem_flatMap.1 (Documents.mem_of_mem_distinct hmem)
  obtain ⟨root, -, installation, hbehind, rfl⟩ :=
    exists_root_of_mem_foldersToScan h hfolders hfolder
  exact isDocument_of_mem_below h hbehind.proper hfound

/-- Whatever lies below the folders that are scanned is found, under some path. -/
lemma exists_mem_discovered (h : tree.WellFormed) {folders documents : List Path}
    (hfolders : foldersToScan tree locations settings = .ok folders)
    (hdiscovered : discovered tree locations settings = .ok documents) (hfolder : folder ∈ folders)
    (hfound : path ∈ Documents.below tree folder) (hresolve : tree.resolve path = .ok place) :
    ∃ document ∈ documents, tree.resolve document = .ok place := by
  rw [discovered, hfolders] at hdiscovered
  obtain rfl := Except.ok.inj hdiscovered
  obtain ⟨root, -, installation, hbehind, rfl⟩ :=
    exists_root_of_mem_foldersToScan h hfolders hfolder
  obtain ⟨_, hdocument⟩ := isDocument_of_mem_below h hbehind.proper hfound
  have hmem := List.mem_flatMap.2 ⟨installation.path, hfolder, hfound⟩
  obtain ⟨kept, hkept, hidentity⟩ := Documents.exists_distinct tree.currentText hmem
  have hdiscovered : discovered tree locations settings =
      .ok (Documents.ofFolders tree folders) := by
    rw [discovered, hfolders]
    rfl
  obtain ⟨there, hthere⟩ := isDocument_of_mem_discovered h hdiscovered hkept
  refine ⟨kept, hkept, ?_⟩
  -- Paths with one identity lead to one place.
  rw [hthere.resolve, Path.resolve_eq_place h.names hthere.proper hthere.resolve, hidentity,
    ← Path.resolve_eq_place h.names hdocument.proper hresolve]

end Installation

end Nullability
