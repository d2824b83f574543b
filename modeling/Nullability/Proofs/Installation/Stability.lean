import Nullability.Proofs.FileTree.Growth
import Nullability.Proofs.Installation.Found

/-!
# Scans of grown trees

A scan finds the same documents in a tree before and after a file was saved somewhere
(`discovered_of_grown`). New folders may be taken for installations, but there is nothing in them;
left out of the list, they leave the other folders in their order. The files that were replaced are
no documents, and a new folder cannot reveal an old one as long as the roots retreat safely.
-/

namespace Nullability.Installation

open FileTree

variable {way : List Place} {spare : Place → Bool} {before after tree : FileTree}
  {folder : Path} {locations : Locations} {settings : ScannerSettings}

lemma isFolder_of_grown (h : Grown way spare before after) {path : Path}
    (hfolder : before.isFolder path = true) : after.isFolder path = true := by
  obtain ⟨place, hresolve, hplace⟩ := isFolder_iff.1 hfolder
  exact isFolder_iff.2 ⟨place, h.resolve hresolve, h.at?_of_folder hplace⟩

/-- Where something that steps may be seen only among what has to stay, nothing has changed. -/
lemma filterMap_entries_of_grown (h : Grown way spare before after) {β : Type}
    {f : Place × Node → Option β}
    (hbefore : ∀ entry ∈ before.nodes.entries, (f entry).isSome = true →
      steady spare before entry.1 = true)
    (hafter : ∀ entry ∈ after.nodes.entries, (f entry).isSome = true →
      steady spare before entry.1 = true) :
    after.nodes.entries.filterMap f = before.nodes.entries.filterMap f := by
  have hsteady : ∀ entries : List (Place × Node),
      (∀ entry ∈ entries, (f entry).isSome = true → steady spare before entry.1 = true) →
        entries.filterMap f =
          (entries.filter (fun entry => steady spare before entry.1)).filterMap f := by
    intro entries hentries
    rw [List.filterMap_filter]
    apply List.filterMap_congr
    intro entry hentry
    split
    · rfl
    · rename_i hnot
      rw [← Option.not_isSome_iff_eq_none]
      exact fun hsome => hnot (hentries entry hentry hsome)
  rw [hsteady _ hafter, h.entries, ← hsteady _ hbefore]

/-! ## Order -/

/-- Comparing by a rank and then by something else is transitive if that is. -/
lemma ranked_trans {a b c : Nat} {p q r : Bool} (h : p → q → r)
    (hab : a < b || (a == b && p)) (hbc : b < c || (b == c && q)) : a < c || (a == c && r) := by
  simp only [Bool.or_eq_true, Bool.and_eq_true, decide_eq_true_eq, beq_iff_eq] at hab hbc ⊢
  obtain hab | ⟨rfl, hp⟩ := hab
  · left
    omega
  · obtain hbc | ⟨rfl, hq⟩ := hbc
    · exact .inl hbc
    · exact .inr ⟨rfl, h hp hq⟩

lemma ranked_total {a b : Nat} {p q : Bool} (h : p || q) :
    (a < b || (a == b && p)) || (b < a || (b == a && q)) := by
  simp only [Bool.or_eq_true, Bool.and_eq_true, decide_eq_true_eq, beq_iff_eq] at h ⊢
  obtain hlt | rfl | hlt := Nat.lt_trichotomy a b
  · exact .inl (.inl hlt)
  · cases h with
    | inl hp => exact .inl (.inr ⟨rfl, hp⟩)
    | inr hq => exact .inr (.inr ⟨rfl, hq⟩)
  · exact .inr (.inl hlt)

lemma version_le_trans {a b c : PackageVersion} (hab : PackageVersion.le a b)
    (hbc : PackageVersion.le b c) : PackageVersion.le a c := by
  induction a generalizing b c with
  | nil => rfl
  | cons x as ih =>
    cases b with
    | nil => cases hab
    | cons y bs =>
      cases c with
      | nil => cases hbc
      | cons z cs => exact ranked_trans (fun hab hbc => ih hab hbc) hab hbc

lemma version_le_total (a b : PackageVersion) :
    PackageVersion.le a b || PackageVersion.le b a := by
  induction a generalizing b with
  | nil => rfl
  | cons x as ih =>
    cases b with
    | nil => rfl
    | cons y bs => exact ranked_total (ih bs)

lemma transitive_le (a b c : Installation) (hab : le a b) (hbc : le b c) : le a c :=
  ranked_trans (ranked_trans version_le_trans) hab hbc

lemma total_le (a b : Installation) : le a b || le b a :=
  ranked_total (ranked_total (version_le_total a.version b.version))

/-! ## Folders -/

/-- The folders inside a folder that were there before. -/
lemma filter_listed (h : Grown way spare before after) (hbefore : before.WellFormed)
    (hafter : after.WellFormed) (folder : Path) :
    (listed after folder).filter (fun name => before.isFolder (folder.append [name])) =
      listed before folder := by
  cases hresolve : before.resolve folder with
  | error failure =>
    -- The folder may be there now, but nothing in it was there before.
    rw [listed_of_error hresolve, List.filter_eq_nil_iff]
    intro name _ hfolder
    obtain ⟨place, hplace, -⟩ := isFolder_iff.1 hfolder
    obtain ⟨-, start, hstart, -⟩ := resolve_append_eq_ok.1 hplace
    rw [hresolve] at hstart
    cases hstart
  | ok place =>
    rw [listed_of_resolve (h.resolve hresolve), listed_of_resolve hresolve,
      filter_sortBy (fun a b c => ?_) (fun a b => ?_), List.filter_filter]
    · congr 1
      have hfilter : (after.names place).filter (fun name =>
          before.isFolder (folder.append [name]) && after.isFolder (folder.append [name])) =
            (after.names place).filter (fun name => before.isFolder (folder.append [name])) := by
        apply List.filter_congr
        intro name _
        cases hfolder : before.isFolder (folder.append [name]) with
        | false => rfl
        | true => rw [isFolder_of_grown h hfolder]; rfl
      rw [hfilter, names_eq, names_eq, List.filter_filterMap, List.filter_filterMap]
      -- A name of a folder that was there belongs to an entry that has to stay.
      have hsteady : ∀ tree : FileTree, tree.WellFormed → ∀ entry ∈ tree.nodes.entries,
          ((nameIn place entry).filter
            (fun name => before.isFolder (folder.append [name]))).isSome = true →
          steady spare before entry.1 = true := by
        intro tree htree entry hentry hsome
        obtain ⟨name, hname⟩ := Option.isSome_iff_exists.1 hsome
        rw [Option.filter_eq_some_iff, nameIn_eq_some] at hname
        have hisFileName := (htree.nodes entry hentry).2.1 name (by rw [hname.1]; simp)
        rw [hname.1]
        exact steady_of_folder (at?_of_isFolder_append hresolve hisFileName.ne_dots hname.2)
      exact filterMap_entries_of_grown h (hsteady before hbefore) (hsteady after hafter)
    · intro hab hbc
      exact decide_eq_true (String.le_trans (of_decide_eq_true hab) (of_decide_eq_true hbc))
    · simpa using String.le_total a b

/-- The installations below a folder that were there before. -/
lemma filter_scanned (h : Grown way spare before after) (hbefore : before.WellFormed)
    (hafter : after.WellFormed) {candidate : String → Option Installation}
    (hinside : Inside folder candidate) :
    (scanned after folder candidate).filter (fun found => before.isFolder found.path) =
      scanned before folder candidate := by
  rw [scanned, scanned, List.filter_filterMap, ← filter_listed h hbefore hafter folder,
    List.filterMap_filter]
  apply List.filterMap_congr
  intro name _
  cases hcandidate : candidate name with
  | none => simp
  | some found =>
    rw [Option.filter_some, Option.filter_some]
    cases hfolder : before.isFolder found.path with
    | false => simp [hfolder]
    | true =>
      have hname : before.isFolder (folder.append [name]) = true := by
        obtain ⟨parts, hparts, -, hpath⟩ := hinside name found hcandidate
        exact isFolder_of_append hparts (by rw [List.singleton_append, ← hpath]; exact hfolder)
      simp [hname, hfolder, isFolder_of_grown h hfolder]

lemma all_of_grown (h : Grown way spare before after) (hbefore : before.WellFormed)
    (hafter : after.WellFormed) {found : List Installation}
    (hfound : all after locations settings = .ok found) :
    all before locations settings =
      .ok (found.filter (fun found => before.isFolder found.path)) := by
  have hplatforms : ∀ root scope,
      (ofPlatforms after settings root scope).filter (fun found => before.isFolder found.path) =
        ofPlatforms before settings root scope := by
    intro root scope
    rw [ofPlatforms, List.filter_flatMap]
    apply List.flatMap_congr
    intro category _
    exact filter_scanned h hbefore hafter (inside_platformCandidate root scope category)
  have hpackages : ∀ root,
      (ofPackages after settings root).filter (fun found => before.isFolder found.path) =
        ofPackages before settings root := by
    intro root
    rw [ofPackages, ofPackages]
    split
    · exact filter_scanned h hbefore hafter (inside_packageCandidate root)
    · rfl
  obtain ⟨hroots, hversions, rfl⟩ := all_eq_ok.1 hfound
  refine all_eq_ok.2 ⟨hroots, ?_, ?_⟩
  · intro hinclude name hname
    rw [← filter_listed h hbefore hafter] at hname
    exact hversions hinclude name (List.mem_of_mem_filter hname)
  · rw [List.filter_append, List.filter_append, hplatforms, hplatforms, hpackages]

/-- The folders that were there before are scanned in the same order. -/
lemma foldersToScan_of_grown (h : Grown way spare before after) (hbefore : before.WellFormed)
    (hafter : after.WellFormed) {folders : List Path}
    (hfolders : foldersToScan after locations settings = .ok folders) :
    foldersToScan before locations settings = .ok (folders.filter before.isFolder) := by
  obtain ⟨found, hall, rfl⟩ := Outcome.map_eq_ok.1 hfolders
  rw [foldersToScan, all_of_grown h hbefore hafter hall, List.filter_map, Function.comp_def,
    filter_sortBy transitive_le total_le]
  rfl

/-! ## Documents -/

/-- Whether a scan finds nothing at spare places. -/
def Spared (spare : Place → Bool) (tree : FileTree) (locations : Locations)
    (settings : ScannerSettings) : Prop :=
  ∀ documents, discovered tree locations settings = .ok documents → ∀ document ∈ documents,
    ∀ place, tree.resolve document = .ok place → spare place = false

/-- Then there is nothing at spare places below the folders that are scanned. -/
lemma Spared.of_mem_below (hspared : Spared spare tree locations settings)
    (htree : tree.WellFormed) {folders : List Path}
    (hfolders : foldersToScan tree locations settings = .ok folders) (hfolder : folder ∈ folders)
    {path : Path} (hfound : path ∈ Documents.below tree folder) {place : Place}
    (hresolve : tree.resolve path = .ok place) : spare place = false := by
  have hdiscovered : discovered tree locations settings =
      .ok (Documents.ofFolders tree folders) := by
    rw [discovered, hfolders]
    rfl
  obtain ⟨document, hdocument, hplace⟩ :=
    exists_mem_discovered htree hfolders hdiscovered hfolder hfound hresolve
  exact hspared _ hdiscovered document hdocument place hplace

/-- Below a folder that was there before the same documents are found. -/
lemma below_of_grown (h : Grown way spare before after) (hbefore : before.WellFormed)
    (hafter : after.WellFormed) (hfolder : before.isFolder folder = true)
    (hspareBefore : ∀ path ∈ Documents.below before folder, ∀ place,
      before.resolve path = .ok place → spare place = false)
    (hspareAfter : ∀ path ∈ Documents.below after folder, ∀ place,
      after.resolve path = .ok place → spare place = false) :
    Documents.below after folder = Documents.below before folder := by
  obtain ⟨place, hresolve, hplace⟩ := isFolder_iff.1 hfolder
  have hresolve' := h.resolve hresolve
  rw [Documents.below_of_folder hresolve' (h.at?_of_folder hplace)] at hspareAfter ⊢
  rw [Documents.below_of_folder hresolve hplace] at hspareBefore ⊢
  congr 1
  -- A document is a file that is not spare, in whichever of the trees it is found.
  refine filterMap_entries_of_grown h ?_ ?_
  · intro entry hentry hsome
    obtain ⟨path, hpath⟩ := Option.isSome_iff_exists.1 hsome
    obtain ⟨content, modified, hnode, hbelow, -, -, rfl⟩ := Documents.foundAt_eq_some.1 hpath
    have hspare := hspareBefore _ (mem_sortBy.2 (List.mem_filterMap.2 ⟨entry, hentry, hpath⟩)) _
      (Documents.resolve_found hbefore hresolve hentry hbelow)
    have hfile := (mem_entries_iff (hbefore.nodes entry hentry).1).1 hentry
    exact steady_of_file (hfile.trans (congrArg some hnode)) hspare
  · intro entry hentry hsome
    obtain ⟨path, hpath⟩ := Option.isSome_iff_exists.1 hsome
    obtain ⟨content, modified, hnode, hbelow, -, -, rfl⟩ := Documents.foundAt_eq_some.1 hpath
    have hspare := hspareAfter _ (mem_sortBy.2 (List.mem_filterMap.2 ⟨entry, hentry, hpath⟩)) _
      (Documents.resolve_found hafter hresolve' hentry hbelow)
    have hfile := (mem_entries_iff (hafter.nodes entry hentry).1).1 hentry
    cases h.files entry.1 content modified (hfile.trans (congrArg some hnode)) with
    | inl hold => exact steady_of_file hold hspare
    | inr hnew => rw [hspare] at hnew; cases hnew

/-- Below a folder that was not there before nothing is found. -/
lemma below_of_new (h : Grown way spare before after) (hbefore : before.WellFormed)
    (hafter : after.WellFormed) (hfolder : before.isFolder folder = false)
    (hsafe : RetreatsSafely way before (before.start folder) folder.parts)
    (hspare : ∀ path ∈ Documents.below after folder, ∀ place,
      after.resolve path = .ok place → spare place = false) :
    Documents.below after folder = [] := by
  by_cases hnew : after.isFolder folder = true
  · obtain ⟨place, hresolve, hplace⟩ := isFolder_iff.1 hnew
    have hnone : before.at? place ≠ some .folder := by
      intro hold
      have hresolveBefore := h.resolve_of_folder hbefore hsafe hresolve hold
      rw [isFolder_iff.2 ⟨place, hresolveBefore, hold⟩] at hfolder
      cases hfolder
    rw [List.eq_nil_iff_forall_not_mem]
    intro path hfound
    have hfound' := hfound
    rw [Documents.below_of_folder hresolve hplace, mem_sortBy, List.mem_filterMap] at hfound'
    obtain ⟨entry, hentry, hpath⟩ := hfound'
    obtain ⟨content, modified, hnode, hbelow, hne, -, rfl⟩ := Documents.foundAt_eq_some.1 hpath
    have hnotSpare := hspare _ hfound _ (Documents.resolve_found hafter hresolve hentry hbelow)
    have hfile := (mem_entries_iff (hafter.nodes entry hentry).1).1 hentry
    -- An old file would lie below what was no folder, and a new one would be spare.
    cases h.files entry.1 content modified (hfile.trans (congrArg some hnode)) with
    | inl hold => exact hne (hbefore.eq_of_below hnone hbelow hold)
    | inr hnew => rw [hnotSpare] at hnew; cases hnew
  · exact Documents.below_of_not_folder (by simpa using hnew)

/-- Items can be left out of a list, or may be given nothing. -/
lemma flatMap_filter {α β : Type} (items : List α) (p : α → Bool) (f : α → List β) :
    (items.filter p).flatMap f = items.flatMap (fun a => if p a then f a else []) := by
  induction items with
  | nil => rfl
  | cons a rest ih =>
    rw [List.flatMap_cons, ← ih]
    cases hp : p a with
    | true => simp [List.filter_cons_of_pos hp]
    | false => simp [hp]

/-- Whether the roots get out of folders on the way only if these are there already. -/
def RootsRetreatSafely (way : List Place) (tree : FileTree) (locations : Locations)
    (settings : ScannerSettings) : Prop :=
  ∀ root ∈ roots locations settings,
    RetreatsSafely way tree (tree.start (Path.ofText root)) (Path.ofText root).parts

/-- Whatever lies behind such a root is safe as well. -/
lemma IsBehind.retreatsSafely {root : String} {found : Installation}
    (h : IsBehind after root found)
    (hsafe : RetreatsSafely way before (before.start (Path.ofText root))
      (Path.ofText root).parts) :
    RetreatsSafely way before (before.start found.path) found.path.parts := by
  obtain ⟨-, names, hnames, hpath⟩ := h
  rw [hpath]
  exact hsafe.append fun hdots => (hnames ".." hdots).ne_dots rfl

/-- If a scan succeeds after a file was saved, it would have found the same documents before. -/
theorem discovered_of_grown (h : Grown way spare before after) (hbefore : before.WellFormed)
    (hafter : after.WellFormed) (hsafe : RootsRetreatSafely way before locations settings)
    (hspareBefore : Spared spare before locations settings)
    (hspareAfter : Spared spare after locations settings) {documents : List Path}
    (hdocuments : discovered after locations settings = .ok documents) :
    discovered before locations settings = .ok documents := by
  obtain ⟨folders, hfolders, rfl⟩ := Outcome.map_eq_ok.1 hdocuments
  have hold := foldersToScan_of_grown h hbefore hafter hfolders
  have hbelow : ∀ folder ∈ folders, Documents.below after folder =
      if before.isFolder folder then Documents.below before folder else [] := by
    intro folder hfolder
    have hspare : ∀ path ∈ Documents.below after folder, ∀ place,
        after.resolve path = .ok place → spare place = false :=
      fun path hfound place => hspareAfter.of_mem_below hafter hfolders hfolder hfound
    cases hisFolder : before.isFolder folder with
    | true =>
      refine below_of_grown h hbefore hafter hisFolder ?_ hspare
      exact fun path hfound place => hspareBefore.of_mem_below hbefore hold
        (List.mem_filter.2 ⟨hfolder, hisFolder⟩) hfound
    | false =>
      obtain ⟨root, hroot, installation, hbehind, rfl⟩ :=
        exists_root_of_mem_foldersToScan hafter hfolders hfolder
      exact below_of_new h hbefore hafter hisFolder (hbehind.retreatsSafely (hsafe root hroot))
        hspare
  -- Nothing is found in the new folders, so they may as well be left out.
  have hall : (folders.filter before.isFolder).flatMap (Documents.below before) =
      folders.flatMap (Documents.below after) := by
    rw [List.flatMap_congr hbelow, flatMap_filter]
  rw [discovered, hold]
  change Except.ok (Documents.distinct _ _) = Except.ok (Documents.distinct _ _)
  rw [hall, currentText, currentText, h.current]

end Nullability.Installation
