import Nullability.Proofs.Installation.Ending
import Nullability.Proofs.Installation.Listing
import Nullability.Proofs.Sorting

/-!
# Enumerations of documents

Below each folder all files are found that are documents by their names, in the order of the
components of their paths (`IsBelow`). Put together, these lists spell some files several times; of
each identity the first spelling is kept, at its place. Neither step depends on the order in which
folders list what is in them.
-/

namespace Nullability

open FileTree

variable {tree other : FileTree} {folder path a b : Path}

namespace Path

/-! ## Order -/

lemma lePart_iff {as bs : List String} : lePart as bs = true ↔ as < bs ∨ as = bs := by
  induction as generalizing bs with
  | nil =>
    cases bs with
    | nil => simp [lePart]
    | cons b rest => simp [lePart]
  | cons a as ih =>
    cases bs with
    | nil => simp [lePart]
    | cons b bs =>
      rw [lePart, Bool.or_eq_true, decide_eq_true_iff, Bool.and_eq_true, beq_iff_eq, ih,
        List.cons_lt_cons_iff, List.cons.injEq, and_or_left, or_assoc]

lemma le_trans (a b c : Path) (hab : le a b = true) (hbc : le b c = true) : le a c = true := by
  rw [le, lePart_iff] at hab hbc ⊢
  obtain hab | hab := hab
  · obtain hbc | hbc := hbc
    · exact .inl (List.lt_trans hab hbc)
    · exact .inl (hbc ▸ hab)
  · rw [hab]
    exact hbc

lemma le_total (a b : Path) : (le a b || le b a) = true := by
  rw [Bool.or_eq_true, le, le, lePart_iff, lePart_iff]
  obtain hlt | heq | hlt := Std.lt_trichotomy a.parts b.parts
  · exact .inl (.inl hlt)
  · exact .inl (.inr heq)
  · exact .inr (.inl hlt)

lemma parts_eq_of_le (hab : le a b = true) (hba : le b a = true) : a.parts = b.parts := by
  rw [le, lePart_iff] at hab hba
  obtain hab | hab := hab
  · obtain hba | hba := hba
    · exact absurd hba (List.lt_asymm hab)
    · exact hba.symm
  · exact hab

lemma append_injective (folder : Path) : Function.Injective folder.append := by
  intro parts parts' h
  exact List.append_cancel_left (congrArg Path.parts h)

end Path

namespace Documents

/-- Whether a path leads to a document below a folder, at any depth. -/
def IsBelow (tree : FileTree) (folder path : Path) : Prop :=
  ∃ place parts content modified, tree.resolve folder = .ok place ∧
    tree.at? place = some .folder ∧ parts ≠ [] ∧
    tree.at? (place ++ parts) = some (.file content modified) ∧
    path = folder.append parts ∧ IsDocumentName path.name

/-! ## One folder -/

lemma mem_below (h : tree.WellFormed) : path ∈ below tree folder ↔ IsBelow tree folder path := by
  cases hfolder : tree.isFolder folder with
  | false =>
    rw [below_of_not_folder hfolder]
    refine ⟨fun hpath => absurd hpath List.not_mem_nil, ?_⟩
    rintro ⟨place, parts, content, modified, hresolve, hplace, -⟩
    rw [isFolder_iff.2 ⟨place, hresolve, hplace⟩] at hfolder
    cases hfolder
  | true =>
    obtain ⟨place, hresolve, hplace⟩ := isFolder_iff.1 hfolder
    rw [below_of_folder hresolve hplace, mem_sortBy, List.mem_filterMap]
    constructor
    · rintro ⟨entry, hentry, hfound⟩
      obtain ⟨content, modified, hnode, ⟨parts, hparts⟩, hne, hending, rfl⟩ :=
        foundAt_eq_some.1 hfound
      rw [← hparts, List.drop_left] at hending ⊢
      have hname := hasEnding_iff.1 hending
      refine ⟨place, parts, content, modified, hresolve, hplace, ?_, ?_, rfl, hname⟩
      · rintro rfl
        exact hne (by rw [← hparts, List.append_nil])
      · rw [hparts, ← hnode]
        exact (mem_entries_iff (h.nodes entry hentry).1).1 hentry
    · rintro ⟨place', parts, content, modified, hresolve', -, hne, hfile, rfl, hname⟩
      obtain rfl := Except.ok.inj (hresolve.symm.trans hresolve')
      refine ⟨(place ++ parts, .file content modified), ?_, foundAt_eq_some.2 ?_⟩
      · exact (mem_entries_iff (List.append_ne_nil_of_right_ne_nil place hne)).2 hfile
      · refine ⟨content, modified, rfl, List.prefix_append place parts, ?_, ?_, ?_⟩
        · exact fun e => hne (List.append_right_eq_self.1 e)
        · rw [List.drop_left]
          exact hasEnding_iff.2 hname
        · rw [List.drop_left]

/-- The entries below a folder are found under different paths. -/
lemma nodup_found (tree : FileTree) (folder : Path) (place : Place) :
    (tree.nodes.entries.filterMap (foundAt folder place)).Nodup := by
  refine List.Pairwise.filterMap (R := fun entry entry' => entry.1 ≠ entry'.1) _ ?_
    (List.pairwise_map.1 tree.nodes.nodup_keys)
  intro entry entry' hne found hfound found' hfound' heq
  obtain ⟨-, -, -, ⟨parts, hparts⟩, -, -, rfl⟩ := foundAt_eq_some.1 hfound
  obtain ⟨-, -, -, ⟨parts', hparts'⟩, -, -, rfl⟩ := foundAt_eq_some.1 hfound'
  rw [← hparts, ← hparts', List.drop_left, List.drop_left] at heq
  exact hne (by rw [← hparts, ← hparts', Path.append_injective folder heq])

lemma eq_of_le_of_found {place : Place} {entries : List (Place × Node)}
    (ha : a ∈ entries.filterMap (foundAt folder place))
    (hb : b ∈ entries.filterMap (foundAt folder place)) (hab : Path.le a b = true)
    (hba : Path.le b a = true) : a = b := by
  have hanchor : ∀ path ∈ entries.filterMap (foundAt folder place),
      path.anchor = folder.anchor := by
    intro path hpath
    obtain ⟨entry, -, hfound⟩ := List.mem_filterMap.1 hpath
    obtain ⟨-, -, -, -, -, -, rfl⟩ := foundAt_eq_some.1 hfound
    rfl
  have hparts := Path.parts_eq_of_le hab hba
  obtain ⟨anchor, parts⟩ := a
  obtain ⟨anchor', parts'⟩ := b
  obtain rfl : parts = parts' := hparts
  obtain rfl : anchor = anchor' := (hanchor _ ha).trans (hanchor _ hb).symm
  rfl

lemma pairwise_below (tree : FileTree) (folder : Path) :
    (below tree folder).Pairwise (fun a b => a.parts < b.parts) := by
  cases hfolder : tree.isFolder folder with
  | false =>
    rw [below_of_not_folder hfolder]
    exact List.Pairwise.nil
  | true =>
    obtain ⟨place, hresolve, hplace⟩ := isFolder_iff.1 hfolder
    rw [below_of_folder hresolve hplace]
    refine (strict_sortBy Path.le_trans Path.le_total
      (fun a ha b hb => eq_of_le_of_found ha hb) (nodup_found tree folder place)).imp ?_
    rintro a b ⟨hab, hba⟩
    rw [Path.le, Path.lePart_iff] at hab hba
    exact hab.resolve_right fun e => hba (.inr e.symm)

lemma below_eq_of_relisted (h : Relisted tree other) (folder : Path) :
    below other folder = below tree folder := by
  cases hfolder : tree.isFolder folder with
  | false =>
    rw [below_of_not_folder hfolder, below_of_not_folder]
    rw [h.isFolder_eq, hfolder]
  | true =>
    obtain ⟨place, hresolve, hplace⟩ := isFolder_iff.1 hfolder
    have hresolve' : other.resolve folder = .ok place := by rw [h.resolve_eq, hresolve]
    have hplace' : other.at? place = some .folder := by rw [h.at?_eq, hplace]
    rw [below_of_folder hresolve hplace, below_of_folder hresolve' hplace']
    exact sortBy_eq_of_perm Path.le_trans Path.le_total
      (fun a ha b hb => eq_of_le_of_found ha hb) (h.entries.filterMap _)

/-! ## First occurrences -/

/-- Whether a path has the same identity as another one. -/
def isSame (current : String) (a b : Path) : Bool :=
  Path.identity current b.text = Path.identity current a.text

variable {current : String} {paths : List Path}

lemma mem_distinct_iff :
    path ∈ distinct current paths ↔ paths.find? (isSame current path) = some path := by
  rw [mem_distinct]
  constructor
  · rintro ⟨identity, hfind⟩
    have hidentity := List.find?_some hfind
    rw [decide_eq_true_iff] at hidentity
    subst hidentity
    exact hfind
  · intro hfind
    exact ⟨_, hfind⟩

/-- A further path is left out if there was one with its identity, and comes last otherwise. -/
lemma distinct_concat (current : String) (paths : List Path) (path : Path) :
    distinct current (paths ++ [path]) =
      if paths.any (isSame current path) then distinct current paths
      else distinct current paths ++ [path] := by
  have hget := get?_foldl_distinct current (Path.identity current path.text) paths .empty
  rw [OrderedMap.get?_empty, Option.none_or] at hget
  change _ = paths.find? (isSame current path) at hget
  rw [distinct, distinct, List.foldl_append, List.foldl_cons, List.foldl_nil]
  generalize paths.foldl _ OrderedMap.empty = seen at hget ⊢
  dsimp only
  cases hany : paths.any (isSame current path) with
  | true =>
    have hknown : seen.contains (Path.identity current path.text) = true := by
      rw [OrderedMap.contains, hget, List.find?_isSome]
      exact List.any_eq_true.1 hany
    rw [if_pos hknown, if_pos rfl]
  | false =>
    have hnone : seen.get? (Path.identity current path.text) = none := by
      rw [hget, List.find?_eq_none]
      exact fun other hother => by simpa using List.any_eq_false.1 hany other hother
    have hnew : ¬seen.contains (Path.identity current path.text) = true := by
      rw [OrderedMap.contains, hnone]
      exact Bool.false_ne_true
    rw [if_neg hnew, if_neg Bool.false_ne_true, OrderedMap.entries_insert_of_get?_eq_none hnone,
      List.map_append]
    rfl

/-- The paths that are kept are in the order in which their identities occur first. -/
lemma pairwise_distinct (current : String) (paths : List Path) :
    (distinct current paths).Pairwise (fun a b =>
      paths.findIdx (isSame current a) < paths.findIdx (isSame current b)) := by
  induction paths using List.reverseRecOn with
  | nil => exact List.Pairwise.nil
  | append_singleton paths path ih =>
    -- What was kept before has its first place among the earlier paths.
    have hfirst : ∀ kept ∈ distinct current paths,
        (paths ++ [path]).findIdx (isSame current kept) = paths.findIdx (isSame current kept) ∧
          paths.findIdx (isSame current kept) < paths.length := by
      intro kept hkept
      have hlt : paths.findIdx (isSame current kept) < paths.length :=
        List.findIdx_lt_length_of_exists ⟨kept, mem_of_mem_distinct hkept, decide_eq_true rfl⟩
      rw [List.findIdx_append, if_pos hlt]
      exact ⟨rfl, hlt⟩
    have hbefore : (distinct current paths).Pairwise (fun a b =>
        (paths ++ [path]).findIdx (isSame current a) <
          (paths ++ [path]).findIdx (isSame current b)) := by
      refine ih.imp_of_mem ?_
      intro a b ha hb hab
      rw [(hfirst a ha).1, (hfirst b hb).1]
      exact hab
    rw [distinct_concat]
    split
    · exact hbefore
    · rename_i hnew
      refine List.pairwise_append.2 ⟨hbefore, List.pairwise_singleton _ path, ?_⟩
      intro kept hkept last hlast
      rw [List.mem_singleton.1 hlast, (hfirst kept hkept).1, List.findIdx_append]
      have hlength : paths.findIdx (isSame current path) = paths.length := by
        rw [List.findIdx_eq_length]
        intro other hother
        exact Bool.eq_false_iff.2 fun h => hnew (List.any_eq_true.2 ⟨other, hother, h⟩)
      rw [hlength, if_neg (Nat.lt_irrefl _)]
      exact (hfirst kept hkept).2.trans_le (Nat.le_add_left _ _)

lemma isSame_of_findIdx_lt
    (h : paths.findIdx (isSame current a) < paths.findIdx (isSame current b)) :
    isSame current a b = false := by
  rw [Bool.eq_false_iff]
  intro hsame
  rw [isSame, decide_eq_true_iff] at hsame
  have heq : isSame current a = isSame current b := by
    funext other
    rw [isSame, isSame, hsame]
  rw [heq] at h
  exact Nat.lt_irrefl _ h

/-! ## All folders -/

lemma IsBelow.resolve (htree : tree.WellFormed) (hfolder : folder.Proper)
    (h : IsBelow tree folder path) : path.Proper ∧ ∃ place content modified,
      tree.resolve path = .ok place ∧ tree.at? place = some (.file content modified) := by
  obtain ⟨place, parts, content, modified, hresolve, -, -, hfile, rfl, -⟩ := h
  refine ⟨hfolder.append fun part hpart => ?_, place ++ parts, content, modified, ?_, hfile⟩
  · exact (htree.isFileName hfile part (List.mem_append_right place hpart)).toIsName
  · exact htree.resolve_append hresolve hfile

/-- Each file is found under some path. -/
lemma exists_mem_ofFolders (htree : tree.WellFormed) {folders : List Path}
    (hfolders : ∀ folder ∈ folders, folder.Proper) (hfolder : folder ∈ folders)
    (h : IsBelow tree folder path) :
    ∃ kept ∈ ofFolders tree folders, tree.resolve kept = tree.resolve path := by
  have hmem : path ∈ folders.flatMap (below tree) :=
    List.mem_flatMap.2 ⟨folder, hfolder, (mem_below htree).2 h⟩
  obtain ⟨kept, hkept, hidentity⟩ := exists_distinct tree.currentText hmem
  refine ⟨kept, hkept, ?_⟩
  obtain ⟨folder', hfolder', hbelow⟩ := List.mem_flatMap.1 (mem_of_mem_distinct hkept)
  obtain ⟨hproper', place', -, -, hresolve', -⟩ :=
    ((mem_below htree).1 hbelow).resolve htree (hfolders folder' hfolder')
  obtain ⟨hproper, place, -, -, hresolve, -⟩ := h.resolve htree (hfolders folder hfolder)
  -- Paths with one identity lead to one place.
  rw [hresolve, hresolve', Path.resolve_eq_place htree.names hproper hresolve,
    Path.resolve_eq_place htree.names hproper' hresolve', hidentity]

/-- What is found below some folders are all files with the name of a document, each in the spelling
of its first occurrence, and in the order of these first occurrences, where each folder is gone
through in the order of paths. No two results have one identity, no file is lost, and the order in
which folders are listed makes no difference. -/
theorem find_exact {w : Workspace} {folders : List Path} (htree : w.tree.WellFormed)
    (hfolders : ∀ folder ∈ folders, folder.Proper) :
    ∃ (subtree : Path → List Path) (found : List Path),
      (∀ folder path, path ∈ subtree folder ↔ IsBelow w.tree folder path) ∧
      (∀ folder, (subtree folder).Pairwise (fun a b => a.parts < b.parts)) ∧
      (find folders w).1 = .ok found ∧
      (∀ path, path ∈ found ↔
        (folders.flatMap subtree).find? (isSame w.tree.currentText path) = some path) ∧
      found.Pairwise (fun a b => isSame w.tree.currentText a b = false ∧
        (folders.flatMap subtree).findIdx (isSame w.tree.currentText a) <
          (folders.flatMap subtree).findIdx (isSame w.tree.currentText b)) ∧
      (∀ folder ∈ folders, ∀ path, IsBelow w.tree folder path →
        ∃ kept ∈ found, w.tree.resolve kept = w.tree.resolve path) ∧
      ∀ other, Relisted w.tree other → (find folders { w with tree := other }).1 = .ok found := by
  refine ⟨below w.tree, ofFolders w.tree folders, ?_, ?_, rfl, ?_, ?_, ?_, ?_⟩
  · exact fun folder path => mem_below htree
  · exact pairwise_below w.tree
  · exact fun path => mem_distinct_iff
  · exact (pairwise_distinct w.tree.currentText _).imp fun h => ⟨isSame_of_findIdx_lt h, h⟩
  · exact fun folder hfolder path h => exists_mem_ofFolders htree hfolders hfolder h
  · intro other hother
    have hbelow : below other = below w.tree := funext (below_eq_of_relisted hother)
    change Except.ok (ofFolders other folders) = _
    rw [ofFolders, ofFolders, hbelow, hother.currentText_eq]

/-- Two documents, a name that is nothing but the ending, and a folder that looks like a
document. -/
def sampleTree : FileTree :=
  ⟨.ofList [(["w"], .folder), (["w", "docs"], .folder), (["w", "docs", "b.XML"], .file [] 1),
    (["w", "docs", ".xml"], .file [] 1), (["w", "docs", "a.xml"], .folder),
    (["w", "docs", "a.xml", "c.xml"], .file [] 1)], ["w"], []⟩

theorem find_exact_sample :
    let w : Workspace := .ofTree sampleTree 0
    let folders : List Path := [.ofText "docs/a.xml", .ofText "/w/./docs/a.xml/..", .ofText "none"]
    w.tree.WellFormed ∧ (∀ folder ∈ folders, folder.Proper) ∧ ∃ found : List Path,
      (find folders w).1 = .ok found ∧
      found = [.ofText "docs/a.xml/c.xml", .ofText "/w/docs/a.xml/../b.XML"] ∧
      found.Pairwise (fun a b => isSame w.tree.currentText a b = false) := by
  intro w folders
  have htree : w.tree.WellFormed := by decide +kernel
  have hfolders : ∀ folder ∈ folders, folder.Proper := by decide +kernel
  obtain ⟨subtree, found, -, -, hfind, -, hpairwise, -⟩ := find_exact htree hfolders
  have hfound : ofFolders w.tree folders =
      [.ofText "docs/a.xml/c.xml", .ofText "/w/docs/a.xml/../b.XML"] := by
    decide +kernel
  refine ⟨htree, hfolders, found, hfind, ?_, hpairwise.imp fun h => h.1⟩
  rw [← hfound]
  exact Except.ok.inj hfind.symm

end Documents

end Nullability
