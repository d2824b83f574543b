import Nullability.Installation.Documents
import Nullability.Proofs.FileTree.Operation

/-!
# Documents in a folder

The documents that are found in a folder are files below it, under paths that lead to them
(`Documents.resolve_found`). Of several paths to one document the first one counts
(`Documents.exists_distinct`).
-/

namespace Nullability

open FileTree

variable {tree : FileTree} {folder path : Path} {place : Place}

namespace FileTree

lemma isFolder_iff :
    tree.isFolder path = true ↔
      ∃ place, tree.resolve path = .ok place ∧ tree.at? place = some .folder := by
  rw [isFolder, decide_eq_true_iff, node?]
  cases tree.resolve path with
  | error failure => simp
  | ok place => simp

/-- A longer path leads on from where the shorter one leads. -/
lemma resolve_append_eq_ok {parts : List String} :
    tree.resolve (folder.append parts) = .ok place ↔ (∀ part ∈ parts, '\x00' ∉ part.toList) ∧
      ∃ start, tree.resolve folder = .ok start ∧ parts.foldlM tree.step start = .ok place := by
  simp only [resolve_eq_ok_iff]
  rw [Path.hasNull_append_eq_false_iff]
  change _ ∧ (folder.parts ++ parts).foldlM tree.step (tree.start folder) = _ ↔ _
  rw [List.foldlM_append, Outcome.bind_eq_ok]
  constructor
  · rintro ⟨⟨hfolder, hparts⟩, start, hstart, hplace⟩
    exact ⟨hparts, start, ⟨hfolder, hstart⟩, hplace⟩
  · rintro ⟨hparts, start, ⟨hfolder, hstart⟩, hplace⟩
    exact ⟨⟨hfolder, hparts⟩, start, hstart, hplace⟩

/-- What a folder lies in is a folder. -/
lemma isFolder_of_append {parts more : List String} (hne : more ≠ [])
    (h : tree.isFolder (folder.append (parts ++ more)) = true) :
    tree.isFolder (folder.append parts) = true := by
  obtain ⟨place, hresolve, -⟩ := isFolder_iff.1 h
  obtain ⟨hnull, start, hstart, hresolve⟩ := resolve_append_eq_ok.1 hresolve
  rw [List.foldlM_append] at hresolve
  obtain ⟨here, hhere, hresolve⟩ := Outcome.bind_eq_ok.1 hresolve
  obtain ⟨part, rest, rfl⟩ := List.exists_cons_of_ne_nil hne
  refine isFolder_iff.2 ⟨here, ?_, (foldlM_step_cons_iff.1 hresolve).1⟩
  refine resolve_append_eq_ok.2 ⟨?_, start, hstart, hhere⟩
  exact fun part hpart => hnull part (List.mem_append_left _ hpart)

/-- A name behind a folder's path leads into the folder. -/
lemma at?_of_isFolder_append {name : String} (hresolve : tree.resolve folder = .ok place)
    (hname : name ≠ "..") (h : tree.isFolder (folder.append [name]) = true) :
    tree.at? (place ++ [name]) = some .folder := by
  obtain ⟨there, hthere, hnode⟩ := isFolder_iff.1 h
  obtain ⟨-, start, hstart, hthere⟩ := resolve_append_eq_ok.1 hthere
  obtain rfl := Except.ok.inj (hresolve.symm.trans hstart)
  obtain ⟨-, hthere⟩ := foldlM_step_cons_iff.1 hthere
  rw [if_neg hname] at hthere
  rw [Except.ok.inj hthere]
  exact hnode

/-- The name of an entry directly inside a place. -/
def nameIn (place : Place) (entry : Place × Node) : Option String :=
  match entry.1.getLast? with
  | some name => if entry.1.dropLast = place then some name else none
  | none => none

lemma names_eq (tree : FileTree) (place : Place) :
    tree.names place = tree.nodes.entries.filterMap (nameIn place) := rfl

lemma nameIn_eq_some {entry : Place × Node} {name : String} :
    nameIn place entry = some name ↔ entry.1 = place ++ [name] := by
  rw [nameIn]
  constructor
  · intro h
    split at h
    · rename_i last hlast
      split at h
      · rename_i hplace
        rw [← hplace, ← Option.some.inj h]
        exact (List.dropLast_append_getLast? last hlast).symm
      · cases h
    · cases h
  · intro h
    rw [h, List.getLast?_concat, List.dropLast_concat]
    exact if_pos rfl

/-- A folder's path followed by the way to something leads there. -/
lemma WellFormed.resolve_append {node : Node} (h : tree.WellFormed)
    (hfolder : tree.resolve folder = .ok place) {parts : List String}
    (hnode : tree.at? (place ++ parts) = some node) :
    tree.resolve (folder.append parts) = .ok (place ++ parts) := by
  refine resolve_append_eq_ok.2 ⟨?_, place, hfolder, h.foldlM_step hnode⟩
  exact fun part hpart => (h.isFileName hnode part (List.mem_append_right place hpart)).no_null

end FileTree

/-! ## Documents -/

namespace Documents

/-- The path under which an entry is found below a folder, which is at a place: a file with the
right ending, some way down. -/
def foundAt (folder : Path) (place : Place) (entry : Place × Node) : Option Path :=
  match entry.2 with
  | .file _ _ =>
    if place.isPrefixOf entry.1 ∧ entry.1 ≠ place ∧
        hasEnding (folder.append (entry.1.drop place.length)) = true then
      some (folder.append (entry.1.drop place.length))
    else none
  | .folder => none

lemma foundAt_eq_some {entry : Place × Node} :
    foundAt folder place entry = some path ↔
      ∃ content modified, entry.2 = .file content modified ∧ place <+: entry.1 ∧
        entry.1 ≠ place ∧ hasEnding (folder.append (entry.1.drop place.length)) = true ∧
        folder.append (entry.1.drop place.length) = path := by
  obtain ⟨other, node⟩ := entry
  rw [foundAt]
  generalize hasEnding (folder.append (other.drop place.length)) = right
  cases node with
  | folder => simp
  | file content modified => simp [← List.isPrefixOf_iff_prefix, and_assoc]

/-- Below a folder the entries that count are found, in order of their paths. -/
lemma below_of_folder (hresolve : tree.resolve folder = .ok place)
    (hfolder : tree.at? place = some .folder) :
    below tree folder = sortBy Path.le (tree.nodes.entries.filterMap (foundAt folder place)) := by
  have hisFolder : tree.isFolder folder = true := isFolder_iff.2 ⟨place, hresolve, hfolder⟩
  rw [below, hresolve]
  simp only [hisFolder, if_true, FileTree.below, List.filterMap_filterMap]
  congr 1
  apply List.filterMap_congr
  intro entry _
  obtain ⟨other, node⟩ := entry
  rw [foundAt]
  generalize hright : hasEnding (folder.append (other.drop place.length)) = right
  by_cases hplace : place.isPrefixOf other ∧ other ≠ place
  · cases node with
    | folder => simp [hplace]
    | file content modified => simp [hplace, hright]
  · have hnot : ¬(place.isPrefixOf other ∧ other ≠ place ∧ right = true) :=
      fun h => hplace ⟨h.1, h.2.1⟩
    cases node with
    | folder => simp only [if_neg hplace, Option.bind_none]
    | file content modified => simp only [if_neg hplace, if_neg hnot, Option.bind_none]

lemma below_of_not_folder (h : tree.isFolder folder = false) : below tree folder = [] := by
  rw [below]
  split
  · rw [h]
    rfl
  · rfl

/-- What is found below a folder is found where it is. -/
lemma resolve_found (h : tree.WellFormed) (hfolder : tree.resolve folder = .ok place)
    {entry : Place × Node} (hentry : entry ∈ tree.nodes.entries) (hbelow : place <+: entry.1) :
    tree.resolve (folder.append (entry.1.drop place.length)) = .ok entry.1 := by
  obtain ⟨parts, hparts⟩ := hbelow
  have hnode : tree.at? (place ++ parts) = some entry.2 := by
    rw [hparts]
    exact (mem_entries_iff (h.nodes entry hentry).1).1 hentry
  rw [← hparts, List.drop_left]
  exact h.resolve_append hfolder hnode

/-- Under every identity the first path that has it is kept, after those that were seen before. -/
lemma get?_foldl_distinct (current identity : String) (paths : List Path)
    (seen : OrderedMap String Path) :
    (paths.foldl (fun (seen : OrderedMap String Path) path =>
      let identity := Path.identity current path.text
      if seen.contains identity then seen else seen.insert identity path) seen).get? identity =
        (seen.get? identity).or
          (paths.find? (fun path => Path.identity current path.text = identity)) := by
  induction paths generalizing seen with
  | nil => simp
  | cons path rest ih =>
    rw [List.foldl_cons, ih]
    by_cases hsame : Path.identity current path.text = identity
    · rw [List.find?_cons_of_pos (by simpa using hsame), hsame]
      cases hseen : seen.get? identity with
      | none => simp [OrderedMap.contains, hseen]
      | some kept => simp [OrderedMap.contains, hseen]
    · rw [List.find?_cons_of_neg (by simpa using hsame)]
      by_cases hknown : seen.contains (Path.identity current path.text) = true
      · simp only [hknown, if_true]
      · simp only [hknown, Bool.false_eq_true, if_false, OrderedMap.get?_insert, if_neg hsame]

lemma mem_distinct {current : String} {paths : List Path} :
    path ∈ distinct current paths ↔ ∃ identity,
      paths.find? (fun path => Path.identity current path.text = identity) = some path := by
  rw [distinct, List.mem_map]
  have hget := fun identity => get?_foldl_distinct current identity paths .empty
  simp only [OrderedMap.get?_empty, Option.none_or] at hget
  constructor
  · rintro ⟨⟨identity, kept⟩, hentry, rfl⟩
    exact ⟨identity, by rw [← hget]; exact (OrderedMap.mem_entries_iff _ _ _).1 hentry⟩
  · rintro ⟨identity, hfind⟩
    rw [← hget] at hfind
    exact ⟨(identity, path), (OrderedMap.mem_entries_iff _ _ _).2 hfind, rfl⟩

/-- Every place is still spelled by a path. -/
lemma exists_distinct (current : String) {paths : List Path} (h : path ∈ paths) :
    ∃ kept ∈ distinct current paths,
      Path.identity current kept.text = Path.identity current path.text := by
  have hsome : (paths.find? (fun other => Path.identity current other.text =
      Path.identity current path.text)).isSome = true :=
    List.find?_isSome.2 ⟨path, h, by simp⟩
  obtain ⟨kept, hkept⟩ := Option.isSome_iff_exists.1 hsome
  exact ⟨kept, mem_distinct.2 ⟨_, hkept⟩, by simpa using List.find?_some hkept⟩

lemma mem_of_mem_distinct {current : String} {paths : List Path}
    (h : path ∈ distinct current paths) : path ∈ paths := by
  obtain ⟨identity, hfind⟩ := mem_distinct.1 h
  exact List.mem_of_find?_eq_some hfind

end Documents
end Nullability
