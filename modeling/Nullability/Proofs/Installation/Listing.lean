import Nullability.Proofs.Installation.Found

/-!
# Listings

A file system lists what is in a folder in any order. All that can be asked of a tree by paths is
the same in a tree that lists its entries in another order (`Relisted`).
-/

namespace Nullability.FileTree

variable {tree other : FileTree} {place : Place}

/-- Whether two trees differ only in the order of their entries. -/
structure Relisted (tree other : FileTree) : Prop where
  current : other.current = tree.current
  denials : other.denials = tree.denials
  entries : other.nodes.entries.Perm tree.nodes.entries

namespace Relisted

lemma at?_eq (h : Relisted tree other) (place : Place) : other.at? place = tree.at? place := by
  by_cases hroot : place = []
  · rw [hroot, at?_nil, at?_nil]
  · apply Option.ext
    intro node
    rw [← mem_entries_iff hroot, ← mem_entries_iff hroot, h.entries.mem_iff]

lemma resolve_eq (h : Relisted tree other) (path : Path) :
    other.resolve path = tree.resolve path := by
  have hstep : other.step = tree.step := by
    funext place part
    rw [step, step, h.at?_eq]
  rw [resolve, resolve, start, start, hstep, h.current]

lemma isFolder_eq (h : Relisted tree other) (path : Path) :
    other.isFolder path = tree.isFolder path := by
  rw [isFolder, isFolder, node?, node?, h.resolve_eq]
  simp only [h.at?_eq]

lemma currentText_eq (h : Relisted tree other) : other.currentText = tree.currentText := by
  rw [currentText, currentText, h.current]

end Relisted

/-- A name stands for one entry only. -/
lemma nodup_names (tree : FileTree) (place : Place) : (tree.names place).Nodup := by
  rw [names_eq]
  refine List.Pairwise.filterMap (R := fun entry entry' => entry.1 ≠ entry'.1) (nameIn place) ?_ ?_
  · intro entry entry' hne name hname name' hname' heq
    rw [nameIn_eq_some] at hname hname'
    exact hne (by rw [hname, hname', heq])
  · exact List.pairwise_map.1 tree.nodes.nodup_keys

/-- The names inside a place are those under which something is there. -/
lemma mem_names {name : String} :
    name ∈ tree.names place ↔ ∃ node, tree.at? (place ++ [name]) = some node := by
  have hroot : place ++ [name] ≠ [] := List.append_ne_nil_of_right_ne_nil _ (List.cons_ne_nil _ _)
  rw [names_eq, List.mem_filterMap]
  constructor
  · rintro ⟨entry, hentry, hname⟩
    refine ⟨entry.2, (mem_entries_iff hroot).1 ?_⟩
    rw [← nameIn_eq_some.1 hname]
    exact hentry
  · rintro ⟨node, hnode⟩
    exact ⟨(place ++ [name], node), (mem_entries_iff hroot).2 hnode, nameIn_eq_some.2 rfl⟩

end Nullability.FileTree
