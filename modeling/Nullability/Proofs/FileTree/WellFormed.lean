import Nullability.Proofs.FileTree.Content
import Nullability.Proofs.Path.Place

/-!
# Well-formed trees

In a file system everything has a name and lies in a folder. Trees with this property keep it under
all operations that are made of putting a node into a folder and of removing what is no folder. What
is asked of a place that a path leads to is little more: it is a folder, or the folder of it is
there (`Reached`). No file system keeps a name with a null character, since no path with one is
taken.
-/

namespace Nullability.FileTree

open Nullability.Path

variable {tree : FileTree} {place other : Place} {node : Node}

/-- What can be the name of something in a tree: a name without a null character. -/
structure IsFileName (name : String) : Prop extends IsName name where
  no_null : '\x00' ∉ name.toList

instance (name : String) : Decidable (IsFileName name) :=
  decidable_of_iff (IsName name ∧ '\x00' ∉ name.toList)
    ⟨fun ⟨h1, h2⟩ => ⟨h1, h2⟩, fun ⟨h1, h2⟩ => ⟨h1, h2⟩⟩

/-- Everything in a tree has a name and lies in a folder; the current folder is there. -/
structure WellFormed (tree : FileTree) : Prop where
  nodes : ∀ entry ∈ tree.nodes.entries, entry.1 ≠ [] ∧ (∀ name ∈ entry.1, IsFileName name) ∧
    tree.at? entry.1.dropLast = some .folder
  names : ∀ name ∈ tree.current, IsName name
  current : tree.at? tree.current = some .folder

instance (tree : FileTree) : Decidable tree.WellFormed :=
  decidable_of_iff
    ((∀ entry ∈ tree.nodes.entries, entry.1 ≠ [] ∧ (∀ name ∈ entry.1, IsFileName name) ∧
      tree.at? entry.1.dropLast = some .folder) ∧ (∀ name ∈ tree.current, IsName name) ∧
      tree.at? tree.current = some .folder)
    ⟨fun ⟨nodes, names, current⟩ => ⟨nodes, names, current⟩,
      fun ⟨nodes, names, current⟩ => ⟨nodes, names, current⟩⟩

/-- A tree without what is at a place. -/
def remove (tree : FileTree) (place : Place) : FileTree :=
  { tree with nodes := tree.nodes.erase place }

/-- What a path can lead to: a folder, or something in a folder. -/
def Reached (tree : FileTree) (place : Place) : Prop :=
  tree.at? place = some .folder ∨
    place ≠ [] ∧ (∀ name ∈ place, IsFileName name) ∧ tree.at? place.dropLast = some .folder

/-! ## Looking up -/

/-- The root is no place for a file. -/
lemma ne_nil_of_ne_folder (hfolder : tree.at? place ≠ some .folder) : place ≠ [] := by
  intro e
  rw [e, at?_nil] at hfolder
  exact hfolder rfl

lemma at?_of_ne (h : place ≠ []) : tree.at? place = tree.nodes.get? place :=
  if_neg h

lemma at?_put (h : place ≠ []) :
    (tree.put place node).at? other = if place = other then some node else tree.at? other := by
  by_cases hroot : other = []
  · subst hroot
    rw [at?_nil, at?_nil, if_neg h]
  · rw [at?_of_ne hroot, at?_of_ne hroot]
    exact OrderedMap.get?_insert tree.nodes place other node

lemma at?_remove (h : place ≠ []) :
    (tree.remove place).at? other = if place = other then none else tree.at? other := by
  by_cases hroot : other = []
  · subst hroot
    rw [at?_nil, at?_nil, if_neg h]
  · rw [at?_of_ne hroot, at?_of_ne hroot]
    exact OrderedMap.get?_erase tree.nodes place other

lemma mem_entries_iff (h : place ≠ []) :
    (place, node) ∈ tree.nodes.entries ↔ tree.at? place = some node := by
  rw [at?_of_ne h]
  exact OrderedMap.mem_entries_iff tree.nodes place node

namespace WellFormed

lemma at?_dropLast (h : tree.WellFormed) (hnode : tree.at? place = some node) :
    tree.at? place.dropLast = some .folder := by
  by_cases hroot : place = []
  · rw [hroot]
    rfl
  · exact (h.nodes _ ((mem_entries_iff hroot).2 hnode)).2.2

lemma isFileName (h : tree.WellFormed) (hnode : tree.at? place = some node) :
    ∀ name ∈ place, IsFileName name := by
  by_cases hroot : place = []
  · intro name hname
    rw [hroot] at hname
    exact absurd hname List.not_mem_nil
  · exact (h.nodes _ ((mem_entries_iff hroot).2 hnode)).2.1

/-- On the way to what is there, there are folders. -/
lemma folder_above (h : tree.WellFormed) (hnode : tree.at? place = some node)
    (hbelow : other <+: place) (hne : other ≠ place) : tree.at? other = some .folder := by
  -- Up from the place itself: what is there lies in a folder, which lies in a folder.
  induction place using List.reverseRecOn generalizing node with
  | nil => exact absurd (List.prefix_nil.1 hbelow) hne
  | append_singleton before name ih =>
    have hfolder := h.at?_dropLast hnode
    rw [List.dropLast_concat] at hfolder
    cases List.prefix_concat_iff.1 hbelow with
    | inl heq => exact absurd heq hne
    | inr hbefore =>
      by_cases heq : other = before
      · rw [heq]
        exact hfolder
      · exact ih hfolder hbefore heq

/-- Nothing lies below what is no folder. -/
lemma eq_of_below (h : tree.WellFormed) (hfolder : tree.at? place ≠ some .folder)
    (hbelow : place <+: other) (hnode : tree.at? other = some node) : other = place := by
  by_contra hne
  exact hfolder (h.folder_above hnode hbelow (fun e => hne e.symm))

/-- The way to what is there can be followed. -/
lemma foldlM_step (h : tree.WellFormed) {parts : List String}
    (hnode : tree.at? (place ++ parts) = some node) :
    parts.foldlM tree.step place = .ok (place ++ parts) := by
  induction parts generalizing place with
  | nil => rw [List.append_nil]; rfl
  | cons part rest ih =>
    have hfolder : tree.at? place = some .folder := by
      refine h.folder_above hnode (List.prefix_append place (part :: rest)) ?_
      intro e
      exact List.cons_ne_nil part rest (List.self_eq_append_right.1 e)
    have hpart : part ≠ ".." :=
      (h.isFileName hnode part (List.mem_append_right place List.mem_cons_self)).ne_dots
    have hrest : place ++ part :: rest = place ++ [part] ++ rest := by simp
    rw [hrest] at hnode ⊢
    refine foldlM_step_cons_iff.2 ⟨hfolder, ?_⟩
    rw [if_neg hpart]
    exact ih hnode

/-- Paths lead to what can be reached. -/
lemma reached_of_foldlM (h : tree.WellFormed) {parts : List String} {start : Place}
    (hparts : ∀ part ∈ parts, IsComponent part)
    (hnull : ∀ part ∈ parts, '\x00' ∉ part.toList) (hstart : tree.Reached start)
    (hresolve : parts.foldlM tree.step start = .ok place) : tree.Reached place := by
  induction parts generalizing start with
  | nil =>
    rw [List.foldlM_nil] at hresolve
    exact Except.ok.inj hresolve ▸ hstart
  | cons part rest ih =>
    have hpart := hparts part List.mem_cons_self
    obtain ⟨hfolder, hresolve⟩ := foldlM_step_cons_iff.1 hresolve
    refine ih (fun p hp => hparts p (List.mem_cons_of_mem part hp))
      (fun p hp => hnull p (List.mem_cons_of_mem part hp)) ?_ hresolve
    by_cases hdots : part = ".."
    · rw [if_pos hdots]
      exact .inl (h.at?_dropLast hfolder)
    · rw [if_neg hdots]
      refine .inr ⟨List.concat_ne_nil part start, ?_, by rw [List.dropLast_concat]; exact hfolder⟩
      intro name hname
      cases List.mem_append.1 hname with
      | inl hname => exact h.isFileName hfolder name hname
      | inr hname =>
        rw [List.mem_singleton.1 hname]
        exact ⟨⟨hpart.ne_empty, hpart.ne_dot, hdots, hpart.no_slash⟩,
          hnull part List.mem_cons_self⟩

lemma reached (h : tree.WellFormed) {path : Path} (hpath : path.Proper)
    (hresolve : tree.resolve path = .ok place) : tree.Reached place := by
  obtain ⟨hnull, hresolve⟩ := resolve_eq_ok_iff.1 hresolve
  refine h.reached_of_foldlM hpath (hasNull_eq_false_iff.1 hnull) ?_ hresolve
  rw [start]
  split
  · exact .inl at?_nil
  · exact .inl h.current

/-! ## Changes -/

/-- A node may be put wherever a path leads, if it does not take the place of a folder. -/
lemma put (h : tree.WellFormed) (hplace : tree.Reached place)
    (hfolder : tree.at? place = some .folder → node = .folder) (hroot : place ≠ []) :
    (tree.put place node).WellFormed := by
  have hstays : ∀ other, tree.at? other = some .folder →
      (tree.put place node).at? other = some .folder := by
    intro other hother
    rw [at?_put hroot]
    split
    · rename_i heq
      rw [hfolder (heq ▸ hother)]
    · exact hother
  have hnames : ∀ name ∈ place, IsFileName name := by
    cases hplace with
    | inl hplace => exact h.isFileName hplace
    | inr hplace => exact hplace.2.1
  have hparent : tree.at? place.dropLast = some .folder := by
    cases hplace with
    | inl hplace => exact h.at?_dropLast hplace
    | inr hplace => exact hplace.2.2
  refine ⟨?_, h.names, hstays _ h.current⟩
  intro entry hentry
  have hget := (OrderedMap.mem_entries_iff _ entry.1 entry.2).1 hentry
  change (tree.nodes.insert place node).get? entry.1 = _ at hget
  rw [OrderedMap.get?_insert] at hget
  split at hget
  · rename_i heq
    rw [← heq]
    exact ⟨hroot, hnames, hstays _ hparent⟩
  · obtain ⟨hne, hisFileName, hdropLast⟩ :=
      h.nodes entry ((OrderedMap.mem_entries_iff _ entry.1 entry.2).2 hget)
    exact ⟨hne, hisFileName, hstays _ hdropLast⟩

/-- A file may be put wherever a path leads, if there is no folder. -/
lemma putFile (h : tree.WellFormed) {path : Path} (hpath : path.Proper)
    (hplace : tree.resolve path = .ok place) (hfolder : tree.at? place ≠ some .folder)
    (content : List UInt8) (modified : Int) :
    (tree.put place (.file content modified)).WellFormed :=
  h.put (h.reached hpath hplace) (fun e => absurd e hfolder) (ne_nil_of_ne_folder hfolder)

/-- What is no folder may be removed. -/
lemma remove (h : tree.WellFormed) (hfolder : tree.at? place ≠ some .folder) :
    (tree.remove place).WellFormed := by
  have hstays : ∀ other, tree.at? other = some .folder →
      (tree.remove place).at? other = some .folder := by
    intro other hother
    rw [at?_remove (ne_nil_of_ne_folder hfolder), if_neg]
    · exact hother
    · intro e
      exact hfolder (e ▸ hother)
  refine ⟨?_, h.names, hstays _ h.current⟩
  intro entry hentry
  obtain ⟨hne, hisFileName, hdropLast⟩ := h.nodes entry (List.mem_of_mem_filter hentry)
  exact ⟨hne, hisFileName, hstays _ hdropLast⟩

end WellFormed

end Nullability.FileTree
