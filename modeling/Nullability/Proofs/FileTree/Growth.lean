import Nullability.Proofs.FileTree.WellFormed

/-!
# Growth of trees

Saving a file does little to a tree: some folders on the way to the file may be new, and a few spare
places hold other files than before, or none. Whatever else there is stays, in the same order among
the entries (`Grown`). So paths still lead where they led, and the only paths that lead to a folder
for the first time lead to a new one: a path cannot get out of a new folder again unless it contains
a double dot there (`Grown.resolve_of_folder`).
-/

namespace Nullability.FileTree

open Nullability.Path

variable {way : List Place} {spare : Place → Bool} {tree before between after : FileTree}
  {place : Place}

/-- Whether what is at a place has to stay: a folder, or a file at a place that is not spare. -/
def steady (spare : Place → Bool) (tree : FileTree) (place : Place) : Bool :=
  match tree.at? place with
  | some .folder => true
  | some (.file _ _) => !spare place
  | none => false

/-- How a tree may change while a file is saved. -/
structure Grown (way : List Place) (spare : Place → Bool) (before after : FileTree) : Prop where
  current : after.current = before.current
  denials : after.denials = before.denials
  /-- What has to stay does. -/
  entries : after.nodes.entries.filter (fun entry => steady spare before entry.1) =
    before.nodes.entries.filter (fun entry => steady spare before entry.1)
  /-- New folders are on the way. -/
  folders : ∀ place, after.at? place = some .folder →
    before.at? place = some .folder ∨ place ∈ way
  /-- New files are at spare places. -/
  files : ∀ place content modified, after.at? place = some (.file content modified) →
    before.at? place = some (.file content modified) ∨ spare place = true

/-- Whether a path gets out of a folder on the way, by a double dot, only if the folder is there
already. -/
def RetreatsSafely (way : List Place) (tree : FileTree) : Place → List String → Prop
  | _, [] => True
  | here, part :: rest =>
    (part = ".." → here ∈ way → tree.at? here = some .folder) ∧
      RetreatsSafely way tree (if part = ".." then here.dropLast else here ++ [part]) rest

instance decidableRetreatsSafely (way : List Place) (tree : FileTree) :
    (here : Place) → (parts : List String) → Decidable (RetreatsSafely way tree here parts)
  | _, [] => .isTrue trivial
  | here, part :: rest =>
    have := decidableRetreatsSafely way tree
      (if part = ".." then here.dropLast else here ++ [part]) rest
    inferInstanceAs (Decidable (_ ∧ _))

/-! ## What stays -/

lemma steady_of_folder (h : tree.at? place = some .folder) : steady spare tree place = true := by
  rw [steady, h]

lemma steady_of_file {content : List UInt8} {modified : Int}
    (h : tree.at? place = some (.file content modified)) (hspare : spare place = false) :
    steady spare tree place = true := by
  simp [steady, h, hspare]

lemma Grown.at?_of_steady (h : Grown way spare before after)
    (hsteady : steady spare before place = true) : after.at? place = before.at? place := by
  by_cases hroot : place = []
  · rw [hroot, at?_nil, at?_nil]
  · rw [at?_of_ne hroot, at?_of_ne hroot, OrderedMap.get?, OrderedMap.get?,
      ← Pairs.get?_filter (p := fun place => steady spare before place) hsteady, h.entries,
      Pairs.get?_filter hsteady]

lemma Grown.at?_of_folder (h : Grown way spare before after)
    (hfolder : before.at? place = some .folder) : after.at? place = some .folder := by
  rw [h.at?_of_steady (steady_of_folder hfolder), hfolder]

lemma Grown.at?_of_file (h : Grown way spare before after) {content : List UInt8} {modified : Int}
    (hfile : before.at? place = some (.file content modified)) (hspare : spare place = false) :
    after.at? place = some (.file content modified) := by
  rw [h.at?_of_steady (steady_of_file hfile hspare), hfile]

lemma Grown.refl (way : List Place) (spare : Place → Bool) (tree : FileTree) :
    Grown way spare tree tree :=
  ⟨rfl, rfl, rfl, fun _ h => .inl h, fun _ _ _ h => .inl h⟩

lemma Grown.trans (h1 : Grown way spare before between) (h2 : Grown way spare between after) :
    Grown way spare before after := by
  have hsteady : ∀ place, steady spare before place = true →
      steady spare between place = true := by
    intro place h
    rw [steady, h1.at?_of_steady h]
    exact h
  -- What had to stay at first has to stay later on as well, so it can be looked for there.
  have hfilter : ∀ entries : List (Place × Node),
      entries.filter (fun entry => steady spare before entry.1) =
        (entries.filter (fun entry => steady spare between entry.1)).filter
          (fun entry => steady spare before entry.1) := by
    intro entries
    rw [List.filter_filter]
    apply List.filter_congr
    intro entry _
    cases h : steady spare before entry.1 with
    | false => rfl
    | true => rw [hsteady entry.1 h]; rfl
  refine ⟨h2.current.trans h1.current, h2.denials.trans h1.denials, ?_, ?_, ?_⟩
  · rw [hfilter, h2.entries, ← hfilter, h1.entries]
  · intro place hplace
    cases h2.folders place hplace with
    | inl hbetween => exact h1.folders place hbetween
    | inr hway => exact .inr hway
  · intro place content modified hplace
    cases h2.files place content modified hplace with
    | inl hbetween => exact h1.files place content modified hbetween
    | inr hspare => exact .inr hspare

/-! ## What changes -/

/-- A folder may be made on the way. -/
lemma Grown.putFolder (hnone : tree.at? place = none) (hway : place ∈ way) :
    Grown way spare tree (tree.put place .folder) := by
  have hroot : place ≠ [] := by
    intro e
    rw [e, at?_nil] at hnone
    cases hnone
  refine ⟨rfl, rfl, Pairs.filter_insert_of_neg (by rw [steady, hnone]), ?_, ?_⟩
  · intro other hother
    rw [at?_put hroot] at hother
    split at hother
    · rename_i heq
      exact .inr (heq ▸ hway)
    · exact .inl hother
  · intro other content modified hother
    rw [at?_put hroot] at hother
    split at hother
    · cases hother
    · exact .inl hother

/-- A spare place that is no folder is free. -/
lemma steady_eq_false (hfolder : tree.at? place ≠ some .folder) (hspare : spare place = true) :
    steady spare tree place = false := by
  rw [steady]
  split
  · rename_i h
    exact absurd h hfolder
  · rw [hspare]
    rfl
  · rfl

/-- A file may be put at a spare place. -/
lemma Grown.putFile (hfolder : tree.at? place ≠ some .folder) (hspare : spare place = true)
    (content : List UInt8) (modified : Int) :
    Grown way spare tree (tree.put place (.file content modified)) := by
  have hroot := ne_nil_of_ne_folder hfolder
  refine ⟨rfl, rfl, Pairs.filter_insert_of_neg (steady_eq_false hfolder hspare), ?_, ?_⟩
  · intro other hother
    rw [at?_put hroot] at hother
    split at hother
    · cases hother
    · exact .inl hother
  · intro other content modified hother
    rw [at?_put hroot] at hother
    split at hother
    · rename_i heq
      exact .inr (heq ▸ hspare)
    · exact .inl hother

/-- What is at a spare place may be removed, if it is no folder. -/
lemma Grown.remove (hfolder : tree.at? place ≠ some .folder) (hspare : spare place = true) :
    Grown way spare tree (tree.remove place) := by
  have hroot := ne_nil_of_ne_folder hfolder
  have hstays : ∀ other node, (tree.remove place).at? other = some node →
      tree.at? other = some node := by
    intro other node hother
    rw [at?_remove hroot] at hother
    split at hother
    · cases hother
    · exact hother
  exact ⟨rfl, rfl, Pairs.filter_erase_of_neg (steady_eq_false hfolder hspare),
    fun other hother => .inl (hstays other _ hother),
    fun other _ _ hother => .inl (hstays other _ hother)⟩

/-! ## Paths -/

lemma Grown.foldlM_step (h : Grown way spare before after) {parts : List String} {start : Place}
    (hresolve : parts.foldlM before.step start = .ok place) :
    parts.foldlM after.step start = .ok place := by
  induction parts generalizing start with
  | nil => exact hresolve
  | cons part rest ih =>
    obtain ⟨hfolder, hresolve⟩ := foldlM_step_cons_iff.1 hresolve
    exact foldlM_step_cons_iff.2 ⟨h.at?_of_folder hfolder, ih hresolve⟩

lemma Grown.start_eq (h : Grown way spare before after) (path : Path) :
    after.start path = before.start path := by
  rw [start, start, h.current]

lemma Grown.resolve (h : Grown way spare before after) {path : Path}
    (hresolve : before.resolve path = .ok place) : after.resolve path = .ok place := by
  obtain ⟨hnull, hresolve⟩ := resolve_eq_ok_iff.1 hresolve
  exact resolve_eq_ok_iff.2 ⟨hnull, h.start_eq path ▸ h.foldlM_step hresolve⟩

/-- What the system does not tell it did not tell before. -/
lemma Grown.denial?_eq (h : Grown way spare before after) (path : Path) :
    after.denial? path = before.denial? path := by
  rw [denial?, denial?, h.denials]

/-- From a folder that was not there, a safe path only leads further down. -/
lemma Grown.prefix_of_new (h : Grown way spare before after) (hbefore : before.WellFormed)
    {parts : List String} {here : Place} (hhere : before.at? here ≠ some .folder)
    (hsafe : RetreatsSafely way before here parts)
    (hresolve : parts.foldlM after.step here = .ok place) : here <+: place := by
  induction parts generalizing here with
  | nil =>
    rw [List.foldlM_nil] at hresolve
    exact Except.ok.inj hresolve ▸ List.prefix_rfl
  | cons part rest ih =>
    obtain ⟨hfolder, hresolve⟩ := foldlM_step_cons_iff.1 hresolve
    obtain ⟨hdots, hrest⟩ := hsafe
    -- The folder is new and on the way, so a safe path does not turn back here.
    have hway : here ∈ way := (h.folders here hfolder).resolve_left hhere
    have hname : part ≠ ".." := fun e => hhere (hdots e hway)
    rw [if_neg hname] at hresolve hrest
    have hdown : here <+: here ++ [part] := List.prefix_append here [part]
    refine hdown.trans (ih ?_ hrest hresolve)
    intro hnew
    have heq := hbefore.eq_of_below hhere hdown hnew
    exact List.cons_ne_nil part [] (List.append_right_eq_self.1 heq)

/-- A safe path to a folder that was there led to it before. -/
lemma Grown.foldlM_of_folder (h : Grown way spare before after) (hbefore : before.WellFormed)
    {parts : List String} {here : Place} (hsafe : RetreatsSafely way before here parts)
    (hresolve : parts.foldlM after.step here = .ok place)
    (hfolder : before.at? place = some .folder) : parts.foldlM before.step here = .ok place := by
  induction parts generalizing here with
  | nil => exact hresolve
  | cons part rest ih =>
    by_cases hhere : before.at? here = some .folder
    · obtain ⟨-, hresolve⟩ := foldlM_step_cons_iff.1 hresolve
      exact foldlM_step_cons_iff.2 ⟨hhere, ih hsafe.2 hresolve⟩
    · -- From a new folder the path leads down, to where no folder was.
      have hdown := h.prefix_of_new hbefore hhere hsafe hresolve
      have heq := hbefore.eq_of_below hhere hdown hfolder
      exact absurd (heq ▸ hfolder) hhere

/-- A safe path that leads to a folder now, and did not before, leads to a new one. -/
lemma Grown.resolve_of_folder (h : Grown way spare before after) (hbefore : before.WellFormed)
    {path : Path} (hsafe : RetreatsSafely way before (before.start path) path.parts)
    (hresolve : after.resolve path = .ok place) (hfolder : before.at? place = some .folder) :
    before.resolve path = .ok place := by
  obtain ⟨hnull, hresolve⟩ := resolve_eq_ok_iff.1 hresolve
  rw [h.start_eq] at hresolve
  exact resolve_eq_ok_iff.2 ⟨hnull, h.foldlM_of_folder hbefore hsafe hresolve hfolder⟩

/-- Names behind a safe path do no harm. -/
lemma RetreatsSafely.append {here : Place} {parts names : List String}
    (h : RetreatsSafely way tree here parts) (hnames : ".." ∉ names) :
    RetreatsSafely way tree here (parts ++ names) := by
  induction parts generalizing here with
  | nil =>
    -- No name turns back, wherever the names start.
    induction names generalizing here with
    | nil => trivial
    | cons name rest ih =>
      rw [List.mem_cons, not_or] at hnames
      refine ⟨fun e => absurd e.symm hnames.1, ?_⟩
      exact ih hnames.2 trivial
  | cons part rest ih => exact ⟨h.1, ih h.2⟩

lemma RetreatsSafely.mono {here : Place} {parts : List String}
    (h : RetreatsSafely way before here parts)
    (hstays : ∀ place, before.at? place = some .folder → after.at? place = some .folder) :
    RetreatsSafely way after here parts := by
  induction parts generalizing here with
  | nil => trivial
  | cons part rest ih =>
    exact ⟨fun hdots hway => hstays here (h.1 hdots hway), ih h.2⟩

end Nullability.FileTree
