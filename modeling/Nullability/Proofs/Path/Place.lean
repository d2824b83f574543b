import Mathlib.Data.List.Basic
import Nullability.Proofs.FileTree.Content

/-!
# Places of paths

Where a path leads can be told from its identity alone. A component that the tree follows and a
component that is folded change a place in the same way, a double dot in particular, since a place
that has components after it is a folder. So a path that leads somewhere leads to the place that its
identity spells (`Path.resolve_eq_place`), and paths with one identity lead to one place.

Components are folded newest first, so that a fold over the parts of a text can be cut at every
slash (`foldl_split_append`); all texts that occur here are put together at slashes.
-/

namespace Nullability.Path

/-- What can be the name of something in a folder. -/
structure IsName (name : String) : Prop where
  ne_empty : name ≠ ""
  ne_dot : name ≠ "."
  ne_dots : name ≠ ".."
  no_slash : '/' ∉ name.toList

instance (name : String) : Decidable (IsName name) :=
  decidable_of_iff (name ≠ "" ∧ name ≠ "." ∧ name ≠ ".." ∧ '/' ∉ name.toList)
    ⟨fun ⟨h1, h2, h3, h4⟩ => ⟨h1, h2, h3, h4⟩, fun ⟨h1, h2, h3, h4⟩ => ⟨h1, h2, h3, h4⟩⟩

/-- What can be a component of a path: a name or a double dot. -/
structure IsComponent (part : String) : Prop where
  ne_empty : part ≠ ""
  ne_dot : part ≠ "."
  no_slash : '/' ∉ part.toList

instance (part : String) : Decidable (IsComponent part) :=
  decidable_of_iff (part ≠ "" ∧ part ≠ "." ∧ '/' ∉ part.toList)
    ⟨fun ⟨h1, h2, h3⟩ => ⟨h1, h2, h3⟩, fun ⟨h1, h2, h3⟩ => ⟨h1, h2, h3⟩⟩

/-- Every component of a path that was read is one. -/
def Proper (path : Path) : Prop :=
  ∀ part ∈ path.parts, IsComponent part

instance (path : Path) : Decidable path.Proper :=
  inferInstanceAs (Decidable (∀ part ∈ path.parts, IsComponent part))

/-- The place that an absolute text spells. -/
def place (s : String) : Place :=
  foldParts (Text.split '/' s)

/-! ## Paths that were read -/

/-- A path that was read is proper. -/
lemma proper_ofText (s : String) : (ofText s).Proper := by
  intro part hpart
  rw [ofText, List.mem_filter] at hpart
  obtain ⟨hpart, hdot⟩ := hpart
  have hne : part ≠ "" ∧ part ≠ "." := by simpa using hdot
  exact ⟨hne.1, hne.2, Text.not_mem_of_mem_split hpart⟩

/-- The folder of a proper path is proper. -/
lemma Proper.parent {path : Path} (h : path.Proper) : path.parent.Proper :=
  fun part hpart => h part (List.dropLast_subset _ hpart)

lemma hasNull_eq_false_iff {path : Path} :
    path.hasNull = false ↔ ∀ part ∈ path.parts, '\x00' ∉ part.toList := by
  simp [hasNull]

/-- The folder of a path without null characters has none. -/
lemma hasNull_parent {path : Path} (h : path.hasNull = false) : path.parent.hasNull = false := by
  rw [hasNull_eq_false_iff] at h ⊢
  exact fun part hpart => h part (List.dropLast_subset _ hpart)

lemma hasNull_append {path : Path} {parts : List String} :
    (path.append parts).hasNull = (path.hasNull || (⟨path.anchor, parts⟩ : Path).hasNull) :=
  List.any_append

lemma hasNull_append_eq_false_iff {path : Path} {parts : List String} :
    (path.append parts).hasNull = false ↔
      path.hasNull = false ∧ ∀ part ∈ parts, '\x00' ∉ part.toList := by
  rw [hasNull_append, Bool.or_eq_false_iff]
  exact and_congr_right fun _ => hasNull_eq_false_iff

/-- A path that goes on with names is proper. -/
lemma Proper.append {path : Path} {names : List String} (h : path.Proper)
    (hnames : ∀ name ∈ names, IsName name) : (path.append names).Proper := by
  intro part hpart
  cases List.mem_append.1 hpart with
  | inl hpart => exact h part hpart
  | inr hpart =>
    have hname := hnames part hpart
    exact ⟨hname.ne_empty, hname.ne_dot, hname.no_slash⟩

/-- Another proper component in place of the last one leaves a path proper. -/
lemma Proper.withName {path renamed : Path} {name : String} (hpath : path.Proper)
    (hname : IsComponent name) (h : path.withName name = .ok renamed) : renamed.Proper := by
  rw [Path.withName] at h
  split at h
  · cases h
  · obtain rfl := Except.ok.inj h
    intro part hpart
    cases List.mem_append.1 hpart with
    | inl hpart => exact hpath part (List.dropLast_subset _ hpart)
    | inr hpart => exact List.mem_singleton.1 hpart ▸ hname

/-- Cutting a name at its last point adds no character. -/
lemma mem_of_mem_splitSuffix {name : String} {c : Char}
    (h : c ∈ (splitSuffix name).1.toList) : c ∈ name.toList := by
  rw [splitSuffix] at h
  split at h
  · rename_i before hdrop
    split at h
    · exact h
    · rw [String.toList_ofList, List.mem_reverse] at h
      have hmem : c ∈ name.toList.reverse.dropWhile (fun c => c ≠ '.') := by
        rw [hdrop]
        exact List.mem_cons_of_mem '.' h
      exact List.mem_reverse.1 (List.dropWhile_subset _ hmem)
  · exact h

/-- The last component of a proper path contains no slash. -/
lemma Proper.no_slash_name {path : Path} (h : path.Proper) : '/' ∉ path.name.toList := by
  rw [name]
  cases hlast : path.parts.getLast? with
  | none => exact List.not_mem_nil
  | some part => exact (h part (List.mem_of_getLast? hlast)).no_slash

/-- The stem of a proper path contains no slash. -/
lemma Proper.no_slash_stem {path : Path} (h : path.Proper) : '/' ∉ path.stem.toList :=
  fun hslash => h.no_slash_name (mem_of_mem_splitSuffix hslash)

/-! ## Folding -/

/-- Names are folded to themselves. -/
lemma foldl_foldPart_names {names done : List String}
    (h : ∀ name ∈ names, IsName name) :
    names.foldl foldPart done = names.reverse ++ done := by
  induction names generalizing done with
  | nil => rfl
  | cons name rest ih =>
    have hname := h name List.mem_cons_self
    have hfold : foldPart done name = name :: done := by
      simp [foldPart, hname.ne_empty, hname.ne_dot, hname.ne_dots]
    rw [List.foldl_cons, hfold, ih (fun n hn => h n (List.mem_cons_of_mem name hn)),
      List.reverse_cons, List.append_assoc, List.singleton_append]

/-- Folding lets names through only. -/
lemma isName_of_mem_foldl_foldPart {parts done : List String}
    (hparts : ∀ part ∈ parts, '/' ∉ part.toList) (hdone : ∀ name ∈ done, IsName name) :
    ∀ name ∈ parts.foldl foldPart done, IsName name := by
  induction parts generalizing done with
  | nil => exact hdone
  | cons part rest ih =>
    rw [List.foldl_cons]
    refine ih (fun p hp => hparts p (List.mem_cons_of_mem part hp)) ?_
    rw [foldPart]
    split
    · exact hdone
    · rename_i hdot
      rw [not_or] at hdot
      split
      · exact fun name hname => hdone name (List.mem_of_mem_tail hname)
      · rename_i hdots
        intro name hname
        cases List.mem_cons.1 hname with
        | inl hpart =>
          rw [hpart]
          exact ⟨hdot.1, hdot.2, hdots, hparts part List.mem_cons_self⟩
        | inr hname => exact hdone name hname

/-- A place consists of names. -/
lemma isName_of_mem_place {s name : String} (h : name ∈ place s) : IsName name := by
  rw [place, foldParts, List.mem_reverse] at h
  exact isName_of_mem_foldl_foldPart (fun _ hpart => Text.not_mem_of_mem_split hpart)
    (fun _ hname => absurd hname List.not_mem_nil) name h

/-- The parts of a text can be folded up to a slash and then from there on. -/
lemma foldl_split_append (before after : String) (done : List String) :
    (Text.split '/' (before ++ "/" ++ after)).foldl foldPart done =
      (Text.split '/' after).foldl foldPart ((Text.split '/' before).foldl foldPart done) := by
  have h := Text.split_append '/' before after
  rw [show String.singleton '/' = "/" from rfl] at h
  rw [h, List.foldl_append]

/-- A slash in front does not matter. -/
lemma foldl_split_slash (s : String) (done : List String) :
    (Text.split '/' ("/" ++ s)).foldl foldPart done = (Text.split '/' s).foldl foldPart done := by
  have h := foldl_split_append "" s done
  rw [String.empty_append] at h
  rw [h]
  rfl

/-- Joined components are folded one by one. -/
lemma foldl_split_join {parts : List String} (done : List String)
    (h : ∀ part ∈ parts, '/' ∉ part.toList) :
    (Text.split '/' (Text.join '/' parts)).foldl foldPart done = parts.foldl foldPart done := by
  cases parts with
  | nil => rfl
  | cons part rest => rw [Text.split_join (List.cons_ne_nil part rest) h]

/-- The slashes at the start do not matter. -/
lemma foldl_split_anchor (anchor : Anchor) (s : String) (done : List String) :
    (Text.split '/' (anchor.text ++ s)).foldl foldPart done =
      (Text.split '/' s).foldl foldPart done := by
  cases anchor with
  | relative => rw [Anchor.text, String.empty_append]
  | root => exact foldl_split_slash s done
  | doubleRoot =>
    rw [Anchor.text, show ("//" : String) = "/" ++ "/" from rfl, String.append_assoc,
      foldl_split_slash, foldl_split_slash]

/-- The text of a path spells its components. -/
lemma foldl_split_text {path : Path} (hpath : path.Proper) (done : List String) :
    (Text.split '/' path.text).foldl foldPart done = path.parts.foldl foldPart done := by
  rw [text]
  split
  · rename_i h
    rw [h.2]
    rfl
  · rw [foldl_split_anchor]
    exact foldl_split_join done (fun part hpart => (hpath part hpart).no_slash)

/-! ## Identities -/

/-- An identity spells the place that the absolute text spells. -/
lemma place_identity (current s : String) :
    place (identity current s) = place (absoluteText current s) := by
  have hnames : ∀ name ∈ place (absoluteText current s), IsName name :=
    fun name hname => isName_of_mem_place hname
  change foldParts (Text.split '/' (_ ++ Text.join '/' (place (absoluteText current s)))) = _
  rw [foldParts, foldl_split_anchor,
    foldl_split_join _ (fun name hname => (hnames name hname).no_slash),
    foldl_foldPart_names hnames, List.append_nil, List.reverse_reverse]

/-- A relative text goes on where the current folder is, with a slash between them or not. -/
lemma foldl_split_absoluteText {current s : String} (h : s.toList.head? ≠ some '/')
    (done : List String) :
    (Text.split '/' (absoluteText current s)).foldl foldPart done =
      (Text.split '/' s).foldl foldPart ((Text.split '/' current).foldl foldPart done) := by
  rw [absoluteText, if_neg h]
  split
  · rename_i hlast
    -- The slash at the end of the current folder's text takes the place of the one between.
    obtain ⟨folder, hfolder⟩ := List.getLast?_eq_some_iff.1 hlast
    have hcurrent : current = String.ofList folder ++ "/" ++ "" := by
      rw [← String.toList_inj]
      simpa using hfolder
    have hempty : ∀ done, (Text.split '/' "").foldl foldPart done = done := fun _ => rfl
    rw [hcurrent, foldl_split_append, hempty, String.append_empty, foldl_split_append]
  · exact foldl_split_append current s done

/-- The text of a relative path does not start with a slash. -/
lemma head?_text_of_relative {path : Path} (hpath : path.Proper) (h : path.anchor = .relative) :
    path.text.toList.head? ≠ some '/' := by
  obtain ⟨anchor, parts⟩ := path
  rw [text, h]
  cases parts with
  | nil =>
    rw [if_pos ⟨rfl, rfl⟩]
    decide
  | cons part rest =>
    have hpart := hpath part List.mem_cons_self
    rw [if_neg (fun e => absurd e.2 (List.cons_ne_nil part rest)), Anchor.text,
      String.empty_append, Text.join, String.toList_ofList]
    have hne : part.toList ≠ [] := by
      intro e
      exact hpart.ne_empty (String.toList_eq_nil_iff.1 e)
    obtain ⟨c, cs, hcs⟩ := List.exists_cons_of_ne_nil hne
    have hslash : c ≠ '/' := by
      intro e
      exact hpart.no_slash (by rw [hcs, e]; exact List.mem_cons_self)
    have hjoin : ∃ more, Text.joinChars '/' ((part :: rest).map String.toList) = c :: more := by
      cases rest with
      | nil => exact ⟨cs, hcs⟩
      | cons next more =>
        rw [List.map_cons, List.map_cons, Text.joinChars, hcs]
        · exact ⟨_, rfl⟩
        · intro e
          cases e
    obtain ⟨more, hmore⟩ := hjoin
    rw [hmore, List.head?_cons]
    exact fun e => hslash (Option.some.inj e)

/-- The text of an absolute path starts with a slash. -/
lemma head?_text_of_absolute {path : Path} (h : path.anchor ≠ .relative) :
    path.text.toList.head? = some '/' := by
  rw [text, if_neg (fun e => h e.1), String.toList_append]
  cases hanchor : path.anchor with
  | relative => exact absurd hanchor h
  | root => rfl
  | doubleRoot => rfl

/-! ## Resolving -/

/-- A path that is followed component by component leads where its components are folded to. -/
lemma foldlM_step_eq {tree : FileTree} {parts : List String} {start place : Place}
    (hparts : ∀ part ∈ parts, IsComponent part) (h : parts.foldlM tree.step start = .ok place) :
    place = (parts.foldl foldPart start.reverse).reverse := by
  induction parts generalizing start with
  | nil =>
    rw [List.foldlM_nil] at h
    rw [List.foldl_nil, List.reverse_reverse]
    exact (Except.ok.inj h).symm
  | cons part rest ih =>
    have hpart := hparts part List.mem_cons_self
    rw [List.foldlM_cons] at h
    cases hnode : tree.at? start with
    | none => simp [FileTree.step, hnode, bind, Except.bind] at h
    | some node =>
      cases node with
      | file content modified => simp [FileTree.step, hnode, bind, Except.bind] at h
      | folder =>
        rw [FileTree.step, hnode] at h
        rw [ih (fun p hp => hparts p (List.mem_cons_of_mem part hp)) h, List.foldl_cons]
        by_cases hdots : part = ".."
        · rw [if_pos hdots]
          simp [foldPart, hdots, List.tail_reverse]
        · rw [if_neg hdots]
          simp [foldPart, hdots, hpart.ne_empty, hpart.ne_dot]

/-- The current folder's text spells the current folder. -/
lemma foldl_split_currentText {tree : FileTree} (h : ∀ name ∈ tree.current, IsName name) :
    (Text.split '/' tree.currentText).foldl foldPart [] = tree.current.reverse := by
  rw [FileTree.currentText, foldl_split_slash,
    foldl_split_join _ (fun name hname => (h name hname).no_slash), foldl_foldPart_names h,
    List.append_nil]

/-- A path that leads somewhere leads to the place that its identity spells. -/
lemma resolve_eq_place {tree : FileTree} {path : Path} {there : Place}
    (hcurrent : ∀ name ∈ tree.current, IsName name) (hpath : path.Proper)
    (h : tree.resolve path = .ok there) :
    there = place (identity tree.currentText path.text) := by
  rw [place_identity, place, foldParts, foldlM_step_eq hpath (FileTree.resolve_eq_ok_iff.1 h).2,
    FileTree.start, isAbsolute]
  by_cases hanchor : path.anchor = .relative
  · have hstart : (if decide (path.anchor ≠ .relative) = true then [] else tree.current) =
        tree.current := by
      simp [hanchor]
    rw [hstart, foldl_split_absoluteText (head?_text_of_relative hpath hanchor),
      foldl_split_currentText hcurrent, foldl_split_text hpath]
  · have hstart : (if decide (path.anchor ≠ .relative) = true then [] else tree.current) = [] := by
      simp [hanchor]
    rw [hstart, absoluteText, if_pos (head?_text_of_absolute hanchor), foldl_split_text hpath]
    rfl

end Nullability.Path
