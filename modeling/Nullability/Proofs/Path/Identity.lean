import Mathlib.Logic.Relation
import Nullability.Proofs.Path.Spelling

/-!
# Identities of paths

One place has many spellings: slashes can be repeated, single dots put in, names entered and left
again by a double dot, and a text can start from the current folder or from the root. The identity
is the normal one of these spellings (`normalIdentity_of_isAbsolute`): one slash, or exactly two if
the place was spelled with two, and names with single slashes between them. It is its own identity,
and it does not depend on which of the spellings was taken.

The identity of a text depends on where the text starts and on what folding its parts does to the
components before them (`identity_congr`). Every other spelling keeps both.
-/

namespace Nullability.Path

variable {current s t : String}

/-! ## Where texts start -/

lemma anchorOf_ne_relative_iff (s : String) :
    anchorOf s.toList ≠ .relative ↔ s.toList.head? = some '/' := by
  rw [← isAbsolute_ofText_iff, isAbsolute, decide_eq_true_iff]
  rfl

/-- Where a text starts does not depend on what follows its slashes. -/
lemma anchorOf_append_of_head?_ne {cs rest : List Char} (hcs : cs ≠ [])
    (hrest : rest.head? ≠ some '/') : anchorOf (cs ++ rest) = anchorOf cs := by
  match cs, hcs with
  | [c], _ =>
    cases rest with
    | nil => rw [List.append_nil]
    | cons d more =>
      have hd : d ≠ '/' := fun e => hrest (congrArg some e)
      by_cases hc : c = '/' <;> simp [anchorOf, hc, hd]
  | [c, d], _ =>
    cases rest with
    | nil => rw [List.append_nil]
    | cons e more =>
      have he : e ≠ '/' := fun h => hrest (congrArg some h)
      by_cases hc : c = '/' <;> by_cases hd : d = '/' <;> simp [anchorOf, hc, hd, he]
  | c :: d :: e :: more, _ =>
    by_cases hc : c = '/' <;> by_cases hd : d = '/' <;> by_cases he : e = '/' <;>
      simp [anchorOf, hc, hd, he]

/-- A slash behind something else than a slash does not matter either. -/
lemma anchorOf_append_of_getLast?_ne {cs : List Char} (rest : List Char) (hcs : cs ≠ [])
    (hlast : cs.getLast? ≠ some '/') : anchorOf (cs ++ rest) = anchorOf cs := by
  match cs, hcs with
  | [c], _ =>
    have hc : c ≠ '/' := fun e => hlast (congrArg some e)
    simp [anchorOf, hc]
  | [c, d], _ =>
    have hd : d ≠ '/' := fun e => hlast (congrArg some e)
    by_cases hc : c = '/' <;> simp [anchorOf, hc, hd]
  | c :: d :: e :: more, _ =>
    by_cases hc : c = '/' <;> by_cases hd : d = '/' <;> by_cases he : e = '/' <;>
      simp [anchorOf, hc, hd, he]

/-- A relative text that is written out starts where the current folder does. -/
lemma anchorOf_absoluteText (hcurrent : (ofText current).isAbsolute = true)
    (hs : s.toList.head? ≠ some '/') :
    anchorOf (absoluteText current s).toList = anchorOf current.toList := by
  have hne : current.toList ≠ [] := by
    intro e
    rw [isAbsolute_ofText_iff, e] at hcurrent
    cases hcurrent
  rw [absoluteText, if_neg hs]
  split
  · rw [String.toList_append]
    exact anchorOf_append_of_head?_ne hne hs
  · rename_i hlast
    rw [String.toList_append, String.toList_append, List.append_assoc]
    exact anchorOf_append_of_getLast?_ne _ hne hlast

/-- A text that was written out starts at the root. -/
lemma head?_absoluteText (hcurrent : (ofText current).isAbsolute = true) (s : String) :
    (absoluteText current s).toList.head? = some '/' := by
  by_cases hs : s.toList.head? = some '/'
  · rw [absoluteText, if_pos hs, hs]
  · rw [← anchorOf_ne_relative_iff, anchorOf_absoluteText hcurrent hs, anchorOf_ne_relative_iff,
      ← isAbsolute_ofText_iff]
    exact hcurrent

/-! ## What identities depend on -/

/-- The identity of an absolute text does not depend on the current folder. -/
lemma identity_of_head? (current : String) (hs : s.toList.head? = some '/') :
    identity current s = (anchorOf s.toList).text ++ Text.join '/' (place s) := by
  rw [identity, absoluteText, if_pos hs]
  rfl

/-- The identity of a relative text folds its parts into those of the current folder. -/
lemma identity_of_head?_ne (hcurrent : (ofText current).isAbsolute = true)
    (hs : s.toList.head? ≠ some '/') :
    identity current s = (anchorOf current.toList).text ++ Text.join '/'
      ((Text.split '/' s).foldl foldPart ((Text.split '/' current).foldl foldPart [])).reverse := by
  rw [identity, anchorOf_absoluteText hcurrent hs, foldParts, foldl_split_absoluteText hs]

/-- Two texts that start alike have one identity if their parts are folded alike. -/
lemma identity_congr (hcurrent : (ofText current).isAbsolute = true)
    (hanchor : anchorOf s.toList = anchorOf t.toList)
    (hfold : ∀ done, (Text.split '/' s).foldl foldPart done =
      (Text.split '/' t).foldl foldPart done) :
    identity current s = identity current t := by
  have hhead : s.toList.head? = some '/' ↔ t.toList.head? = some '/' := by
    rw [← anchorOf_ne_relative_iff, hanchor, anchorOf_ne_relative_iff]
  by_cases hs : s.toList.head? = some '/'
  · have ht := hhead.1 hs
    rw [identity_of_head? current hs, identity_of_head? current ht, hanchor, place, foldParts,
      hfold]
    rfl
  · have ht := mt hhead.2 hs
    rw [identity_of_head?_ne hcurrent hs, identity_of_head?_ne hcurrent ht, hfold]

/-! ## Other spellings -/

/-- Whether a component says nothing about the place. -/
def IsIdle (part : String) : Prop :=
  part = "" ∨ part = "."

/-- One step from a spelling of a place to another one, as components between slashes; where the
text starts stays the same unless the text says so itself. -/
inductive Respelled (current : String) : String → String → Prop
  /-- Empty components and single dots are left out. -/
  | skip {s t : String} {before parts after : List String}
      (hanchor : anchorOf s.toList = anchorOf t.toList) (hparts : ∀ part ∈ parts, IsIdle part)
      (hs : Text.split '/' s = before ++ parts ++ after)
      (ht : Text.split '/' t = before ++ after) : Respelled current s t
  /-- A name and the double dot behind it are left out. -/
  | back {s t name : String} {before after : List String}
      (hanchor : anchorOf s.toList = anchorOf t.toList) (hname : IsName name)
      (hs : Text.split '/' s = before ++ name :: ".." :: after)
      (ht : Text.split '/' t = before ++ after) : Respelled current s t
  /-- A double dot at the root is left out. -/
  | top {s t : String} {before after : List String}
      (hanchor : anchorOf s.toList = anchorOf t.toList) (hroot : anchorOf s.toList ≠ .relative)
      (hbefore : ∀ part ∈ before, IsIdle part)
      (hs : Text.split '/' s = before ++ ".." :: after)
      (ht : Text.split '/' t = before ++ after) : Respelled current s t
  /-- A text is written out from the current folder. -/
  | rooted (s : String) : Respelled current s (absoluteText current s)

lemma foldPart_of_isIdle {part : String} (h : IsIdle part) (done : List String) :
    foldPart done part = done :=
  if_pos h

lemma foldl_foldPart_idle {parts : List String} (h : ∀ part ∈ parts, IsIdle part)
    (done : List String) : parts.foldl foldPart done = done := by
  induction parts with
  | nil => rfl
  | cons part rest ih =>
    obtain ⟨hpart, hrest⟩ := List.forall_mem_cons.1 h
    rw [List.foldl_cons, foldPart_of_isIdle hpart, ih hrest]

/-- A double dot takes the name before it away. -/
lemma foldPart_name_dots {name : String} (h : IsName name) (done : List String) :
    foldPart (foldPart done name) ".." = done := by
  simp [foldPart, h.ne_empty, h.ne_dot, h.ne_dots]

/-- A path is read without its idle components, and they do not matter. -/
lemma foldl_parts_ofText (s : String) (done : List String) :
    (ofText s).parts.foldl foldPart done = (Text.split '/' s).foldl foldPart done := by
  rw [ofText]
  generalize Text.split '/' s = parts
  induction parts generalizing done with
  | nil => rfl
  | cons part rest ih =>
    rw [List.filter_cons]
    split
    · rw [List.foldl_cons, List.foldl_cons]
      exact ih _
    · rename_i hidle
      have hpart : IsIdle part := by
        by_contra hne
        rw [IsIdle, not_or] at hne
        exact hidle (by simp [hne])
      rw [List.foldl_cons, foldPart_of_isIdle hpart]
      exact ih done

/-- A place has one identity in all its spellings. -/
lemma Respelled.identity_eq (hcurrent : (ofText current).isAbsolute = true)
    (h : Respelled current s t) : identity current s = identity current t := by
  cases h with
  | skip hanchor hparts hs ht =>
    refine identity_congr hcurrent hanchor fun done => ?_
    rw [hs, ht, List.foldl_append, List.foldl_append, List.foldl_append,
      foldl_foldPart_idle hparts]
  | back hanchor hname hs ht =>
    refine identity_congr hcurrent hanchor fun done => ?_
    rw [hs, ht, List.foldl_append, List.foldl_append, List.foldl_cons, List.foldl_cons,
      foldPart_name_dots hname]
  | top hanchor hroot hbefore hs ht =>
    -- Only at the root there is nothing before the double dot.
    have hrooted : anchorOf t.toList ≠ .relative := hanchor ▸ hroot
    rw [identity_of_head? current ((anchorOf_ne_relative_iff s).1 hroot),
      identity_of_head? current ((anchorOf_ne_relative_iff t).1 hrooted), hanchor, place, place,
      foldParts, foldParts, hs, ht, List.foldl_append, List.foldl_append, List.foldl_cons,
      foldl_foldPart_idle hbefore]
    rfl
  | rooted =>
    have habsolute : absoluteText current (absoluteText current s) = absoluteText current s := by
      rw [absoluteText, if_pos (head?_absoluteText hcurrent s)]
    rw [identity, identity, habsolute]

/-! ## The normal spelling -/

/-- Whether a text is the normal spelling of a place: the slashes that it starts with, and names with
single slashes between them. -/
def IsNormal (anchor : Anchor) (s : String) : Prop :=
  anchor ≠ .relative ∧
    ∃ names, (∀ name ∈ names, IsName name) ∧ s = anchor.text ++ Text.join '/' names

/-- Names with slashes between them start with no slash. -/
lemma head?_join_ne {names : List String} (h : ∀ name ∈ names, IsName name) :
    (Text.join '/' names).toList.head? ≠ some '/' := by
  cases names with
  | nil => decide
  | cons name rest =>
    have hname := h name List.mem_cons_self
    rw [head?_join hname.ne_empty]
    intro e
    exact hname.no_slash (List.mem_of_head? e)

/-- A normal spelling is its own identity. -/
lemma IsNormal.identity_eq {anchor : Anchor} (h : IsNormal anchor s) (current : String) :
    identity current s = s := by
  obtain ⟨hanchor, names, hnames, rfl⟩ := h
  have hstart : anchorOf (anchor.text ++ Text.join '/' names).toList = anchor := by
    rw [String.toList_append]
    exact anchorOf_append anchor (head?_join_ne hnames)
  have hhead : (anchor.text ++ Text.join '/' names).toList.head? = some '/' := by
    rw [← anchorOf_ne_relative_iff, hstart]
    exact hanchor
  rw [identity_of_head? current hhead, hstart, place, foldParts, foldl_split_anchor,
    foldl_split_join _ (fun name hname => (hnames name hname).no_slash),
    foldl_foldPart_names hnames, List.append_nil, List.reverse_reverse]

lemma isNormal_identity (hcurrent : (ofText current).isAbsolute = true) (s : String) :
    IsNormal (anchorOf (absoluteText current s).toList) (identity current s) := by
  refine ⟨?_, place (absoluteText current s), fun name hname => isName_of_mem_place hname, rfl⟩
  exact (anchorOf_ne_relative_iff _).2 (head?_absoluteText hcurrent s)

/-- What the identity of the place that a text spells is like. -/
structure NormalIdentity (current s : String) : Prop where
  /-- It is a normal spelling, which starts as the text does once it is written out. -/
  normal : IsNormal (anchorOf (absoluteText current s).toList) (identity current s)
  /-- It is its own identity. -/
  stable : identity current (identity current s) = identity current s
  /-- Reading the text as a path and writing that path does not change it. -/
  read : identity current (ofText s).text = identity current s
  /-- All spellings of the place share it. -/
  shared : ∀ t, Relation.EqvGen (Respelled current) s t → identity current s = identity current t

/-- Seen from an absolute current folder, every place has a normal identity. -/
theorem normalIdentity_of_isAbsolute (hcurrent : (ofText current).isAbsolute = true) (s : String) :
    NormalIdentity current s where
  normal := isNormal_identity hcurrent s
  stable := (isNormal_identity hcurrent s).identity_eq current
  read := by
    refine identity_congr hcurrent ?_ fun done => ?_
    · exact congrArg Path.anchor (ofText_text (proper_ofText s))
    · rw [foldl_split_text (proper_ofText s), foldl_parts_ofText]
  shared t h := by
    induction h with
    | rel _ _ hstep => exact hstep.identity_eq hcurrent
    | refl => rfl
    | symm _ _ _ ih => exact ih.symm
    | trans _ _ _ _ _ ihfirst ihsecond => exact ihfirst.trans ihsecond

theorem normalIdentity_of_isAbsolute_sample :
    (ofText "/w/d").isAbsolute = true ∧ NormalIdentity "/w/d" "..//a/./b/../../../../c/" :=
  have hcurrent : (ofText "/w/d").isAbsolute = true := by decide +kernel
  ⟨hcurrent, normalIdentity_of_isAbsolute hcurrent _⟩

/-- Double dots lead up to the root and no further, and only exactly two slashes are kept. -/
example : identity "/w/d" "..//a/./b/../../../../c/" = "/c" ∧ identity "/w" "//x//y/" = "//x/y" ∧
    identity "/w" "///x" = "/x" := by
  decide +kernel

end Nullability.Path
