import Nullability.Environment
import Nullability.Proofs.Outcome
import Nullability.Proofs.Path.Place

/-!
# Spellings that stay

A path that was read is written in its normal spelling, from which it is read again
(`Path.ofText_text`). Where all home folders are absolute, writing out a home folder gives a path
that starts at none, so that a text once expanded is not changed any more
(`Environment.isSettled_of_expandText`).
-/

namespace Nullability

namespace Path

/-! ## Reading what was written -/

/-- Joined components start as the first one does. -/
lemma head?_join {part : String} (hpart : part ≠ "") (rest : List String) :
    (Text.join '/' (part :: rest)).toList.head? = part.toList.head? := by
  rw [Text.join, String.toList_ofList, List.map_cons]
  have hne : part.toList ≠ [] := by
    intro e
    exact hpart (String.toList_eq_nil_iff.1 e)
  cases rest with
  | nil => rfl
  | cons next more =>
    rw [List.map_cons, Text.joinChars]
    · exact List.head?_append_of_ne_nil _ hne
    · intro e
      cases e

/-- No component starts with a slash. -/
lemma IsComponent.head?_ne {part : String} (h : IsComponent part) :
    part.toList.head? ≠ some '/' := by
  intro e
  exact h.no_slash (List.mem_of_head? e)

lemma anchorOf_of_head?_ne {cs : List Char} (h : cs.head? ≠ some '/') :
    anchorOf cs = .relative := by
  cases cs with
  | nil => rfl
  | cons c rest =>
    have hc : c ≠ '/' := by
      intro e
      exact h (congrArg some e)
    simp [anchorOf, hc]

/-- An anchor is found again in front of something that starts with no slash. -/
lemma anchorOf_append (anchor : Anchor) {cs : List Char} (h : cs.head? ≠ some '/') :
    anchorOf (anchor.text.toList ++ cs) = anchor := by
  cases cs with
  | nil => cases anchor <;> rfl
  | cons c rest =>
    have hc : c ≠ '/' := by
      intro e
      exact h (congrArg some e)
    cases anchor with
    | relative => exact anchorOf_of_head?_ne h
    | root => simp [anchorOf, Anchor.text, hc]
    | doubleRoot => simp [anchorOf, Anchor.text, hc]

/-- In front of components there are at most empty ones. -/
lemma split_append_text (anchor : Anchor) (s : String) :
    (Text.split '/' (anchor.text ++ s)).filter (fun part => part ≠ "" && part ≠ ".") =
      (Text.split '/' s).filter (fun part => part ≠ "" && part ≠ ".") := by
  cases anchor with
  | relative => rw [Anchor.text, String.empty_append]
  | root =>
    rw [show Anchor.root.text ++ s = "" ++ String.singleton '/' ++ s from rfl, Text.split_append]
    rfl
  | doubleRoot =>
    rw [show Anchor.doubleRoot.text ++ s = "/" ++ String.singleton '/' ++ s from rfl,
      Text.split_append]
    rfl

/-- A proper path is read from its text. -/
lemma ofText_text {path : Path} (h : path.Proper) : ofText path.text = path := by
  obtain ⟨anchor, parts⟩ := path
  cases parts with
  | nil => cases anchor <;> rfl
  | cons part rest =>
    have hpart : IsComponent part := h part List.mem_cons_self
    have htext : text ⟨anchor, part :: rest⟩ = anchor.text ++ Text.join '/' (part :: rest) :=
      if_neg (fun e => absurd e.2 (List.cons_ne_nil part rest))
    have hhead : (Text.join '/' (part :: rest)).toList.head? ≠ some '/' := by
      rw [head?_join hpart.ne_empty]
      exact hpart.head?_ne
    have hsplit : Text.split '/' (Text.join '/' (part :: rest)) = part :: rest :=
      Text.split_join (List.cons_ne_nil part rest) (fun p hp => (h p hp).no_slash)
    have hparts : (part :: rest).filter (fun part => part ≠ "" && part ≠ ".") = part :: rest := by
      rw [List.filter_eq_self]
      intro p hp
      have hcomponent : IsComponent p := h p hp
      simp [hcomponent.ne_empty, hcomponent.ne_dot]
    rw [ofText, htext, String.toList_append, anchorOf_append anchor hhead, split_append_text,
      hsplit, hparts]

/-- The text of a proper path is not empty. -/
lemma text_ne_empty {path : Path} (h : path.Proper) : path.text ≠ "" := by
  obtain ⟨anchor, parts⟩ := path
  intro e
  cases parts with
  | nil => cases anchor <;> exact absurd e (by decide)
  | cons part rest =>
    have hpart : IsComponent part := h part List.mem_cons_self
    rw [text, if_neg (fun e => absurd e.2 (List.cons_ne_nil part rest))] at e
    have hjoin : Text.join '/' (part :: rest) = "" := (String.append_eq_empty_iff.1 e).2
    have hhead := head?_join hpart.ne_empty rest
    rw [hjoin] at hhead
    have hempty : part.toList = [] := List.head?_eq_none_iff.1 hhead.symm
    exact hpart.ne_empty (String.toList_eq_nil_iff.1 hempty)

/-- The text of a path that starts at no home folder does not start with a tilde. -/
lemma head?_text_ne {path : Path} (h : path.Proper) (hhome : path.startsAtHome = false) :
    path.text.toList.head? ≠ some '~' := by
  by_cases habsolute : path.anchor = .relative
  · obtain ⟨anchor, parts⟩ := path
    obtain rfl : anchor = .relative := habsolute
    cases parts with
    | nil => decide
    | cons part rest =>
      have hpart : IsComponent part := h part List.mem_cons_self
      rw [text, if_neg (fun e => absurd e.2 (List.cons_ne_nil part rest)), Anchor.text,
        String.empty_append, head?_join hpart.ne_empty]
      simpa [startsAtHome] using hhome
  · rw [head?_text_of_absolute habsolute]
    decide

/-! ## Home folders -/

/-- A path that is absolute starts at no home folder. -/
lemma startsAtHome_of_isAbsolute {path : Path} (h : path.isAbsolute = true) :
    path.startsAtHome = false := by
  have hanchor : path.anchor ≠ .relative := of_decide_eq_true h
  rw [startsAtHome, decide_eq_false hanchor, Bool.false_and]

/-- What is appended to a path does not change where it starts. -/
lemma isAbsolute_append (path : Path) (parts : List String) :
    (path.append parts).isAbsolute = path.isAbsolute := rfl

/-- A text that starts with a slash spells an absolute path. -/
lemma isAbsolute_ofText_iff (s : String) :
    (ofText s).isAbsolute = true ↔ s.toList.head? = some '/' := by
  rw [isAbsolute, decide_eq_true_iff]
  constructor
  · intro h
    by_contra hhead
    exact h (anchorOf_of_head?_ne hhead)
  · intro h hanchor
    obtain ⟨rest, hrest⟩ := List.head?_eq_some_iff.1 h
    rw [ofText, hrest] at hanchor
    simp only [anchorOf] at hanchor
    split at hanchor
    · cases hanchor
    · cases hanchor
    · cases hanchor
    · rename_i hslash
      exact hslash rest rfl

/-- A path that starts at no home folder stays as it is. -/
lemma expandHome_of_not_startsAtHome {home : Option String} {accounts : List (String × String)}
    {path : Path} (h : path.startsAtHome = false) : path.expandHome home accounts = .ok path := by
  rw [expandHome]
  cases path.parts with
  | nil => rfl
  | cons first rest => simp only [h, Bool.not_false, if_true]

/-- An absolute home folder is absolute without the slashes at its end, unless nothing is left. -/
lemma head?_dropSlashes {cs : List Char} (h : cs.head? = some '/')
    (hne : (cs.reverse.dropWhile (fun c => c = '/')).reverse ≠ []) :
    (cs.reverse.dropWhile (fun c => c = '/')).reverse.head? = some '/' := by
  have hprefix : (cs.reverse.dropWhile (fun c => c = '/')).reverse <+: cs := by
    rw [← List.reverse_suffix, List.reverse_reverse]
    exact List.dropWhile_suffix _
  obtain ⟨rest, hrest⟩ := hprefix
  rw [← hrest, List.head?_append_of_ne_nil _ hne] at h
  exact h

/-- A home folder without the slashes at its end; if nothing is left, it is the root. -/
def trimmedHome (folder : String) : String :=
  let trimmed := String.ofList (folder.toList.reverse.dropWhile (fun c => c = '/')).reverse
  if trimmed.isEmpty then "/" else trimmed

lemma isAbsolute_trimmedHome {folder : String} (h : (ofText folder).isAbsolute = true) :
    (ofText (trimmedHome folder)).isAbsolute = true := by
  rw [trimmedHome]
  split
  · rfl
  · rename_i hne
    rw [isAbsolute_ofText_iff] at h ⊢
    rw [String.toList_ofList]
    refine head?_dropSlashes h ?_
    intro e
    rw [e] at hne
    exact hne rfl

/-- How a path with components continues the home folder that it starts at. -/
lemma expandHome_cons (home : Option String) (accounts : List (String × String)) (anchor : Anchor)
    (first : String) (rest : List String) :
    (⟨anchor, first :: rest⟩ : Path).expandHome home accounts =
      if !(⟨anchor, first :: rest⟩ : Path).startsAtHome then .ok ⟨anchor, first :: rest⟩
      else if first.toList.contains '\x00' then .error .badValue
      else
        match if first = "~" then home
          else (accounts.find? (fun account => "~" ++ account.1 = first)).map Prod.snd with
        | none => .error .noHome
        | some folder =>
          if (trimmedHome folder).toList.head? = some '~' then .error .noHome
          else .ok ((ofText (trimmedHome folder)).append rest) := rfl

/-- A path that starts at a home folder continues that of the user or of an account. -/
lemma expandHome_eq_ok {home : Option String} {accounts : List (String × String)}
    {path expanded : Path} (h : path.expandHome home accounts = .ok expanded) :
    path.startsAtHome = false ∧ expanded = path ∨
      ∃ folder ∈ home.toList ++ accounts.map Prod.snd,
        expanded = (ofText (trimmedHome folder)).append path.parts.tail := by
  obtain ⟨anchor, parts⟩ := path
  cases parts with
  | nil => exact .inl ⟨by simp [startsAtHome], (Except.ok.inj h).symm⟩
  | cons first rest =>
    rw [expandHome_cons] at h
    split at h
    · rename_i hhome
      exact .inl ⟨by simpa using hhome, (Except.ok.inj h).symm⟩
    split at h
    · cases h
    split at h
    · cases h
    rename_i folder hfolder
    have hmem : folder ∈ home.toList ++ accounts.map Prod.snd := by
      split at hfolder
      · exact List.mem_append_left _ (Option.mem_toList.2 hfolder)
      · obtain ⟨account, haccount, rfl⟩ := Option.map_eq_some_iff.1 hfolder
        exact List.mem_append_right _
          (List.mem_map.2 ⟨account, List.mem_of_find?_eq_some haccount, rfl⟩)
    split at h
    · cases h
    · exact .inr ⟨folder, hmem, (Except.ok.inj h).symm⟩

end Path

namespace Environment

/-- Whether the home folders of the user, if it is known, and of all accounts are absolute. -/
def HasRootedHomes (env : Environment) : Prop :=
  ∀ home ∈ env.home?.toList ++ env.accounts.map Prod.snd, (Path.ofText home).isAbsolute = true

instance (env : Environment) : Decidable env.HasRootedHomes :=
  inferInstanceAs (Decidable (∀ home ∈ _ ++ _, _))

variable {env : Environment}

/-- A path with its home folder written out is proper and starts at no home folder. -/
lemma expand_eq_ok {path expanded : Path} (hhomes : env.HasRootedHomes) (hpath : path.Proper)
    (h : env.expand path = .ok expanded) :
    expanded.Proper ∧ expanded.startsAtHome = false := by
  rw [expand] at h
  obtain ⟨hhome, rfl⟩ | ⟨folder, hfolder, rfl⟩ := Path.expandHome_eq_ok h
  · exact ⟨hpath, hhome⟩
  · have habsolute := Path.isAbsolute_trimmedHome (hhomes folder hfolder)
    rw [← Path.isAbsolute_append _ path.parts.tail] at habsolute
    refine ⟨?_, Path.startsAtHome_of_isAbsolute habsolute⟩
    intro part hmem
    rcases List.mem_append.1 hmem with hhome | hrest
    · exact Path.proper_ofText (Path.trimmedHome folder) part hhome
    · exact hpath part (List.mem_of_mem_tail hrest)

/-- Whether a text spells a path in its normal spelling that starts at no home folder. -/
structure IsSettled (env : Environment) (s : String) : Prop where
  ne_empty : s ≠ ""
  normal : (Path.ofText s).text = s
  no_tilde : s.toList.head? ≠ some '~'
  stays : env.expandText s = .ok s

/-- A path that starts at no home folder is settled. -/
lemma isSettled_text {path : Path} (hpath : path.Proper) (hhome : path.startsAtHome = false) :
    env.IsSettled path.text := by
  refine ⟨Path.text_ne_empty hpath, ?_, Path.head?_text_ne hpath hhome, ?_⟩
  · rw [Path.ofText_text hpath]
  · rw [expandText, Path.ofText_text hpath, expand, Path.expandHome_of_not_startsAtHome hhome]
    rfl

/-- Once its home folder is written out, a path is settled. -/
lemma isSettled_of_expandText (hhomes : env.HasRootedHomes) {text s : String}
    (h : env.expandText text = .ok s) : env.IsSettled s := by
  obtain ⟨expanded, hexpand, rfl⟩ := Outcome.map_eq_ok.1 h
  obtain ⟨hproper, hhome⟩ := expand_eq_ok hhomes (Path.proper_ofText text) hexpand
  exact isSettled_text hproper hhome

end Environment

end Nullability
