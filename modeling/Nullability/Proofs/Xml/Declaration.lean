import Mathlib.Data.List.TakeWhile
import Mathlib.Tactic
import Nullability.Proofs.Outcome
import Nullability.Xml.Content

/-!
# Documents that declare an encoding

The declaration at the start of a document is read item by item. How a declaration is written is
told apart from how it is read (`IsItem`, `DeclaresAs`), and the reader finds the encoding that is
declared, and no other (`exists_readDeclaration_iff`). A document that is refused is not well-formed,
unless it declares an encoding that cannot be used (`Element.ofBytes_eq_error_iff`).
-/

namespace Nullability.Xml

/-! ## Items -/

/-- Whether a character may stand in the name of an item. -/
def isItemNameChar (c : Char) : Bool :=
  c ≠ '=' && !isBlank c

/-- Whether characters write `name = "value"` behind at least one blank. -/
inductive IsItem (name value : String) : List Char → Prop
  | mk {blanks before after : List Char} {mark : Char} (hne : blanks ≠ [])
      (hblanks : ∀ c ∈ blanks, isBlank c = true) (hname : name ≠ "")
      (hletters : ∀ c ∈ name.toList, isItemNameChar c = true)
      (hbefore : ∀ c ∈ before, isBlank c = true) (hafter : ∀ c ∈ after, isBlank c = true)
      (hmark : mark = '"' ∨ mark = '\'')
      (hvalue : ∀ c ∈ value.toList, isDeclarationChar c = true) :
      IsItem name value (blanks ++ (name.toList ++ (before ++
        '=' :: (after ++ mark :: (value.toList ++ [mark])))))

section Spans

variable {p : Char → Bool} {front rest : List Char}

lemma takeWhile_append_of_head? (hfront : ∀ c ∈ front, p c = true)
    (hrest : ∀ c ∈ rest.head?, p c = false) : (front ++ rest).takeWhile p = front := by
  rw [List.takeWhile_append_of_pos hfront]
  cases rest with
  | nil => rw [List.takeWhile_nil, List.append_nil]
  | cons c more => rw [List.takeWhile_cons_of_neg (by simp [hrest c rfl]), List.append_nil]

lemma dropWhile_append_of_head? (hfront : ∀ c ∈ front, p c = true)
    (hrest : ∀ c ∈ rest.head?, p c = false) : (front ++ rest).dropWhile p = rest := by
  rw [List.dropWhile_append_of_pos hfront]
  cases rest with
  | nil => rfl
  | cons c more => rw [List.dropWhile_cons_of_neg (by simp [hrest c rfl])]

/-- What is dropped and what is left. -/
lemma exists_of_dropWhile_eq {cs : List Char} (h : cs.dropWhile p = rest) :
    ∃ front, (∀ c ∈ front, p c = true) ∧ cs = front ++ rest :=
  ⟨cs.takeWhile p, fun _ hc => List.mem_takeWhile_imp hc, h ▸ List.takeWhile_append_dropWhile.symm⟩

end Spans

lemma isBlank_of_isItemNameChar {c : Char} (h : isItemNameChar c = true) : isBlank c = false := by
  rw [isItemNameChar, Bool.and_eq_true, Bool.not_eq_true'] at h
  exact h.2

lemma isItemNameChar_of_isBlank {c : Char} (h : isBlank c = true) : isItemNameChar c = false := by
  rw [isItemNameChar, h, Bool.not_true, Bool.and_false]

lemma isBlank_mark {mark : Char} (hmark : mark = '"' ∨ mark = '\'') : isBlank mark = false := by
  rcases hmark with rfl | rfl <;> rfl

lemma isDeclarationChar_mark {mark : Char} (hmark : mark = '"' ∨ mark = '\'') :
    isDeclarationChar mark = false := by
  rcases hmark with rfl | rfl <;> rfl

/-- How an item is read, part by part: what is left behind its equals sign and behind the mark that
opens its value. -/
structure ItemParts (cs : List Char) (name value : String) (rest afterEquals afterMark : List Char)
    (mark : Char) : Prop where
  blank : ∃ c ∈ cs.head?, isBlank c = true
  letters : (skipBlanks cs).takeWhile isItemNameChar = name.toList
  ne_empty : name ≠ ""
  equals : skipBlanks ((skipBlanks cs).dropWhile isItemNameChar) = '=' :: afterEquals
  opens : skipBlanks afterEquals = mark :: afterMark
  isMark : mark = '"' ∨ mark = '\''
  chars : afterMark.takeWhile isDeclarationChar = value.toList
  closes : afterMark.dropWhile isDeclarationChar = mark :: rest

section Items

variable {cs rest afterEquals afterMark : List Char} {name value : String} {mark : Char}

lemma exists_itemParts (h : declarationItem? cs = some (some (name, value, rest))) :
    ∃ afterEquals afterMark mark, ItemParts cs name value rest afterEquals afterMark mark := by
  have hfun : (fun c => decide (c ≠ '=') && !isBlank c) = isItemNameChar := rfl
  unfold declarationItem? at h
  rw [hfun] at h
  dsimp only at h
  split at h
  · cases h
  · rename_i c more
    split at h
    · cases h
    · rename_i hblank
      split at h
      · cases h
      · split at h
        · rename_i afterEquals hequals
          split at h
          · cases h
          · rename_i mark afterMark hopens hname
            split at h
            · rename_i hmark
              split at h
              · rename_i close after hcloses
                split at h
                · rename_i hsame
                  obtain ⟨rfl, rfl, rfl⟩ : _ ∧ _ ∧ _ := by simpa using h
                  rw [hsame] at hcloses
                  refine ⟨afterEquals, afterMark, mark, ⟨c, rfl, by simpa using hblank⟩,
                    String.toList_ofList.symm, ?_, hequals, hopens, hmark,
                    String.toList_ofList.symm, hcloses⟩
                  intro hempty
                  exact hname (String.ofList_eq_empty_iff.1 hempty)
                · cases h
              · cases h
            · cases h
          · cases h
        · cases h

lemma ItemParts.declarationItem?_eq (h : ItemParts cs name value rest afterEquals afterMark mark) :
    declarationItem? cs = some (some (name, value, rest)) := by
  have hfun : (fun c => decide (c ≠ '=') && !isBlank c) = isItemNameChar := rfl
  obtain ⟨⟨c, hc, hblank⟩, hname, hne, hequals, hopens, hmark, hvalue, hcloses⟩ := h
  obtain ⟨more, rfl⟩ : ∃ more, cs = c :: more := List.head?_eq_some_iff.1 hc
  obtain ⟨first, letters, hletters⟩ : ∃ first letters, name.toList = first :: letters :=
    List.exists_cons_of_ne_nil (fun e => hne (String.toList_eq_nil_iff.1 e))
  unfold declarationItem?
  rw [hfun]
  dsimp only
  rw [if_neg (by rw [hblank]; exact Bool.false_ne_true)]
  generalize skipBlanks (c :: more) = start at hname hequals
  cases start with
  | nil =>
    rw [hletters] at hname
    cases hname
  | cons d start =>
    simp only [hequals, hopens, hname, hletters, if_pos hmark, hcloses, if_true, hvalue]
    rw [← hletters, String.ofList_toList, String.ofList_toList]

/-- What is read part by part is written as an item. -/
lemma ItemParts.exists_isItem (h : ItemParts cs name value rest afterEquals afterMark mark) :
    ∃ item, IsItem name value item ∧ cs = item ++ rest := by
  obtain ⟨c, hc, hblank⟩ := h.blank
  obtain ⟨before, hbefore, hsecond⟩ := exists_of_dropWhile_eq h.equals
  obtain ⟨after, hafter, hthird⟩ := exists_of_dropWhile_eq h.opens
  have hfirst : name.toList ++ (skipBlanks cs).dropWhile isItemNameChar = skipBlanks cs :=
    h.letters ▸ List.takeWhile_append_dropWhile
  have hfourth : value.toList ++ mark :: rest = afterMark :=
    h.chars ▸ h.closes ▸ List.takeWhile_append_dropWhile
  have hcs : cs.takeWhile isBlank ++ skipBlanks cs = cs := List.takeWhile_append_dropWhile
  refine ⟨cs.takeWhile isBlank ++ (name.toList ++ (before ++
      '=' :: (after ++ mark :: (value.toList ++ [mark])))),
    .mk ?_ (fun _ hc => List.mem_takeWhile_imp hc) h.ne_empty
      (fun _ hc => List.mem_takeWhile_imp (h.letters ▸ hc)) hbefore hafter h.isMark
      (fun _ hc => List.mem_takeWhile_imp (h.chars ▸ hc)), ?_⟩
  · obtain ⟨more, rfl⟩ := List.head?_eq_some_iff.1 hc
    rw [List.takeWhile_cons_of_pos hblank]
    exact List.cons_ne_nil _ _
  · calc cs = cs.takeWhile isBlank ++ skipBlanks cs := hcs.symm
      _ = cs.takeWhile isBlank ++ (name.toList ++ (before ++
            '=' :: (after ++ mark :: (value.toList ++ mark :: rest)))) := by
          rw [← hfirst, hsecond, hthird, ← hfourth]
      _ = _ := by simp

/-- What is written as an item is read part by part. -/
lemma IsItem.exists_itemParts {item : List Char} (h : IsItem name value item) (rest : List Char) :
    ∃ afterEquals afterMark mark,
      ItemParts (item ++ rest) name value rest afterEquals afterMark mark := by
  obtain ⟨hne, hblanks, hname, hletters, hbefore, hafter, hmark, hvalue⟩ := h
  rename_i blanks before after mark
  obtain ⟨c, more, rfl⟩ := List.exists_cons_of_ne_nil hne
  obtain ⟨first, letters, hfirst⟩ : ∃ first letters, name.toList = first :: letters :=
    List.exists_cons_of_ne_nil (fun e => hname (String.toList_eq_nil_iff.1 e))
  set behind := before ++ '=' :: (after ++ mark :: (value.toList ++ mark :: rest)) with hbehind
  have hitem : (c :: more) ++ (name.toList ++ (before ++
      '=' :: (after ++ mark :: (value.toList ++ [mark])))) ++ rest =
        (c :: more) ++ (name.toList ++ behind) := by
    simp [hbehind]
  have hstart : skipBlanks ((c :: more) ++ (name.toList ++ behind)) = name.toList ++ behind := by
    refine dropWhile_append_of_head? hblanks (fun d hd => ?_)
    refine isBlank_of_isItemNameChar (hletters d ?_)
    rw [hfirst] at hd ⊢
    exact Option.mem_some.1 hd ▸ List.mem_cons_self
  have hend : ∀ d ∈ behind.head?, isItemNameChar d = false := by
    intro d hd
    cases before with
    | nil => exact Option.mem_some.1 hd ▸ rfl
    | cons e before =>
      exact Option.mem_some.1 hd ▸ isItemNameChar_of_isBlank (hbefore e List.mem_cons_self)
  have hclose : ∀ d ∈ (mark :: rest).head?, isDeclarationChar d = false := by
    rintro d ⟨⟩
    exact isDeclarationChar_mark hmark
  rw [hitem]
  refine ⟨after ++ mark :: (value.toList ++ mark :: rest), value.toList ++ mark :: rest, mark,
    ⟨c, rfl, hblanks c List.mem_cons_self⟩, ?_, hname, ?_, ?_, hmark,
    takeWhile_append_of_head? hvalue hclose, dropWhile_append_of_head? hvalue hclose⟩
  · rw [hstart]
    exact takeWhile_append_of_head? hletters hend
  · rw [hstart, dropWhile_append_of_head? hletters hend]
    exact dropWhile_append_of_head? hbefore (by rintro d ⟨⟩; rfl)
  · exact dropWhile_append_of_head? hafter (by rintro d ⟨⟩; exact isBlank_mark hmark)

/-- An item is read exactly where one is written. -/
theorem declarationItem?_iff_isItem : declarationItem? cs = some (some (name, value, rest)) ↔
    ∃ item, IsItem name value item ∧ cs = item ++ rest := by
  constructor
  · intro h
    obtain ⟨afterEquals, afterMark, mark, hparts⟩ := exists_itemParts h
    exact hparts.exists_isItem
  · rintro ⟨item, hitem, rfl⟩
    obtain ⟨afterEquals, afterMark, mark, hparts⟩ := hitem.exists_itemParts rest
    exact hparts.declarationItem?_eq

end Items

/-- No item is read exactly where only blanks are left. -/
theorem declarationItem?_eq_none_iff {cs : List Char} :
    declarationItem? cs = some none ↔ ∀ c ∈ cs, isBlank c = true := by
  rw [← List.dropWhile_eq_nil_iff]
  change _ ↔ skipBlanks cs = []
  cases cs with
  | nil => exact iff_of_true rfl rfl
  | cons c more =>
    unfold declarationItem?
    dsimp only
    split
    · rename_i hblank
      refine iff_of_false (by simp) ?_
      rw [skipBlanks, List.dropWhile_cons_of_neg (by simpa using hblank)]
      exact List.cons_ne_nil _ _
    · split
      · rename_i hnil
        exact iff_of_true rfl hnil
      · rename_i hne
        refine iff_of_false ?_ hne
        split
        · split
          · simp
          · split
            · split
              · split <;> simp
              · simp
            · simp
          · simp
        · simp

/-! ## Declarations -/

/-- Whether the rest of a declaration says no more than whether the document stands alone. -/
def EndsDeclaration (cs : List Char) : Prop :=
  (∀ c ∈ cs, isBlank c = true) ∨
    ∃ word item blanks, IsItem "standalone" word item ∧ (word = "yes" ∨ word = "no") ∧
      (∀ c ∈ blanks, isBlank c = true) ∧ cs = item ++ blanks

/-- Whether characters are the declaration of an encoding. -/
def DeclaresAs (lead : List Char) (name : String) : Prop :=
  ∃ version first second rest, IsItem "version" version first ∧ IsItem "encoding" name second ∧
    name.toList.head?.any Text.isAsciiLetter = true ∧ EndsDeclaration rest ∧
    lead = "<?xml".toList ++ (first ++ (second ++ rest)) ++ "?>".toList

lemma yesNo?_isSome_iff {word : String} : (yesNo? word).isSome ↔ word = "yes" ∨ word = "no" := by
  unfold yesNo?
  split <;> simp_all

lemma exists_declarationTail?_iff {cs : List Char} {name : String} :
    (∃ standalone, declarationTail? cs = some (some name, standalone)) ↔
      ∃ item rest, IsItem "encoding" name item ∧
        name.toList.head?.any Text.isAsciiLetter = true ∧ EndsDeclaration rest ∧
        cs = item ++ rest := by
  constructor
  · rintro ⟨standalone, htail⟩
    obtain ⟨found, hfound, h⟩ := Option.bind_eq_some_iff.1 htail
    split at h
    · cases h
    · rename_i value rest
      split at h
      · cases h
      · rename_i hletter
        obtain ⟨next, hnext, hrest⟩ := Option.bind_eq_some_iff.1 h
        obtain ⟨item, hitem, rfl⟩ := declarationItem?_iff_isItem.1 hfound
        split at hrest
        · cases hrest
          refine ⟨item, rest, hitem, by simpa using hletter, .inl ?_, rfl⟩
          exact declarationItem?_eq_none_iff.1 hnext
        · rename_i word behind
          obtain ⟨yes, hword, hblanks⟩ := Option.bind_eq_some_iff.1 hrest
          split at hblanks
          · rename_i hall
            cases hblanks
            obtain ⟨last, hlast, rfl⟩ := declarationItem?_iff_isItem.1 hnext
            refine ⟨item, last ++ behind, hitem, by simpa using hletter, .inr ?_, rfl⟩
            refine ⟨word, last, behind, hlast, yesNo?_isSome_iff.1 ?_, List.all_eq_true.1 hall, rfl⟩
            exact Option.isSome_of_eq_some hword
          · cases hblanks
        · cases hrest
    · obtain ⟨yes, -, h⟩ := Option.bind_eq_some_iff.1 h
      split at h <;> cases h
    · cases h
  · rintro ⟨item, rest, hitem, hletter, hend, rfl⟩
    have hfound : declarationItem? (item ++ rest) = some (some ("encoding", name, rest)) :=
      declarationItem?_iff_isItem.2 ⟨item, hitem, rfl⟩
    obtain hblanks | ⟨word, last, blanks, hlast, hword, hblanks, rfl⟩ := hend
    · refine ⟨false, ?_⟩
      simp [declarationTail?, hfound, hletter, declarationItem?_eq_none_iff.2 hblanks]
    · obtain ⟨standalone, hstandalone⟩ := Option.isSome_iff_exists.1 (yesNo?_isSome_iff.2 hword)
      refine ⟨standalone, ?_⟩
      have hnext : declarationItem? (last ++ blanks) = some (some ("standalone", word, blanks)) :=
        declarationItem?_iff_isItem.2 ⟨last, hlast, rfl⟩
      have hall : blanks.all isBlank = true := List.all_eq_true.2 hblanks
      simp only [declarationTail?, hfound, hletter, hnext, hstandalone, hall, Option.bind_eq_bind,
        Option.bind_some, Option.pure_def, Bool.not_true, Bool.false_eq_true, if_false, if_true]

/-- What a declaration is made of: something that begins with its target, between its brackets. -/
lemma IsItem.exists_cons {name value : String} {item : List Char} (h : IsItem name value item) :
    ∃ c more, isBlank c = true ∧ item = c :: more := by
  obtain ⟨hne, hblanks⟩ := h
  obtain ⟨c, more, rfl⟩ := List.exists_cons_of_ne_nil hne
  exact ⟨c, _, hblanks c List.mem_cons_self, rfl⟩

lemma isNameChar_of_isBlank {c : Char} (h : isBlank c = true) : isNameChar false c = false := by
  simp only [isBlank, Bool.or_eq_true, decide_eq_true_eq] at h
  obtain ((rfl | rfl) | rfl) | rfl := h <;> decide

lemma exists_of_beginsDeclaration {lead body : List Char} (h : beginsDeclaration lead = true)
    (hbody : lead.reverse = '>' :: '?' :: body) :
    lead = "<?xml".toList ++ body.reverse.drop 5 ++ "?>".toList := by
  have hlead : lead = body.reverse ++ ['?', '>'] := by
    rw [← List.reverse_reverse lead, hbody, List.reverse_cons, List.reverse_cons, List.append_assoc]
    rfl
  clear hbody
  generalize body.reverse = front at hlead
  unfold beginsDeclaration at h
  split at h
  · rename_i next more
    have hfive : front.take 5 = "<?xml".toList := by
      rcases front with _ | ⟨a, _ | ⟨b, _ | ⟨c, _ | ⟨d, _ | ⟨e, front⟩⟩⟩⟩⟩ <;>
        simp at hlead ⊢
      obtain ⟨rfl, rfl, rfl, rfl, rfl, -⟩ := hlead
      trivial
    rw [hlead, ← hfive, List.take_append_drop]
    rfl
  · cases h

/-- An encoding is found in a declaration exactly if it is declared there. -/
theorem exists_readDeclaration_iff {lead : List Char} {name : String} :
    (∃ declaration, readDeclaration lead = .ok (some declaration) ∧
      declaration.encoding = some name) ↔ DeclaresAs lead name := by
  constructor
  · rintro ⟨declaration, h, hname⟩
    unfold readDeclaration at h
    split at h
    · cases h
    · rename_i hbegins
      split at h
      · rename_i body hbody
        split at h
        · rename_i version behind hversion
          split at h
          · rename_i encoding standalone htail
            cases h
            obtain rfl : encoding = some name := hname
            obtain ⟨first, hfirst, hdrop⟩ := declarationItem?_iff_isItem.1 hversion
            obtain ⟨second, rest, hsecond, hletter, hend, rfl⟩ :=
              exists_declarationTail?_iff.1 ⟨standalone, htail⟩
            refine ⟨version, first, second, rest, hfirst, hsecond, hletter, hend, ?_⟩
            rw [← hdrop]
            exact exists_of_beginsDeclaration (by simpa using hbegins) hbody
          · cases h
        · cases h
      · cases h
  · rintro ⟨version, first, second, rest, hfirst, hsecond, hletter, hend, rfl⟩
    obtain ⟨standalone, htail⟩ := exists_declarationTail?_iff.2
      ⟨second, rest, hsecond, hletter, hend, rfl⟩
    have hversion : declarationItem? (first ++ (second ++ rest)) =
        some (some ("version", version, second ++ rest)) :=
      declarationItem?_iff_isItem.2 ⟨first, hfirst, rfl⟩
    set lead := "<?xml".toList ++ (first ++ (second ++ rest)) ++ "?>".toList with hlead
    refine ⟨⟨some name, standalone, lead.length⟩, ?_, rfl⟩
    have hbegins : beginsDeclaration lead = true := by
      obtain ⟨c, more, hblank, rfl⟩ := hfirst.exists_cons
      exact congrArg not (isNameChar_of_isBlank hblank)
    have hbody : lead.reverse =
        '>' :: '?' :: ("<?xml".toList ++ (first ++ (second ++ rest))).reverse := by
      rw [hlead, List.reverse_append]
      rfl
    have hdrop : ("<?xml".toList ++ (first ++ (second ++ rest))).drop 5 =
        first ++ (second ++ rest) := rfl
    simp only [readDeclaration, hbegins, hbody, List.reverse_reverse, hdrop, hversion, htail]
    rfl

/-- What is not a declaration is not well-formed. -/
lemma readDeclaration_eq_error {lead : List Char} {refusal : Refusal}
    (h : readDeclaration lead = .error refusal) : refusal = .malformed := by
  unfold readDeclaration at h
  split at h
  · cases h
  · split at h
    · split at h
      · split at h
        · cases h
        · cases h
          rfl
      · cases h
        rfl
    · cases h
      rfl

/-! ## Encodings that cannot be used -/

/-- The names of the encodings that the reader of documents knows by itself, in small letters. -/
def ownEncodingNames : List String :=
  ["utf-8", "iso-8859-1", "us-ascii", "utf-16", "utf-16be", "utf-16le"]

/-- Whether a name is looked up in tables, and these refuse it for a reason of their own. -/
def Unusable (name : String) (refusal : Refusal) : Prop :=
  String.ofList (name.toList.map Char.toLower) ∉ ownEncodingNames ∧
    listedEncoding name = .error refusal ∧ refusal ≠ .malformed

/-- Whether a document begins with the declaration of an encoding. -/
def DeclaresEncoding (bytes : List UInt8) (name : String) : Prop :=
  ∃ guessed body, Encoding.detect? bytes = some (guessed, body) ∧
    DeclaresAs (guessed.lead [] body) name

/-- A test that a document has to pass gives no reason of its own. -/
lemma not_error_of_ite {α : Type} {p : Prop} [Decidable p] {a : α} {refusal : Refusal} :
    ¬ ((if p then .ok a else .error .malformed) = Except.error refusal ∧
      refusal ≠ .malformed) := by
  rintro ⟨h, hne⟩
  split at h
  · cases h
  · cases h
    exact hne rfl

/-- The reasons of the tables are the only ones besides the width of units, whatever was guessed. -/
lemma declaredEncoding_eq_error_iff {guessed : Encoding} {name : String} {refusal : Refusal} :
    declaredEncoding guessed name = .error refusal ∧ refusal ≠ .malformed ↔
      Unusable name refusal := by
  unfold declaredEncoding Unusable
  dsimp only
  split
  case h_7 =>
    have hother : String.ofList (name.toList.map Char.toLower) ∉ ownEncodingNames := by
      simp only [ownEncodingNames, List.mem_cons, List.not_mem_nil, or_false, not_or]
      refine ⟨?_, ?_, ?_, ?_, ?_, ?_⟩ <;> assumption
    split
    · rename_i encoding hlisted
      refine iff_of_false not_error_of_ite ?_
      rw [hlisted]
      rintro ⟨-, h, -⟩
      cases h
    · rename_i found hlisted
      rw [hlisted]
      exact ⟨fun h => ⟨hother, h⟩, fun h => h.2⟩
  all_goals
    rename_i hname
    exact iff_of_false not_error_of_ite (fun h => h.1 (by simp [hname, ownEncodingNames]))

/-- Behind what is declared, only what is not well-formed is refused. -/
lemma Source.ofBytes_eq_error_iff {bytes : List UInt8} {refusal : Refusal} :
    Source.ofBytes bytes = .error refusal ∧ refusal ≠ .malformed ↔
      ∃ name, DeclaresEncoding bytes name ∧ Unusable name refusal := by
  constructor
  · rintro ⟨h, hne⟩
    unfold Source.ofBytes at h
    split at h
    · cases h
      exact absurd rfl hne
    · rename_i guessed body hdetect
      obtain hread | ⟨declaration, hread, hrest⟩ := Outcome.bind_eq_error.1 h
      · exact absurd (readDeclaration_eq_error hread) hne
      -- whatever the encoding is, decoding the rest gives no other reason
      · split at hrest
        · rename_i name hname
          obtain ⟨said, rfl, hsaid⟩ := Option.bind_eq_some_iff.1 hname
          obtain hencoding | ⟨encoding, -, hdecode⟩ := Outcome.bind_eq_error.1 hrest
          · exact ⟨name, ⟨guessed, body, hdetect, exists_readDeclaration_iff.1 ⟨said, hread, hsaid⟩⟩,
              declaredEncoding_eq_error_iff.1 ⟨hencoding, hne⟩⟩
          · dsimp only at hdecode
            split at hdecode
            · exact absurd (Except.error.inj hdecode).symm hne
            · exact absurd ⟨hdecode, hne⟩ not_error_of_ite
        · obtain hencoding | ⟨encoding, -, hdecode⟩ := Outcome.bind_eq_error.1 hrest
          · cases hencoding
          · dsimp only at hdecode
            split at hdecode
            · exact absurd (Except.error.inj hdecode).symm hne
            · exact absurd ⟨hdecode, hne⟩ not_error_of_ite
  · rintro ⟨name, ⟨guessed, body, hdetect, hdeclares⟩, hunusable⟩
    obtain ⟨declaration, hread, hname⟩ := exists_readDeclaration_iff.2 hdeclares
    obtain ⟨herror, hne⟩ : declaredEncoding guessed name = .error refusal ∧ refusal ≠ .malformed :=
      declaredEncoding_eq_error_iff.2 hunusable
    refine ⟨?_, hne⟩
    rw [Source.ofBytes, hdetect]
    dsimp only
    rw [hread]
    simp only [bind, Except.bind, Option.bind, hname, herror]

/-- A document is refused for another reason than not being well-formed exactly if it declares an
encoding that cannot be used. -/
theorem Element.ofBytes_eq_error_iff {bytes : List UInt8} {refusal : Refusal} :
    Element.ofBytes bytes = .error refusal ∧ refusal ≠ .malformed ↔
      ∃ name, DeclaresEncoding bytes name ∧ Unusable name refusal := by
  rw [← Source.ofBytes_eq_error_iff]
  unfold Element.ofBytes
  split
  · rename_i other hsource
    rw [hsource, Except.error.injEq, Except.error.injEq]
  · rename_i source hsource
    rw [hsource]
    refine iff_of_false ?_ (fun h => by cases h.1)
    rintro ⟨h, hne⟩
    split at h
    · cases h
    · cases h
      exact hne rfl

end Nullability.Xml
