import Mathlib
import Nullability.Installation.Documents
import Nullability.Proofs.Text.LetterCase

/-!
# Names of documents

What the ending of a document comes to, letter by letter: the name ends in a point and the three
letters in either case, and something stands before the point. No letter outside ASCII counts, since
these letters are plain.
-/

namespace Nullability

namespace Path

variable {name : String} {stem letters : List Char}

/-- A name is cut at a point with something before it and something behind it, if that has no point
of its own. -/
lemma splitSuffix_of_eq (h : name.toList = stem ++ '.' :: letters) (hstem : stem ≠ [])
    (hletters : letters ≠ []) (hpoint : '.' ∉ letters) :
    splitSuffix name = (String.ofList stem, String.ofList ('.' :: letters)) := by
  have hreverse : name.toList.reverse = letters.reverse ++ '.' :: stem.reverse := by
    rw [h, List.reverse_append, List.reverse_cons, List.append_assoc]
    rfl
  have hplain : ∀ c ∈ letters.reverse, decide (c ≠ '.') = true := by
    intro c hc
    refine decide_eq_true ?_
    rintro rfl
    exact hpoint (List.mem_reverse.1 hc)
  have htake : ('.' :: stem.reverse).takeWhile (fun c => decide (c ≠ '.')) = [] := rfl
  have hdrop : ('.' :: stem.reverse).dropWhile (fun c => decide (c ≠ '.')) = '.' :: stem.reverse :=
    rfl
  rw [splitSuffix, hreverse, List.takeWhile_append_of_pos hplain,
    List.dropWhile_append_of_pos hplain, htake, hdrop, List.append_nil]
  simp [hstem, hletters]

lemma splitSuffix_cases (name : String) : (splitSuffix name).2 = "" ∨
    ∃ stem letters, name.toList = stem ++ '.' :: letters ∧ stem ≠ [] ∧
      (splitSuffix name).2 = String.ofList ('.' :: letters) := by
  rw [splitSuffix]
  have hcut := List.takeWhile_append_dropWhile (p := fun c => decide (c ≠ '.'))
    (l := name.toList.reverse)
  generalize name.toList.reverse.takeWhile (fun c => decide (c ≠ '.')) = after at hcut ⊢
  split
  · rename_i before hbefore
    rw [hbefore] at hcut
    split
    · exact .inl rfl
    · rename_i hparts
      rw [not_or, List.isEmpty_iff, List.isEmpty_iff] at hparts
      refine .inr ⟨before.reverse, after.reverse, ?_, ?_, rfl⟩
      · rw [← List.reverse_reverse name.toList, ← hcut, List.reverse_append, List.reverse_cons,
          List.append_assoc]
        rfl
      · exact fun e => hparts.1 (List.reverse_eq_nil_iff.1 e)
  · exact .inl rfl

end Path

namespace Documents

/-- Whether a file may be a document by its name. -/
def IsDocumentName (name : String) : Prop :=
  ∃ stem letters, name.toList = stem ++ '.' :: letters ∧ stem ≠ [] ∧
    letters.map Char.toLower = ['x', 'm', 'l']

lemma hasEnding_iff {path : Path} : hasEnding path = true ↔ IsDocumentName path.name := by
  have hending : ending.toList = ['.', 'x', 'm', 'l'] := rfl
  have hplain : ∀ d ∈ ending.toList, Text.IsPlain d := by
    simp [hending, Text.IsPlain]
  rw [hasEnding, decide_eq_true_iff, Text.lower_eq_iff hplain, hending, Path.suffix]
  constructor
  · intro h
    obtain hnone | ⟨stem, letters, hname, hstem, hsuffix⟩ := Path.splitSuffix_cases path.name
    · rw [hnone] at h
      cases h
    · rw [hsuffix, String.toList_ofList, List.map_cons] at h
      exact ⟨stem, letters, hname, hstem, List.tail_eq_of_cons_eq h⟩
  · rintro ⟨stem, letters, hname, hstem, hletters⟩
    have hne : letters ≠ [] := by
      rintro rfl
      cases hletters
    have hpoint : '.' ∉ letters := by
      intro hmem
      have hlower : Char.toLower '.' ∈ ['x', 'm', 'l'] := hletters ▸ List.mem_map_of_mem hmem
      exact absurd hlower (by decide)
    rw [Path.splitSuffix_of_eq hname hstem hne hpoint, String.toList_ofList, List.map_cons,
      hletters]
    rfl

end Documents

end Nullability
