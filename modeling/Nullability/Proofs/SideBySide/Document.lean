import Nullability.Baseline
import Nullability.Proofs.FileTree.Content
import Nullability.Proofs.Path.Place
import Nullability.SideBySide

/-!
# What documents hold

What reading a document gives depends on nothing but the content of the file that its path leads to;
how the path is spelled only shows in failures. So a map that was read once can be read again, under
any spelling, for as long as the content stays what it was (`AnnotationMap.loadFile_of_holds`).
-/

namespace Nullability

/-! ## Documents in ASCII -/

namespace Text

lemma utf8_ofList (cs : List Char) : utf8 (String.ofList cs) = cs.flatMap String.utf8EncodeChar := by
  have hbytes : (String.ofList cs).toUTF8 = (cs.flatMap String.utf8EncodeChar).toByteArray :=
    String.toByteArray_ofList
  rw [utf8, hbytes, List.data_toByteArray]

end Text

namespace Xml

open Encoding

lemma utf8EncodeChar_ofNat {b : UInt8} (h : b.toNat < 128) :
    String.utf8EncodeChar (Char.ofNat b.toNat) = [b] := by
  have hvalid : b.toNat.isValidChar := .inl (by omega)
  have hvalue : (Char.ofNat b.toNat).val.toNat = b.toNat := by rw [Char.ofNat, dif_pos hvalid]; rfl
  have hsmall : b.toNat ≤ 127 := by omega
  rw [String.utf8EncodeChar, hvalue]
  simp only [hsmall, if_true, UInt8.ofNat_toNat]

/-- What was decoded as ASCII is encoded in UTF-8 by the bytes it came from. -/
lemma flatMap_of_ascii {done cs : List Char} {bytes : List UInt8}
    (h : ofBytes? (fun _ => none) done bytes = some cs) :
    cs.flatMap String.utf8EncodeChar = done.reverse.flatMap String.utf8EncodeChar ++ bytes := by
  induction bytes generalizing done with
  | nil =>
    rw [← Option.some.inj h, List.append_nil]
  | cons b rest ih =>
    rw [ofBytes?] at h
    split at h
    · rename_i hascii
      rw [ih h, List.reverse_cons, List.flatMap_append, List.flatMap_singleton,
        utf8EncodeChar_ofNat hascii, List.append_assoc, List.singleton_append]
    · cases h

/-- What can be decoded as ASCII is the same text in UTF-8. -/
lemma decode?_utf8_of_ascii {cs : List Char} {bytes : List UInt8}
    (h : Encoding.ascii.decode? bytes = some cs) : Encoding.utf8.decode? bytes = some cs := by
  have hbytes : Text.utf8 (String.ofList cs) = bytes :=
    (Text.utf8_ofList cs).trans (flatMap_of_ascii h)
  rw [decode?, ← hbytes, Text.ofUtf8?_utf8]
  exact congrArg some String.toList_ofList

/-- A document in ASCII that begins without a declaration is read as it stands. -/
lemma Source.ofBytes_of_ascii {cs : List Char} {bytes : List UInt8}
    (hdetect : detect? bytes = some (.utf8, bytes))
    (hlead : beginsDeclaration (Encoding.utf8.lead [] bytes) = false)
    (hascii : Encoding.ascii.decode? bytes = some cs) :
    Source.ofBytes bytes = if cs.all isLegal then .ok ⟨unifyLineEnds [] cs, false, false⟩
      else .error .malformed := by
  have hdeclaration : readDeclaration (Encoding.utf8.lead [] bytes) = .ok none := by
    rw [readDeclaration, hlead]
    rfl
  have hdecode := decode?_utf8_of_ascii hascii
  simp only [Source.ofBytes, hdetect, hdeclaration, bind, Except.bind, Option.bind, Option.map,
    Option.getD, Nat.zero_mul, List.drop_zero, hdecode, Encoding.isLatin]

end Xml

/-! ## Reading documents -/

/-- What merging the document that some bytes hold ends with. -/
def AnnotationMap.loadOutcome (m : AnnotationMap) (source : String) (bytes : List UInt8) :
    Except Failure AnnotationMap :=
  match m.loadDocument source bytes with
  | (merged, none) => .ok merged
  | (_, some failure) => .error failure

/-- Whether there is a file at the place of a key, and reading it gives a map. -/
def SideBySide.Holds (tree : FileTree) (key : String) (map : AnnotationMap) : Prop :=
  ∃ content, tree.contentAt (Path.place key) = some content ∧
    ∀ source, AnnotationMap.loadOutcome .empty source content = .ok map

namespace AnnotationMap

/-- Reading a document is noted, and ends with what its content gives. -/
lemma loadFile_eq (path : Path) (m : AnnotationMap) (w : Workspace) :
    loadFile path m w =
      ((w.tree.read path).bind (m.loadOutcome path.text),
        { w with documents := w.documents ++ [path] }) := by
  change Job.andThen (Job.inspect (fun tree => tree.read path)) _
    { w with documents := w.documents ++ [path] } = _
  rw [Job.andThen, Job.inspect]
  cases hread : w.tree.read path with
  | error failure => rfl
  | ok content =>
    cases hload : m.loadDocument path.text content with
    | mk merged failure =>
      cases failure with
      | none => simp [loadOutcome, hload, Except.bind, pure, Job.result]
      | some failure => simp [loadOutcome, hload, Except.bind, Job.fail]

/-- A document that can be read gives the same map under any name. -/
lemma loadOutcome_source {m merged : AnnotationMap} {source : String} {bytes : List UInt8}
    (h : m.loadOutcome source bytes = .ok merged) (source' : String) :
    m.loadOutcome source' bytes = .ok merged := by
  rw [loadOutcome, loadDocument] at h ⊢
  cases hroot : Xml.Element.ofBytes bytes with
  | error refusal =>
    rw [hroot] at h
    cases h
  | ok root =>
    rw [hroot] at h
    cases hmerge : m.mergeDocument root with
    | mk result missing =>
      cases missing with
      | none => simpa [hmerge] using h
      | some missing => simp [hmerge] at h

/-- A document in ASCII that begins without a declaration gives what its text gives. -/
lemma loadOutcome_of_ascii {m merged : AnnotationMap} {bytes : List UInt8}
    (hdetect : Xml.Encoding.detect? bytes = some (.utf8, bytes))
    (hlead : Xml.beginsDeclaration (Xml.Encoding.utf8.lead [] bytes) = false)
    (hmerge : ((Xml.Encoding.ascii.decode? bytes).filter (fun cs => cs.all Xml.isLegal)).bind
      (fun cs => (Xml.Source.root? ⟨Xml.unifyLineEnds [] cs, false, false⟩).map m.mergeDocument) =
        some (merged, none)) (source : String) :
    m.loadOutcome source bytes = .ok merged := by
  obtain ⟨cs, hcs, hmap⟩ := Option.bind_eq_some_iff.1 hmerge
  obtain ⟨hascii, hlegal⟩ := Option.filter_eq_some_iff.1 hcs
  obtain ⟨root, hroot, hmerged⟩ := Option.map_eq_some_iff.1 hmap
  rw [loadOutcome, loadDocument, Xml.Element.ofBytes,
    Xml.Source.ofBytes_of_ascii hdetect hlead hascii, if_pos hlegal]
  dsimp only
  rw [hroot]
  dsimp only
  rw [hmerged]
  rfl

end AnnotationMap

namespace SideBySide

variable {tree : FileTree} {path : Path}

/-- The path of an assembly's document is proper. -/
lemma proper_documentOf {assembly document : Path} (hassembly : assembly.Proper)
    (h : documentOf assembly = .ok document) : document.Proper := by
  have hlength : (assembly.stem ++ documentEnding).length ≥ 24 := by
    rw [String.length_append]
    exact Nat.le_add_left 24 assembly.stem.length
  refine hassembly.withName ⟨?_, ?_, ?_⟩ h
  · intro e
    rw [e] at hlength
    exact absurd hlength (by decide)
  · intro e
    rw [e] at hlength
    exact absurd hlength (by decide)
  · rw [String.toList_append, List.mem_append, not_or]
    exact ⟨hassembly.no_slash_stem, by decide⟩

/-- A document that was located is a file under a proper path. -/
lemma locate_eq_some {references : References} {symbol : Symbol}
    (h : locate tree references symbol = .ok (some path)) :
    path.Proper ∧ tree.isFile path = true := by
  rw [locate] at h
  split at h
  · cases h
  · rename_i assembly _
    split at h
    · cases h
    · obtain ⟨document, hdocument, hfile⟩ := Outcome.map_eq_ok.1 h
      split at hfile
      · rename_i hisFile
        obtain rfl := Option.some.inj hfile
        exact ⟨proper_documentOf (Path.proper_ofText assembly) hdocument, hisFile⟩
      · cases hfile

/-- A path to a file leads to the place of its key. -/
lemma exists_contentAt_key (hcurrent : ∀ name ∈ tree.current, Path.IsName name)
    (hpath : path.Proper) (h : tree.isFile path = true) :
    ∃ content, tree.contentAt (Path.place (key tree path)) = some content ∧
      tree.read path = .ok content := by
  obtain ⟨place, content, hplace, hcontent⟩ := FileTree.exists_contentAt_of_isFile h
  have hkey : place = Path.place (key tree path) := Path.resolve_eq_place hcurrent hpath hplace
  exact ⟨content, hkey ▸ hcontent, FileTree.read_of_contentAt hplace hcontent⟩

/-- What was read at a path is what the place of its key holds. -/
lemma holds_of_loadFile {w : Workspace} {map : AnnotationMap}
    (hcurrent : ∀ name ∈ w.tree.current, Path.IsName name) (hpath : path.Proper)
    (hfile : w.tree.isFile path = true) (h : (AnnotationMap.loadFile path .empty w).1 = .ok map) :
    Holds w.tree (key w.tree path) map := by
  obtain ⟨content, hcontent, hread⟩ := exists_contentAt_key hcurrent hpath hfile
  rw [AnnotationMap.loadFile_eq, hread] at h
  exact ⟨content, hcontent, AnnotationMap.loadOutcome_source h⟩

/-- What the place of a path's key holds is what is read at the path. -/
lemma loadFile_of_holds {w : Workspace} {map : AnnotationMap}
    (hcurrent : ∀ name ∈ w.tree.current, Path.IsName name) (hpath : path.Proper)
    (hfile : w.tree.isFile path = true) (h : Holds w.tree (key w.tree path) map) :
    (AnnotationMap.loadFile path .empty w).1 = .ok map := by
  obtain ⟨content, hcontent, hload⟩ := h
  obtain ⟨content', hcontent', hread⟩ := exists_contentAt_key hcurrent hpath hfile
  obtain rfl : content = content' := Option.some.inj (hcontent.symm.trans hcontent')
  rw [AnnotationMap.loadFile_eq, hread]
  exact hload path.text

/-- A place whose content stays holds what it held. -/
lemma Holds.of_contentAt_eq {after : FileTree} {k : String} {map : AnnotationMap}
    (h : Holds tree k map)
    (hsame : tree.contentAt (Path.place k) = after.contentAt (Path.place k)) :
    Holds after k map := by
  obtain ⟨content, hcontent, hload⟩ := h
  exact ⟨content, hsame ▸ hcontent, hload⟩

end SideBySide

end Nullability
