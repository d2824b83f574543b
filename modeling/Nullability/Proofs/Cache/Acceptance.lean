import Nullability.Proofs.Cache.Damage
import Nullability.Proofs.Cache.Format

/-!
# Which cache files are judged

Reading the bytes of a cache file gives a cache, or says that the file is damaged or of another
version. There is one exception (`judged_iff`): behind a header that is in order, a content in which
an entry of a map has a list or a map as its key, and in which all before the end of that entry is
in the format, makes reading fail like any use of a value of the wrong kind.
-/

namespace Nullability.AnnotationCache
open Cache Cache.Message

variable {source : String} {bytes content header : List UInt8} {failure : Failure}

/-! ## Headers in order -/

/-- A header is its four fields, one behind the other. -/
lemma header_fields (header : List UInt8) : header =
    header.take 4 ++ ((header.drop 4).take 2 ++ ((header.drop 6).take 4 ++ header.drop 10)) := by
  have hdigest : header.drop 10 = (header.drop 6).drop 4 := by rw [List.drop_drop]
  have hlength : header.drop 6 = (header.drop 4).drop 2 := by rw [List.drop_drop]
  rw [hdigest, List.take_append_drop, hlength, List.take_append_drop, List.take_append_drop]

lemma eq_headerOf (hheader : header.length = headerLength) (hmark : header.take 4 = signature)
    (hversion : ofLittleEndian ((header.drop 4).take 2) = schemaVersion)
    (hlength : ofLittleEndian ((header.drop 6).take 4) = content.length)
    (hdigest : checksum content = header.drop 10) : header = headerOf content := by
  have htwo : ((header.drop 4).take 2).length = 2 := by
    rw [List.length_take, List.length_drop, hheader]
    rfl
  have hfour : ((header.drop 6).take 4).length = 4 := by
    rw [List.length_take, List.length_drop, hheader]
    rfl
  rw [headerOf, ← hmark, ← hversion, ← hlength, hdigest, littleEndian_ofLittleEndian htwo,
    littleEndian_ofLittleEndian hfour]
  exact header_fields header

/-- A header that is in order is that of the content behind it. -/
lemma eq_enclose_of_contentOf? (h : contentOf? bytes = some content) :
    content.length < 0x100000000 ∧ ∃ more, bytes = enclose content ++ more := by
  rw [contentOf?] at h
  split_ifs at h with hshort hmark hversion hlength hdigest
  rw [not_not] at hmark hversion hdigest
  have hheader : (bytes.take headerLength).length = headerLength := by
    rw [List.length_take] at hshort ⊢
    omega
  set length := ofLittleEndian (((bytes.take headerLength).drop 6).take 4) with hlengthOf
  have hcontent := Option.some.inj h
  have hcount : content.length = length := by
    rw [hcontent, not_lt] at hlength
    apply le_antisymm _ hlength
    rw [← hcontent]
    exact List.length_take_le _ _
  have hlimit : length < 0x100000000 := by
    have hbytes : (((bytes.take headerLength).drop 6).take 4).length = 4 := by
      rw [List.length_take, List.length_drop, hheader]
      rfl
    have hlt := ofLittleEndian_lt (((bytes.take headerLength).drop 6).take 4)
    rwa [hbytes] at hlt
  refine ⟨hcount ▸ hlimit, (bytes.drop headerLength).drop length, ?_⟩
  have hfields : bytes.take headerLength = headerOf content :=
    eq_headerOf hheader hmark hversion (hlengthOf.symm.trans hcount.symm) (hcontent ▸ hdigest)
  calc bytes = bytes.take headerLength ++
        ((bytes.drop headerLength).take length ++ (bytes.drop headerLength).drop length) := by
        rw [List.take_append_drop, List.take_append_drop]
    _ = enclose content ++ (bytes.drop headerLength).drop length := by
        rw [hfields, hcontent, enclose_eq, List.append_assoc]

/-! ## What reading says -/

/-- Reading a file gave a cache, or says of this file that it is damaged or of another version. -/
inductive Judged (source : String) : Except Failure AnnotationCache → Prop
  | cache (cache : AnnotationCache) : Judged source (.ok cache)
  | damaged (reason : String) : Judged source (.error (.fault (.cacheCorrupt source reason)))
  | version {found : Nat} (h : found ≠ schemaVersion) :
    Judged source (.error (.fault (.cacheSchemaMismatch source found schemaVersion)))

lemma judged_of_ofContent (hread : Message.read content ≠ .error .badKey) :
    Judged source (ofContent source content) := by
  rw [ofContent]
  split
  · exact .damaged _
  · rename_i hbad
    exact absurd hbad hread
  · split
    · exact .damaged _
    · split
      · exact .cache _
      · exact .damaged _

/-- A file is judged if its header is not in order, or else if its content is. -/
lemma judged_of_contentOf?
    (h : ∀ content, contentOf? bytes = some content → Judged source (ofContent source content)) :
    Judged source (unpack source bytes) := by
  cases hcontent : contentOf? bytes with
  | some content =>
    rw [unpack_of_contentOf? hcontent]
    exact h content hcontent
  | none =>
    rw [contentOf?] at hcontent
    rw [unpack]
    dsimp only at hcontent ⊢
    split_ifs at hcontent ⊢ with _ _ hversion
    · exact .damaged _
    · exact .damaged _
    · exact .version hversion
    · exact .damaged _
    · exact .damaged _

/-- Whether the header of a file is in order, and its content a value in which an entry of a map has
a list or a map as its key, with nothing out of the format before the end of that entry. -/
def HidesBadKey (bytes : List UInt8) : Prop :=
  ∃ content more, content.length < 0x100000000 ∧ bytes = enclose content ++ more ∧
    Format.BadValue content.length depthLimit content

lemma unpack_of_hidesBadKey (h : HidesBadKey bytes) : unpack source bytes = .error .badType := by
  obtain ⟨content, more, hlength, rfl, hbad⟩ := h
  rw [unpack_enclose_append hlength, ofContent, read_eq_badKey_iff.2 hbad]

lemma hidesBadKey_of_contentOf? (h : contentOf? bytes = some content)
    (hread : Message.read content = .error .badKey) : HidesBadKey bytes := by
  obtain ⟨hlength, more, hbytes⟩ := eq_enclose_of_contentOf? h
  exact ⟨content, more, hlength, hbytes, read_eq_badKey_iff.1 hread⟩

/-- Whatever the bytes, reading them gives a cache, or says that the file is damaged or of another
version; except for a file with a bad key in it, of which neither is said. -/
theorem judged_iff (source : String) (bytes : List UInt8) :
    (Judged source (unpack source bytes) ↔ ¬ HidesBadKey bytes) ∧
    (HidesBadKey bytes → unpack source bytes = .error .badType) := by
  refine ⟨⟨?_, ?_⟩, unpack_of_hidesBadKey⟩
  · intro hjudged hbad
    rw [unpack_of_hidesBadKey hbad] at hjudged
    cases hjudged
  · intro hgood
    apply judged_of_contentOf?
    intro content hcontent
    apply judged_of_ofContent
    intro hread
    exact hgood (hidesBadKey_of_contentOf? hcontent hread)

/-- A list of a number and a map with an empty list as its key, behind the header of this content. -/
def unjudgedFile : List UInt8 := enclose [0x92, 0x00, 0x81, 0x90, 0xc0]

theorem not_judged_unjudgedFile : ¬ ∀ source bytes, Judged source (unpack source bytes) := by
  intro h
  have hread : Message.read [0x92, 0x00, 0x81, 0x90, 0xc0] = .error .badKey := by cbv
  have hlength : [0x92, 0x00, 0x81, 0x90, 0xc0].length < 0x100000000 := by decide
  have hjudged := h "" (unjudgedFile ++ [])
  rw [unjudgedFile, unpack_enclose_append hlength, ofContent, hread] at hjudged
  cases hjudged

end Nullability.AnnotationCache
