import Nullability.Proofs.Cache.RoundTrip

/-!
# Damaged cache files

A file that was cut is never taken for a good one: either its header is too short or its content is
shorter than the header says. Nor is a file in which one field of the header was altered, whether
the signature, the version, the digest, or the length if it became larger (`noticesDamage_of_pack`).
A file that cannot be read counts as damaged, whatever is wrong with it, unless its header is in
order and some map in its content has a list or a map as a key.
-/

namespace Nullability.AnnotationCache
open Cache Outcome

/-- The failure of reading a file that is damaged. -/
def corrupt (source reason : String) : Except Failure AnnotationCache :=
  .error (.fault (.cacheCorrupt source reason))

/-! ## Cut files -/

/-- Less than a header is no cache. -/
lemma unpack_of_length_lt {bytes : List UInt8} (h : bytes.length < headerLength)
    (source : String) :
    unpack source bytes =
      corrupt source ("data too short: " ++ toString bytes.length ++ " bytes") := by
  have hheader : (bytes.take headerLength).length < headerLength := by
    rw [List.length_take]
    omega
  exact if_pos hheader

/-- A content of which the end is missing is no cache. -/
lemma unpack_headerOf_append_take {content : List UInt8} (h : content.length < 0x100000000)
    {n : Nat} (hn : n < content.length) (source : String) :
    unpack source (headerOf content ++ content.take n) = corrupt source
      ("payload truncated: " ++ toString n ++ " < " ++ toString content.length) := by
  have hfound : (content.take n).take content.length = content.take n := by
    rw [List.take_take, Nat.min_eq_right hn.le]
  have hlength : (content.take n).length = n := List.length_take_of_le hn.le
  rw [unpack_headerOf_append h, hfound]
  simp only [hlength, hn, if_true, corrupt]

/-- What is left of a file that was cut is damaged, be it in the header or behind it. -/
lemma unpack_take_of_pack {cache : AnnotationCache} {bytes : List UInt8}
    (h : cache.pack = .ok bytes) {n : Nat} (hn : n < bytes.length) (source : String) :
    unpack source (bytes.take n) = corrupt source (
      if n < headerLength then "data too short: " ++ toString n ++ " bytes"
      else "payload truncated: " ++ toString (n - headerLength) ++ " < " ++
        toString (bytes.length - headerLength)) := by
  obtain ⟨content, _, h⟩ := bind_eq_ok.1 h
  split_ifs at h with hlength
  cases h
  rw [enclose_eq, List.length_append, length_headerOf] at hn ⊢
  split_ifs with hshort
  · have hcut : ((headerOf content ++ content).take n).length = n := by
      rw [List.length_take, List.length_append, length_headerOf]
      omega
    rw [unpack_of_length_lt (by omega), hcut]
  · obtain ⟨k, rfl⟩ := Nat.exists_eq_add_of_le (Nat.le_of_not_lt hshort)
    have hcut : (headerOf content ++ content).take (headerLength + k) =
        headerOf content ++ content.take k := by
      rw [← length_headerOf content, List.take_length_add_append]
    rw [hcut, Nat.add_sub_cancel_left, Nat.add_sub_cancel_left]
    exact unpack_headerOf_append_take hlength (by omega) source

/-! ## Altered headers -/

/-- Whether some bytes are others in which something was altered, but only from one place on and
before another one. -/
structure AlteredIn (start stop : Nat) (bytes altered : List UInt8) : Prop where
  length : altered.length = bytes.length
  before : altered.take start = bytes.take start
  behind : altered.drop stop = bytes.drop stop
  ne : altered ≠ bytes

/-- Then it is one part that became another one of the same length. -/
lemma AlteredIn.exists_part {start stop : Nat} {before part behind altered : List UInt8}
    (h : AlteredIn start stop (before ++ (part ++ behind)) altered) (hstart : before.length = start)
    (hstop : start + part.length = stop) :
    ∃ found, altered = before ++ (found ++ behind) ∧ found.length = part.length ∧
      found ≠ part := by
  subst hstart hstop
  have hbefore : altered.take before.length = before := h.before.trans List.take_left
  have hbehind : (altered.drop before.length).drop part.length = behind := by
    rw [List.drop_drop, h.behind, ← List.drop_drop, List.drop_left, List.drop_left]
  have haltered : altered =
      before ++ ((altered.drop before.length).take part.length ++ behind) := by
    calc altered = altered.take before.length ++ altered.drop before.length :=
          (List.take_append_drop _ _).symm
      _ = _ := by rw [hbefore, ← hbehind, List.take_append_drop]
  refine ⟨(altered.drop before.length).take part.length, haltered, ?_, ?_⟩
  · have hlength := h.length
    rw [haltered, List.length_append, List.length_append, List.length_append,
      List.length_append] at hlength
    omega
  · intro hsame
    rw [hsame] at haltered
    exact h.ne haltered

/-- The version of the layout that the header of a file states. -/
def statedVersion (bytes : List UInt8) : Nat :=
  ofLittleEndian ((bytes.drop 4).take 2)

/-- The length of the content that the header of a file states. -/
def statedLength (bytes : List UInt8) : Nat :=
  ofLittleEndian ((bytes.drop 6).take 4)

lemma statedVersion_append {mark version : List UInt8} (hmark : mark.length = 4)
    (hversion : version.length = 2) (rest : List UInt8) :
    statedVersion (mark ++ (version ++ rest)) = ofLittleEndian version := by
  rw [statedVersion, List.drop_left' hmark, List.take_left' hversion]

lemma statedLength_append {before length : List UInt8} (hbefore : before.length = 6)
    (hlength : length.length = 4) (rest : List UInt8) :
    statedLength (before ++ (length ++ rest)) = ofLittleEndian length := by
  rw [statedLength, List.drop_left' hbefore, List.take_left' hlength]

section

variable {content altered : List UInt8}

lemma unpack_of_altered_signature (h : AlteredIn 0 4 (enclose content) altered) (source : String) :
    unpack source altered =
      corrupt source ("invalid magic bytes " ++ Text.quotedBytes (altered.take 4)) := by
  have hpart : AlteredIn 0 4 ([] ++ enclose content) altered := h
  obtain ⟨mark, rfl, hlength, hne⟩ := hpart.exists_part rfl rfl
  have hmark : mark.length = 4 := hlength
  rw [List.nil_append, unpack_fields hmark (length_littleEndian 2 _) (length_littleEndian 4 _)
    (length_checksum content), List.take_left' hmark]
  exact if_pos hne

lemma unpack_of_altered_version (h : AlteredIn 4 6 (enclose content) altered) (source : String) :
    statedVersion altered ≠ schemaVersion ∧ unpack source altered =
      .error (.fault (.cacheSchemaMismatch source (statedVersion altered) schemaVersion)) := by
  obtain ⟨version, rfl, hlength, hne⟩ := h.exists_part rfl rfl
  rw [length_littleEndian] at hlength
  have hversion : ofLittleEndian version ≠ schemaVersion := by
    intro hsame
    rw [← hsame, littleEndian_ofLittleEndian hlength] at hne
    exact hne rfl
  rw [statedVersion_append rfl hlength]
  refine ⟨hversion, ?_⟩
  rw [unpack_fields rfl hlength (length_littleEndian 4 _) (length_checksum content)]
  simp only [ne_eq, not_true_eq_false, if_false, hversion, not_false_eq_true, if_true]

/-- A content is as long as its header says. -/
lemma statedLength_enclose (h : content.length < 0x100000000) :
    statedLength (enclose content) = content.length := by
  have hfields : enclose content = (signature ++ littleEndian 2 schemaVersion) ++
      (littleEndian 4 content.length ++ (checksum content ++ content)) := by
    rw [enclose, List.append_assoc]
  rw [hfields, statedLength_append rfl (length_littleEndian 4 _)]
  exact ofLittleEndian_littleEndian_of_lt h

lemma unpack_of_larger_length (hcontent : content.length < 0x100000000)
    (h : AlteredIn 6 10 (enclose content) altered)
    (hlarger : statedLength (enclose content) < statedLength altered) (source : String) :
    unpack source altered = corrupt source ("payload truncated: " ++ toString content.length ++
      " < " ++ toString (statedLength altered)) := by
  rw [statedLength_enclose hcontent] at hlarger
  rw [enclose, ← List.append_assoc] at h
  obtain ⟨length, rfl, hlength, -⟩ := h.exists_part rfl rfl
  rw [length_littleEndian] at hlength
  rw [statedLength_append rfl hlength] at hlarger ⊢
  have hversion : ofLittleEndian (littleEndian 2 schemaVersion) = schemaVersion := rfl
  rw [List.append_assoc, unpack_fields rfl (length_littleEndian 2 _) hlength
    (length_checksum content), List.take_of_length_le hlarger.le]
  simp only [ne_eq, not_true_eq_false, if_false, hversion, hlarger, if_true, corrupt]

lemma unpack_of_altered_digest (hcontent : content.length < 0x100000000)
    (h : AlteredIn 10 18 (enclose content) altered) (source : String) :
    unpack source altered = corrupt source "checksum mismatch" := by
  rw [enclose, ← List.append_assoc, ← List.append_assoc] at h
  have hstop : 10 + (checksum content).length = 18 := by rw [length_checksum]
  obtain ⟨digest, rfl, hlength, hne⟩ := h.exists_part rfl hstop
  rw [length_checksum] at hlength
  have hversion : ofLittleEndian (littleEndian 2 schemaVersion) = schemaVersion := rfl
  have hstated : ofLittleEndian (littleEndian 4 content.length) = content.length :=
    ofLittleEndian_littleEndian_of_lt hcontent
  rw [List.append_assoc, List.append_assoc, unpack_fields rfl (length_littleEndian 2 _)
    (length_littleEndian 4 _) hlength, hstated, List.take_length]
  simp only [ne_eq, not_true_eq_false, if_false, hversion, lt_irrefl, hne.symm, not_false_eq_true,
    if_true, corrupt]

end

/-- What reading says of the file of a cache when something has happened to it. -/
structure NoticesDamage (source : String) (cache : AnnotationCache) (bytes : List UInt8) : Prop where
  /-- Any end of the file may be missing. -/
  cut : ∀ n < bytes.length, unpack source (bytes.take n) = corrupt source (
    if n < headerLength then "data too short: " ++ toString n ++ " bytes"
    else "payload truncated: " ++ toString (n - headerLength) ++ " < " ++
      toString (bytes.length - headerLength))
  signature : ∀ altered, AlteredIn 0 4 bytes altered → unpack source altered =
    corrupt source ("invalid magic bytes " ++ Text.quotedBytes (altered.take 4))
  version : ∀ altered, AlteredIn 4 6 bytes altered →
    statedVersion altered ≠ schemaVersion ∧ unpack source altered =
      .error (.fault (.cacheSchemaMismatch source (statedVersion altered) schemaVersion))
  length : ∀ altered, AlteredIn 6 10 bytes altered → statedLength bytes < statedLength altered →
    unpack source altered = corrupt source ("payload truncated: " ++
      toString (bytes.length - headerLength) ++ " < " ++ toString (statedLength altered))
  digest : ∀ altered, AlteredIn 10 18 bytes altered →
    unpack source altered = corrupt source "checksum mismatch"
  /-- Bytes behind the content do not count. -/
  more : ∀ more, unpack source (bytes ++ more) = .ok cache

/-- A file that was cut, or in which a field of the header was altered, is never taken for a good
one; a file behind which there are further bytes is. -/
theorem noticesDamage_of_pack {cache : AnnotationCache} {bytes : List UInt8}
    (h : cache.pack = .ok bytes) (source : String) : NoticesDamage source cache bytes := by
  obtain ⟨content, -, hpack⟩ := bind_eq_ok.1 h
  split_ifs at hpack with hlength
  obtain rfl := Except.ok.inj hpack
  have hcontent : (enclose content).length - headerLength = content.length := by
    rw [enclose_eq, List.length_append, length_headerOf, Nat.add_sub_cancel_left]
  refine ⟨fun n hn => unpack_take_of_pack h hn source, ?_, ?_, ?_, ?_, unpack_of_pack h source⟩
  · exact fun altered haltered => unpack_of_altered_signature haltered source
  · exact fun altered haltered => unpack_of_altered_version haltered source
  · rw [hcontent]
    exact fun altered haltered hlarger => unpack_of_larger_length hlength haltered hlarger source
  · exact fun altered haltered => unpack_of_altered_digest hlength haltered source

theorem noticesDamage_of_pack_sample : ∃ bytes, sample.pack = .ok bytes ∧
    NoticesDamage "cache" sample bytes ∧ AlteredIn 4 6 bytes (bytes.set 4 2) ∧
      unpack "cache" (bytes.set 4 2) = .error (.fault (.cacheSchemaMismatch "cache" 2 1)) := by
  have hfits : sample.Fits := by decide +kernel
  obtain ⟨bytes, hbytes⟩ := exists_pack hfits
  have hnotices := noticesDamage_of_pack hbytes "cache"
  obtain ⟨content, -, hpack⟩ := bind_eq_ok.1 hbytes
  split_ifs at hpack with hlength
  obtain rfl := Except.ok.inj hpack
  have haltered : AlteredIn 4 6 (enclose content) ((enclose content).set 4 2) := by
    refine ⟨List.length_set, rfl, rfl, fun h => ?_⟩
    have hfifth : some (2 : UInt8) = some 1 := congrArg (fun bytes => bytes[4]?) h
    cases hfifth
  exact ⟨_, hbytes, hnotices, haltered, (hnotices.version _ haltered).2⟩

/-! ## What is wrong with a file -/

/-- What stands behind a header, if the header is in order. -/
def contentOf? (bytes : List UInt8) : Option (List UInt8) :=
  let header := bytes.take headerLength
  let length := ofLittleEndian ((header.drop 6).take 4)
  let content := (bytes.drop headerLength).take length
  if header.length < headerLength then none
  else if header.take 4 ≠ signature then none
  else if ofLittleEndian ((header.drop 4).take 2) ≠ schemaVersion then none
  else if content.length < length then none
  else if checksum content ≠ header.drop 10 then none
  else some content

/-- Whether the header of a file is in order, but some map in its content has a list or a map as a
key. -/
def HasBadKey (bytes : List UInt8) : Prop :=
  ∃ content, contentOf? bytes = some content ∧ Message.read content = .error .badKey

variable {source : String} {bytes content : List UInt8} {failure : Failure}

/-- Behind a header that is in order it is the content that counts. -/
lemma unpack_of_contentOf? (h : contentOf? bytes = some content) (source : String) :
    unpack source bytes = ofContent source content := by
  rw [contentOf?] at h
  rw [unpack]
  dsimp only
  split_ifs at h ⊢
  rw [Option.some.inj h]

/-- A file is damaged if its header is not in order. -/
lemma isDamagedCache_of_contentOf? (h : contentOf? bytes = none)
    (hunpack : unpack source bytes = .error failure) : failure.isDamagedCache = true := by
  rw [contentOf?] at h
  rw [unpack] at hunpack
  dsimp only at hunpack
  split_ifs at h hunpack <;> exact Except.error.inj hunpack ▸ rfl

lemma isDamagedCache_of_ofContent (hread : Message.read content ≠ .error .badKey)
    (h : ofContent source content = .error failure) : failure.isDamagedCache = true := by
  rw [ofContent] at h
  split at h
  · exact Except.error.inj h ▸ rfl
  · rename_i hbad
    exact absurd hbad hread
  · split at h
    · exact Except.error.inj h ▸ rfl
    · split at h
      · cases h
      · exact Except.error.inj h ▸ rfl

lemma unpack_of_hasBadKey (h : HasBadKey bytes) (source : String) :
    unpack source bytes = .error .badType := by
  obtain ⟨content, hcontent, hread⟩ := h
  rw [unpack_of_contentOf? hcontent, ofContent, hread]

/-- A file that cannot be read is damaged, or has a bad key. -/
lemma isDamagedCache_or_hasBadKey (h : unpack source bytes = .error failure) :
    failure.isDamagedCache = true ∨ HasBadKey bytes := by
  cases hcontent : contentOf? bytes with
  | none => exact .inl (isDamagedCache_of_contentOf? hcontent h)
  | some content =>
    rw [unpack_of_contentOf? hcontent] at h
    by_cases hread : Message.read content = .error .badKey
    · exact .inr ⟨content, hcontent, hread⟩
    · exact .inl (isDamagedCache_of_ofContent hread h)

end Nullability.AnnotationCache
