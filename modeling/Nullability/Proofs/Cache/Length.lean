import Nullability.Proofs.Cache.RoundTrip

/-!
# How long cache files are

The number of bytes that the content of a cache takes, counted from the cache alone. Whether the
cache can be written depends on this number and on its time, and on nothing else
(`exists_pack_iff`).
-/

namespace Nullability
open Cache Cache.Message Outcome

namespace Cache.Message

/-! ## Integers, texts and heads -/

/-- The number of bytes of an integer. -/
def intLength (n : Int) : Nat :=
  if -0x20 ≤ n ∧ n < 0x80 then 1
  else if -0x80 ≤ n ∧ n < 0x100 then 2
  else if -0x8000 ≤ n ∧ n < 0x10000 then 3
  else if -0x80000000 ≤ n ∧ n < 0x100000000 then 5
  else 9

/-- The number of bytes of the head of a text. -/
def textHeadLength (length : Nat) : Nat :=
  if length < 32 then 1 else if length < 0x100 then 2 else if length < 0x10000 then 3 else 5

/-- The number of bytes of the head of a list or a map. -/
def headLength (length : Nat) : Nat :=
  if length < 16 then 1 else if length < 0x10000 then 3 else 5

/-- The number of bytes of a text with its head. -/
def textLength (s : String) : Nat :=
  textHeadLength (Text.utf8 s).length + (Text.utf8 s).length

variable {α : Type} {n : Nat} {bytes : List UInt8}

lemma length_writeInt {n : Int} (h : writeInt n = .ok bytes) : bytes.length = intLength n := by
  rw [writeInt] at h
  dsimp only at h
  split_ifs at h
  all_goals
    cases h
    simp only [List.length_cons, List.length_nil, length_bigEndian, intLength]
    split_ifs
    all_goals omega

/-- What can be written is what 64 bits hold, signed or not. -/
lemma bounds_of_writeInt {n : Int} (h : writeInt n = .ok bytes) :
    -0x8000000000000000 ≤ n ∧ n < 0x10000000000000000 := by
  rw [writeInt] at h
  dsimp only at h
  split_ifs at h
  all_goals omega

lemma length_textHeader (h : textHeader n = .ok bytes) : bytes.length = textHeadLength n := by
  rw [textHeader] at h
  rw [textHeadLength]
  split_ifs at h ⊢
  all_goals
    cases h
    simp

lemma length_listHeader (h : listHeader n = .ok bytes) : bytes.length = headLength n := by
  rw [listHeader] at h
  rw [headLength]
  split_ifs at h ⊢
  all_goals
    cases h
    simp

lemma length_mapHeader (h : mapHeader n = .ok bytes) : bytes.length = headLength n := by
  rw [mapHeader] at h
  rw [headLength]
  split_ifs at h ⊢
  all_goals
    cases h
    simp

lemma length_writeText {s : String} (h : writeText s = .ok bytes) : bytes.length = textLength s := by
  obtain ⟨head, hhead, h⟩ := bind_eq_ok.1 h
  cases h
  rw [List.length_append, length_textHeader hhead, textLength]

@[simp]
lemma length_writeBool (b : Bool) : (writeBool b).length = 1 := rfl

/-- Parts one after the other have together the lengths that they have alone. -/
lemma length_writeAll {write : α → Except WriteFault (List UInt8)} {length : α → Nat}
    {items : List α} (hlength : ∀ a ∈ items, ∀ part, write a = .ok part → part.length = length a)
    (h : writeAll write items = .ok bytes) : bytes.length = (items.map length).sum := by
  obtain ⟨parts, hparts, rfl⟩ := AnnotationCache.writeAll_eq_ok.1 h
  rw [List.length_flatten]
  clear h
  induction hparts with
  | nil => rfl
  | cons hpart _ ih =>
    rw [List.map_cons, List.map_cons, List.sum_cons, List.sum_cons,
      hlength _ List.mem_cons_self _ hpart,
      ih fun a hmem => hlength a (List.mem_cons_of_mem _ hmem)]

end Cache.Message

namespace AnnotationCache

/-! ## Contents -/

/-- The number of bytes of a parameter with its flag. -/
def parameterLength (entry : String × Bool) : Nat :=
  textLength entry.1 + 1

/-- The number of bytes of a key and its facts: the heads of the key's and the facts' lists take one
byte each, and so does the flag. -/
def entryLength (entry : String × MemberFacts) : Nat :=
  3 + textLength entry.1 + textLength entry.2.kind + headLength entry.2.parameters.size +
    (entry.2.parameters.entries.map parameterLength).sum

def stampLength : Stamp → Nat
  | .time n => intLength n
  | .truth _ => 1

/-- The number of bytes of the content of a cache. -/
def contentLength (cache : AnnotationCache) : Nat :=
  1 + stampLength cache.stamp + headLength cache.map.size +
    (cache.map.entries.map entryLength).sum

variable {cache : AnnotationCache} {bytes content : List UInt8}

lemma length_writeParameter {entry : String × Bool} (h : writeParameter entry = .ok bytes) :
    bytes.length = parameterLength entry := by
  obtain ⟨name, hname, h⟩ := bind_eq_ok.1 h
  cases h
  rw [List.length_append, length_writeText hname, length_writeBool, parameterLength]

lemma length_writeEntry {entry : String × MemberFacts} (h : writeEntry entry = .ok bytes) :
    bytes.length = entryLength entry := by
  obtain ⟨key, hkey, h⟩ := bind_eq_ok.1 h
  obtain ⟨kind, hkind, h⟩ := bind_eq_ok.1 h
  obtain ⟨header, hheader, h⟩ := bind_eq_ok.1 h
  obtain ⟨flags, hflags, h⟩ := bind_eq_ok.1 h
  cases h
  have hlength : flags.length = (entry.2.parameters.entries.map parameterLength).sum :=
    length_writeAll (fun _ _ _ => length_writeParameter) hflags
  simp only [List.length_cons, List.length_append, length_writeText hkey, length_writeText hkind,
    length_writeBool, length_mapHeader hheader, hlength, entryLength, OrderedMap.size]
  omega

lemma length_writeStamp {stamp : Stamp} (h : writeStamp stamp = .ok bytes) :
    bytes.length = stampLength stamp := by
  cases stamp with
  | time n => exact length_writeInt h
  | truth b => cases h; exact length_writeBool b

/-- A content is as long as the cache says. -/
lemma length_writeContent (h : cache.writeContent = .ok content) :
    content.length = cache.contentLength := by
  obtain ⟨stamp, hstamp, h⟩ := bind_eq_ok.1 h
  obtain ⟨header, hheader, h⟩ := bind_eq_ok.1 h
  obtain ⟨entries, hentries, h⟩ := bind_eq_ok.1 h
  cases h
  have hlength : entries.length = (cache.map.entries.map entryLength).sum :=
    length_writeAll (fun _ _ _ => length_writeEntry) hentries
  simp only [List.length_cons, List.length_append, length_writeStamp hstamp,
    length_listHeader hheader, hlength, contentLength, OrderedMap.size]
  omega

/-- A file is its header and its content. -/
lemma length_of_pack (h : cache.pack = .ok bytes) :
    bytes.length = headerLength + cache.contentLength := by
  obtain ⟨content, hcontent, h⟩ := bind_eq_ok.1 h
  split_ifs at h
  cases h
  rw [enclose_eq, List.length_append, length_headerOf, length_writeContent hcontent]

/-! ## What can be written -/

/-- Each item takes some bytes, so there are no more items than bytes. -/
lemma length_le_sum {α : Type} {length : α → Nat} (hlength : ∀ a, 1 ≤ length a) (items : List α) :
    items.length ≤ (items.map length).sum := by
  have hone : ∀ n ∈ items.map length, 1 ≤ n := by
    intro n hmem
    obtain ⟨a, -, rfl⟩ := List.mem_map.1 hmem
    exact hlength a
  have hle := List.length_le_sum_of_one_le (items.map length) hone
  rwa [List.length_map] at hle

lemma length_le_textLength (s : String) : (Text.utf8 s).length ≤ textLength s :=
  Nat.le_add_left _ _

lemma memberFits_of_entryLength {entry : String × MemberFacts}
    (h : entryLength entry < 0x100000000) : MemberFits entry := by
  rw [entryLength] at h
  have hkey := length_le_textLength entry.1
  have hkind := length_le_textLength entry.2.kind
  have hone : ∀ parameter, 1 ≤ parameterLength parameter := fun _ => Nat.le_add_left _ _
  have hcount : entry.2.parameters.size ≤ _ := length_le_sum hone entry.2.parameters.entries
  refine ⟨by omega, by omega, by omega, ?_⟩
  intro parameter hmem
  have hname := length_le_textLength parameter.1
  have hlength : parameterLength parameter ≤ _ := List.le_sum_of_mem (List.mem_map_of_mem hmem)
  rw [parameterLength] at hlength
  omega

/-- A cache fits the format if its time does and its content has fewer than 2 ^ 32 bytes: no part of
the content is longer than the whole. -/
lemma fits_of_contentLength (hleast : -0x8000000000000000 ≤ cache.stamp.nanoseconds)
    (hmost : cache.stamp.nanoseconds < 0x10000000000000000)
    (hlength : cache.contentLength < 0x100000000) : cache.Fits := by
  have hsum := hlength
  rw [contentLength] at hsum
  have hone : ∀ entry, 1 ≤ entryLength entry := by
    intro entry
    rw [entryLength]
    omega
  have hcount : cache.map.size ≤ _ := length_le_sum hone cache.map.entries
  refine ⟨hleast, hmost, by omega, ?_, ?_⟩
  · intro entry hmem
    have hentry : entryLength entry ≤ _ := List.le_sum_of_mem (List.mem_map_of_mem hmem)
    exact memberFits_of_entryLength (by omega)
  · intro content hcontent
    rw [length_writeContent hcontent]
    exact hlength

lemma nanoseconds_of_writeStamp {stamp : Stamp} (h : writeStamp stamp = .ok bytes) :
    -0x8000000000000000 ≤ stamp.nanoseconds ∧ stamp.nanoseconds < 0x10000000000000000 := by
  cases stamp with
  | time n => exact bounds_of_writeInt h
  | truth b =>
    cases b with
    | false => decide
    | true => decide

/-- A cache can be written exactly if its time needs no more than 64 bits, signed or not, and its
content fewer than 2 ^ 32 bytes. -/
theorem exists_pack_iff : (∃ bytes, cache.pack = .ok bytes) ↔
    -0x8000000000000000 ≤ cache.stamp.nanoseconds ∧
      cache.stamp.nanoseconds < 0x10000000000000000 ∧ cache.contentLength < 0x100000000 := by
  constructor
  · rintro ⟨packed, hpacked⟩
    obtain ⟨content, hcontent, hpacked⟩ := bind_eq_ok.1 hpacked
    obtain ⟨stamp, hstamp, -⟩ := bind_eq_ok.1 hcontent
    obtain ⟨hleast, hmost⟩ := nanoseconds_of_writeStamp hstamp
    split_ifs at hpacked with hlength
    rw [length_writeContent hcontent] at hlength
    exact ⟨hleast, hmost, hlength⟩
  · rintro ⟨hleast, hmost, hlength⟩
    exact exists_pack (fits_of_contentLength hleast hmost hlength)

end AnnotationCache

end Nullability
