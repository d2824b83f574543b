import Nullability.Proofs.Cache.Written

/-!
# The format of messages

The published format as a grammar: pieces that hold no other value, heads of lists and maps in all
their forms, and the values behind a head one after the other (`Format.Value`). `levels` is how many
containers may still be opened. Heads and pieces are read as what they are, whatever follows them.
Where a key is bad (`Format.BadValue`), the containers around it may have an end or not; but no head
announces more than there can be in `size` bytes.
-/

namespace Nullability.Cache.Message.Format

/-! ## Pieces -/

/-- A mark, then a length in as many bytes as belong to the mark. -/
inductive Sized (marks : List (UInt8 × Nat)) : List UInt8 → Nat → Prop where
  | mark {mark : UInt8} {digits : List UInt8} (h : (mark, digits.length) ∈ marks) :
    Sized marks (mark :: digits) (ofBigEndian digits)

/-- A length below some limit in the mark itself, or a length of its own. -/
inductive Head (least limit : Nat) (marks : List (UInt8 × Nat)) : List UInt8 → Nat → Prop where
  | short {n : Nat} (h : n < limit) : Head least limit marks [UInt8.ofNat (least + n)] n
  | sized {head : List UInt8} {n : Nat} (h : Sized marks head n) : Head least limit marks head n

/-- The marks of each kind that have a length behind them, and in how many bytes. -/
def textMarks : List (UInt8 × Nat) := [(0xd9, 1), (0xda, 2), (0xdb, 4)]

def bytesMarks : List (UInt8 × Nat) := [(0xc4, 1), (0xc5, 2), (0xc6, 4)]

def listMarks : List (UInt8 × Nat) := [(0xdc, 2), (0xdd, 4)]

def mapMarks : List (UInt8 × Nat) := [(0xde, 2), (0xdf, 4)]

def extensionMarks : List (UInt8 × Nat) := [(0xc7, 1), (0xc8, 2), (0xc9, 4)]

/-- The marks of an application's own types that stand for a length themselves. -/
def fixedMarks : List (UInt8 × Nat) := [(0xd4, 1), (0xd5, 2), (0xd6, 4), (0xd7, 8), (0xd8, 16)]

/-- The marks of numbers, and how many bytes each number has. -/
def naturalMarks : List (UInt8 × Nat) := [(0xcc, 1), (0xcd, 2), (0xce, 4), (0xcf, 8)]

def integerMarks : List (UInt8 × Nat) := [(0xd0, 1), (0xd1, 2), (0xd2, 4), (0xd3, 8)]

def TextHead : List UInt8 → Nat → Prop :=
  Head 0xa0 32 textMarks

def ListHead : List UInt8 → Nat → Prop :=
  Head 0x90 16 listMarks

def MapHead : List UInt8 → Nat → Prop :=
  Head 0x80 16 mapMarks

inductive ExtensionHead : List UInt8 → Nat → Prop where
  | fixed {mark : UInt8} {n : Nat} (h : (mark, n) ∈ fixedMarks) : ExtensionHead [mark] n
  | sized {head : List UInt8} {n : Nat} (h : Sized extensionMarks head n) : ExtensionHead head n

/-- The values that hold no other value. -/
inductive Piece : List UInt8 → Message → Prop where
  | nil : Piece [0xc0] .nil
  | bool (b : Bool) : Piece (writeBool b) (.bool b)
  | small {n : Nat} (h : n < 0x80) : Piece [UInt8.ofNat n] (.int n)
  | negative {n : Nat} (h : n < 0x20) : Piece [UInt8.ofNat (0xe0 + n)] (.int ((n : Int) - 0x20))
  | natural {mark : UInt8} {digits : List UInt8}
    (h : (mark, digits.length) ∈ naturalMarks) :
    Piece (mark :: digits) (.int (ofBigEndian digits))
  | integer {mark : UInt8} {digits : List UInt8}
    (h : (mark, digits.length) ∈ integerMarks) :
    Piece (mark :: digits) (.int (signed digits.length (ofBigEndian digits)))
  | single {digits : List UInt8} (h : digits.length = 4) :
    Piece (0xca :: digits) (.real (Binary64.ofBits32 (ofBigEndian digits)))
  | double {digits : List UInt8} (h : digits.length = 8) :
    Piece (0xcb :: digits) (.real (Binary64.ofBits (ofBigEndian digits)))
  | text {head content : List UInt8} {s : String} (hhead : TextHead head content.length)
    (hs : Text.ofUtf8? content = some s) : Piece (head ++ content) (.text s)
  | bytes {head content : List UInt8} (hhead : Sized bytesMarks head content.length) :
    Piece (head ++ content) (.bytes content)
  | extension {head content : List UInt8} {type : UInt8}
    (hhead : ExtensionHead head content.length) (htype : 0 ≤ signed 1 type.toNat) :
    Piece (head ++ type :: content) (.extension (signed 1 type.toNat) content)
  | timestamp {head content : List UInt8} {type : UInt8} {v : Message}
    (hhead : ExtensionHead head content.length) (htype : signed 1 type.toNat = -1)
    (hv : timestampOf content = .ok v) : Piece (head ++ type :: content) v

/-! ## Values -/

mutual

/-- A value, and what stands behind it. -/
inductive Value : (levels : Nat) → List UInt8 → Message → List UInt8 → Prop where
  | piece {levels : Nat} {bytes rest : List UInt8} {v : Message} (h : Piece bytes v) :
    Value levels (bytes ++ rest) v rest
  | list {levels n : Nat} {head input rest : List UInt8} {items : List Message}
    (hhead : ListHead head n) (hitems : Items levels n input items rest) :
    Value (levels + 1) (head ++ input) (.list items) rest
  | map {levels n : Nat} {head input rest : List UInt8} {entries : List (Message × Message)}
    (hhead : MapHead head n) (hentries : Entries levels n input entries rest) :
    Value (levels + 1) (head ++ input)
      (.map (entries.foldl (fun done entry => store entry.1 entry.2 done) [])) rest

/-- A number of values one after the other. -/
inductive Items : (levels n : Nat) → List UInt8 → List Message → List UInt8 → Prop where
  | noItem {levels : Nat} {rest : List UInt8} : Items levels 0 rest [] rest
  | item {levels n : Nat} {input more rest : List UInt8} {v : Message} {items : List Message}
    (hv : Value levels input v more) (hitems : Items levels n more items rest) :
    Items levels (n + 1) input (v :: items) rest

/-- A number of keys, each with a value behind it. -/
inductive Entries : (levels n : Nat) → List UInt8 → List (Message × Message) → List UInt8 →
    Prop where
  | noEntry {levels : Nat} {rest : List UInt8} : Entries levels 0 rest [] rest
  | entry {levels n : Nat} {input behind more rest : List UInt8} {k v : Message}
    {entries : List (Message × Message)} (hk : Value levels input k behind)
    (hv : Value levels behind v more) (hkey : k.isKey = true)
    (hentries : Entries levels n more entries rest) :
    Entries levels (n + 1) input ((k, v) :: entries) rest

end

mutual

/-- Where a value should be there is a container in which an entry has a bad key, and all before
the end of this entry is in the format. A container around it announces no more items than there are
bytes in all, or no more entries than there are pairs of bytes. -/
inductive BadValue (size : Nat) : (levels : Nat) → List UInt8 → Prop where
  | list {levels n : Nat} {head input : List UInt8} (hhead : ListHead head n) (hsize : n ≤ size)
    (hitems : BadItems size levels n input) : BadValue size (levels + 1) (head ++ input)
  | map {levels n : Nat} {head input : List UInt8} (hhead : MapHead head n) (hsize : n ≤ size / 2)
    (hentries : BadEntries size levels n input) : BadValue size (levels + 1) (head ++ input)

inductive BadItems (size : Nat) : (levels n : Nat) → List UInt8 → Prop where
  | inItem {levels n : Nat} {input : List UInt8} (hv : BadValue size levels input) :
    BadItems size levels (n + 1) input
  | laterItem {levels n : Nat} {input more : List UInt8} {v : Message}
    (hv : Value levels input v more) (hitems : BadItems size levels n more) :
    BadItems size levels (n + 1) input

inductive BadEntries (size : Nat) : (levels n : Nat) → List UInt8 → Prop where
  | inKey {levels n : Nat} {input : List UInt8} (hk : BadValue size levels input) :
    BadEntries size levels (n + 1) input
  | inValue {levels n : Nat} {input behind : List UInt8} {k : Message}
    (hk : Value levels input k behind) (hv : BadValue size levels behind) :
    BadEntries size levels (n + 1) input
  | badKey {levels n : Nat} {input behind more : List UInt8} {k v : Message}
    (hk : Value levels input k behind) (hv : Value levels behind v more)
    (hkey : k.isKey = false) : BadEntries size levels (n + 1) input
  | laterEntry {levels n : Nat} {input behind more : List UInt8} {k v : Message}
    (hk : Value levels input k behind) (hv : Value levels behind v more)
    (hkey : k.isKey = true) (hentries : BadEntries size levels n more) :
    BadEntries size levels (n + 1) input

end

/-! ## Reading pieces -/

variable {size fuel depth n : Nat} {head bytes rest : List UInt8} {v : Message}

lemma takeNat_eq {count : Nat} {digits : List UInt8} (h : digits.length = count)
    (rest : List UInt8) : takeNat count (digits ++ rest) = .ok (ofBigEndian digits, rest) := by
  rw [takeNat, take?_append h]
  rfl

lemma takeNat_digits {β : Type} {count : Nat} {digits : List UInt8} (h : digits.length = count)
    (rest : List UInt8) (next : Nat × List UInt8 → Except ReadFault β) :
    (takeNat count (digits ++ rest) >>= next) = next (ofBigEndian digits, rest) := by
  rw [takeNat_eq h]
  rfl

lemma takeValue_textHead (h : TextHead head n) :
    takeValue size (fuel + 1) depth (head ++ rest) = takeText n rest := by
  cases h with
  | short h =>
    have hmark := toNat_ofNat_add 0xa0 n (by omega)
    rw [List.singleton_append, takeValue, hmark, if_neg (by omega), if_neg (by omega),
      if_neg (by omega), if_pos (by omega), Nat.add_sub_cancel_left]
  | sized h =>
    cases h with
    | mark h =>
      simp only [textMarks, List.mem_cons, Prod.mk.injEq, List.not_mem_nil, or_false] at h
      rcases h with ⟨rfl, h⟩ | ⟨rfl, h⟩ | ⟨rfl, h⟩
      · simp [takeValue, takeNat_digits h]
      · simp [takeValue, takeNat_digits h]
      · simp [takeValue, takeNat_digits h]

lemma takeValue_listHead (h : ListHead head n) :
    takeValue size (fuel + 1) depth (head ++ rest) = takeList size fuel depth n rest := by
  cases h with
  | short h =>
    have hmark := toNat_ofNat_add 0x90 n (by omega)
    rw [List.singleton_append, takeValue, hmark, if_neg (by omega), if_neg (by omega),
      if_pos (by omega), Nat.add_sub_cancel_left]
  | sized h =>
    cases h with
    | mark h =>
      simp only [listMarks, List.mem_cons, Prod.mk.injEq, List.not_mem_nil, or_false] at h
      rcases h with ⟨rfl, h⟩ | ⟨rfl, h⟩
      · simp [takeValue, takeNat_digits h]
      · simp [takeValue, takeNat_digits h]

lemma takeValue_mapHead (h : MapHead head n) :
    takeValue size (fuel + 1) depth (head ++ rest) = takeMap size fuel depth n rest := by
  cases h with
  | short h =>
    have hmark := toNat_ofNat_add 0x80 n (by omega)
    rw [List.singleton_append, takeValue, hmark, if_neg (by omega), if_pos (by omega),
      Nat.add_sub_cancel_left]
  | sized h =>
    cases h with
    | mark h =>
      simp only [mapMarks, List.mem_cons, Prod.mk.injEq, List.not_mem_nil, or_false] at h
      rcases h with ⟨rfl, h⟩ | ⟨rfl, h⟩
      · simp [takeValue, takeNat_digits h]
      · simp [takeValue, takeNat_digits h]

lemma takeValue_bytesHead (h : Sized bytesMarks head n) :
    takeValue size (fuel + 1) depth (head ++ rest) = takeBytes n rest := by
  cases h with
  | mark h =>
    simp only [bytesMarks, List.mem_cons, Prod.mk.injEq, List.not_mem_nil, or_false] at h
    rcases h with ⟨rfl, h⟩ | ⟨rfl, h⟩ | ⟨rfl, h⟩
    · simp [takeValue, takeNat_digits h]
    · simp [takeValue, takeNat_digits h]
    · simp [takeValue, takeNat_digits h]

lemma takeValue_extensionHead (h : ExtensionHead head n) :
    takeValue size (fuel + 1) depth (head ++ rest) = takeExtension n rest := by
  cases h with
  | fixed h =>
    simp only [fixedMarks, List.mem_cons, Prod.mk.injEq, List.not_mem_nil, or_false] at h
    rcases h with ⟨rfl, rfl⟩ | ⟨rfl, rfl⟩ | ⟨rfl, rfl⟩ | ⟨rfl, rfl⟩ | ⟨rfl, rfl⟩
    all_goals simp [takeValue]
  | sized h =>
    cases h with
    | mark h =>
      simp only [extensionMarks, List.mem_cons, Prod.mk.injEq, List.not_mem_nil, or_false] at h
      rcases h with ⟨rfl, h⟩ | ⟨rfl, h⟩ | ⟨rfl, h⟩
      · simp [takeValue, takeNat_digits h]
      · simp [takeValue, takeNat_digits h]
      · simp [takeValue, takeNat_digits h]

lemma takeNat_one (b : UInt8) (rest : List UInt8) : takeNat 1 (b :: rest) = .ok (b.toNat, rest) := by
  have hone : [b].length = 1 := rfl
  have htake := takeNat_eq hone rest
  rw [List.singleton_append] at htake
  rw [htake]
  simp [ofBigEndian]

/-- A type and its content are read together. -/
lemma takeExtension_append (type : UInt8) (content rest : List UInt8) :
    takeExtension content.length (type :: content ++ rest) =
      if signed 1 type.toNat = -1 then (timestampOf content).map (fun v => (v, rest))
      else if signed 1 type.toNat < 0 then .error .malformed
      else .ok (.extension (signed 1 type.toNat) content, rest) := by
  rw [List.cons_append, takeExtension, takeNat_one]
  change (take? content.length (content ++ rest) >>= _) = _
  rw [take?_append rfl]
  change (if signed 1 type.toNat = -1 then _ else _) = _
  split
  · rfl
  · split
    · rfl
    · rfl

lemma malformed_of_timestampOf {content : List UInt8} {fault : ReadFault}
    (h : timestampOf content = .error fault) : fault = .malformed := by
  rw [timestampOf] at h
  dsimp only at h
  split at h
  · split_ifs at h
    exact (Except.error.inj h).symm
  · split_ifs at h
    exact (Except.error.inj h).symm
  · split_ifs at h
    exact (Except.error.inj h).symm
  · exact (Except.error.inj h).symm

lemma takeValue_piece (h : Piece bytes v) :
    takeValue size (fuel + 1) depth (bytes ++ rest) = .ok (v, rest) := by
  cases h with
  | nil => simp [takeValue]
  | bool b =>
    cases b with
    | false => simp [takeValue, writeBool]
    | true => simp [takeValue, writeBool]
  | @small n h =>
    have hmark := toNat_ofNat_add 0 n (by omega)
    rw [Nat.zero_add] at hmark
    rw [List.singleton_append, takeValue, hmark, if_pos h]
  | @negative n h =>
    have hmark := toNat_ofNat_add 0xe0 n (by omega)
    have hvalue : ((0xe0 + n : Nat) : Int) - 256 = (n : Int) - 0x20 := by omega
    rw [List.singleton_append, takeValue, hmark, if_neg (by omega), if_neg (by omega),
      if_neg (by omega), if_neg (by omega), if_pos (by omega), hvalue]
  | natural h =>
    simp only [naturalMarks, List.mem_cons, Prod.mk.injEq, List.not_mem_nil, or_false] at h
    rcases h with ⟨rfl, h⟩ | ⟨rfl, h⟩ | ⟨rfl, h⟩ | ⟨rfl, h⟩
    all_goals simp [takeValue, takeNat_digits h]
  | integer h =>
    simp only [integerMarks, List.mem_cons, Prod.mk.injEq, List.not_mem_nil, or_false] at h
    rcases h with ⟨rfl, h⟩ | ⟨rfl, h⟩ | ⟨rfl, h⟩ | ⟨rfl, h⟩
    all_goals simp [takeValue, takeInt, takeNat_digits h, h, pure, Except.pure]
  | single h => simp [takeValue, takeNat_digits h]
  | double h => simp [takeValue, takeNat_digits h]
  | text hhead hs =>
    rw [List.append_assoc, takeValue_textHead hhead, takeText, take?_append rfl]
    simp [bind, Except.bind, hs, pure, Except.pure]
  | bytes hhead =>
    rw [List.append_assoc, takeValue_bytesHead hhead, takeBytes, take?_append rfl]
    rfl
  | extension hhead htype =>
    rw [List.append_assoc, takeValue_extensionHead hhead, takeExtension_append,
      if_neg (by omega), if_neg (by omega)]
  | timestamp hhead htype hv =>
    rw [List.append_assoc, takeValue_extensionHead hhead, takeExtension_append, if_pos htype, hv]
    rfl

end Nullability.Cache.Message.Format
