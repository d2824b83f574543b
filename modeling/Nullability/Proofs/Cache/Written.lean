import Nullability.Proofs.Cache.Number
import Nullability.Proofs.Outcome

/-!
# Written messages

What the writers make of integers, truth values, texts, lists and maps is read as the same value.
`Reads height bytes v` says so of any bytes: wherever they stand, and as long as `height` more
levels of nesting are allowed, reading takes exactly these bytes and gives `v`. Three times as much
fuel as there are bytes is enough, since a container spends one unit on itself, two on its items as
a whole and one on each item. No container has more items than there are bytes behind its header.
-/

namespace Nullability.Cache.Message
open Outcome

/-- Some bytes are read as a value, whatever stands behind them. -/
def Reads (height : Nat) (bytes : List UInt8) (v : Message) : Prop :=
  bytes ≠ [] ∧ ∀ size fuel depth rest, bytes.length ≤ size → 3 * bytes.length ≤ fuel →
    depth + height ≤ depthLimit → takeValue size fuel depth (bytes ++ rest) = .ok (v, rest)

lemma Reads.length_pos {height bytes v} (h : Reads height bytes v) : 0 < bytes.length :=
  List.length_pos_iff.2 h.1

/-- A value that takes one unit of fuel is read from its first byte on. -/
lemma reads_cons {height : Nat} {head : UInt8} {tail : List UInt8} {v : Message}
    (h : ∀ size fuel depth rest,
      takeValue size (fuel + 1) depth (head :: (tail ++ rest)) = .ok (v, rest)) :
    Reads height (head :: tail) v := by
  refine ⟨List.cons_ne_nil _ _, ?_⟩
  intro size fuel depth rest _ hfuel _
  cases fuel with
  | zero => simp at hfuel
  | succ fuel => exact h size fuel depth rest

/-! ## Scalars -/

lemma reads_writeBool (height : Nat) (b : Bool) : Reads height (writeBool b) (.bool b) := by
  cases b with
  | false => exact reads_cons fun _ _ _ _ => by simp [takeValue]
  | true => exact reads_cons fun _ _ _ _ => by simp [takeValue]

/-- Natural numbers are read from each of the five forms they are written in. -/
lemma reads_writeInt_of_nonneg {height : Nat} {n : Nat} {bytes : List UInt8}
    (h : writeInt n = .ok bytes) : Reads height bytes (.int n) := by
  simp only [writeInt, Int.natCast_nonneg, if_true, Int.toNat_natCast] at h
  split_ifs at h with h7 h8 h16 h32 h64
  · cases h
    refine reads_cons fun _ _ _ _ => ?_
    have hhead : (UInt8.ofNat n).toNat = n := UInt8.toNat_ofNat_of_lt' (by simp [UInt8.size]; omega)
    simp only [takeValue, hhead, if_pos h7, List.nil_append]
  · cases h
    exact reads_cons fun _ _ _ rest => by simp [takeValue, takeNat_append_bind 1 h8 rest]
  · cases h
    exact reads_cons fun _ _ _ rest => by simp [takeValue, takeNat_append_bind 2 h16 rest]
  · cases h
    exact reads_cons fun _ _ _ rest => by simp [takeValue, takeNat_append_bind 4 h32 rest]
  · cases h
    exact reads_cons fun _ _ _ rest => by simp [takeValue, takeNat_append_bind 8 h64 rest]

/-- Negative integers are read from each of the five forms they are written in. -/
lemma reads_writeInt_of_neg {height : Nat} {n : Int} {bytes : List UInt8} (hneg : n < 0)
    (h : writeInt n = .ok bytes) : Reads height bytes (.int n) := by
  simp only [writeInt, if_neg (Int.not_le.2 hneg)] at h
  split_ifs at h with h5 h7 h15 h31 h63
  · cases h
    refine reads_cons fun _ _ _ _ => ?_
    have hhead : (UInt8.ofNat (n + 0x100).toNat).toNat = (n + 0x100).toNat :=
      UInt8.toNat_ofNat_of_lt' (by simp [UInt8.size]; omega)
    have hvalue : (((n + 0x100).toNat : Nat) : Int) - 256 = n := by omega
    simp only [takeValue, hhead, hvalue, List.nil_append]
    rw [if_neg (by omega), if_neg (by omega), if_neg (by omega), if_neg (by omega),
      if_pos (by omega)]
  · cases h
    exact reads_cons fun _ _ _ rest => by
      simpa [takeValue] using takeInt_append 1 (by omega) (by simp [twoTo]; omega)
        (by simp [twoTo]; omega) rest
  · cases h
    exact reads_cons fun _ _ _ rest => by
      simpa [takeValue] using takeInt_append 2 (by omega) (by simp [twoTo]; omega)
        (by simp [twoTo]; omega) rest
  · cases h
    exact reads_cons fun _ _ _ rest => by
      simpa [takeValue] using takeInt_append 4 (by omega) (by simp [twoTo]; omega)
        (by simp [twoTo]; omega) rest
  · cases h
    exact reads_cons fun _ _ _ rest => by
      simpa [takeValue] using takeInt_append 8 (by omega) (by simp [twoTo]; omega)
        (by simp [twoTo]; omega) rest

lemma reads_writeInt {height : Nat} {n : Int} {bytes : List UInt8} (h : writeInt n = .ok bytes) :
    Reads height bytes (.int n) := by
  by_cases hneg : n < 0
  · exact reads_writeInt_of_neg hneg h
  · obtain ⟨m, rfl⟩ := Int.eq_ofNat_of_zero_le (Int.not_lt.1 hneg)
    exact reads_writeInt_of_nonneg h

lemma exists_writeInt {n : Int} (hleast : -0x8000000000000000 ≤ n)
    (hmost : n < 0x10000000000000000) : ∃ bytes, writeInt n = .ok bytes := by
  simp only [writeInt]
  split_ifs
  all_goals first | exact ⟨_, rfl⟩ | omega

/-! ## Headers -/

/-- The head of a short form, in which the length is added to a mark. -/
lemma toNat_ofNat_add (mark length : Nat) (h : mark + length < 256) :
    (UInt8.ofNat (mark + length)).toNat = mark + length :=
  UInt8.toNat_ofNat_of_lt' (by simpa [UInt8.size] using h)

lemma takeValue_textHeader {length : Nat} {header : List UInt8}
    (h : textHeader length = .ok header) (size fuel depth : Nat) (rest : List UInt8) :
    takeValue size (fuel + 1) depth (header ++ rest) = takeText length rest := by
  simp only [textHeader] at h
  split_ifs at h with h5 h8 h16 h32
  · cases h
    have hhead := toNat_ofNat_add 0xa0 length (by omega)
    simp only [List.singleton_append, takeValue, hhead]
    rw [if_neg (by omega), if_neg (by omega), if_neg (by omega), if_pos (by omega),
      Nat.add_sub_cancel_left]
  · cases h
    simp [takeValue, takeNat_append_bind 1 h8]
  · cases h
    simp [takeValue, takeNat_append_bind 2 h16]
  · cases h
    simp [takeValue, takeNat_append_bind 4 h32]

lemma takeValue_listHeader {length : Nat} {header : List UInt8}
    (h : listHeader length = .ok header) (size fuel depth : Nat) (rest : List UInt8) :
    takeValue size (fuel + 1) depth (header ++ rest) = takeList size fuel depth length rest := by
  simp only [listHeader] at h
  split_ifs at h with h4 h16 h32
  · cases h
    have hhead := toNat_ofNat_add 0x90 length (by omega)
    simp only [List.singleton_append, takeValue, hhead]
    rw [if_neg (by omega), if_neg (by omega), if_pos (by omega), Nat.add_sub_cancel_left]
  · cases h
    simp [takeValue, takeNat_append_bind 2 h16]
  · cases h
    simp [takeValue, takeNat_append_bind 4 h32]

lemma takeValue_mapHeader {length : Nat} {header : List UInt8}
    (h : mapHeader length = .ok header) (size fuel depth : Nat) (rest : List UInt8) :
    takeValue size (fuel + 1) depth (header ++ rest) = takeMap size fuel depth length rest := by
  simp only [mapHeader] at h
  split_ifs at h with h4 h16 h32
  · cases h
    have hhead := toNat_ofNat_add 0x80 length (by omega)
    simp only [List.singleton_append, takeValue, hhead]
    rw [if_neg (by omega), if_pos (by omega), Nat.add_sub_cancel_left]
  · cases h
    simp [takeValue, takeNat_append_bind 2 h16]
  · cases h
    simp [takeValue, takeNat_append_bind 4 h32]

lemma exists_textHeader {length : Nat} (h : length < 0x100000000) :
    ∃ header, textHeader length = .ok header := by
  simp only [textHeader]
  split_ifs
  all_goals exact ⟨_, rfl⟩

lemma exists_listHeader {length : Nat} (h : length < 0x100000000) :
    ∃ header, listHeader length = .ok header := by
  simp only [listHeader]
  split_ifs
  all_goals exact ⟨_, rfl⟩

lemma exists_mapHeader {length : Nat} (h : length < 0x100000000) :
    ∃ header, mapHeader length = .ok header := by
  simp only [mapHeader]
  split_ifs
  all_goals exact ⟨_, rfl⟩

lemma textHeader_ne_nil {length : Nat} {header : List UInt8}
    (h : textHeader length = .ok header) : header ≠ [] := by
  simp only [textHeader] at h
  split_ifs at h
  all_goals (cases h; exact List.cons_ne_nil _ _)

lemma listHeader_ne_nil {length : Nat} {header : List UInt8}
    (h : listHeader length = .ok header) : header ≠ [] := by
  simp only [listHeader] at h
  split_ifs at h
  all_goals (cases h; exact List.cons_ne_nil _ _)

lemma mapHeader_ne_nil {length : Nat} {header : List UInt8}
    (h : mapHeader length = .ok header) : header ≠ [] := by
  simp only [mapHeader] at h
  split_ifs at h
  all_goals (cases h; exact List.cons_ne_nil _ _)

/-! ## Texts -/

lemma takeText_append (s : String) (rest : List UInt8) :
    takeText (Text.utf8 s).length (Text.utf8 s ++ rest) = .ok (.text s, rest) := by
  refine bind_eq_ok.2 ⟨(Text.utf8 s, rest), take?_append rfl rest, ?_⟩
  dsimp only
  rw [Text.ofUtf8?_utf8]
  rfl

lemma reads_writeText {height : Nat} {s : String} {bytes : List UInt8}
    (h : writeText s = .ok bytes) : Reads height bytes (.text s) := by
  obtain ⟨header, hheader, h⟩ := bind_eq_ok.1 h
  cases h
  refine ⟨List.append_ne_nil_of_left_ne_nil (textHeader_ne_nil hheader) _, ?_⟩
  intro size fuel depth rest _ hfuel _
  have hlength := List.length_pos_iff.2 (textHeader_ne_nil hheader)
  cases fuel with
  | zero => rw [List.length_append] at hfuel; omega
  | succ fuel => rw [List.append_assoc, takeValue_textHeader hheader, takeText_append]

lemma exists_writeText {s : String} (h : (Text.utf8 s).length < 0x100000000) :
    ∃ bytes, writeText s = .ok bytes := by
  obtain ⟨header, hheader⟩ := exists_textHeader h
  exact ⟨header ++ Text.utf8 s, bind_eq_ok.2 ⟨header, hheader, rfl⟩⟩

/-! ## Lists -/

/-- Items are read one after the other; `done` are those that were read before. -/
lemma takeItems_flatten {height : Nat} {parts : List (List UInt8)} {items : List Message}
    (h : List.Forall₂ (Reads height) parts items) (size fuel depth : Nat) (done : List Message)
    (rest : List UInt8) (hsize : parts.flatten.length ≤ size)
    (hfuel : 3 * parts.flatten.length + 1 ≤ fuel) (hdepth : depth + height ≤ depthLimit) :
    takeItems size fuel depth items.length done (parts.flatten ++ rest) =
      .ok (.list (done.reverse ++ items), rest) := by
  induction h generalizing fuel done with
  | nil =>
    cases fuel with
    | zero => omega
    | succ fuel => simp [takeItems]
  | @cons part v parts items hv hvs ih =>
    have hlength := hv.length_pos
    rw [List.flatten_cons, List.length_append] at hfuel hsize
    cases fuel with
    | zero => omega
    | succ fuel =>
      have htake := hv.2 size fuel depth (parts.flatten ++ rest) (by omega) (by omega) hdepth
      have hrest := ih fuel (v :: done) (by omega) (by omega)
      rw [List.flatten_cons, List.append_assoc, List.length_cons, takeItems, htake]
      simpa using hrest

/-- There are no more items than bytes. -/
lemma length_le_of_reads {height : Nat} {parts : List (List UInt8)} {items : List Message}
    (h : List.Forall₂ (Reads height) parts items) : items.length ≤ parts.flatten.length := by
  induction h with
  | nil => exact Nat.le_refl _
  | cons hv _ ih =>
    have hlength := hv.length_pos
    rw [List.length_cons, List.flatten_cons, List.length_append]
    omega

lemma reads_list {height : Nat} {header : List UInt8} {parts : List (List UInt8)}
    {items : List Message} (hheader : listHeader items.length = .ok header)
    (hparts : List.Forall₂ (Reads height) parts items) :
    Reads (height + 1) (header ++ parts.flatten) (.list items) := by
  have hne := listHeader_ne_nil hheader
  have hlength := List.length_pos_iff.2 hne
  refine ⟨List.append_ne_nil_of_left_ne_nil hne _, ?_⟩
  intro size fuel depth rest hsize hfuel hdepth
  have hitems := length_le_of_reads hparts
  rw [List.length_append] at hfuel hsize
  obtain ⟨fuel, rfl⟩ : ∃ n, fuel = n + 2 := ⟨fuel - 2, by omega⟩
  rw [List.append_assoc, takeValue_listHeader hheader, takeList, if_neg (by omega)]
  exact takeItems_flatten hparts size fuel (depth + 1) [] rest (by omega) (by omega) (by omega)

/-! ## Maps -/

/-- The entries of a map whose keys are texts. -/
def ofTexts (entries : List (String × Message)) : List (Message × Message) :=
  entries.map (fun entry => (.text entry.1, entry.2))

lemma sameKey_text (s t : String) : sameKey (.text s) (.text t) = decide (s = t) := rfl

/-- Storing under a text is storing in an ordered map. -/
lemma store_text (key : String) (value : Message) (entries : List (String × Message)) :
    store (.text key) value (ofTexts entries) = ofTexts (Pairs.insert key value entries) := by
  induction entries with
  | nil => rfl
  | cons entry rest ih =>
    obtain ⟨k, v⟩ := entry
    by_cases hk : k = key
    · simp [ofTexts, store, Pairs.insert, sameKey_text, hk]
    · simpa [ofTexts, store, Pairs.insert, sameKey_text, hk] using ih

/-- The bytes of an entry: those of its key, then those of its value. -/
def ReadsEntry (height : Nat) (part : List UInt8) (entry : String × Message) : Prop :=
  ∃ key value, part = key ++ value ∧ Reads height key (.text entry.1) ∧ Reads height value entry.2

/-- Entries are read one after the other; `done` are those that were read before. -/
lemma takeEntries_flatten {height : Nat} {parts : List (List UInt8)}
    {entries : List (String × Message)} (h : List.Forall₂ (ReadsEntry height) parts entries)
    (size fuel depth : Nat) (done : List (String × Message)) (rest : List UInt8)
    (hsize : parts.flatten.length ≤ size) (hfuel : 3 * parts.flatten.length + 1 ≤ fuel)
    (hdepth : depth + height ≤ depthLimit) (hkeys : (Pairs.keys (done ++ entries)).Nodup) :
    takeEntries size fuel depth entries.length (ofTexts done) (parts.flatten ++ rest) =
      .ok (.map (ofTexts (done ++ entries)), rest) := by
  induction h generalizing fuel done with
  | nil =>
    cases fuel with
    | zero => omega
    | succ fuel => simp [takeEntries]
  | @cons part entry parts entries hentry _ ih =>
    obtain ⟨keyBytes, valueBytes, rfl, hkey, hvalue⟩ := hentry
    have hlength := hkey.length_pos
    rw [List.flatten_cons, List.length_append, List.length_append] at hfuel hsize
    have hnew : entry.1 ∉ Pairs.keys done := by
      intro hmem
      rw [Pairs.keys, List.map_append] at hkeys
      exact (List.nodup_append.1 hkeys).2.2 _ hmem _ List.mem_cons_self rfl
    have hstore : store (.text entry.1) entry.2 (ofTexts done) = ofTexts (done ++ [entry]) := by
      rw [store_text, Pairs.insert_of_not_mem hnew]
    cases fuel with
    | zero => omega
    | succ fuel =>
      have htakeKey := hkey.2 size fuel depth (valueBytes ++ (parts.flatten ++ rest)) (by omega)
        (by omega) hdepth
      have htakeValue := hvalue.2 size fuel depth (parts.flatten ++ rest) (by omega) (by omega)
        hdepth
      have hrest := ih fuel (done ++ [entry]) (by omega) (by omega) (by simpa using hkeys)
      rw [List.flatten_cons, List.append_assoc, List.append_assoc, List.length_cons, takeEntries,
        htakeKey]
      simp only [htakeValue, isKey, if_true, hstore, hrest, List.append_assoc,
        List.singleton_append]

/-- There are at least two bytes for each entry. -/
lemma length_le_of_readsEntry {height : Nat} {parts : List (List UInt8)}
    {entries : List (String × Message)} (h : List.Forall₂ (ReadsEntry height) parts entries) :
    2 * entries.length ≤ parts.flatten.length := by
  induction h with
  | nil => exact Nat.le_refl _
  | cons hentry _ ih =>
    obtain ⟨key, value, rfl, hkey, hvalue⟩ := hentry
    have hlength := hkey.length_pos
    have hlength' := hvalue.length_pos
    rw [List.length_cons, List.flatten_cons, List.length_append, List.length_append]
    omega

lemma reads_map {height : Nat} {header : List UInt8} {parts : List (List UInt8)}
    {entries : List (String × Message)} (hheader : mapHeader entries.length = .ok header)
    (hparts : List.Forall₂ (ReadsEntry height) parts entries)
    (hkeys : (Pairs.keys entries).Nodup) :
    Reads (height + 1) (header ++ parts.flatten) (.map (ofTexts entries)) := by
  have hne := mapHeader_ne_nil hheader
  have hlength := List.length_pos_iff.2 hne
  refine ⟨List.append_ne_nil_of_left_ne_nil hne _, ?_⟩
  intro size fuel depth rest hsize hfuel hdepth
  have hentries := length_le_of_readsEntry hparts
  rw [List.length_append] at hfuel hsize
  obtain ⟨fuel, rfl⟩ : ∃ n, fuel = n + 2 := ⟨fuel - 2, by omega⟩
  rw [List.append_assoc, takeValue_mapHeader hheader, takeMap, if_neg (by omega)]
  exact takeEntries_flatten hparts size fuel (depth + 1) [] rest (by omega) (by omega) (by omega)
    hkeys

/-- A value that takes up all of some bytes is what they hold. -/
lemma read_of_reads {height : Nat} {bytes : List UInt8} {v : Message}
    (h : Reads height bytes v) (hheight : height ≤ depthLimit) : read bytes = .ok v := by
  have htake := h.2 bytes.length (4 * bytes.length + 8) 0 [] (by omega) (by omega) (by omega)
  rw [List.append_nil] at htake
  rw [read, htake]

end Nullability.Cache.Message
