import Nullability.Proofs.Cache.Format.Grammar

/-!
# Reading what is in the format

A value of the format is read, given fuel for three steps a byte and as many containers as it opens
(`Format.Value.reads`); no container of it has more items than there are bytes. On the same terms
reading notices a bad key, if all before the end of its entry is in the format
(`Format.BadValue.notices`).
-/

namespace Nullability.Cache.Message.Format

variable {size levels n : Nat} {head bytes input more behind rest : List UInt8} {k v : Message}
  {items : List Message} {entries : List (Message × Message)}

/-! ## What is in the format is read -/

lemma length_pos_of_head {least limit : Nat} {marks : List (UInt8 × Nat)}
    (h : Head least limit marks head n) : 0 < head.length := by
  cases h with
  | short h => exact Nat.zero_lt_one
  | sized h =>
    cases h with
    | mark h => exact Nat.zero_lt_succ _

lemma length_pos_of_piece (h : Piece bytes v) : 0 < bytes.length := by
  -- A piece without bytes would make any value be read from nothing.
  apply List.length_pos_iff.2
  rintro rfl
  have htake : takeValue 0 1 0 ([] ++ []) = .ok (v, []) := takeValue_piece h
  rw [List.append_nil, takeValue] at htake
  · cases htake
  · exact fun e => by cases e

/-- A value uses at least one byte, and is read if there is fuel for three times as many steps as it
has bytes. -/
def ReadsValue (levels : Nat) (input : List UInt8) (v : Message) (rest : List UInt8) : Prop :=
  rest.length + 1 ≤ input.length ∧ ∀ size fuel depth, input.length ≤ size →
    3 * input.length ≤ fuel + 3 * rest.length → depth + levels ≤ depthLimit →
      takeValue size fuel depth input = .ok (v, rest)

def ReadsItems (levels n : Nat) (input : List UInt8) (items : List Message) (rest : List UInt8) :
    Prop :=
  rest.length + n ≤ input.length ∧ ∀ size fuel depth done, input.length ≤ size →
    3 * input.length + 1 ≤ fuel + 3 * rest.length → depth + levels ≤ depthLimit →
      takeItems size fuel depth n done input = .ok (.list (done.reverse ++ items), rest)

def ReadsEntries (levels n : Nat) (input : List UInt8) (entries : List (Message × Message))
    (rest : List UInt8) : Prop :=
  rest.length + 2 * n ≤ input.length ∧ ∀ size fuel depth done, input.length ≤ size →
    3 * input.length + 1 ≤ fuel + 3 * rest.length → depth + levels ≤ depthLimit →
      takeEntries size fuel depth n done input =
        .ok (.map (entries.foldl (fun done entry => store entry.1 entry.2 done) done), rest)

lemma readsValue_of_piece (h : Piece bytes v) : ReadsValue levels (bytes ++ rest) v rest := by
  have hpos := length_pos_of_piece h
  refine ⟨?_, ?_⟩
  · rw [List.length_append]
    omega
  · intro size fuel depth _ hfuel _
    rw [List.length_append] at hfuel
    obtain ⟨fuel, rfl⟩ : ∃ n, fuel = n + 1 := ⟨fuel - 1, by omega⟩
    exact takeValue_piece h

lemma readsValue_of_list (hhead : ListHead head n) (hitems : ReadsItems levels n input items rest) :
    ReadsValue (levels + 1) (head ++ input) (.list items) rest := by
  have hpos := length_pos_of_head hhead
  obtain ⟨hlength, hread⟩ := hitems
  refine ⟨?_, ?_⟩
  · rw [List.length_append]
    omega
  · intro size fuel depth hsize hfuel hdepth
    rw [List.length_append] at hfuel hsize
    obtain ⟨fuel, rfl⟩ : ∃ n, fuel = n + 2 := ⟨fuel - 2, by omega⟩
    rw [takeValue_listHead hhead, takeList, if_neg (by omega)]
    exact hread size fuel (depth + 1) [] (by omega) (by omega) (by omega)

lemma readsValue_of_map (hhead : MapHead head n)
    (hentries : ReadsEntries levels n input entries rest) :
    ReadsValue (levels + 1) (head ++ input)
      (.map (entries.foldl (fun done entry => store entry.1 entry.2 done) [])) rest := by
  have hpos := length_pos_of_head hhead
  obtain ⟨hlength, hread⟩ := hentries
  refine ⟨?_, ?_⟩
  · rw [List.length_append]
    omega
  · intro size fuel depth hsize hfuel hdepth
    rw [List.length_append] at hfuel hsize
    obtain ⟨fuel, rfl⟩ : ∃ n, fuel = n + 2 := ⟨fuel - 2, by omega⟩
    rw [takeValue_mapHead hhead, takeMap, if_neg (by omega)]
    exact hread size fuel (depth + 1) [] (by omega) (by omega) (by omega)

lemma readsItems_cons (hv : ReadsValue levels input v more)
    (hitems : ReadsItems levels n more items rest) :
    ReadsItems levels (n + 1) input (v :: items) rest := by
  obtain ⟨hlength, hread⟩ := hv
  obtain ⟨hlength', hread'⟩ := hitems
  refine ⟨by omega, ?_⟩
  intro size fuel depth done hsize hfuel hdepth
  obtain ⟨fuel, rfl⟩ : ∃ n, fuel = n + 1 := ⟨fuel - 1, by omega⟩
  rw [takeItems, hread size fuel depth hsize (by omega) hdepth]
  have hrest := hread' size fuel depth (v :: done) (by omega) (by omega) hdepth
  rw [List.reverse_cons, List.append_assoc] at hrest
  exact hrest

/-- Nothing is read behind a key whose value cannot be read. -/
lemma takeEntries_of_error (hk : ReadsValue levels input k behind) {fuel depth : Nat}
    {fault : ReadFault} (hv : takeValue size fuel depth behind = .error fault) (n : Nat)
    (done : List (Message × Message)) (hsize : input.length ≤ size)
    (hfuel : 3 * input.length ≤ fuel + 3 * behind.length) (hdepth : depth + levels ≤ depthLimit) :
    takeEntries size (fuel + 1) depth (n + 1) done input = .error fault := by
  rw [takeEntries, hk.2 size fuel depth hsize hfuel hdepth]
  dsimp only
  rw [hv]

/-- Behind an entry that is read the other ones are read, unless its key is bad. -/
lemma takeEntries_of_entry (hk : ReadsValue levels input k behind)
    (hv : ReadsValue levels behind v more) {fuel depth : Nat} (n : Nat)
    (done : List (Message × Message)) (hsize : input.length ≤ size)
    (hfuel : 3 * input.length ≤ fuel + 3 * more.length) (hdepth : depth + levels ≤ depthLimit) :
    takeEntries size (fuel + 1) depth (n + 1) done input =
      if k.isKey then takeEntries size fuel depth n (store k v done) more else .error .badKey := by
  have hlength := hk.1
  have hlength' := hv.1
  rw [takeEntries, hk.2 size fuel depth hsize (by omega) hdepth]
  dsimp only
  rw [hv.2 size fuel depth (by omega) (by omega) hdepth]

lemma readsEntries_cons (hk : ReadsValue levels input k behind) (hv : ReadsValue levels behind v more)
    (hkey : k.isKey = true) (hentries : ReadsEntries levels n more entries rest) :
    ReadsEntries levels (n + 1) input ((k, v) :: entries) rest := by
  have hlength := hk.1
  have hlength' := hv.1
  obtain ⟨hlength'', hread⟩ := hentries
  refine ⟨by omega, ?_⟩
  intro size fuel depth done hsize hfuel hdepth
  obtain ⟨fuel, rfl⟩ : ∃ n, fuel = n + 1 := ⟨fuel - 1, by omega⟩
  rw [takeEntries_of_entry hk hv n done hsize (by omega) hdepth, if_pos hkey]
  exact hread size fuel depth (store k v done) (by omega) (by omega) hdepth

lemma Value.reads (h : Value levels input v rest) : ReadsValue levels input v rest := by
  induction h using @Value.rec _
    (fun levels n input items rest _ => ReadsItems levels n input items rest)
    (fun levels n input entries rest _ => ReadsEntries levels n input entries rest) with
  | piece h => exact readsValue_of_piece h
  | list hhead _ ih => exact readsValue_of_list hhead ih
  | map hhead _ ih => exact readsValue_of_map hhead ih
  | noItem =>
    refine ⟨Nat.le_refl _, ?_⟩
    intro size fuel depth done _ hfuel _
    obtain ⟨fuel, rfl⟩ : ∃ n, fuel = n + 1 := ⟨fuel - 1, by omega⟩
    rw [takeItems, List.append_nil]
    exact fun e => by cases e
  | item _ _ ihv ih => exact readsItems_cons ihv ih
  | noEntry =>
    refine ⟨Nat.le_refl _, ?_⟩
    intro size fuel depth done _ hfuel _
    obtain ⟨fuel, rfl⟩ : ∃ n, fuel = n + 1 := ⟨fuel - 1, by omega⟩
    rw [takeEntries, List.foldl_nil]
    exact fun e => by cases e
  | entry _ _ hkey _ ihk ihv ih => exact readsEntries_cons ihk ihv hkey ih

/-! ## Bad keys are noticed -/

/-- Whether reading notices a bad key, wherever it starts. -/
def NoticesValue (size levels : Nat) (input : List UInt8) : Prop :=
  ∀ fuel depth, input.length ≤ size → 3 * input.length ≤ fuel → depth + levels ≤ depthLimit →
    takeValue size fuel depth input = .error .badKey

def NoticesItems (size levels n : Nat) (input : List UInt8) : Prop :=
  ∀ fuel depth done, input.length ≤ size → 3 * input.length + 1 ≤ fuel →
    depth + levels ≤ depthLimit → takeItems size fuel depth n done input = .error .badKey

def NoticesEntries (size levels n : Nat) (input : List UInt8) : Prop :=
  ∀ fuel depth done, input.length ≤ size → 3 * input.length + 1 ≤ fuel →
    depth + levels ≤ depthLimit → takeEntries size fuel depth n done input = .error .badKey

lemma noticesValue_of_list (hhead : ListHead head n) (hcount : n ≤ size)
    (h : NoticesItems size levels n input) : NoticesValue size (levels + 1) (head ++ input) := by
  have hpos := length_pos_of_head hhead
  intro fuel depth hsize hfuel hdepth
  rw [List.length_append] at hfuel hsize
  obtain ⟨fuel, rfl⟩ : ∃ n, fuel = n + 2 := ⟨fuel - 2, by omega⟩
  rw [takeValue_listHead hhead, takeList, if_neg (by omega)]
  exact h fuel (depth + 1) [] (by omega) (by omega) (by omega)

lemma noticesValue_of_map (hhead : MapHead head n) (hcount : n ≤ size / 2)
    (h : NoticesEntries size levels n input) : NoticesValue size (levels + 1) (head ++ input) := by
  have hpos := length_pos_of_head hhead
  intro fuel depth hsize hfuel hdepth
  rw [List.length_append] at hfuel hsize
  obtain ⟨fuel, rfl⟩ : ∃ n, fuel = n + 2 := ⟨fuel - 2, by omega⟩
  rw [takeValue_mapHead hhead, takeMap, if_neg (by omega)]
  exact h fuel (depth + 1) [] (by omega) (by omega) (by omega)

lemma BadValue.notices (h : BadValue size levels input) : NoticesValue size levels input := by
  induction h using @BadValue.rec size _ (fun levels n input _ => NoticesItems size levels n input)
    (fun levels n input _ => NoticesEntries size levels n input) with
  | list hhead hcount _ ih => exact noticesValue_of_list hhead hcount ih
  | map hhead hcount _ ih => exact noticesValue_of_map hhead hcount ih
  | inItem _ ih =>
    intro fuel depth done hsize hfuel hdepth
    obtain ⟨fuel, rfl⟩ : ∃ n, fuel = n + 1 := ⟨fuel - 1, by omega⟩
    rw [takeItems, ih fuel depth hsize (by omega) hdepth]
  | laterItem hv _ ih =>
    obtain ⟨hlength, hread⟩ := hv.reads
    intro fuel depth done hsize hfuel hdepth
    obtain ⟨fuel, rfl⟩ : ∃ n, fuel = n + 1 := ⟨fuel - 1, by omega⟩
    rw [takeItems, hread size fuel depth hsize (by omega) hdepth]
    exact ih fuel depth _ (by omega) (by omega) hdepth
  | inKey _ ih =>
    intro fuel depth done hsize hfuel hdepth
    obtain ⟨fuel, rfl⟩ : ∃ n, fuel = n + 1 := ⟨fuel - 1, by omega⟩
    rw [takeEntries, ih fuel depth hsize (by omega) hdepth]
  | inValue hk _ ih =>
    have hlength := hk.reads.1
    intro fuel depth done hsize hfuel hdepth
    obtain ⟨fuel, rfl⟩ : ∃ n, fuel = n + 1 := ⟨fuel - 1, by omega⟩
    have hbad := ih fuel depth (by omega) (by omega) hdepth
    exact takeEntries_of_error hk.reads hbad _ done hsize (by omega) hdepth
  | badKey hk hv hkey =>
    intro fuel depth done hsize hfuel hdepth
    obtain ⟨fuel, rfl⟩ : ∃ n, fuel = n + 1 := ⟨fuel - 1, by omega⟩
    rw [takeEntries_of_entry hk.reads hv.reads _ done hsize (by omega) hdepth, hkey]
    rfl
  | laterEntry hk hv hkey _ ih =>
    have hlength := hk.reads.1
    have hlength' := hv.reads.1
    intro fuel depth done hsize hfuel hdepth
    obtain ⟨fuel, rfl⟩ : ∃ n, fuel = n + 1 := ⟨fuel - 1, by omega⟩
    rw [takeEntries_of_entry hk.reads hv.reads _ done hsize (by omega) hdepth, if_pos hkey]
    exact ih fuel depth _ (by omega) (by omega) hdepth

end Nullability.Cache.Message.Format
