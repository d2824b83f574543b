import Nullability.Proofs.Cache.Format.Opening
import Nullability.Proofs.Cache.Format.Reading

/-!
# What is read is in the format

Reading accepts exactly what the grammar derives (`read_eq_ok_iff`), and it stops at a bad key exactly
where all before that key is in the format (`read_eq_badKey_iff`). One direction is that of reading;
for the other one every outcome is traced back to a derivation, value by value, by induction on the
fuel.
-/

namespace Nullability.Cache.Message

namespace Format

variable {size fuel n : Nat} {head input : List UInt8}

/-- What an outcome of reading says about the bytes. -/
def JudgesValue (size levels : Nat) (input : List UInt8) :
    Except ReadFault (Message × List UInt8) → Prop
  | .ok (v, rest) => Value levels input v rest
  | .error .badKey => BadValue size levels input
  | .error .malformed => True

def JudgesItems (size levels n : Nat) (done : List Message) (input : List UInt8) :
    Except ReadFault (Message × List UInt8) → Prop
  | .ok (v, rest) => ∃ items, v = .list (done.reverse ++ items) ∧ Items levels n input items rest
  | .error .badKey => BadItems size levels n input
  | .error .malformed => True

def JudgesEntries (size levels n : Nat) (done : List (Message × Message)) (input : List UInt8) :
    Except ReadFault (Message × List UInt8) → Prop
  | .ok (v, rest) => ∃ entries,
      v = .map (entries.foldl (fun done entry => store entry.1 entry.2 done) done) ∧
        Entries levels n input entries rest
  | .error .badKey => BadEntries size levels n input
  | .error .malformed => True

lemma judgesValue_of_list (hhead : ListHead head n)
    (h : ∀ depth, JudgesItems size (depthLimit - depth) n [] input
      (takeItems size fuel depth n [] input)) (depth : Nat) :
    JudgesValue size (depthLimit - depth) (head ++ input) (takeValue size (fuel + 2) depth (head ++ input)) := by
  rw [takeValue_listHead hhead, takeList]
  split
  · trivial
  · rename_i hdepth
    have hlevels : depthLimit - depth = (depthLimit - (depth + 1)) + 1 := by omega
    have hitems := h (depth + 1)
    rw [hlevels]
    cases htake : takeItems size fuel (depth + 1) n [] input with
    | ok taken =>
      rw [htake] at hitems
      obtain ⟨items, hv, hitems⟩ := hitems
      rw [List.reverse_nil, List.nil_append] at hv
      change Value _ _ taken.1 taken.2
      rw [hv]
      exact .list hhead hitems
    | error fault =>
      rw [htake] at hitems
      cases fault with
      | malformed => trivial
      | badKey => exact .list hhead (by omega) hitems

lemma judgesValue_of_map (hhead : MapHead head n)
    (h : ∀ depth, JudgesEntries size (depthLimit - depth) n [] input
      (takeEntries size fuel depth n [] input)) (depth : Nat) :
    JudgesValue size (depthLimit - depth) (head ++ input) (takeValue size (fuel + 2) depth (head ++ input)) := by
  rw [takeValue_mapHead hhead, takeMap]
  split
  · trivial
  · rename_i hdepth
    have hlevels : depthLimit - depth = (depthLimit - (depth + 1)) + 1 := by omega
    have hentries := h (depth + 1)
    rw [hlevels]
    cases htake : takeEntries size fuel (depth + 1) n [] input with
    | ok taken =>
      rw [htake] at hentries
      obtain ⟨entries, hv, hentries⟩ := hentries
      change Value _ _ taken.1 taken.2
      rw [hv]
      exact .map hhead hentries
    | error fault =>
      rw [htake] at hentries
      cases fault with
      | malformed => trivial
      | badKey => exact .map hhead (by omega) hentries

lemma judgesValue (size fuel depth : Nat) (input : List UInt8)
    (hitems : ∀ less < fuel, ∀ depth n input, JudgesItems size (depthLimit - depth) n [] input
      (takeItems size less depth n [] input))
    (hentries : ∀ less < fuel, ∀ depth n input, JudgesEntries size (depthLimit - depth) n [] input
      (takeEntries size less depth n [] input)) :
    JudgesValue size (depthLimit - depth) input (takeValue size fuel depth input) := by
  rcases opening_or_refused input with hopening | hrefused
  · -- A container takes one unit of fuel for itself and one for its items as a whole.
    match fuel with
    | 0 =>
      rw [takeValue]
      trivial
    | 1 =>
      cases hopening with
      | piece h rest =>
        rw [takeValue_piece h]
        exact .piece h
      | list h rest =>
        rw [takeValue_listHead h, takeList]
        trivial
      | map h rest =>
        rw [takeValue_mapHead h, takeMap]
        trivial
    | fuel + 2 =>
      cases hopening with
      | piece h rest =>
        rw [takeValue_piece h]
        exact .piece h
      | list h rest =>
        exact judgesValue_of_list h (fun depth => hitems fuel (by omega) depth _ rest) depth
      | map h rest =>
        exact judgesValue_of_map h (fun depth => hentries fuel (by omega) depth _ rest) depth
  · rw [hrefused]
    trivial

lemma judgesItems_succ (depth n : Nat) (done : List Message) (input : List UInt8)
    (hvalue : ∀ input, JudgesValue size (depthLimit - depth) input (takeValue size fuel depth input))
    (hitems : ∀ n done input, JudgesItems size (depthLimit - depth) n done input
      (takeItems size fuel depth n done input)) :
    JudgesItems size (depthLimit - depth) n done input (takeItems size (fuel + 1) depth n done input) := by
  cases n with
  | zero =>
    rw [takeItems]
    · exact ⟨[], by rw [List.append_nil], .noItem⟩
    · exact fun e => by cases e
  | succ n =>
    rw [takeItems]
    have hv := hvalue input
    cases htake : takeValue size fuel depth input with
    | error fault =>
      rw [htake] at hv
      cases fault with
      | malformed => trivial
      | badKey => exact .inItem hv
    | ok taken =>
      obtain ⟨v, more⟩ := taken
      rw [htake] at hv
      have hrest := hitems n (v :: done) more
      dsimp only
      cases htakeItems : takeItems size fuel depth n (v :: done) more with
      | error fault =>
        rw [htakeItems] at hrest
        cases fault with
        | malformed => trivial
        | badKey => exact .laterItem hv hrest
      | ok taken =>
        rw [htakeItems] at hrest
        obtain ⟨items, hlist, hrest⟩ := hrest
        refine ⟨v :: items, ?_, .item hv hrest⟩
        rw [hlist, List.reverse_cons, List.append_assoc, List.singleton_append]

lemma judgesEntries_succ (depth n : Nat) (done : List (Message × Message)) (input : List UInt8)
    (hvalue : ∀ input, JudgesValue size (depthLimit - depth) input (takeValue size fuel depth input))
    (hentries : ∀ n done input, JudgesEntries size (depthLimit - depth) n done input
      (takeEntries size fuel depth n done input)) :
    JudgesEntries size (depthLimit - depth) n done input (takeEntries size (fuel + 1) depth n done input) := by
  cases n with
  | zero =>
    rw [takeEntries]
    · exact ⟨[], rfl, .noEntry⟩
    · exact fun e => by cases e
  | succ n =>
    rw [takeEntries]
    have hk := hvalue input
    cases htakeKey : takeValue size fuel depth input with
    | error fault =>
      rw [htakeKey] at hk
      cases fault with
      | malformed => trivial
      | badKey => exact .inKey hk
    | ok taken =>
      obtain ⟨k, behind⟩ := taken
      rw [htakeKey] at hk
      have hv := hvalue behind
      dsimp only
      cases htakeValue : takeValue size fuel depth behind with
      | error fault =>
        rw [htakeValue] at hv
        cases fault with
        | malformed => trivial
        | badKey => exact .inValue hk hv
      | ok taken =>
        obtain ⟨v, more⟩ := taken
        rw [htakeValue] at hv
        dsimp only
        cases hkey : k.isKey with
        | false => exact .badKey hk hv hkey
        | true =>
          have hrest := hentries n (store k v done) more
          rw [if_pos rfl]
          cases htakeEntries : takeEntries size fuel depth n (store k v done) more with
          | error fault =>
            rw [htakeEntries] at hrest
            cases fault with
            | malformed => trivial
            | badKey => exact .laterEntry hk hv hkey hrest
          | ok taken =>
            rw [htakeEntries] at hrest
            obtain ⟨entries, hmap, hrest⟩ := hrest
            exact ⟨(k, v) :: entries, hmap, .entry hk hv hkey hrest⟩

lemma judges (size fuel : Nat) :
    (∀ depth input, JudgesValue size (depthLimit - depth) input (takeValue size fuel depth input)) ∧
      (∀ depth n done input, JudgesItems size (depthLimit - depth) n done input
        (takeItems size fuel depth n done input)) ∧
      ∀ depth n done input, JudgesEntries size (depthLimit - depth) n done input
        (takeEntries size fuel depth n done input) := by
  -- Every value, item and entry is read with less fuel than what it belongs to.
  induction fuel using Nat.strong_induction_on with
  | _ fuel ih =>
    refine ⟨?_, ?_, ?_⟩
    · intro depth input
      exact judgesValue size fuel depth input
        (fun less hless depth n input => (ih less hless).2.1 depth n [] input)
        (fun less hless depth n input => (ih less hless).2.2 depth n [] input)
    · intro depth n done input
      cases fuel with
      | zero =>
        rw [takeItems]
        trivial
      | succ fuel =>
        obtain ⟨hvalue, hitems, -⟩ := ih fuel (Nat.lt_succ_self fuel)
        exact judgesItems_succ depth n done input (hvalue depth) (hitems depth)
    · intro depth n done input
      cases fuel with
      | zero =>
        rw [takeEntries]
        trivial
      | succ fuel =>
        obtain ⟨hvalue, -, hentries⟩ := ih fuel (Nat.lt_succ_self fuel)
        exact judgesEntries_succ depth n done input (hvalue depth) (hentries depth)

end Format

open Format

variable {input : List UInt8} {v : Message}

/-- Reading accepts exactly the values of the format, with nothing behind them. -/
theorem read_eq_ok_iff : read input = .ok v ↔ Format.Value depthLimit input v [] := by
  constructor
  · intro h
    have hjudged := (judges input.length (4 * input.length + 8)).1 0 input
    rw [Nat.sub_zero] at hjudged
    rw [read] at h
    split at h
    · rename_i v' htake
      rw [htake] at hjudged
      rw [← Except.ok.inj h]
      exact hjudged
    · cases h
    · cases h
  · intro h
    have htake := h.reads.2 input.length (4 * input.length + 8) 0 (by omega)
      (by rw [List.length_nil]; omega) (by omega)
    rw [read, htake]

/-- Reading stops at a bad key exactly if all before the end of its entry is in the format. -/
theorem read_eq_badKey_iff : read input = .error .badKey ↔ BadValue input.length depthLimit input := by
  constructor
  · intro h
    have hjudged := (judges input.length (4 * input.length + 8)).1 0 input
    rw [Nat.sub_zero] at hjudged
    rw [read] at h
    split at h
    · cases h
    · cases h
    · rename_i fault htake
      rw [htake, Except.error.inj h] at hjudged
      exact hjudged
  · intro h
    have htake := h.notices (4 * input.length + 8) 0 (by omega) (by omega) (by omega)
    rw [read, htake]

end Nullability.Cache.Message
