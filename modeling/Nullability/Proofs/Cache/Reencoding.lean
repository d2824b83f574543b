import Nullability.Proofs.Cache.Acceptance
import Nullability.Proofs.Cache.Length

/-!
# What is read can be written

Reading takes far more than writing makes: every form of the format, anything that consists of the
right number of items in the place of a list, anything with a literal as the name of a parameter,
anything at all as a flag, and keys and names that come more than once. `unpack_eq_ok_iff` says
which files are read, and as which cache. Whatever was read fits the format again, up to the length
of the content, and comes back unchanged from there.
-/

namespace Nullability
open Cache Cache.Message Outcome

namespace Cache.Message

/-! ## Integers -/

/-- What an integer of 64 bits can be, signed or not. -/
def IsWord (n : Int) : Prop :=
  -0x8000000000000000 ≤ n ∧ n < 0x10000000000000000

variable {levels n : Nat} {input bytes rest : List UInt8} {v message : Message}
  {items : List Message} {entries : List (Message × Message)}

lemma ofBigEndian_lt (digits : List UInt8) : ofBigEndian digits < 256 ^ digits.length := by
  have hlt := ofLittleEndian_lt digits.reverse
  rwa [← ofBigEndian_reverse, List.reverse_reverse, List.length_reverse] at hlt

lemma isWord_signed {count m : Nat} (hcount : count ∈ [1, 2, 4, 8]) (hm : m < 256 ^ count) :
    IsWord (signed count m) := by
  simp only [List.mem_cons, List.not_mem_nil, or_false] at hcount
  rw [IsWord, signed]
  rcases hcount with rfl | rfl | rfl | rfl
  all_goals
    norm_num [twoTo] at hm ⊢
    split_ifs
    all_goals omega

/-- Points in time are the only values that their type makes. -/
lemma exists_timestamp {content : List UInt8} (h : timestampOf content = .ok v) :
    ∃ seconds nanoseconds, v = .timestamp seconds nanoseconds := by
  rw [timestampOf] at h
  dsimp only at h
  split at h
  · split_ifs at h
    exact ⟨_, _, (Except.ok.inj h).symm⟩
  · split_ifs at h
    exact ⟨_, _, (Except.ok.inj h).symm⟩
  · split_ifs at h
    exact ⟨_, _, (Except.ok.inj h).symm⟩
  · cases h

lemma isWord_of_piece {m : Int} (h : Format.Piece bytes (.int m)) : IsWord m := by
  cases h with
  | small h =>
    rw [IsWord]
    omega
  | negative h =>
    rw [IsWord]
    omega
  | @natural mark digits h =>
    have hlt := ofBigEndian_lt digits
    simp only [Format.naturalMarks, List.mem_cons, Prod.mk.injEq, List.not_mem_nil, or_false] at h
    rw [IsWord]
    rcases h with ⟨-, h⟩ | ⟨-, h⟩ | ⟨-, h⟩ | ⟨-, h⟩
    all_goals
      rw [h] at hlt
      omega
  | @integer mark digits h =>
    apply isWord_signed _ (ofBigEndian_lt digits)
    simp only [Format.integerMarks, List.mem_cons, Prod.mk.injEq, List.not_mem_nil, or_false] at h
    rcases h with ⟨-, h⟩ | ⟨-, h⟩ | ⟨-, h⟩ | ⟨-, h⟩
    all_goals simp [h]
  | timestamp _ _ hv =>
    obtain ⟨seconds, nanoseconds, hv⟩ := exists_timestamp hv
    cases hv

/-- Every integer in the format has at most 64 bits. -/
lemma isWord_of_value {m : Int} (h : Format.Value levels input (.int m) rest) : IsWord m := by
  cases h with
  | piece h => exact isWord_of_piece h

lemma exists_value_of_mem (h : Format.Items levels n input items rest) (hv : v ∈ items) :
    ∃ input rest, Format.Value levels input v rest := by
  induction h using @Format.Items.rec (fun _ _ _ _ _ => True) _ (fun _ _ _ _ _ _ => True) with
  | noItem => exact absurd hv List.not_mem_nil
  | item hvalue _ _ ih =>
    cases List.mem_cons.1 hv with
    | inl heq => exact ⟨_, _, heq ▸ hvalue⟩
    | inr hrest => exact ih hrest
  | _ => trivial

lemma exists_value_of_mem_keys (h : Format.Entries levels n input entries rest)
    (hv : v ∈ entries.map Prod.fst) : ∃ input rest, Format.Value levels input v rest := by
  induction h using @Format.Entries.rec (fun _ _ _ _ _ => True) (fun _ _ _ _ _ _ => True) _ with
  | noEntry => exact absurd hv List.not_mem_nil
  | entry hkey _ _ _ _ _ ih =>
    cases List.mem_cons.1 hv with
    | inl heq =>
      rw [heq]
      exact ⟨_, _, hkey⟩
    | inr hrest => exact ih hrest
  | _ => trivial

/-- Storing an entry adds no key but its own. -/
lemma mem_keys_store {key value : Message} {done : List (Message × Message)}
    (h : v ∈ (store key value done).map Prod.fst) : v = key ∨ v ∈ done.map Prod.fst := by
  induction done with
  | nil => exact .inl (List.mem_singleton.1 h)
  | cons entry done ih =>
    obtain ⟨k, found⟩ := entry
    rw [store] at h
    split_ifs at h with hsame
    · exact .inr h
    · rw [List.map_cons, List.mem_cons] at h ⊢
      cases h with
      | inl heq => exact .inr (.inl heq)
      | inr hrest =>
        cases ih hrest with
        | inl heq => exact .inl heq
        | inr hdone => exact .inr (.inr hdone)

lemma mem_keys_foldl_store {done : List (Message × Message)}
    (h : v ∈ (entries.foldl (fun done entry => store entry.1 entry.2 done) done).map Prod.fst) :
    v ∈ entries.map Prod.fst ∨ v ∈ done.map Prod.fst := by
  induction entries generalizing done with
  | nil => exact .inr h
  | cons entry entries ih =>
    rw [List.map_cons, List.mem_cons]
    cases ih h with
    | inl hrest => exact .inl (.inr hrest)
    | inr hdone =>
      cases mem_keys_store hdone with
      | inl heq => exact .inl (.inl heq)
      | inr hold => exact .inr hold

/-- So has every integer that a value in the format consists of. -/
lemma isWord_of_mem_items? {m : Int} (h : Format.Value levels input message rest)
    (hitems : message.items? = some items) (hm : .int m ∈ items) : IsWord m := by
  cases h with
  | list hhead hlist =>
    cases hitems
    obtain ⟨input, rest, hvalue⟩ := exists_value_of_mem hlist hm
    exact isWord_of_value hvalue
  | map hhead hmap =>
    cases hitems
    obtain hkey | hnone := mem_keys_foldl_store hm
    · obtain ⟨input, rest, hvalue⟩ := exists_value_of_mem_keys hmap hkey
      exact isWord_of_value hvalue
    · exact absurd hnone List.not_mem_nil
  | piece h =>
    cases h with
    | text hhead hs =>
      cases hitems
      obtain ⟨c, -, hc⟩ := List.mem_map.1 hm
      cases hc
    | bytes hhead =>
      cases hitems
      obtain ⟨b, -, hb⟩ := List.mem_map.1 hm
      have hlt : b.toNat < 256 := b.toNat_lt
      cases hb
      rw [IsWord]
      omega
    | @extension head content type hhead htype =>
      cases hitems
      have hlt : type.toNat < 256 ^ 1 := type.toNat_lt
      have htype : m = signed 1 type.toNat := by simpa using hm
      exact htype ▸ isWord_signed (by decide) hlt
    | timestamp hhead htype hv =>
      obtain ⟨seconds, nanoseconds, rfl⟩ := exists_timestamp hv
      cases hitems
    | _ => cases hitems

end Cache.Message

namespace AnnotationCache

/-! ## What is read -/

/-- What an item of the content says of a member. The key and the kind are texts; each parameter
is named by what its key displays, and each flag is what counts as true. -/
inductive TellsMember : Message → String × MemberFacts → Prop where
  | told {item facts flag : Message} {key kind : String} {parameters : List (Message × Message)}
    (hitem : item.items? = some [.text key, facts])
    (hfacts : facts.items? = some [.text kind, flag, .map parameters]) :
    TellsMember item (key, ⟨kind, flag.truth,
      .ofList (parameters.map (fun entry => (entry.1.display, entry.2.truth)))⟩)

/-- What a value says of a cache: a stamp, and the members one after the other, of which the last
one of a key counts. -/
inductive TellsCache : Message → AnnotationCache → Prop where
  | told {message time entries : Message} {stamp : Stamp} {items : List Message}
    {members : List (String × MemberFacts)} (hmessage : message.items? = some [time, entries])
    (hstamp : readStamp? time = some stamp) (hentries : entries.items? = some items)
    (hmembers : List.Forall₂ TellsMember items members) :
    TellsCache message ⟨stamp, .ofList members⟩

/-- Whether the header of a file is in order, and its content a value that says this of a cache. -/
def HoldsCache (bytes : List UInt8) (cache : AnnotationCache) : Prop :=
  ∃ content more message, content.length < 0x100000000 ∧ bytes = enclose content ++ more ∧
    Format.Value depthLimit content message [] ∧ TellsCache message cache

variable {source : String} {bytes content : List UInt8} {cache : AnnotationCache}

lemma readEntry_eq_ok_iff {item : Message} {entry : String × MemberFacts} :
    readEntry item = .ok entry ↔ TellsMember item entry := by
  constructor
  · intro h
    rw [readEntry] at h
    split at h
    · rename_i key facts hitem
      split at h
      · rename_i kind flag parameters hfacts
        split at h
        · obtain ⟨found, hfound, rfl⟩ := map_eq_ok.1 h
          unfold readFacts at hfound
          split at hfound
          · cases hfound
            exact .told hitem hfacts
          · cases hfound
        · cases h
      · cases h
    · cases h
  · rintro ⟨hitem, hfacts⟩
    rw [readEntry, hitem]
    dsimp only
    rw [hfacts]
    rfl

lemma exists_readContent_iff {message : Message} :
    (∃ time map, readContent message = .ok (time, map) ∧ ∃ stamp, readStamp? time = some stamp ∧
      cache = ⟨stamp, map⟩) ↔ TellsCache message cache := by
  constructor
  · rintro ⟨time, map, hcontent, stamp, hstamp, rfl⟩
    rw [readContent] at hcontent
    split at hcontent
    · rename_i found entries hmessage
      obtain ⟨members, hmembers, heq⟩ := map_eq_ok.1 hcontent
      cases heq
      rw [readEntries] at hmembers
      split at hmembers
      · rename_i items hentries
        obtain ⟨told, htold, rfl⟩ := map_eq_ok.1 hmembers
        exact .told hmessage hstamp hentries
          ((mapM_eq_ok.1 htold).imp fun _ _ => readEntry_eq_ok_iff.1)
      · cases hmembers
    · cases hcontent
  · intro h
    cases h with
    | @told time entries stamp items members hmessage hstamp hentries hmembers =>
      have htold : items.mapM readEntry = .ok members :=
        mapM_eq_ok.2 (hmembers.imp fun _ _ => readEntry_eq_ok_iff.2)
      refine ⟨time, .ofList members, ?_, stamp, hstamp, rfl⟩
      rw [readContent, hmessage]
      dsimp only
      rw [readEntries, hentries]
      dsimp only
      rw [htold]
      rfl

lemma ofContent_eq_ok_iff : ofContent source content = .ok cache ↔
    ∃ message, Format.Value depthLimit content message [] ∧ TellsCache message cache := by
  constructor
  · intro h
    rw [ofContent] at h
    split at h
    · cases h
    · cases h
    · rename_i message hread
      split at h
      · cases h
      · rename_i time map hcontent
        split at h
        · rename_i stamp hstamp
          refine ⟨message, read_eq_ok_iff.1 hread, exists_readContent_iff.1 ?_⟩
          exact ⟨time, map, hcontent, stamp, hstamp, (Except.ok.inj h).symm⟩
        · cases h
  · rintro ⟨message, hvalue, htells⟩
    obtain ⟨time, map, hcontent, stamp, hstamp, rfl⟩ := exists_readContent_iff.2 htells
    rw [ofContent, read_eq_ok_iff.2 hvalue]
    dsimp only
    rw [hcontent]
    dsimp only
    rw [hstamp]

/-- A file that is read has a header that is in order. -/
lemma exists_contentOf? (h : unpack source bytes = .ok cache) :
    ∃ content, contentOf? bytes = some content := by
  rw [unpack] at h
  rw [contentOf?]
  dsimp only at h ⊢
  split_ifs at h ⊢
  exact ⟨_, rfl⟩

/-- A file is read as a cache exactly if it holds this cache. -/
theorem unpack_eq_ok_iff : unpack source bytes = .ok cache ↔ HoldsCache bytes cache := by
  constructor
  · intro h
    obtain ⟨content, hcontent⟩ := exists_contentOf? h
    rw [unpack_of_contentOf? hcontent] at h
    obtain ⟨message, hvalue, htells⟩ := ofContent_eq_ok_iff.1 h
    obtain ⟨hlength, more, hbytes⟩ := eq_enclose_of_contentOf? hcontent
    exact ⟨content, more, message, hlength, hbytes, hvalue, htells⟩
  · rintro ⟨content, more, message, hlength, rfl, hvalue, htells⟩
    rw [unpack_enclose_append hlength]
    exact ofContent_eq_ok_iff.2 ⟨message, hvalue, htells⟩

/-! ## Writing it again -/

/-- The time of a cache that was read has at most 64 bits. -/
lemma isWord_of_holdsCache (h : HoldsCache bytes cache) : IsWord cache.stamp.nanoseconds := by
  obtain ⟨content, more, message, -, -, hvalue, htells⟩ := h
  cases htells with
  | @told time _ _ _ _ hmessage hstamp _ _ =>
    cases time with
    | int m =>
      cases hstamp
      exact isWord_of_mem_items? hvalue hmessage List.mem_cons_self
    | bool b =>
      cases hstamp
      rw [IsWord, Stamp.nanoseconds]
      split_ifs
      all_goals omega
    | _ => cases hstamp

/-- A cache that was read can be written again, unless its content becomes too long, and from what
is written the same cache is read: the same stamp and the same members in the same order, each with
the same kind, flag and parameters. -/
theorem stable_of_unpack (h : unpack source bytes = .ok cache) :
    HoldsCache bytes cache ∧
    (cache.contentLength < 0x100000000 → ∃ packed, cache.pack = .ok packed ∧
      packed.length = headerLength + cache.contentLength ∧
      ∀ source' more, unpack source' (packed ++ more) = .ok cache) := by
  have hholds := unpack_eq_ok_iff.1 h
  refine ⟨hholds, ?_⟩
  intro hlength
  obtain ⟨hleast, hmost⟩ := isWord_of_holdsCache hholds
  obtain ⟨packed, hpacked⟩ := exists_pack_iff.2 ⟨hleast, hmost, hlength⟩
  exact ⟨packed, hpacked, length_of_pack hpacked, unpack_of_pack hpacked⟩

/-- The content of a file that no writer makes: a list with a long head, the time 5 in two bytes,
and two members of one key. The second one has nothing as its flag and two parameters of which the
keys, a number and a text, display the same. -/
def liberalContent : List UInt8 :=
  [0xdc, 0, 2, 0xcd, 0, 5, 0x92,
    0x92, 0xa1, 65, 0x93, 0xa1, 84, 1, 0x80,
    0x92, 0xa1, 65, 0x93, 0xa1, 77, 0xc0, 0x82, 1, 1, 0xa1, 49, 0]

/-- The cache that is read from this content. -/
def liberalCache : AnnotationCache :=
  ⟨.time 5, .ofList [("A", ⟨"M", false, .ofList [("1", false)]⟩)]⟩

theorem stable_of_unpack_liberal :
    unpack "" (enclose liberalContent ++ [0]) = .ok liberalCache ∧
    HoldsCache (enclose liberalContent ++ [0]) liberalCache ∧
    liberalCache.contentLength < 0x100000000 ∧ ∃ packed, liberalCache.pack = .ok packed ∧
      packed.length = headerLength + liberalCache.contentLength ∧
      ∀ source' more, unpack source' (packed ++ more) = .ok liberalCache := by
  have hunpack : unpack "" (enclose liberalContent ++ [0]) = .ok liberalCache := by
    rw [unpack_enclose_append (by decide)]
    exact eq_ok_of_toOption (by decide +kernel)
  have hlength : liberalCache.contentLength < 0x100000000 := by decide +kernel
  obtain ⟨hholds, hwritten⟩ := stable_of_unpack hunpack
  exact ⟨hunpack, hholds, hlength, hwritten hlength⟩

end AnnotationCache

end Nullability
