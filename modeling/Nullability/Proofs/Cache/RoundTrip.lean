import Nullability.Cache.File
import Nullability.Proofs.Cache.Written

/-!
# Cache files are read as they were written

A cache stands for one message, its content is this message written down, and the layout of that
message is read as the cache. Main statement: a cache that fits the format can be written, and
reading its file gives the same cache, entries and parameters in the same order.
-/

namespace Nullability
open Cache Cache.Message Outcome

/-! ## Caches as messages -/

/-- The parameters of a member as entries of a map. -/
def MemberFacts.parameterMessages (facts : MemberFacts) : List (String × Message) :=
  facts.parameters.entries.map (fun entry => (entry.1, .bool entry.2))

/-- The facts of a member as a message. -/
def MemberFacts.toMessage (facts : MemberFacts) : Message :=
  .list [.text facts.kind, .bool facts.isAnnotated, .map (ofTexts facts.parameterMessages)]

/-- A key and its facts as a message. -/
def AnnotationMap.entryMessage (entry : String × MemberFacts) : Message :=
  .list [.text entry.1, entry.2.toMessage]

/-- A stamp as a message. -/
def Stamp.toMessage : Stamp → Message
  | .time n => .int n
  | .truth b => .bool b

/-- A cache as a message. -/
def AnnotationCache.toMessage (cache : AnnotationCache) : Message :=
  .list [cache.stamp.toMessage, .list (cache.map.entries.map AnnotationMap.entryMessage)]

namespace AnnotationCache

/-! ## The layout -/

lemma readFacts_toMessage (facts : MemberFacts) :
    readFacts (.text facts.kind) (.bool facts.isAnnotated)
      (.map (ofTexts facts.parameterMessages)) = .ok facts := by
  have hentries : (ofTexts facts.parameterMessages).map
      (fun entry => (entry.1.display, entry.2.truth)) = facts.parameters.entries := by
    simp [ofTexts, MemberFacts.parameterMessages, display, truth, Function.comp_def]
  rw [readFacts, hentries, OrderedMap.ofList_entries]
  rfl

lemma readEntry_entryMessage (entry : String × MemberFacts) :
    readEntry (AnnotationMap.entryMessage entry) = .ok entry := by
  simp only [readEntry, AnnotationMap.entryMessage, MemberFacts.toMessage, items?]
  rw [readFacts_toMessage]
  rfl

lemma readEntries_entryMessage (m : AnnotationMap) :
    readEntries (.list (m.entries.map AnnotationMap.entryMessage)) = .ok m := by
  have hitems : (m.entries.map AnnotationMap.entryMessage).mapM readEntry = .ok m.entries := by
    rw [mapM_eq_ok, List.forall₂_map_left_iff, List.forall₂_same]
    exact fun entry _ => readEntry_entryMessage entry
  show ((m.entries.map AnnotationMap.entryMessage).mapM readEntry).map OrderedMap.ofList = _
  rw [hitems]
  exact congrArg Except.ok (OrderedMap.ofList_entries m)

lemma readContent_toMessage (cache : AnnotationCache) :
    readContent cache.toMessage = .ok (cache.stamp.toMessage, cache.map) := by
  show (readEntries _).map (fun map => (cache.stamp.toMessage, map)) = _
  rw [readEntries_entryMessage]
  rfl

lemma readStamp?_toMessage (stamp : Stamp) : readStamp? stamp.toMessage = some stamp := by
  cases stamp with
  | time n => rfl
  | truth b => rfl

/-! ## The content -/

lemma reads_writeStamp {stamp : Stamp} {bytes : List UInt8} (h : writeStamp stamp = .ok bytes) :
    Reads 4 bytes stamp.toMessage := by
  cases stamp with
  | time n => exact reads_writeInt h
  | truth b => cases h; exact reads_writeBool 4 b

lemma readsEntry_writeParameter {entry : String × Bool} {bytes : List UInt8}
    (h : writeParameter entry = .ok bytes) : ReadsEntry 0 bytes (entry.1, .bool entry.2) := by
  obtain ⟨name, hname, h⟩ := bind_eq_ok.1 h
  cases h
  exact ⟨name, writeBool entry.2, rfl, reads_writeText hname, reads_writeBool 0 entry.2⟩

/-- What is written one after the other is the parts that are written alone. -/
lemma writeAll_eq_ok {α : Type} {write : α → Except WriteFault (List UInt8)} {items : List α}
    {bytes : List UInt8} : writeAll write items = .ok bytes ↔
      ∃ parts, List.Forall₂ (fun a part => write a = .ok part) items parts ∧
        bytes = parts.flatten := by
  rw [writeAll, bind_eq_ok]
  constructor
  · rintro ⟨parts, hparts, h⟩
    cases h
    exact ⟨parts, mapM_eq_ok.1 hparts, rfl⟩
  · rintro ⟨parts, hparts, rfl⟩
    exact ⟨parts, mapM_eq_ok.2 hparts, rfl⟩

/-- Two values behind the head of a list of two. -/
lemma reads_pair {height : Nat} {first second : List UInt8} {a b : Message}
    (ha : Reads height first a) (hb : Reads height second b) :
    Reads (height + 1) (0x92 :: first ++ second) (.list [a, b]) := by
  have hheader : listHeader [a, b].length = .ok [0x92] := rfl
  have hlist := reads_list hheader (.cons ha (.cons hb .nil))
  simpa using hlist

lemma reads_writeParameters {facts : MemberFacts} {header flags : List UInt8}
    (hheader : mapHeader facts.parameters.entries.length = .ok header)
    (hflags : writeAll writeParameter facts.parameters.entries = .ok flags) :
    Reads 1 (header ++ flags) (.map (ofTexts facts.parameterMessages)) := by
  obtain ⟨parts, hparts, rfl⟩ := writeAll_eq_ok.1 hflags
  apply reads_map
  · rw [MemberFacts.parameterMessages, List.length_map]
    exact hheader
  · rw [MemberFacts.parameterMessages, List.forall₂_map_right_iff]
    exact hparts.flip.imp fun _ _ h => readsEntry_writeParameter h
  · simpa [MemberFacts.parameterMessages, Pairs.keys, Function.comp_def] using
      facts.parameters.nodup_keys

lemma reads_writeEntry {entry : String × MemberFacts} {bytes : List UInt8}
    (h : writeEntry entry = .ok bytes) : Reads 3 bytes (AnnotationMap.entryMessage entry) := by
  obtain ⟨key, hkey, h⟩ := bind_eq_ok.1 h
  obtain ⟨kind, hkind, h⟩ := bind_eq_ok.1 h
  obtain ⟨header, hheader, h⟩ := bind_eq_ok.1 h
  obtain ⟨flags, hflags, h⟩ := bind_eq_ok.1 h
  cases h
  have hparameters := reads_writeParameters hheader hflags
  have hfacts : Reads 2 (0x93 :: kind ++ (writeBool entry.2.isAnnotated ++ (header ++ flags)))
      entry.2.toMessage := by
    have hitems := List.Forall₂.cons (reads_writeText hkind)
      (.cons (reads_writeBool 1 entry.2.isAnnotated) (.cons hparameters .nil))
    have hlist := reads_list (show listHeader _ = .ok [0x93] from rfl) hitems
    simpa [MemberFacts.toMessage] using hlist
  exact reads_pair (reads_writeText hkey) hfacts

/-- What is written as the content of a cache is read as the message of the cache. -/
lemma read_writeContent {cache : AnnotationCache} {content : List UInt8}
    (h : cache.writeContent = .ok content) : Message.read content = .ok cache.toMessage := by
  obtain ⟨stamp, hstamp, h⟩ := bind_eq_ok.1 h
  obtain ⟨header, hheader, h⟩ := bind_eq_ok.1 h
  obtain ⟨entries, hentries, h⟩ := bind_eq_ok.1 h
  cases h
  obtain ⟨parts, hparts, rfl⟩ := writeAll_eq_ok.1 hentries
  have hmap : Reads 4 (header ++ parts.flatten)
      (.list (cache.map.entries.map AnnotationMap.entryMessage)) := by
    apply reads_list
    · rw [List.length_map]
      exact hheader
    · rw [List.forall₂_map_right_iff]
      exact hparts.flip.imp fun _ _ h => reads_writeEntry h
  exact read_of_reads (reads_pair (reads_writeStamp hstamp) hmap) (by decide)

lemma ofContent_writeContent {cache : AnnotationCache} {content : List UInt8}
    (h : cache.writeContent = .ok content) (source : String) :
    ofContent source content = .ok cache := by
  rw [ofContent, read_writeContent h]
  simp only [readContent_toMessage, readStamp?_toMessage]

/-! ## The header -/

lemma length_checksum (content : List UInt8) : (checksum content).length = 8 := by
  have hwords (words : List UInt64) :
      (words.flatMap (fun word => littleEndian 8 word.toNat)).length = 8 * words.length := by
    induction words with
    | nil => rfl
    | cons word words ih =>
      rw [List.flatMap_cons, List.length_append, length_littleEndian, ih, List.length_cons]
      omega
  rw [checksum, Digest.blake2b, List.length_take, hwords, Vector.length_toList]
  rfl

/-- The header of a content. -/
def headerOf (content : List UInt8) : List UInt8 :=
  signature ++ (littleEndian 2 schemaVersion ++ (littleEndian 4 content.length ++
    checksum content))

lemma enclose_eq (content : List UInt8) : enclose content = headerOf content ++ content := by
  simp [enclose, headerOf]

lemma length_headerOf (content : List UInt8) : (headerOf content).length = headerLength := by
  simp [headerOf, length_checksum, signature, headerLength]

/-- The four fields of a header are judged from first to last, and then what stands behind them. -/
lemma unpack_fields {mark version length digest : List UInt8} (hmark : mark.length = 4)
    (hversion : version.length = 2) (hlength : length.length = 4) (hdigest : digest.length = 8)
    (source : String) (tail : List UInt8) :
    unpack source (mark ++ (version ++ (length ++ (digest ++ tail)))) =
      let found := tail.take (ofLittleEndian length)
      let corrupt := fun reason => Except.error (.fault (.cacheCorrupt source reason))
      if mark ≠ signature then corrupt ("invalid magic bytes " ++ Text.quotedBytes mark)
      else if ofLittleEndian version ≠ schemaVersion then
        .error (.fault (.cacheSchemaMismatch source (ofLittleEndian version) schemaVersion))
      else if found.length < ofLittleEndian length then
        corrupt ("payload truncated: " ++ toString found.length ++ " < " ++
          toString (ofLittleEndian length))
      else if checksum found ≠ digest then corrupt "checksum mismatch"
      else ofContent source found := by
  set header := mark ++ (version ++ (length ++ digest)) with hfields
  have hheader : header.length = headerLength := by
    simp [hfields, hmark, hversion, hlength, hdigest, headerLength]
  have hbytes : mark ++ (version ++ (length ++ (digest ++ tail))) = header ++ tail := by
    simp [hfields]
  have hmarkOf : header.take 4 = mark := List.take_left' hmark
  have hbehindMark : header.drop 4 = version ++ (length ++ digest) := List.drop_left' hmark
  have hversionOf : (header.drop 4).take 2 = version := by
    rw [hbehindMark]
    exact List.take_left' hversion
  have hbehindVersion : header.drop 6 = length ++ digest := by
    rw [← List.drop_drop (i := 2) (j := 4), hbehindMark]
    exact List.drop_left' hversion
  have hlengthOf : (header.drop 6).take 4 = length := by
    rw [hbehindVersion]
    exact List.take_left' hlength
  have hdigestOf : header.drop 10 = digest := by
    rw [← List.drop_drop (i := 4) (j := 6), hbehindVersion]
    exact List.drop_left' hlength
  simp only [unpack, hbytes, List.take_left' hheader, List.drop_left' hheader, hmarkOf, hversionOf,
    hlengthOf, hdigestOf, hheader, lt_irrefl, if_false]

/-- Behind the header of a content only as many bytes count as the content has, and they must have
its digest. -/
lemma unpack_headerOf_append {content : List UInt8} (h : content.length < 0x100000000)
    (source : String) (tail : List UInt8) :
    unpack source (headerOf content ++ tail) =
      let found := tail.take content.length
      let corrupt := fun reason => Except.error (.fault (.cacheCorrupt source reason))
      if found.length < content.length then
        corrupt ("payload truncated: " ++ toString found.length ++ " < " ++
          toString content.length)
      else if checksum found ≠ checksum content then corrupt "checksum mismatch"
      else ofContent source found := by
  have hfields : headerOf content ++ tail = signature ++ (littleEndian 2 schemaVersion ++
      (littleEndian 4 content.length ++ (checksum content ++ tail))) := by
    simp [headerOf]
  have hversion : ofLittleEndian (littleEndian 2 schemaVersion) = schemaVersion := rfl
  have hlength : ofLittleEndian (littleEndian 4 content.length) = content.length :=
    ofLittleEndian_littleEndian_of_lt h
  rw [hfields, unpack_fields rfl (length_littleEndian 2 _) (length_littleEndian 4 _)
    (length_checksum content), hversion, hlength]
  simp only [ne_eq, not_true_eq_false, if_false]

/-- The content behind a header is taken for what it is, whatever stands behind it. -/
lemma unpack_enclose_append {content : List UInt8} (h : content.length < 0x100000000)
    (source : String) (more : List UInt8) :
    unpack source (enclose content ++ more) = ofContent source content := by
  rw [enclose_eq, List.append_assoc, unpack_headerOf_append h]
  simp

/-- What was packed is read again, whatever stands behind it. -/
lemma unpack_of_pack {cache : AnnotationCache} {bytes : List UInt8} (h : cache.pack = .ok bytes)
    (source : String) (more : List UInt8) : unpack source (bytes ++ more) = .ok cache := by
  obtain ⟨content, hcontent, h⟩ := bind_eq_ok.1 h
  split_ifs at h with hlength
  cases h
  rw [unpack_enclose_append hlength, ofContent_writeContent hcontent]

/-! ## What fits the format -/

/-- The lengths of a member's texts and the number of its parameters fit 32 bits. -/
structure MemberFits (entry : String × MemberFacts) : Prop where
  key : (Text.utf8 entry.1).length < 0x100000000
  kind : (Text.utf8 entry.2.kind).length < 0x100000000
  parameters : entry.2.parameters.size < 0x100000000
  names : ∀ parameter ∈ entry.2.parameters.entries,
    (Text.utf8 parameter.1).length < 0x100000000

/-- The time of a cache fits 64 bits, signed or not, and its lengths and counts fit 32 bits. -/
structure Fits (cache : AnnotationCache) : Prop where
  least : -0x8000000000000000 ≤ cache.stamp.nanoseconds
  most : cache.stamp.nanoseconds < 0x10000000000000000
  members : cache.map.size < 0x100000000
  member : ∀ entry ∈ cache.map.entries, MemberFits entry
  content : ∀ content, cache.writeContent = .ok content → content.length < 0x100000000

instance (entry : String × MemberFacts) : Decidable (MemberFits entry) :=
  decidable_of_iff
    ((Text.utf8 entry.1).length < 0x100000000 ∧ (Text.utf8 entry.2.kind).length < 0x100000000 ∧
      entry.2.parameters.size < 0x100000000 ∧
      ∀ parameter ∈ entry.2.parameters.entries, (Text.utf8 parameter.1).length < 0x100000000)
    ⟨fun ⟨key, kind, parameters, names⟩ => ⟨key, kind, parameters, names⟩,
      fun h => ⟨h.key, h.kind, h.parameters, h.names⟩⟩

instance (cache : AnnotationCache) : Decidable cache.Fits :=
  decidable_of_iff
    (-0x8000000000000000 ≤ cache.stamp.nanoseconds ∧
      cache.stamp.nanoseconds < 0x10000000000000000 ∧ cache.map.size < 0x100000000 ∧
      (∀ entry ∈ cache.map.entries, MemberFits entry) ∧
      ∀ content ∈ cache.writeContent.toOption, content.length < 0x100000000)
    ⟨fun ⟨least, most, members, member, content⟩ =>
        ⟨least, most, members, member, fun c h => content c (by rw [h]; rfl)⟩,
      fun h => ⟨h.least, h.most, h.members, h.member, fun c hc => h.content c (by
        cases hcontent : cache.writeContent with
        | error fault => rw [hcontent] at hc; cases hc
        | ok content => rw [hcontent] at hc; cases hc; rfl)⟩⟩

lemma exists_writeStamp {stamp : Stamp} (hleast : -0x8000000000000000 ≤ stamp.nanoseconds)
    (hmost : stamp.nanoseconds < 0x10000000000000000) : ∃ bytes, writeStamp stamp = .ok bytes := by
  cases stamp with
  | time n => exact exists_writeInt hleast hmost
  | truth b => exact ⟨writeBool b, rfl⟩

lemma exists_writeAll {α : Type} {write : α → Except WriteFault (List UInt8)} {items : List α}
    (h : ∀ a ∈ items, ∃ bytes, write a = .ok bytes) :
    ∃ bytes, writeAll write items = .ok bytes := by
  obtain ⟨parts, hparts⟩ := exists_mapM h
  exact ⟨parts.flatten, writeAll_eq_ok.2 ⟨parts, mapM_eq_ok.1 hparts, rfl⟩⟩

lemma exists_writeEntry {entry : String × MemberFacts} (h : MemberFits entry) :
    ∃ bytes, writeEntry entry = .ok bytes := by
  obtain ⟨key, hkey⟩ := exists_writeText h.key
  obtain ⟨kind, hkind⟩ := exists_writeText h.kind
  obtain ⟨header, hheader⟩ := exists_mapHeader h.parameters
  have hnames : ∀ parameter ∈ entry.2.parameters.entries,
      ∃ bytes, writeParameter parameter = .ok bytes := by
    intro parameter hmem
    obtain ⟨name, hname⟩ := exists_writeText (h.names parameter hmem)
    exact ⟨name ++ writeBool parameter.2, bind_eq_ok.2 ⟨name, hname, rfl⟩⟩
  obtain ⟨flags, hflags⟩ := exists_writeAll hnames
  exact ⟨_, bind_eq_ok.2 ⟨key, hkey, bind_eq_ok.2 ⟨kind, hkind, bind_eq_ok.2 ⟨header, hheader,
    bind_eq_ok.2 ⟨flags, hflags, rfl⟩⟩⟩⟩⟩

lemma exists_pack {cache : AnnotationCache} (h : cache.Fits) :
    ∃ bytes, cache.pack = .ok bytes := by
  obtain ⟨stamp, hstamp⟩ := exists_writeStamp h.least h.most
  obtain ⟨header, hheader⟩ := exists_listHeader h.members
  obtain ⟨entries, hentries⟩ := exists_writeAll fun entry hmem =>
    exists_writeEntry (h.member entry hmem)
  have hcontent : cache.writeContent = .ok (0x92 :: stamp ++ (header ++ entries)) :=
    bind_eq_ok.2 ⟨stamp, hstamp, bind_eq_ok.2 ⟨header, hheader,
      bind_eq_ok.2 ⟨entries, hentries, rfl⟩⟩⟩
  refine ⟨enclose (0x92 :: stamp ++ (header ++ entries)), bind_eq_ok.2 ⟨_, hcontent, ?_⟩⟩
  exact if_pos (h.content _ hcontent)

/-- A cache that fits the format can be written, and reading its file gives the same cache: the
same stamp and the same entries in the same order, each with the same kind, flag and parameters. -/
theorem unpack_pack {cache : AnnotationCache} (h : cache.Fits) :
    ∃ bytes, cache.pack = .ok bytes ∧ ∀ source, unpack source bytes = .ok cache := by
  obtain ⟨bytes, hbytes⟩ := exists_pack h
  refine ⟨bytes, hbytes, fun source => ?_⟩
  have hunpack := unpack_of_pack hbytes source []
  rwa [List.append_nil] at hunpack

/-- A cache with a negative time of two bytes, an empty key, a key of 257 bytes that is not ASCII
throughout, and as many parameters as no longer fit the short form of a map. -/
def sample : AnnotationCache :=
  ⟨.time (-129), .ofList [("", ⟨"?", false, .empty⟩),
    (String.ofList ('é' :: List.replicate 255 'a'),
      ⟨"M", true, .ofList ((List.range 16).map (fun n => (toString n, n % 2 = 0)))⟩)]⟩

theorem unpack_pack_sample :
    sample.Fits ∧ ∃ bytes, sample.pack = .ok bytes ∧ ∀ source, unpack source bytes = .ok sample := by
  have hfits : sample.Fits := by decide +kernel
  exact ⟨hfits, unpack_pack hfits⟩

end AnnotationCache

end Nullability
