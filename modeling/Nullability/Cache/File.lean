import Nullability.Cache
import Nullability.Cache.Message.Reader
import Nullability.Failure

/-!
# Cache files

A cache file is a header of eighteen bytes and a content. The header holds a signature, the version
of the layout, the length of the content and its digest; the content is the stamp and the list of
entries, each a key with kind, flag and parameters. Bytes behind the content do not count.

Reading checks in this order: length of the header, signature, version, length of the content,
digest, format of the content, layout of each entry from first to last, and the stamp.
-/

namespace Nullability.AnnotationCache

open Cache

/-- The signature at the start of a cache file. -/
def signature : List UInt8 := [88, 65, 78, 67]

/-- The version of the layout. -/
def schemaVersion : Nat := 1

/-- The length of the header. -/
def headerLength : Nat := 18

/-- The digest of a content. -/
def checksum (content : List UInt8) : List UInt8 :=
  Digest.blake2b 8 content

/-! ## Writing -/

/-- One parameter and its flag. -/
def writeParameter (entry : String × Bool) : Except WriteFault (List UInt8) := do
  return (← Message.writeText entry.1) ++ Message.writeBool entry.2

/-- A key and its facts. -/
def writeEntry (entry : String × MemberFacts) : Except WriteFault (List UInt8) := do
  let key ← Message.writeText entry.1
  let kind ← Message.writeText entry.2.kind
  let parameters := entry.2.parameters.entries
  let header ← Message.mapHeader parameters.length
  let flags ← Message.writeAll writeParameter parameters
  return 0x92 :: key ++ (0x93 :: kind ++ (Message.writeBool entry.2.isAnnotated ++
    (header ++ flags)))

/-- The stamp. -/
def writeStamp : Stamp → Except WriteFault (List UInt8)
  | .time n => Message.writeInt n
  | .truth b => .ok (Message.writeBool b)

/-- The content of the file of a cache. -/
def writeContent (cache : AnnotationCache) : Except WriteFault (List UInt8) := do
  let stamp ← writeStamp cache.stamp
  let header ← Message.listHeader cache.map.entries.length
  let entries ← Message.writeAll writeEntry cache.map.entries
  return 0x92 :: stamp ++ (header ++ entries)

/-- A content behind its header. -/
def enclose (content : List UInt8) : List UInt8 :=
  signature ++ (littleEndian 2 schemaVersion ++ (littleEndian 4 content.length ++
    (checksum content ++ content)))

/-- The bytes of the file of a cache. -/
def pack (cache : AnnotationCache) : Except WriteFault (List UInt8) := do
  let content ← cache.writeContent
  if content.length < 0x100000000 then return enclose content else .error .tooLong

/-! ## Reading -/

/-- Why a content is not that of a cache. -/
inductive LayoutFault where
  /-- Something does not consist of as many items as it should. -/
  | shape
  /-- The key of a member is not a text. -/
  | badKey (key : Message)
  /-- The kind of a member is not a text, or its parameters are not a map. -/
  | badMember (kind parameters : Message)

/-- The text of a layout fault. -/
def LayoutFault.reason : LayoutFault → String
  | .shape => "<layout error>"
  | .badKey key => "member key is not a string: " ++ key.literal
  | .badMember kind parameters =>
    "unexpected member layout: " ++ kind.literal ++ ", " ++ parameters.kindName

/-- The facts of a member: parameters are named by what their keys display, and flags are what
counts as true. -/
def readFacts (kind flag parameters : Message) : Except LayoutFault MemberFacts :=
  match kind, parameters with
  | .text kind, .map entries =>
    .ok ⟨kind, flag.truth,
      OrderedMap.ofList (entries.map (fun entry => (entry.1.display, entry.2.truth)))⟩
  | _, _ => .error (.badMember kind parameters)

/-- A key and its facts, each of anything that consists of the right number of items. -/
def readEntry (entry : Message) : Except LayoutFault (String × MemberFacts) :=
  match entry.items? with
  | some [key, facts] =>
    match facts.items? with
    | some [kind, flag, parameters] =>
      match key with
      | .text key => (readFacts kind flag parameters).map (fun facts => (key, facts))
      | _ => .error (.badKey key)
    | _ => .error .shape
  | _ => .error .shape

/-- The entries of a map, from first to last. -/
def readEntries (entries : Message) : Except LayoutFault AnnotationMap :=
  match entries.items? with
  | some items => (items.mapM readEntry).map OrderedMap.ofList
  | none => .error .shape

/-- The stamp and the map of a content; the stamp is judged last. -/
def readContent (content : Message) : Except LayoutFault (Message × AnnotationMap) :=
  match content.items? with
  | some [stamp, entries] => (readEntries entries).map (fun map => (stamp, map))
  | _ => .error .shape

/-- The stamp, if it is one. -/
def readStamp? : Message → Option Stamp
  | .int n => some (.time n)
  | .bool b => some (.truth b)
  | _ => none

/-- The cache that the content of a file holds; `source` names the file in faults. -/
def ofContent (source : String) (content : List UInt8) : Except Failure AnnotationCache :=
  let corrupt := fun reason => Except.error (.fault (.cacheCorrupt source reason))
  match Message.read content with
  | .error .malformed => corrupt "invalid msgpack payload: <msgpack error>"
  | .error .badKey => .error .badType
  | .ok message =>
    match readContent message with
    | .error fault => corrupt ("invalid payload structure: " ++ fault.reason)
    | .ok (stamp, map) =>
      match readStamp? stamp with
      | some stamp => .ok ⟨stamp, map⟩
      | none => corrupt "timestamp is not an integer"

/-- The cache that the bytes of a file hold; `source` names the file in faults. -/
def unpack (source : String) (bytes : List UInt8) : Except Failure AnnotationCache :=
  let corrupt := fun reason => Except.error (.fault (.cacheCorrupt source reason))
  let header := bytes.take headerLength
  if header.length < headerLength then
    corrupt ("data too short: " ++ toString bytes.length ++ " bytes")
  else
    let mark := header.take 4
    let version := ofLittleEndian ((header.drop 4).take 2)
    let length := ofLittleEndian ((header.drop 6).take 4)
    let content := (bytes.drop headerLength).take length
    if mark ≠ signature then corrupt ("invalid magic bytes " ++ Text.quotedBytes mark)
    else if version ≠ schemaVersion then
      .error (.fault (.cacheSchemaMismatch source version schemaVersion))
    else if content.length < length then
      corrupt ("payload truncated: " ++ toString content.length ++ " < " ++ toString length)
    else if checksum content ≠ header.drop 10 then corrupt "checksum mismatch"
    else ofContent source content

end Nullability.AnnotationCache
