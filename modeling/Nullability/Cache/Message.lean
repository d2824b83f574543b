import Nullability.Cache.Digest
import Nullability.Text.Utf8
import Nullability.Value

/-!
# Messages

The self-describing values that the content of a cache file is made of, in the published MessagePack
format. A value is written in the shortest form that the format has for it. Reading takes every form.

What the content of a file may be used as is decided by what its values offer: the items that they
consist of, their truth, and their literals.
-/

namespace Nullability.Cache

/-- A value of the format. -/
inductive Message where
  | nil
  | bool (b : Bool)
  | int (n : Int)
  | real (x : Binary64)
  | text (s : String)
  | bytes (content : List UInt8)
  | list (items : List Message)
  | map (entries : List (Message × Message))
  /-- A value of an application's own type. -/
  | extension (type : Int) (content : List UInt8)
  /-- A point in time, in seconds and nanoseconds. -/
  | timestamp (seconds : Int) (nanoseconds : Nat)
  deriving Inhabited

/-- Why a value cannot be written. -/
inductive WriteFault where
  /-- An integer needs more than 64 bits. -/
  | integerTooLarge
  /-- A length needs more than 32 bits. -/
  | tooLong
  deriving DecidableEq, Repr, Inhabited

namespace Message

/-! ## Writing -/

/-- A number in big-endian bytes. -/
def bigEndian (count n : Nat) : List UInt8 :=
  (littleEndian count n).reverse

/-- An integer in the least number of bytes. -/
def writeInt (n : Int) : Except WriteFault (List UInt8) :=
  if 0 ≤ n then
    let n := n.toNat
    if n < 0x80 then .ok [UInt8.ofNat n]
    else if n < 0x100 then .ok (0xcc :: bigEndian 1 n)
    else if n < 0x10000 then .ok (0xcd :: bigEndian 2 n)
    else if n < 0x100000000 then .ok (0xce :: bigEndian 4 n)
    else if n < 0x10000000000000000 then .ok (0xcf :: bigEndian 8 n)
    else .error .integerTooLarge
  else if -0x20 ≤ n then .ok [UInt8.ofNat (n + 0x100).toNat]
  else if -0x80 ≤ n then .ok (0xd0 :: bigEndian 1 (n + 0x100).toNat)
  else if -0x8000 ≤ n then .ok (0xd1 :: bigEndian 2 (n + 0x10000).toNat)
  else if -0x80000000 ≤ n then .ok (0xd2 :: bigEndian 4 (n + 0x100000000).toNat)
  else if -0x8000000000000000 ≤ n then .ok (0xd3 :: bigEndian 8 (n + 0x10000000000000000).toNat)
  else .error .integerTooLarge

/-- The header of a text of some bytes. -/
def textHeader (length : Nat) : Except WriteFault (List UInt8) :=
  if length < 32 then .ok [UInt8.ofNat (0xa0 + length)]
  else if length < 0x100 then .ok (0xd9 :: bigEndian 1 length)
  else if length < 0x10000 then .ok (0xda :: bigEndian 2 length)
  else if length < 0x100000000 then .ok (0xdb :: bigEndian 4 length)
  else .error .tooLong

/-- The header of a list of some items. -/
def listHeader (length : Nat) : Except WriteFault (List UInt8) :=
  if length < 16 then .ok [UInt8.ofNat (0x90 + length)]
  else if length < 0x10000 then .ok (0xdc :: bigEndian 2 length)
  else if length < 0x100000000 then .ok (0xdd :: bigEndian 4 length)
  else .error .tooLong

/-- The header of a map of some entries. -/
def mapHeader (length : Nat) : Except WriteFault (List UInt8) :=
  if length < 16 then .ok [UInt8.ofNat (0x80 + length)]
  else if length < 0x10000 then .ok (0xde :: bigEndian 2 length)
  else if length < 0x100000000 then .ok (0xdf :: bigEndian 4 length)
  else .error .tooLong

/-- A truth value. -/
def writeBool (b : Bool) : List UInt8 :=
  [if b then 0xc3 else 0xc2]

/-- A text in UTF-8. -/
def writeText (s : String) : Except WriteFault (List UInt8) := do
  let content := Text.utf8 s
  return (← textHeader content.length) ++ content

/-- Parts one after the other. -/
def writeAll {α : Type} (write : α → Except WriteFault (List UInt8)) :
    List α → Except WriteFault (List UInt8)
  | items => do
    let parts ← items.mapM write
    return parts.flatten

/-! ## What values offer -/

/-- Numerical reading of a key: truth values count as one and zero. -/
def numeric? : Message → Option (Binary64 ⊕ Int)
  | .bool b => some (.inr (if b then 1 else 0))
  | .int n => some (.inr n)
  | .real x =>
    match x.toInt? with
    | some n => some (.inr n)
    | none => some (.inl x)
  | _ => none

/-- Whether two values that are no numbers, lists or maps have the same content. -/
def sameContent : Message → Message → Bool
  | .nil, .nil => true
  | .text s, .text t => s == t
  | .bytes b, .bytes c => b == c
  | .extension type b, .extension type' c => type == type' && b == c
  | .timestamp s n, .timestamp t m => s == t && n == m
  | _, _ => false

/-- Whether two values are the same key of a map: numbers and truth values agree by number, all
else by content. -/
def sameKey (a b : Message) : Bool :=
  match a.numeric?, b.numeric? with
  | some (.inr m), some (.inr n) => m == n
  | some (.inl x), some (.inl y) => x.numEq y
  | some _, some _ => false
  | none, none => a.sameContent b
  | _, _ => false

/-- Whether a value can be a key: lists and maps cannot. -/
def isKey : Message → Bool
  | .list _ | .map _ => false
  | _ => true

/-- Stores an entry: in place under a key that is there, else at the end. -/
def store (key value : Message) : List (Message × Message) → List (Message × Message)
  | [] => [(key, value)]
  | (k, v) :: rest =>
    if k.sameKey key then (k, value) :: rest else (k, v) :: store key value rest

/-- The items that a value consists of: of a list its items, of a text its characters, of bytes
their numbers, of a map its keys, of an extension its type and content. -/
def items? : Message → Option (List Message)
  | .list items => some items
  | .text s => some (s.toList.map (fun c => .text (String.ofList [c])))
  | .bytes content => some (content.map (fun b => .int b.toNat))
  | .map entries => some (entries.map Prod.fst)
  | .extension type content => some [.int type, .bytes content]
  | _ => none

/-- Whether a value counts as true: all but nothing, zero and what is empty. -/
def truth : Message → Bool
  | .nil => false
  | .bool b => b
  | .int n => n ≠ 0
  | .real x => !x.isZero
  | .text s => !s.isEmpty
  | .bytes content => !content.isEmpty
  | .list items => !items.isEmpty
  | .map entries => !entries.isEmpty
  | .extension _ _ => true
  | .timestamp _ _ => true

/-- The name of the kind of a value. -/
def kindName : Message → String
  | .nil => "NoneType"
  | .bool _ => "bool"
  | .int _ => "int"
  | .real _ => "float"
  | .text _ => "str"
  | .bytes _ => "bytes"
  | .list _ => "list"
  | .map _ => "dict"
  | .extension _ _ => "ExtType"
  | .timestamp _ _ => "Timestamp"

mutual

/-- A value as a literal on one line. -/
def literal : Message → String
  | .nil => "None"
  | .bool b => if b then "True" else "False"
  | .int n => toString n
  | .real x => x.render Value.realFormat
  | .text s => Text.quoted s
  | .bytes content => Text.quotedBytes content
  | .list items => "[" ++ Value.joined ", " (literals items) ++ "]"
  | .map entries => "\x7b" ++ Value.joined ", " (entryLiterals entries) ++ "\x7d"
  | .extension type content =>
    "ExtType(code=" ++ toString type ++ ", data=" ++ Text.quotedBytes content ++ ")"
  | .timestamp seconds nanoseconds =>
    "Timestamp(seconds=" ++ toString seconds ++ ", nanoseconds=" ++ toString nanoseconds ++ ")"

/-- The literals of some values. -/
def literals : List Message → List String
  | [] => []
  | v :: rest => literal v :: literals rest

/-- The entries of a map as literals. -/
def entryLiterals : List (Message × Message) → List String
  | [] => []
  | (k, v) :: rest => (literal k ++ ": " ++ literal v) :: entryLiterals rest

end

/-- A value as a name: a text as it is, all else as a literal. -/
def display : Message → String
  | .text s => s
  | v => v.literal

end Message

end Nullability.Cache
