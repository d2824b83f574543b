/-!
# Digests

The BLAKE2b hash without a key, by which a cache file vouches for its content. The state is eight
words of 64 bits; each block of 128 bytes is mixed in by twelve rounds, and the count of bytes so
far goes along. A digest is the first bytes of the last state.
-/

namespace Nullability.Cache

/-- Bytes as a number, the lowest byte first. -/
def ofLittleEndian : List UInt8 → Nat
  | [] => 0
  | b :: rest => b.toNat + 256 * ofLittleEndian rest

/-- The lowest bytes of a number, the lowest first. -/
def littleEndian : (count : Nat) → Nat → List UInt8
  | 0, _ => []
  | count + 1, n => UInt8.ofNat n :: littleEndian count (n / 256)

namespace Digest

/-- The words that every hash starts from. -/
def startWords : Vector UInt64 8 :=
  #v[0x6a09e667f3bcc908, 0xbb67ae8584caa73b, 0x3c6ef372fe94f82b, 0xa54ff53a5f1d36f1,
    0x510e527fade682d1, 0x9b05688c2b3e6c1f, 0x1f83d9abfb41bd6b, 0x5be0cd19137e2179]

/-- The order in which each round uses the words of a block. -/
def schedule : List (Vector (Fin 16) 16) :=
  [#v[0, 1, 2, 3, 4, 5, 6, 7, 8, 9, 10, 11, 12, 13, 14, 15],
   #v[14, 10, 4, 8, 9, 15, 13, 6, 1, 12, 0, 2, 11, 7, 5, 3],
   #v[11, 8, 12, 0, 5, 2, 15, 13, 10, 14, 3, 6, 7, 1, 9, 4],
   #v[7, 9, 3, 1, 13, 12, 11, 14, 2, 6, 5, 10, 4, 0, 15, 8],
   #v[9, 0, 5, 7, 2, 4, 10, 15, 14, 1, 11, 12, 6, 8, 3, 13],
   #v[2, 12, 6, 10, 0, 11, 8, 3, 4, 13, 7, 5, 15, 14, 1, 9],
   #v[12, 5, 1, 15, 14, 13, 4, 10, 0, 7, 6, 3, 9, 2, 8, 11],
   #v[13, 11, 7, 14, 12, 1, 3, 9, 5, 0, 15, 4, 8, 6, 2, 10],
   #v[6, 15, 14, 9, 11, 3, 0, 8, 12, 2, 13, 7, 1, 4, 10, 5],
   #v[10, 2, 8, 4, 7, 6, 1, 5, 15, 11, 9, 14, 3, 12, 13, 0],
   #v[0, 1, 2, 3, 4, 5, 6, 7, 8, 9, 10, 11, 12, 13, 14, 15],
   #v[14, 10, 4, 8, 9, 15, 13, 6, 1, 12, 0, 2, 11, 7, 5, 3]]

/-- A word turned to the right. -/
def rotateRight (x : UInt64) (n : UInt64) : UInt64 :=
  (x >>> n) ||| (x <<< (64 - n))

/-- Mixes two words of a block into four words of the state. -/
def mix (v : Vector UInt64 16) (a b c d : Fin 16) (x y : UInt64) : Vector UInt64 16 :=
  let v := v.set a (v[a] + v[b] + x)
  let v := v.set d (rotateRight (v[d] ^^^ v[a]) 32)
  let v := v.set c (v[c] + v[d])
  let v := v.set b (rotateRight (v[b] ^^^ v[c]) 24)
  let v := v.set a (v[a] + v[b] + y)
  let v := v.set d (rotateRight (v[d] ^^^ v[a]) 16)
  let v := v.set c (v[c] + v[d])
  v.set b (rotateRight (v[b] ^^^ v[c]) 63)

/-- One round: the columns of the state, then its diagonals. -/
def round (m : Vector UInt64 16) (v : Vector UInt64 16) (s : Vector (Fin 16) 16) :
    Vector UInt64 16 :=
  let v := mix v 0 4 8 12 m[s[0]] m[s[1]]
  let v := mix v 1 5 9 13 m[s[2]] m[s[3]]
  let v := mix v 2 6 10 14 m[s[4]] m[s[5]]
  let v := mix v 3 7 11 15 m[s[6]] m[s[7]]
  let v := mix v 0 5 10 15 m[s[8]] m[s[9]]
  let v := mix v 1 6 11 12 m[s[10]] m[s[11]]
  let v := mix v 2 7 8 13 m[s[12]] m[s[13]]
  mix v 3 4 9 14 m[s[14]] m[s[15]]

/-- The words of a block, which is filled up with zeros. -/
def blockWords (block : List UInt8) : Vector UInt64 16 :=
  Vector.ofFn (fun i => UInt64.ofNat (ofLittleEndian ((block.drop (8 * i.val)).take 8)))

/-- The state after a block, given the number of bytes up to its end. -/
def compress (h : Vector UInt64 8) (block : List UInt8) (count : Nat) (isLast : Bool) :
    Vector UInt64 8 :=
  let v : Vector UInt64 16 := h ++ startWords
  let v := v.set 12 (v[12] ^^^ UInt64.ofNat count)
  let v := v.set 13 (v[13] ^^^ UInt64.ofNat (count / 0x10000000000000000))
  let v := if isLast then v.set 14 (~~~ v[14]) else v
  let v := schedule.foldl (round (blockWords block)) v
  Vector.ofFn (fun i => h[i] ^^^ v.get ⟨i.val, by omega⟩ ^^^ v.get ⟨i.val + 8, by omega⟩)

/-- The state after all blocks of some bytes; `fuel` bounds the number of blocks. -/
def absorb : (fuel : Nat) → Vector UInt64 8 → (count : Nat) → List UInt8 → Vector UInt64 8
  | 0, h, _, _ => h
  | fuel + 1, h, count, bytes =>
    match bytes.drop 128 with
    | [] => compress h bytes (count + bytes.length) true
    | rest => absorb fuel (compress h (bytes.take 128) (count + 128) false) (count + 128) rest

/-- The digest of some bytes in `size` bytes, at most 64. -/
def blake2b (size : Nat) (bytes : List UInt8) : List UInt8 :=
  let h := startWords.set 0 (startWords[0] ^^^ 0x01010000 ^^^ UInt64.ofNat size)
  let h := absorb (bytes.length / 128 + 1) h 0 bytes
  (h.toList.flatMap (fun word => littleEndian 8 word.toNat)).take size

end Digest

end Nullability.Cache
