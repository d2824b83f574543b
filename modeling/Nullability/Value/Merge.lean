import Nullability.Value

/-!
# Merging mappings

One mapping is laid over another one: under a key where both have a mapping the two are merged in
the same way, under any other key of the upper mapping its value stands. Keys of the lower mapping
keep their places and new keys follow in the order of the upper mapping.
-/

namespace Nullability.Value

mutual

/-- The pairs of a mapping with the pairs of another one laid over them. -/
def mergeEntries (lower : List (Value × Value)) : List (Value × Value) → List (Value × Value)
  | [] => lower
  | (key, v) :: rest => mergeEntries (store key (mergeUnder (lookup? key lower) v) lower) rest

/-- What stands under a key where the lower mapping has a value, or none, and the upper mapping has
another one. -/
def mergeUnder (lower : Option Value) : Value → Value
  | .mapping entries =>
    match lower with
    | some (.mapping under) => .mapping (mergeEntries under entries)
    | _ => .mapping entries
  | v => v

end

/-- One value laid over another one. -/
def mergeOver (lower upper : Value) : Value :=
  mergeUnder (some lower) upper

end Nullability.Value
