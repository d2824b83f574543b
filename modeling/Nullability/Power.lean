/-!
# Powers

Numbers are scaled by powers of two, in which they are stored, and of ten, in which they are
written.
-/

namespace Nullability

/-- A power of two. -/
def twoTo (n : Nat) : Nat :=
  Nat.pow 2 n

/-- A power of ten. -/
def tenTo (n : Nat) : Nat :=
  Nat.pow 10 n

end Nullability
