import Nullability.AnnotationMap

/-!
# Caches

A cache is a compacted annotation map together with the time of the newest file it was built from.
It is stale as soon as some file is newer.
-/

namespace Nullability

/-- The time a cache is stamped with. A file may hold a truth value in its place, which counts as
one or zero. -/
inductive Stamp where
  | time (nanoseconds : Int)
  | truth (b : Bool)
  deriving DecidableEq, Repr, Inhabited

/-- The time in nanoseconds since the epoch. -/
def Stamp.nanoseconds : Stamp → Int
  | .time n => n
  | .truth b => if b then 1 else 0

/-- An annotation map with the time it was built for. -/
structure AnnotationCache where
  stamp : Stamp
  map : AnnotationMap
  deriving DecidableEq, Inhabited

/-- Whether a file with the given time is newer than a cache. -/
def AnnotationCache.isStale (cache : AnnotationCache) (newest : Int) : Bool :=
  cache.stamp.nanoseconds < newest

end Nullability
