import Nullability.Baseline
import Nullability.Once
import Nullability.Settings.Load

/-!
# Providers

Maps that are built once, at the first need. One of them is shared by the whole program; it can be
replaced by one that is still to be built, and whoever asks after that gets the new one. Other maps
belong to those who set them up. A replaced map stays with those who are still waiting for it.
-/

namespace Nullability

/-- Who provides a map. -/
inductive Provider where
  /-- The program, with the map that is shared at the time. -/
  | program
  /-- Somebody who set up the map with a number. -/
  | owner (map : Nat)
  deriving DecidableEq, Repr, Inhabited

/-- All maps that were set up. -/
structure Providers where
  /-- The maps by their numbers. -/
  maps : List (Once AnnotationMap)
  /-- The number of the map that the program shares. -/
  shared : Nat

/-- The baseline that the settings of all layers describe. -/
def Baseline.createFromSettings (env : Environment) (common : Path) : Job AnnotationMap := do
  let settings ← Job.inspect (fun tree => Settings.load env tree common none [])
  (Baseline.ofSettings settings).create

namespace Providers

/-- One map, which the program shares. -/
def ofMap (map : Once AnnotationMap) : Providers :=
  ⟨[map], 0⟩

/-- The number of a provider's map. -/
def number (providers : Providers) : Provider → Nat
  | .program => providers.shared
  | .owner map => map

/-- Sets up a map. -/
def add (providers : Providers) (map : Once AnnotationMap) : Provider × Providers :=
  (.owner providers.maps.length, { providers with maps := providers.maps ++ [map] })

/-- Replaces the map that the program shares. -/
def share (providers : Providers) (map : Once AnnotationMap) : Providers :=
  ⟨providers.maps ++ [map], providers.maps.length⟩

/-- The map with a number, which is built unless that was done before. -/
def getNumber (providers : Providers) (number : Nat) (w : Workspace) :
    Except Failure AnnotationMap × Providers × Workspace :=
  match providers.maps[number]? with
  | none => (.error .missingPart, providers, w)
  | some map =>
    let (outcome, map, w) := map.get w
    (outcome, { providers with maps := providers.maps.set number map }, w)

/-- The map of a provider. -/
def get (providers : Providers) (provider : Provider) (w : Workspace) :
    Except Failure AnnotationMap × Providers × Workspace :=
  providers.getNumber (providers.number provider) w

end Providers

end Nullability
