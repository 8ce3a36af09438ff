import RouteBinding.Conflict.Precedence
import RouteBinding.Provider.Group

/-!
# Conflicts over paths

Each path is served by one group: of those with the path, the first by precedence, where the implicit default
group comes after every registered one.  Groups that lose are told apart by their place in the list.
-/

namespace RouteBinding

/-- Groups with their places in a list. -/
abbrev Placed := Group × Nat

/-- Whether a group may stand before another where paths are given out. -/
def Placed.notAfter (a b : Placed) : Bool :=
  if a.1.isImplicit == b.1.isImplicit then a.1.provider.notAfter b.1.provider else b.1.isImplicit

/-- The groups in the order in which paths are given out. -/
def byPathPrecedence (groups : List Group) : List Placed :=
  Sorted.ofList Placed.notAfter groups.zipIdx

/-- The places of the groups whose path another group has. -/
def shadowedPlaces (groups : List Group) : List Nat :=
  (firstClaims (fun a : Placed => a.1.path) (byPathPrecedence groups) []).2.map (·.2)

/-- The groups that have their path, and those that lost it, both in the order of the list. -/
def resolvePaths (groups : List Group) : List Group × List Group :=
  let lost := shadowedPlaces groups
  ((groups.zipIdx.filter fun a => !lost.contains a.2).map (·.1),
    (groups.zipIdx.filter fun a => lost.contains a.2).map (·.1))

end RouteBinding
