import RouteBinding.Provider.Group
import RouteBinding.Table

/-!
# The registry

The providers that are registered now, by kind and identity, and those removed since the registry was last
drained.  An identity belongs to one provider across all kinds: an index of owners says which kind holds it,
and registering under an identity that another kind holds is refused.  Revisions grow with every registration
and are never used again.
-/

namespace RouteBinding

open Property

/-- The identity in a property map: a non-negative integer. -/
def declaredId? (props : Map) : Option ServiceId :=
  (((props.get? Key.serviceId).bind Value.int?).filter fun i => 0 ≤ i).map Int.toNat

/-- Why a provider was not registered: another kind holds its identity. -/
structure IdInUse where
  id : ServiceId
  owner : Kind
  deriving DecidableEq, Inhabited

/-- The registered providers and the removals that are pending. -/
structure Registry where
  nextId : ServiceId := 1
  nextRevision : Nat := 1
  groups : Table ServiceId Group := ∅
  handlers : Table ServiceId Content := ∅
  interceptors : Table ServiceId Content := ∅
  /-- The kind that holds each identity. -/
  owners : Table ServiceId Kind := ∅
  /-- The groups removed since the last drain, in the order of their removal. -/
  removedGroups : List Group := []
  /-- The handlers and interceptors removed since the last drain, in the order of their removal. -/
  removedContent : List Content := []
  deriving DecidableEq, Inhabited

/-- What a drain of the registry yields. -/
structure RegistryView where
  groups : List Group
  handlers : List Content
  interceptors : List Content
  removedGroups : List Group
  /-- The handlers and interceptors removed since the drain before. -/
  removedContent : List Content
  deriving DecidableEq, Inhabited

namespace Registry

def empty : Registry := {}

/-- The content table of a kind; that of interceptors for every kind but handlers. -/
def contentOf (r : Registry) : Kind → Table ServiceId Content
  | .handler => r.handlers
  | _ => r.interceptors

/-- The number of registered providers of a kind. -/
def count (r : Registry) : Kind → Nat
  | .group => r.groups.size
  | .handler => r.handlers.size
  | .interceptor => r.interceptors.size

def isEmpty (r : Registry) : Bool := r.groups.isEmpty && r.handlers.isEmpty && r.interceptors.isEmpty

/-- The identity that a property map declares for a registration; that of the implicit default group is
none. -/
def claimedId? (props : Map) : Option ServiceId :=
  (declaredId? props).filter (· ≠ ServiceId.implicitDefault)

/-- Settle the identity of a registration: the declared one, else the next one, which then goes into the
properties. -/
def assignId (r : Registry) (props : Map) : ServiceId × Map × Registry :=
  match claimedId? props with
  | some id => (id, props, { r with nextId := max r.nextId (id + 1) })
  | none =>
    (r.nextId, props.insert Key.serviceId (Value.ofNat r.nextId), { r with nextId := r.nextId + 1 })

/-- Store a provider as the one of its kind under an identity. -/
def store (r : Registry) (kind : Kind) (id : ServiceId) (payload : Payload) (props : Map) : Registry :=
  let revision := r.nextRevision
  let r := { r with owners := r.owners.insert id kind, nextRevision := revision + 1 }
  match kind with
  | .group => { r with groups := r.groups.insert id (.ofProperties id revision payload props) }
  | .handler =>
    { r with handlers := r.handlers.insert id (.ofProperties .handler id revision payload props) }
  | .interceptor =>
    { r with
      interceptors := r.interceptors.insert id (.ofProperties .interceptor id revision payload props) }

/-- Register a provider, or replace the one of its kind with its identity. -/
def upsert (r : Registry) (kind : Kind) (payload : Payload) (props : Map) :
    Except IdInUse ServiceId × Registry :=
  let (id, props, r) := r.assignId props
  match r.owners.get? id with
  | some owner =>
    if owner = kind then (.ok id, r.store kind id payload props) else (.error ⟨id, owner⟩, r)
  | none => (.ok id, r.store kind id payload props)

/-- Move the provider of a kind with an identity to the pending removals, if there is one. -/
def remove (r : Registry) (kind : Kind) (id : ServiceId) : Bool × Registry :=
  if r.owners.get? id = some kind then
    let r := { r with owners := r.owners.erase id }
    match kind with
    | .group =>
      match r.groups.get? id with
      | some g =>
        (true, { r with groups := r.groups.erase id, removedGroups := r.removedGroups ++ [g] })
      | none => (false, r)
    | .handler =>
      match r.handlers.get? id with
      | some c =>
        (true, { r with handlers := r.handlers.erase id, removedContent := r.removedContent ++ [c] })
      | none => (false, r)
    | .interceptor =>
      match r.interceptors.get? id with
      | some c =>
        (true,
          { r with interceptors := r.interceptors.erase id, removedContent := r.removedContent ++ [c] })
      | none => (false, r)
  else (false, r)

/-- Remove the provider with an identity as the first of some kinds under which there is one. -/
def removeFirst (r : Registry) (id : ServiceId) : List Kind → Option Kind × Registry
  | [] => (none, r)
  | kind :: rest =>
    match r.remove kind id with
    | (true, r) => (some kind, r)
    | (false, r) => r.removeFirst id rest

/-- Remove the provider with an identity, whatever its kind. -/
def removeAny (r : Registry) (id : ServiceId) : Option Kind × Registry := r.removeFirst id Kind.every

/-- The registered providers and the pending removals, and the registry in which none is pending. -/
def drain (r : Registry) : RegistryView × Registry :=
  (⟨r.groups.values, r.handlers.values, r.interceptors.values, r.removedGroups, r.removedContent⟩,
    { r with removedGroups := [], removedContent := [] })

/-- Forget every registered and every removed provider; identities and revisions go on. -/
def clear (r : Registry) : Registry := { nextId := r.nextId, nextRevision := r.nextRevision }

end Registry

end RouteBinding
