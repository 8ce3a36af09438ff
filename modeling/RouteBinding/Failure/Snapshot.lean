import RouteBinding.Provider.Basic
import RouteBinding.Sorted

/-!
# Failure snapshots

What a pass left out of service, by kind and in the order of identities.  A snapshot replaces the one before
it, so a provider that recovers is simply no longer in it.
-/

namespace RouteBinding

/-- A provider that is out of service. -/
structure FailedProvider where
  id : ServiceId
  name : String
  kind : Kind
  reason : Reason
  deriving DecidableEq, Inhabited

/-- The providers that are out of service, by kind. -/
structure Snapshot where
  groups : List FailedProvider := []
  handlers : List FailedProvider := []
  interceptors : List FailedProvider := []
  deriving DecidableEq, Inhabited

namespace Snapshot

/-- Failures in the order of identities; those of one identity keep their order. -/
def byId : List FailedProvider → List FailedProvider := Sorted.ofList fun a b => a.id ≤ b.id

/-- The snapshot of three lists in any order. -/
def ofLists (groups handlers interceptors : List FailedProvider) : Snapshot :=
  ⟨byId groups, byId handlers, byId interceptors⟩

/-- The snapshot of failures of all kinds. -/
def ofFailures (l : List FailedProvider) : Snapshot :=
  ofLists (l.filter fun f => f.kind == .group) (l.filter fun f => f.kind == .handler)
    (l.filter fun f => f.kind == .interceptor)

/-- All failures: those of groups, of handlers, of interceptors. -/
def toList (s : Snapshot) : List FailedProvider := s.groups ++ s.handlers ++ s.interceptors

def size (s : Snapshot) : Nat := s.toList.length

/-- Why an identity is out of service, if it is. -/
def reasonOf (s : Snapshot) (id : ServiceId) : Option Reason :=
  (s.toList.find? fun f => f.id == id).map (·.reason)

end Snapshot

end RouteBinding
