import RouteBinding.Pass.Notice

/-!
# Bringing the host to a decision

A site is the host with what the dispatcher knows to be registered there.  A pass first unregisters groups
that were removed and groups that are no longer to be served, then registers and reloads the groups to serve
in the order of their identities.  A call that fails changes neither the host nor what is known of it, so a
later pass tries again; a group that the host serves in its present form is left alone.
-/

namespace RouteBinding

/-- What tells whether a host serves a group in its present form: the revision and path of the group, and the
kind, identity and revision of what is attached to it. -/
structure Fingerprint where
  revision : Nat
  path : String
  /-- Kind, identity and revision of the attached content. -/
  content : List (Kind × ServiceId × Nat)
  deriving DecidableEq, Inhabited

def Group.fingerprint (g : Group) : Fingerprint :=
  ⟨g.provider.revision, g.path, g.attached.map fun c => (c.kind, c.id, c.provider.revision)⟩

/-- A report with one call more that succeeded. -/
def Report.count (r : Report) : Host.Operation → Report
  | .register => { r with registered := r.registered + 1 }
  | .reload => { r with reloaded := r.reloaded + 1 }
  | .unregister => { r with unregistered := r.unregistered + 1 }

variable [Route.Routing]

/-- The host and what is known of it. -/
structure Site where
  host : Host.Recording
  /-- The groups that are registered with the host, in the form it was told last. -/
  registered : Table ServiceId Group := ∅
  report : Report := {}
  notices : List Notice := []
  deriving Inhabited

namespace Site

def note (s : Site) (notices : List Notice) : Site := { s with notices := s.notices ++ notices }

/-- Do what an announced call asks for, and tell whether it succeeded. -/
def perform (s : Site) (op : Host.Operation) (g : Group) : Bool × Site :=
  match s.host.perform op g with
  | (.ok (), host) =>
    (true, { s with host, report := s.report.count op }.note [.updated op g.name g.path])
  | (.error e, host) =>
    (false,
      { s with host, report := { s.report with failedCalls := s.report.failedCalls + 1 } }.note
        [.callFailed op g.name g.path e])

def announce (s : Site) (op : Host.Operation) (g : Group) : Site :=
  { s with host := s.host.announce op g }

/-- Unregister the group that is registered under an identity, if there is one. -/
def unregister (s : Site) (id : ServiceId) : Site :=
  match s.registered.get? id with
  | none => s
  | some g =>
    match (s.announce .unregister g).perform .unregister g with
    | (true, s) => { s with registered := s.registered.erase id }
    | (false, s) => s

/-- Unregister the groups under several identities, one after the other. -/
def unregisterEach (s : Site) (ids : List ServiceId) : Site := ids.foldl Site.unregister s

/-- The identities that are registered and neither to be served nor tried before. -/
def stale (s : Site) (wanted tried : List ServiceId) : List ServiceId :=
  s.registered.keys.filter fun id => !wanted.contains id && !tried.contains id

/-- What the host has to be asked for a group that is to be served: nothing, if it serves the group in this
form. -/
def operationFor (s : Site) (g : Group) : Option Host.Operation :=
  match s.registered.get? g.id with
  | some known => if known.fingerprint = g.fingerprint then none else some .reload
  | none =>
    -- The host may serve a group that was registered by someone else.
    if s.host.memory.serves g.id then some .reload else some .register

/-- Do what an announced call asks for a group that is to be served, and remember the group if it
succeeded. -/
def settle (s : Site) (op : Host.Operation) (g : Group) : Site :=
  match s.perform op { g with changed := true } with
  | (true, s) => { s with registered := s.registered.insert g.id { g with changed := false } }
  | (false, s) => s

/-- Bring the host to serve some groups, one after the other.  If a call has to wait, its group is the first
of those that are left; the call is announced then. -/
def advance (s : Site) : List Group → Site × List Group
  | [] => (s, [])
  | g :: rest =>
    match s.operationFor g with
    | none => s.advance rest
    | some op =>
      let s := s.announce op { g with changed := true }
      if s.host.holds op g then ({ s with host := { s.host with gated := false } }, g :: rest)
      else (s.settle op g).advance rest

/-- Unregister all that is registered and forget it, whether the host succeeds or not. -/
def abandon (s : Site) : Site :=
  s.registered.values.foldl
    (fun s g => ((s.announce .unregister g).perform .unregister g).2) { s with registered := ∅ }

end Site

end RouteBinding
