import RouteBinding.ActiveGroup
import RouteBinding.Pass.Site
import RouteBinding.Registry
import RouteBinding.Settings

/-!
# Dispatchers

A dispatcher keeps the registry and brings the host to what the registry asks for, in passes.  This module
holds its state and the pass.  A pass may be held at a registration with the host; it is then part of the
state, as the groups that are left, and goes on when it is released.
-/

namespace RouteBinding

/-- The providers that are registered now. -/
def Registry.live (r : Registry) : Roster := ⟨r.groups.values, r.handlers.values, r.interceptors.values⟩

/-- Whether a dispatcher takes events. -/
inductive Status where
  /-- It takes events. -/
  | opened
  /-- It takes none while closing waits for a pass. -/
  | closing
  /-- It takes none any more. -/
  | closed
  deriving DecidableEq, Inhabited

/-- Why a dispatcher did not do what it was asked to do. -/
inductive DispatchError where
  /-- It is closed, or closing. -/
  | closed
  | shutdownTimeout (ms : Nat)
  /-- The identity of a provider is held by one of another kind. -/
  | idInUse (conflict : IdInUse)
  deriving DecidableEq, Inhabited

def DispatchError.message : DispatchError → String
  | closed => "dispatcher has been closed"
  | shutdownTimeout ms => "reconciliation pass still running after " ++ Text.duration ms
  | idInUse c =>
    "service id " ++ ServiceId.label c.id ++ " is already held by a " ++ c.owner.label

/-- What is left of a pass that has decided which groups to serve. -/
structure Running where
  /-- The groups still to be brought to the host. -/
  left : List Group
  failures : List FailedProvider
  deriving DecidableEq, Inhabited

variable [Route.Routing]

/-- The state of a dispatcher. -/
structure Dispatcher where
  settings : Settings
  /-- The implicit default group, if there is one. -/
  implicit : Option Group
  registry : Registry := .empty
  pool : Pool
  /-- The host and what is known of it. -/
  site : Site
  default : Option ServiceId := none
  /-- The failures that the last pass published. -/
  failures : Snapshot := {}
  /-- The groups that the host serves since the last pass. -/
  active : List ActiveGroup := []
  /-- The snapshots that a tracker was sent. -/
  published : List Snapshot := []
  passes : Nat := 0
  /-- Whether a pass was requested since the last one began. -/
  dirty : Bool := false
  batches : Nat := 0
  status : Status := .opened
  running : Option Running := none
  /-- The number of closings that wait for the pass that is held. -/
  waiting : Nat := 0
  /-- How the closings that waited have ended. -/
  closings : List (Except DispatchError Unit) := []
  deriving Inhabited

namespace Dispatcher

/-- A dispatcher for a host, with the content of its implicit default group. -/
def new (settings : Settings) (host : Host.Recording) (content : Payload) (pool : Pool) :
    Dispatcher where
  settings := settings
  implicit := if settings.implicitDefault then some (.implicitDefault settings.defaultPath content)
    else none
  pool := pool
  site := { host }

def isOpen (d : Dispatcher) : Bool := d.status == .opened

/-- The report of the last pass. -/
def lastReport (d : Dispatcher) : Report := d.site.report

/-- Why a provider is out of service since the last pass, if it is. -/
def statusOf (d : Dispatcher) (id : ServiceId) : Option Reason := d.failures.reasonOf id

/-- The active group with a name. -/
def activeNamed? (d : Dispatcher) (name : String) : Option ActiveGroup :=
  d.active.find? fun g => g.name == name

def note (d : Dispatcher) (notices : List Notice) : Dispatcher :=
  { d with site := d.site.note notices }

/-- Publish what a pass leaves. -/
def finishPass (d : Dispatcher) (failures : List FailedProvider) : Dispatcher :=
  let snapshot := Snapshot.ofFailures failures
  let recovered := d.failures.toList.filter fun f => !failures.any fun g => g.id == f.id
  let site := d.site.note (recovered.map .recovered)
  let report := { site.report with failures := snapshot.size }
  { d with
    site := { site with report }.note [.passFinished report]
    failures := snapshot
    active := site.registered.values.map Group.summary
    published := d.published ++ [snapshot]
    passes := d.passes + 1
    running := none }

/-- Bring the groups that are left to the host, and publish unless a call has to wait. -/
def goOn (d : Dispatcher) (r : Running) : Dispatcher :=
  let (site, left) := d.site.advance r.left
  let d := { d with site }
  if left.isEmpty then d.finishPass r.failures else { d with running := some { r with left } }

/-- The providers and the host that a pass reads if it starts now. -/
def intake (d : Dispatcher) : Intake :=
  ⟨d.registry.live, d.site.host.memory.properties, d.implicit⟩

/-- What comes of acquiring the content if a pass starts now, and the sources after it. -/
def probe (d : Dispatcher) : Outcomes × Pool := d.pool.probeAll d.intake.contest.probed

/-- All that a pass reads if it starts now. -/
def reading (d : Dispatcher) : Reading := ⟨d.intake, d.probe.1⟩

/-- The identities of the groups removed since the last pass. -/
def removedIds (d : Dispatcher) : List ServiceId := d.registry.removedGroups.map Group.id

/-- The host once the groups that were removed have left it. -/
def retracted (d : Dispatcher) : Site :=
  let started := { d.site with report := {} }.note [.passStarted (d.passes + 1)]
  (started.unregisterEach d.removedIds).note
    (d.registry.removedContent.map fun c => .contentRemoved c.kind c.name)

/-- The host once the groups that are no longer to be served have left it too. -/
def cleared (d : Dispatcher) (r : Reading) : Site :=
  let site := d.retracted.note (r.findings.flatMap (Notice.ofFinding d.failures d.default))
  site.unregisterEach (site.stale (r.plan.map Group.id) d.removedIds)

/-- Run a pass as far as it goes: groups leave the host before others are registered. -/
def startPass (d : Dispatcher) : Dispatcher :=
  let r := d.reading
  let site := d.cleared r
  { d with
    dirty := false
    registry := d.registry.drain.2
    pool := d.probe.2
    site := site
    default := r.decision.default }.goOn ⟨r.plan, r.failures⟩

/-- Run a pass if one was requested and nothing stands against it: another pass, an open batch, or that the
dispatcher is not open. -/
def drain (d : Dispatcher) : Dispatcher :=
  if d.running.isNone && d.isOpen && d.batches == 0 && d.dirty then d.startPass else d

end Dispatcher

end RouteBinding
