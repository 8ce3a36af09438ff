import RouteBinding.Conflict.Name
import RouteBinding.Conflict.Path
import RouteBinding.Failure.Snapshot
import RouteBinding.Requirement

/-!
# Assignments

What a pass decides from the live providers, the properties of the host and the outcome of acquiring the
content: the groups to serve with what is attached to each, the default group, and for every provider that is
left out the reason.  The decision is a function of these inputs alone, and falls into two parts:

* `Intake.contest` keeps the valid providers that are meant for the host, adds the implicit default group, and
  settles conflicts over paths, then over names;
* `Contest.decide` attaches the interceptors, detaches those whose requirements are not met, drops the groups
  whose requirements are not met and all default groups but one, and attaches the handlers whose requirements
  are met to the groups that are left.

What is found on the way is listed in the order in which it is found.
-/

namespace RouteBinding

open Property

/-- What acquiring content came to: the contracts that the component advertises. -/
abbrev Outcome := Except AcquireError Contracts

/-- The outcome for the content of each identity. -/
abbrev Outcomes := ServiceId → Outcome

/-- Something that a pass finds out. -/
inductive Finding where
  | elsewhere (p : Provider)
  /-- A registered group has the path of the implicit default group. -/
  | implicitShadowed (path : String)
  /-- The content of a provider could not be acquired. -/
  | unavailable (p : Provider) (e : AcquireError)
  | attached (p : Provider) (groups : Nat)
  | excluded (p : Provider) (r : Reason)
  /-- This is the default group from now on. -/
  | chosen (default : Option ServiceId)
  deriving DecidableEq, Inhabited

/-- The failure that a finding reports, if it reports one. -/
def Finding.failure? : Finding → Option FailedProvider
  | excluded p r => some ⟨p.id, p.name, p.kind, r⟩
  | _ => none

namespace Provider

/-- Whether a provider is valid and meant for a host. -/
def fits (host : Map) (p : Provider) : Bool := p.isValid && p.appliesTo host

/-- Why a provider does not fit, if it does not. -/
def misfit (host : Map) (p : Provider) : Option Finding :=
  match p.failure with
  | some r => some (.excluded p r)
  | none => if p.appliesTo host then none else some (.elsewhere p)

end Provider

/-- What a pass reads. -/
structure Intake where
  roster : Roster
  host : Map
  /-- The implicit default group, if there is one. -/
  implicit : Option Group
  deriving Inhabited

/-- Whether content can be used: it was acquired and, for an interceptor, advertises a contract. -/
def usable (outcomes : Outcomes) (c : Content) : Bool :=
  match outcomes c.id with
  | .error _ => false
  | .ok contracts => !(c.kind == .interceptor && contracts.isEmpty)

/-- What is found out about content where it is attached to these groups. -/
def attachFindings (outcomes : Outcomes) (groups : List Group) (c : Content) : List Finding :=
  match outcomes c.id with
  | .error e => [.unavailable c.provider e, .excluded c.provider .notGettable]
  | .ok contracts =>
    if c.kind == .interceptor && contracts.isEmpty then [.excluded c.provider .notAnExtension]
    else if groups.any c.selects then [.attached c.provider (groups.countP c.selects)]
    else [.excluded c.provider .applicationUnavailable]

/-- A group with the interceptors that stay attached to it. -/
structure Bound where
  group : Group
  check : GroupCheck
  deriving DecidableEq, Inhabited

/-- A group with the handlers that stay attached to it and those that do not. -/
structure Staffed where
  bound : Bound
  handlers : List Content
  detached : List Content
  deriving DecidableEq, Inhabited

/-- The first of some groups by precedence. -/
def bestGroup : List Group → Option Group
  | [] => none
  | g :: rest =>
    match bestGroup rest with
    | none => some g
    | some h => if h.provider.precedes g.provider then some h else some g

/-- The failures of content that no group holds any more: a requirement is not met if one was found unmet in
some group, else no group is left for it. -/
def orphanFindings (held detached : List ServiceId) (contents : List Content) : List Finding :=
  (contents.filter fun c => !held.contains c.id).map fun c =>
    .excluded c.provider
      (if detached.contains c.id then .extensionsUnavailable else .applicationUnavailable)

namespace Intake

variable (i : Intake)

/-- The providers that fit, with the implicit default group behind the others. -/
def fit : Roster where
  groups := (i.roster.groups.filter fun g => g.provider.fits i.host) ++ i.implicit.toList
  handlers := i.roster.handlers.filter fun c => c.provider.fits i.host
  interceptors := i.roster.interceptors.filter fun c => c.provider.fits i.host

/-- What is found out about a group that lost its path. -/
def pathFinding (g : Group) : Finding :=
  if g.isImplicit then .implicitShadowed g.path else .excluded g.provider .shadowed

end Intake

/-- The providers that fit a host and have their path and their name. -/
structure Contest where
  host : Map
  roster : Roster
  findings : List Finding
  deriving Inhabited

/-- Keep the providers that fit and settle the conflicts among them. -/
def Intake.contest (i : Intake) : Contest :=
  let fit := i.fit
  let (kept, shadowed) := resolvePaths fit.groups
  let (roster, duplicates) := { fit with groups := kept }.resolveNames
  { host := i.host
    roster := roster
    findings := i.roster.providers.filterMap (Provider.misfit i.host) ++
      shadowed.map Intake.pathFinding ++ duplicates.map fun p => .excluded p .duplicateName }

/-- What is decided about the groups that were in a contest. -/
structure Decision where
  bound : List Bound
  default : Option ServiceId
  staffed : List Staffed
  deriving Inhabited

/-- The default group: the first by precedence that declares itself one, else the implicit one. -/
def defaultOf (groups : List Group) : Option ServiceId :=
  match bestGroup (groups.filter fun g => g.isDefault && !g.isImplicit) with
  | some g => some g.id
  | none => (groups.find? Group.isImplicit).map Group.id

/-- Whether a group may be served, where only one default group may. -/
def allowedBeside (default : Option ServiceId) (g : Group) : Bool :=
  !g.isDefault || default == some g.id

namespace Decision

variable (d : Decision)

def satisfied : List Bound := d.bound.filter fun b => b.check.satisfied

/-- The groups to serve with their interceptors. -/
def served : List Bound := d.staffed.map Staffed.bound

/-- The groups to serve with all that is attached to them. -/
def placed : List Group :=
  d.staffed.map fun s => { s.bound.group with attached := s.bound.check.kept ++ s.handlers }

end Decision

namespace Contest

variable (c : Contest) (outcomes : Outcomes)

/-- The content that is acquired on trial, in order: interceptors, then handlers. -/
def probed : List Content := c.roster.interceptors ++ c.roster.handlers

/-- The usable content of a list that selects a group. -/
def choose (contents : List Content) (g : Group) : List Content :=
  contents.filter fun x => usable outcomes x && x.selects g

/-- A group with the interceptors that stay attached to it. -/
def bind (g : Group) : Bound := ⟨g, checkGroup c.host g (choose outcomes c.roster.interceptors g)⟩

/-- A group with its interceptors and the handlers that stay attached to it. -/
def staff (b : Bound) : Staffed :=
  let (met, unmet) :=
    checkHandlers c.host b.group b.check.kept (choose outcomes c.roster.handlers b.group)
  ⟨b, met, unmet⟩

/-- Decide which groups to serve and with what. -/
def decide : Decision :=
  let bound := c.roster.groups.map (c.bind outcomes)
  let satisfied := bound.filter fun b => b.check.satisfied
  let default := defaultOf (satisfied.map Bound.group)
  let served := satisfied.filter fun b => allowedBeside default b.group
  ⟨bound, default, served.map (c.staff outcomes)⟩

/-- What is found out about the groups: those with requirements that are not met, then those that would be a
second default group, then which group is the default. -/
def groupFindings (d : Decision) : List Finding :=
  ((d.bound.filter fun b => !b.check.satisfied).map fun b =>
      .excluded b.group.provider .extensionsUnavailable) ++
    ((d.satisfied.filter fun b => !allowedBeside d.default b.group && !b.group.isImplicit).map
      fun b => .excluded b.group.provider .shadowed) ++
    [.chosen d.default]

/-- The failures of interceptors that some group took at first and that no group holds at the end. -/
def interceptorOrphans (d : Decision) : List Finding :=
  orphanFindings (d.served.flatMap fun b => b.check.kept.map Content.id)
    (d.bound.flatMap fun b => b.check.detached)
    (c.roster.interceptors.filter fun x => usable outcomes x && c.roster.groups.any x.selects)

/-- The failures of handlers that some group took at first and that no group holds at the end. -/
def handlerOrphans (d : Decision) : List Finding :=
  let groups := d.served.map Bound.group
  orphanFindings (d.staffed.flatMap fun s => s.handlers.map Content.id)
    (d.staffed.flatMap fun s => s.detached.map Content.id)
    (c.roster.handlers.filter fun x => usable outcomes x && groups.any x.selects)

/-- All that is found out, in order. -/
def allFindings (d : Decision) : List Finding :=
  c.findings ++
    c.roster.interceptors.flatMap (attachFindings outcomes c.roster.groups) ++
    groupFindings d ++ c.interceptorOrphans outcomes d ++
    c.roster.handlers.flatMap (attachFindings outcomes (d.served.map Bound.group)) ++
    c.handlerOrphans outcomes d

end Contest

/-- What a pass has read: the providers, the host and what came of acquiring the content. -/
structure Reading where
  intake : Intake
  outcomes : Outcomes
  deriving Inhabited

namespace Reading

variable (r : Reading)

/-- The providers that have their path and their name. -/
def contest : Contest := r.intake.contest

def decision : Decision := r.contest.decide r.outcomes

/-- All that is found out, in order. -/
def findings : List Finding := r.contest.allFindings r.outcomes r.decision

/-- The providers that are left out, in the order in which that was found out. -/
def failures : List FailedProvider := r.findings.filterMap Finding.failure?

/-- The providers that are left out, as they are published. -/
def snapshot : Snapshot := .ofFailures r.failures

/-- The groups to serve with all that is attached to them, in the order of their identities. -/
def plan : List Group := Sorted.ofList (fun g h : Group => g.id ≤ h.id) r.decision.placed

end Reading

/-- Acquire content and give it back at once, to learn what it advertises. -/
def Pool.probe (p : Pool) (c : Content) : Outcome × Pool :=
  match p.acquire c.provider.payload with
  | (.error e, p) => (.error e, p)
  | (.ok guard, p) => (.ok guard.component.contracts, p.release guard)

/-- The outcomes of probing content in order; content that is not probed counts as broken. -/
def Pool.probeAll (p : Pool) : List Content → Outcomes × Pool
  | [] => (fun _ => .error .broken, p)
  | c :: rest =>
    let (outcome, p) := p.probe c
    let (others, p) := p.probeAll rest
    (fun id => if id = c.id then outcome else others id, p)

end RouteBinding
