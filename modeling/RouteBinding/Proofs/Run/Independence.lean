import RouteBinding.Proofs.Run.Agreement
import RouteBinding.Proofs.Run.Progress
import RouteBinding.Proofs.Site.Resolve
import RouteBinding.Route.Served

/-!
# What a dispatcher shows does not depend on its history

Two registries with the same live providers differ in revisions only (`Registry.SameLive.unrevised_eq`), and
a pass does not look at revisions.  So dispatchers whose last passes have read the same live providers, the
same properties of the host and the same outcomes show the same failures and the same default group, and the
same active groups unless a call of the last pass failed, whatever happened before (`History.independent`).
-/

namespace RouteBinding

open Property

/-! ### The same live providers -/

/-- What a provider was registered with. -/
def Provider.declared (p : Provider) : Map × Payload := (p.properties, p.payload)

/-- What the live provider of a kind with an identity was registered with, if there is one. -/
def Registry.declared (r : Registry) (kind : Kind) (id : ServiceId) : Option (Map × Payload) :=
  match kind with
  | .group => (r.groups.get? id).map fun g => g.provider.declared
  | .handler => (r.handlers.get? id).map fun c => c.provider.declared
  | .interceptor => (r.interceptors.get? id).map fun c => c.provider.declared

/-- Two registries with the same live providers: the same identities of each kind, and the same properties and
payloads under them. -/
def Registry.SameLive (r s : Registry) : Prop := ∀ kind id, r.declared kind id = s.declared kind id

theorem Registry.sameLive_iff {r s : Registry} : r.SameLive s ↔
    r.groups.map (fun g => g.provider.declared) = s.groups.map (fun g => g.provider.declared) ∧
      r.handlers.map (fun c => c.provider.declared) = s.handlers.map (fun c => c.provider.declared) ∧
      r.interceptors.map (fun c => c.provider.declared) =
        s.interceptors.map (fun c => c.provider.declared) := by
  constructor
  · intro h
    refine ⟨Table.ext_get? fun id => ?_, Table.ext_get? fun id => ?_, Table.ext_get? fun id => ?_⟩ <;>
      rw [Table.get?_map, Table.get?_map]
    · exact h .group id
    · exact h .handler id
    · exact h .interceptor id
  · rintro ⟨hgroups, hhandlers, hinterceptors⟩ kind id
    cases kind <;> simp only [declared, ← Table.get?_map, hgroups, hhandlers, hinterceptors]

instance (r s : Registry) : Decidable (r.SameLive s) := decidable_of_iff _ Registry.sameLive_iff.symm

/-- Records that are made from the same declarations differ in revisions only. -/
theorem Made.map_eq {α β : Type} {owners owners' : Table ServiceId Kind} {bound bound' : Nat} {kind : Kind}
    {make : ServiceId → Nat → Payload → Map → α} {t t' : Table ServiceId α} {declared : α → Map × Payload}
    {erased : α → β} (h : Made owners bound kind make t) (h' : Made owners' bound' kind make t')
    (hdeclared : ∀ id revision payload props, declared (make id revision payload props) = (props, payload))
    (herased : ∀ id revision payload props,
      erased (make id revision payload props) = erased (make id 0 payload props))
    (hsame : ∀ id, (t.get? id).map declared = (t'.get? id).map declared) :
    t.map erased = t'.map erased := by
  refine Table.ext_get? fun id => ?_
  have hid := hsame id
  rw [Table.get?_map, Table.get?_map]
  cases hget : t.get? id with
  | none =>
      rw [hget] at hid
      rw [Option.map_eq_none_iff.1 hid.symm]
  | some a =>
      rw [hget] at hid
      obtain ⟨a', hget', hdecl⟩ := Option.map_eq_some_iff.1 hid.symm
      obtain ⟨-, revision, payload, props, -, -, rfl⟩ := h id a hget
      obtain ⟨-, revision', payload', props', -, -, rfl⟩ := h' id a' hget'
      -- What was declared is all that the records are made from, but for their revisions.
      rw [hdeclared, hdeclared] at hdecl
      obtain ⟨rfl, rfl⟩ := Prod.mk.inj hdecl
      rw [hget', Option.map_some, Option.map_some, herased, herased id revision']

/-- Registries with the same live providers list the same providers but for their revisions. -/
theorem Registry.SameLive.unrevised_eq {r s : Registry} (h : r.SameLive s) (hr : r.Sound) (hs : s.Sound) :
    r.live.unrevised = s.live.unrevised := by
  have hgroups : r.groups.map Group.unrevised = s.groups.map Group.unrevised :=
    hr.groups.map_eq hs.groups (fun _ _ _ _ => rfl) (fun _ _ _ _ => rfl) (h .group)
  have hhandlers : r.handlers.map Content.unrevised = s.handlers.map Content.unrevised :=
    hr.handlers.map_eq hs.handlers (fun _ _ _ _ => rfl) (fun _ _ _ _ => rfl) (h .handler)
  have hinterceptors : r.interceptors.map Content.unrevised = s.interceptors.map Content.unrevised :=
    hr.interceptors.map_eq hs.interceptors (fun _ _ _ _ => rfl) (fun _ _ _ _ => rfl) (h .interceptor)
  unfold live Roster.unrevised
  dsimp only
  rw [← Table.values_map, ← Table.values_map, ← Table.values_map, hgroups, hhandlers, hinterceptors,
    Table.values_map, Table.values_map, Table.values_map]

/-! ### The same readings -/

theorem Intake.unrevised_probed (i : Intake) :
    i.unrevised.contest.probed = i.contest.probed.map Content.unrevised := by
  unfold Contest.probed
  rw [unrevised_contest_roster, List.map_append]
  rfl

/-- Readings of the same live providers, the same host and the same outcomes differ in revisions only. -/
theorem Reading.Taken.unrevised_eq {own : Option Group} {r s : Reading} (hr : r.Taken own) (hs : s.Taken own)
    (hroster : r.intake.roster.unrevised = s.intake.roster.unrevised)
    (hhost : r.intake.host = s.intake.host)
    (houtcomes : ∀ c ∈ r.contest.probed, r.outcomes c.id = s.outcomes c.id) :
    r.unrevised = s.unrevised := by
  have hintake : r.intake.unrevised = s.intake.unrevised := by
    unfold Intake.unrevised
    rw [hroster, hhost, hr.implicit, hs.implicit]
  have hprobed : r.contest.probed.map Content.id = s.contest.probed.map Content.id := by
    have herased : ∀ i : Intake, i.unrevised.contest.probed.map Content.id =
        i.contest.probed.map Content.id := by
      intro i
      rw [i.unrevised_probed, List.map_map]
      rfl
    exact (herased r.intake).symm.trans ((congrArg (fun i : Intake => i.contest.probed.map Content.id)
      hintake).trans (herased s.intake))
  have hall : r.outcomes = s.outcomes := by
    funext id
    -- Both passes have probed the same content, and the rest counts as broken in both.
    by_cases hid : id ∈ r.contest.probed.map Content.id
    · obtain ⟨c, hc, rfl⟩ := List.mem_map.1 hid
      exact houtcomes c hc
    · rw [hr.unprobed id hid, hs.unprobed id (hprobed ▸ hid)]
  unfold Reading.unrevised
  rw [hintake, hall]

theorem Reading.snapshot_eq {r s : Reading} (h : r.unrevised = s.unrevised) : r.snapshot = s.snapshot := by
  rw [snapshot, ← unrevised_failures, h, unrevised_failures, snapshot]

theorem Reading.default_eq {r s : Reading} (h : r.unrevised = s.unrevised) :
    r.decision.default = s.decision.default := by
  rw [← unrevised_default, h, unrevised_default]

/-! ### The same sites -/

theorem Group.unrevised_id (g : Group) : g.unrevised.id = g.id := rfl

theorem Group.unrevised_summary (g : Group) : g.unrevised.summary = g.summary := by
  have hattached : ∀ kind, (g.unrevised.attachedOf kind).map Content.name =
      (g.attachedOf kind).map Content.name := by
    intro kind
    show ((g.attached.map Content.unrevised).filter _).map Content.name = _
    rw [List.filter_map, List.map_map]
    rfl
  have hinterceptors : g.unrevised.interceptors.map Content.name = g.interceptors.map Content.name :=
    hattached .interceptor
  have hhandlers : g.unrevised.handlers.map Content.name = g.handlers.map Content.name :=
    hattached .handler
  rw [summary, hinterceptors, hhandlers, summary]
  rfl

section

variable [Route.Routing]

namespace Site

variable {s t : Site}

/-- Where plans that differ in revisions only are done, what is registered differs in revisions only. -/
theorem Serves.unrevised_eq {plan plan' : List Group} (h : s.Serves plan plan) (k : t.Serves plan' plan')
    (hplan : plan.map Group.unrevised = plan'.map Group.unrevised) :
    s.registered.map Group.unrevised = t.registered.map Group.unrevised := by
  have hids : plan.map Group.id = plan'.map Group.id := by
    have herased := congrArg (List.map Group.id) hplan
    rwa [List.map_map, List.map_map] at herased
  refine Table.ext_get? fun id => ?_
  rw [Table.get?_map, Table.get?_map]
  by_cases hid : id ∈ plan.map Group.id
  · obtain ⟨g, hg, rfl⟩ := List.mem_map.1 hid
    have hmem : g.unrevised ∈ plan'.map Group.unrevised := hplan ▸ List.mem_map_of_mem hg
    -- The other plan has the same group under another revision.
    obtain ⟨g', hg', herased⟩ := List.mem_map.1 hmem
    have hsame : g'.id = g.id := by rw [← g'.unrevised_id, herased, g.unrevised_id]
    have hknown := k.done g' hg'
    rw [hsame] at hknown
    rw [h.done g hg, hknown]
    exact congrArg (fun g : Group => some g.settled) herased.symm
  · rw [h.only id hid, k.only id (hids ▸ hid)]

/-- Hosts in step with what is registered serve the same groups but for revisions if those registered are
the same but for revisions. -/
theorem InStep.unrevised_eq (h : s.InStep) (k : t.InStep)
    (hregistered : s.registered.map Group.unrevised = t.registered.map Group.unrevised) :
    s.host.memory.mounted.map Host.Mounted.unrevised = t.host.memory.mounted.map Host.Mounted.unrevised := by
  refine Table.ext_get? fun id => ?_
  have hid : (s.registered.map Group.unrevised).get? id = (t.registered.map Group.unrevised).get? id := by
    rw [hregistered]
  rw [Table.get?_map, Table.get?_map] at hid
  rw [Table.get?_map, Table.get?_map]
  cases hget : s.registered.get? id with
  | none =>
      rw [hget] at hid
      have hget' : t.registered.get? id = none := Option.map_eq_none_iff.1 hid.symm
      rw [h.unknown id hget, k.unknown id hget']
  | some g =>
      rw [hget] at hid
      obtain ⟨g', hget', herased⟩ := Option.map_eq_some_iff.1 hid.symm
      obtain ⟨-, m, hmount, hm⟩ := h.known id g hget
      obtain ⟨-, m', hmount', hm'⟩ := k.known id g' hget'
      -- Both groups are made ready in the same way.
      have htold : g'.told.unrevised = g.told.unrevised := congrArg Group.told herased
      have hready := Host.unrevised_mount hmount
      rw [← htold, Host.unrevised_mount hmount'] at hready
      rw [hm, hm', Option.map_some, Option.map_some, Except.ok.inj hready]

end Site

namespace History

variable {settings : Settings} {content : Payload}

/-- A history at the end of which no pass is held, and the last pass has read the live providers as they
are. -/
structure Settled (h : History settings content) (r : Reading) : Prop where
  /-- The dispatcher is not closed. -/
  unclosed : h.final.state.status ≠ .closed
  /-- No pass is held. -/
  idle : h.final.state.running = none
  /-- This is what the last pass has read. -/
  last : h.final.last = some r
  /-- The registry has not changed since. -/
  current : r.intake.roster = h.final.state.registry.live

/-- What a dispatcher shows does not depend on its history: it follows from the live providers, from what
the last pass has read besides, and from none of its calls having failed. -/
theorem independent (p q : History settings content) {r s : Reading} (hp : p.Settled r) (hq : q.Settled s)
    (hlive : p.final.state.registry.SameLive q.final.state.registry) (hhost : r.intake.host = s.intake.host)
    (houtcomes : ∀ c ∈ r.contest.probed, r.outcomes c.id = s.outcomes c.id) :
    p.final.state.failures = q.final.state.failures ∧ p.final.state.default = q.final.state.default ∧
      (p.final.state.lastReport.failedCalls = 0 → q.final.state.lastReport.failedCalls = 0 →
        p.final.state.active = q.final.state.active ∧
          (p.Driven → q.Driven → ∀ path, p.final.state.site.host.memory.resolve path =
            q.final.state.site.host.memory.resolve path)) := by
  have hpsteady := p.steady hp.unclosed
  have hqsteady := q.steady hq.unclosed
  obtain ⟨hptaken, hpat⟩ := hpsteady.reached r hp.last
  obtain ⟨hqtaken, hqat⟩ := hqsteady.reached s hq.last
  obtain ⟨hpfailures, hpserves⟩ := hpat.ended hp.idle
  obtain ⟨hqfailures, hqserves⟩ := hqat.ended hq.idle
  -- What was read differs in revisions only, and so does all that follows from it.
  have hroster : r.intake.roster.unrevised = s.intake.roster.unrevised := by
    rw [hp.current, hq.current]
    exact hlive.unrevised_eq hpsteady.sound hqsteady.sound
  have hread : r.unrevised = s.unrevised := hptaken.unrevised_eq hqtaken hroster hhost houtcomes
  refine ⟨?_, ?_, fun hpnone hqnone => ?_⟩
  · rw [hpfailures, hqfailures, Reading.snapshot_eq hread]
  · rw [hpat.default, hqat.default, Reading.default_eq hread]
  · have hplan : r.plan.map Group.unrevised = s.plan.map Group.unrevised := by
      rw [← Reading.unrevised_plan, hread, Reading.unrevised_plan]
    have hregistered := (hpserves hpnone).unrevised_eq (hqserves hqnone) hplan
    refine ⟨?_, fun hpdriven hqdriven => ?_⟩
    · have hsummaries : ∀ t : Table ServiceId Group,
          t.values.map Group.summary = (t.map Group.unrevised).values.map Group.summary := by
        intro t
        rw [Table.values_map, List.map_map]
        exact List.map_congr_left fun g _ => g.unrevised_summary.symm
      rw [p.published hp.unclosed hp.idle, q.published hq.unclosed hq.idle, hsummaries, hregistered,
        ← hsummaries]
    · have hpstep := p.inStep hpdriven hp.unclosed
      have hqstep := q.inStep hqdriven hq.unclosed
      exact Host.Memory.resolve_congr (hpstep.unrevised_eq hqstep hregistered)

theorem settled_of_last {h : History settings content} (hend : h.final.last.isSome = true ∧
    h.final.state.status ≠ .closed ∧ h.final.state.running = none ∧
      (h.final.last.getD default).intake.roster = h.final.state.registry.live) :
    h.Settled (h.final.last.getD default) := by
  obtain ⟨hlast, hopen, hidle, hcurrent⟩ := hend
  refine ⟨hopen, hidle, ?_, hcurrent⟩
  obtain ⟨r, hr⟩ := Option.isSome_iff_exists.1 hlast
  rw [hr]
  rfl

end History

end

namespace History

/-- The properties of a provider with an identity, a name and further entries. -/
def sampleProps (key : String) (id : Nat) (name : String) (more : List (String × Value)) : Map :=
  .ofList ([(key, .flag true), (Key.serviceId, .ofNat id), (Key.name, .text name)] ++ more)

/-- A group and an interceptor for it are registered, and a handler that requires what nothing offers. -/
def direct : History {} (.shared 0 .plain) where
  host := {}
  pool := {}
  actions :=
    [.upsert .group (.shared 1 .plain) (sampleProps Key.routeGroup 3 "api" [(Key.path, .text "/a")]),
      .upsert .interceptor (.shared 2 (.marker (.ofList [.requestFilter])))
        (sampleProps Key.routeInterceptor 4 "auth" [(Key.select, .text "(path=/a)")]),
      .upsert .handler (.shared 3 .plain)
        (sampleProps Key.routeHandler 5 "users" [(Key.requires, .text "(scheme=basic)")])]

/-- The same providers are registered in another order, the group under another path at first and with a
call that fails, and a provider comes and goes. -/
def detour : History {} (.shared 0 .plain) where
  host := {}
  pool := {}
  actions :=
    [.upsert .handler (.shared 3 .plain)
        (sampleProps Key.routeHandler 5 "users" [(Key.requires, .text "(scheme=basic)")]),
      .upsert .group (.shared 1 .plain) (sampleProps Key.routeGroup 3 "api" [(Key.path, .text "/b")]),
      .upsert .group (.shared 6 .plain) (sampleProps Key.routeGroup 7 "old" [(Key.path, .text "/a")]),
      .tell (.refuse "api"), .openBatch, .remove 7,
      .upsert .group (.shared 1 .plain) (sampleProps Key.routeGroup 3 "api" [(Key.path, .text "/a")]),
      .endBatch, .tell (.accept "api"),
      .upsert .interceptor (.shared 2 (.marker (.ofList [.requestFilter])))
        (sampleProps Key.routeInterceptor 4 "auth" [(Key.select, .text "(path=/a)")])]

/-- Both histories end with the handler out of service, and with the group and its interceptor in service
under different revisions. -/
theorem detour_independent :
    direct.final.state.registry.groups ≠ detour.final.state.registry.groups ∧
      direct.final.state.failures.toList.map FailedProvider.id = [5] ∧
      direct.final.state.active.map (fun a => (a.id, a.interceptors)) = [(0, []), (3, ["auth"])] ∧
      direct.final.state.failures = detour.final.state.failures ∧
      direct.final.state.default = detour.final.state.default ∧
      direct.final.state.active = detour.final.state.active ∧
      ∀ path, direct.final.state.site.host.memory.resolve path =
        detour.final.state.site.host.memory.resolve path := by
  have hdirect : direct.Settled (direct.final.last.getD default) := settled_of_last (by decide +kernel)
  have hdetour : detour.Settled (detour.final.last.getD default) := settled_of_last (by decide +kernel)
  obtain ⟨hlive, hhost, houtcomes⟩ :
      direct.final.state.registry.SameLive detour.final.state.registry ∧
        (direct.final.last.getD default).intake.host = (detour.final.last.getD default).intake.host ∧
        ∀ c ∈ (direct.final.last.getD default).contest.probed,
          (direct.final.last.getD default).outcomes c.id =
            (detour.final.last.getD default).outcomes c.id := by decide +kernel
  obtain ⟨hfailures, hdefault, hserved⟩ := independent direct detour hdirect hdetour hlive hhost houtcomes
  obtain ⟨hactive, hresolve⟩ := hserved (by decide +kernel) (by decide +kernel)
  have hpaths := hresolve ⟨rfl, by decide +kernel⟩ ⟨rfl, by decide +kernel⟩
  obtain ⟨hgroups, hout, hin⟩ :
      direct.final.state.registry.groups ≠ detour.final.state.registry.groups ∧
        direct.final.state.failures.toList.map FailedProvider.id = [5] ∧
        direct.final.state.active.map (fun a => (a.id, a.interceptors)) = [(0, []), (3, ["auth"])] := by
    decide +kernel
  exact ⟨hgroups, hout, hin, hfailures, hdefault, hactive, hpaths⟩

end History

end RouteBinding
