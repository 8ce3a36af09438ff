import RouteBinding.Proofs.Run.Independence
import RouteBinding.Proofs.Run.Repeat
import RouteBinding.Proofs.Site.Turn

/-!
# A call that fails is confined to its group

Two dispatchers are twins if a pass finds the same at both, whatever their hosts were told about the calls to
come.  Then both passes give the same identities their turns (`Pass.turns_eq`), and what a turn does depends on
its own identity only.  So the passes differ only in the identities whose calls come to something else, and
publish the same failures and the same default group (`History.failures_confined`).

This holds wherever the passes begin, also where someone else has changed what the host serves, as long as
this does not happen while one of the two is held (`History.Undisturbed`).
-/

namespace RouteBinding

open Property

section

variable [Route.Routing]

namespace Dispatcher

variable {d e : Dispatcher} {id : ServiceId}

/-! ### The turns of a pass -/

theorem surveyed_keyed (hs : d.site.Keyed) (r : Reading) : (d.surveyed r).Keyed := by
  have hstarted : d.started.Keyed := hs
  have hremoved := hstarted.calls (Site.unregisterEach_calls d.started d.removedIds)
  exact hremoved

theorem removed_taking (hs : d.site.Keyed) (r : Reading) : Taking d.site.spot (d.removedIds.map .leaves)
    (d.started.unregisterAsks d.removedIds) (d.surveyed r).spot := by
  have hstarted : d.started.Keyed := hs
  have htaking := Site.unregisterEach_taking hstarted d.removedIds
  rwa [d.started_rests.spot, ← (d.surveyed_rests r).spot] at htaking

theorem cleared_taking (hs : d.site.Keyed) (r : Reading) : Taking d.site.spot
    ((d.removedIds ++ d.staleIds r).map .leaves) (d.clearAsks r) (d.cleared r).spot := by
  rw [List.map_append]
  exact (removed_taking hs r).append (Site.unregisterEach_taking (surveyed_keyed hs r) (d.staleIds r))

/-- What was not removed is as it was when the removed groups have left the host. -/
theorem surveyed_kept (hs : d.site.Keyed) (r : Reading) (hid : id ∉ d.removedIds) :
    (d.surveyed r).spot id = d.site.spot id := by
  refine (removed_taking hs r).other ?_
  rwa [Turn.map_id_leaves]

/-- Two dispatchers at which a pass finds the same, whatever their hosts were told about the calls to come. -/
structure Twin (d e : Dispatcher) : Prop where
  registry : e.registry = d.registry
  implicit : e.implicit = d.implicit
  pool : e.pool = d.pool
  registered : e.site.registered = d.site.registered
  properties : e.site.host.memory.properties = d.site.host.memory.properties
  mounted : e.site.host.memory.mounted = d.site.host.memory.mounted

namespace Twin

variable (h : d.Twin e)

include h

theorem reading : e.reading = d.reading :=
  reading_congr (congrArg Registry.live h.registry) h.properties h.implicit h.pool

theorem removedIds : e.removedIds = d.removedIds := by
  rw [Dispatcher.removedIds, Dispatcher.removedIds, h.registry]

theorem spot : e.site.spot = d.site.spot := by
  have hrests : d.site.Rests e.site := ⟨h.registered, h.mounted⟩
  exact hrests.spot

/-- The same groups are stale, although the host may have kept some of the removed ones. -/
theorem staleIds (hd : d.site.Keyed) (r : Reading) : e.staleIds r = d.staleIds r := by
  have he : e.site.Keyed := by
    unfold Site.Keyed
    rwa [h.registered]
  unfold Dispatcher.staleIds Site.stale
  rw [h.removedIds]
  refine Table.filter_keys_congr fun id hid => ?_
  have hkept : id ∉ d.removedIds := by
    simp only [Bool.and_eq_true, Bool.not_eq_true', List.contains_eq_mem, decide_eq_false_iff_not] at hid
    exact hid.2
  have hsame : (e.surveyed r).spot id = (d.surveyed r).spot id := by
    rw [surveyed_kept hd r hkept, surveyed_kept he r (h.removedIds ▸ hkept), h.spot]
  exact congrArg Spot.recorded hsame

end Twin

/-- Where a host serves just what is registered, it need not be compared itself. -/
theorem twin_of_inStep (hd : d.site.InStep) (he : e.site.InStep)
    (h : e.registry = d.registry ∧ e.implicit = d.implicit ∧ e.pool = d.pool ∧
      e.site.registered = d.site.registered ∧
        e.site.host.memory.properties = d.site.host.memory.properties) : d.Twin e := by
  obtain ⟨hregistry, himplicit, hpool, hregistered, hproperties⟩ := h
  refine ⟨hregistry, himplicit, hpool, hregistered, hproperties, Table.ext_get? fun id => ?_⟩
  cases hknown : d.site.registered.get? id with
  | none => rw [hd.unknown id hknown, he.unknown id (hregistered ▸ hknown)]
  | some g =>
      obtain ⟨-, m, hm, hmounted⟩ := hd.known id g hknown
      obtain ⟨-, m', hm', hmounted'⟩ := he.known id g (hregistered ▸ hknown)
      rw [hmounted, hmounted', Except.ok.inj (hm.symm.trans hm')]

end Dispatcher

namespace Pass

variable {p q : Pass} {past : List Group} {served : List Ask} {id : ServiceId}

/-- The turns of a pass: the removed and the stale groups leave the host, then the wanted ones are brought
there. -/
def turns (p : Pass) : List Turn :=
  (p.removed ++ p.opening.staleIds p.reading).map .leaves ++ p.wanted.map .serves

/-- A pass that is over has taken its turns. -/
theorem Traced.taking (h : p.Traced past served) (hs : p.opening.site.Keyed)
    (hover : p.standing.running = none) :
    Taking p.opening.site.spot p.turns p.asked p.standing.site.spot := by
  have hserving := h.serving.taking
  rw [Dispatcher.decided_site, h.past_eq hover] at hserving
  rw [h.asked]
  exact (Dispatcher.cleared_taking hs p.reading).append hserving

theorem turns_eq (hs : p.opening.site.Keyed) (htwin : p.opening.Twin q.opening) : q.turns = p.turns := by
  have hreading : q.reading = p.reading := htwin.reading
  have hremoved : q.removed = p.removed := htwin.removedIds
  rw [turns, turns, wanted, wanted, hreading, hremoved, htwin.staleIds hs]

/-- The calls of two passes about an identity come to the same, one by one. -/
def Concordant (p q : Pass) (id : ServiceId) : Prop :=
  ∀ e ∈ (asksAbout id p.asked).zip (asksAbout id q.asked), e.2.failed = e.1.failed

instance (p q : Pass) (id : ServiceId) : Decidable (p.Concordant q id) :=
  inferInstanceAs (Decidable (∀ e ∈ _, _))

/-- Two passes that differ only in the identities about which their calls come to something else. -/
structure Confined (p q : Pass) : Prop where
  failures : q.standing.failures = p.standing.failures
  default : q.standing.default = p.standing.default
  /-- About any other identity they make the same calls. -/
  calls : ∀ id, p.Concordant q id →
    (asksAbout id q.asked).map Ask.call = (asksAbout id p.asked).map Ask.call
  /-- The same is recorded of it. -/
  recorded : ∀ id, p.Concordant q id →
    q.standing.site.registered.get? id = p.standing.site.registered.get? id
  /-- The host serves the same under it. -/
  served : ∀ id, p.Concordant q id →
    q.standing.site.host.memory.mounted.get? id = p.standing.site.host.memory.mounted.get? id
  /-- The calls about all such identities are made in the same order. -/
  order : (q.asked.filter fun k => p.Concordant q k.id).map Ask.call =
    (p.asked.filter fun k => p.Concordant q k.id).map Ask.call

/-- Where two passes take the same turns from the same spots, what they ask for and leave differs only in the
identities whose calls come to something else. -/
theorem confined_of_taking (hstart : q.opening.site.spot = p.opening.site.spot) (hturns : q.turns = p.turns)
    (hp : Taking p.opening.site.spot p.turns p.asked p.standing.site.spot)
    (hq : Taking q.opening.site.spot q.turns q.asked q.standing.site.spot)
    (hfailures : q.standing.failures = p.standing.failures)
    (hdefault : q.standing.default = p.standing.default) : p.Confined q := by
  rw [hstart, hturns] at hq
  obtain ⟨hspots, horder⟩ := hp.lockstep (P := fun id => p.Concordant q id) hq (fun _ _ => rfl)
    fun id hid => of_decide_eq_true hid
  have hspot : ∀ id, p.Concordant q id → q.standing.site.spot id = p.standing.site.spot id :=
    fun id hid => hspots id (decide_eq_true hid)
  refine ⟨hfailures, hdefault, fun id hid => ?_, fun id hid => congrArg Spot.recorded (hspot id hid),
    fun id hid => congrArg Spot.served (hspot id hid), horder⟩
  -- The calls about one identity are those that are kept where no other one counts.
  have hone := hp.lockstep (P := fun j => j == id) hq (fun _ _ => rfl) fun j hj => by rwa [beq_iff_eq.1 hj]
  exact hone.2

end Pass

/-! ### Wherever a pass begins -/

namespace Dispatcher

/-- What is registered stays recorded under its identity, also where someone else changes the host. -/
theorem keyed_move {shared : Prop} {t u : Tracked} (h : t.state.site.Keyed) (hmove : Move shared t u) :
    u.state.site.Keyed := by
  cases hmove with
  | aside k =>
      unfold Site.Keyed
      rwa [k.registered]
  | registers d last kind payload props => exact h
  | removes d last kind id => exact h
  | begins d last hidle =>
      dsimp only
      exact h.calls d.startPass_calls
  | resumes d last r hheld =>
      dsimp only
      exact h.calls (d.resume_calls r)
  | interferes d last mounted hshared => exact h

end Dispatcher

namespace Chronicle

variable {c : Chronicle} {start : Tracked} {opening : Dispatcher} {actions : List Action}

/-- Someone else changes what the host serves at no moment at which a pass with this opening is held. -/
def Undisturbed (opening : Dispatcher) (c : Chronicle) : List Action → Prop
  | [] => True
  | a :: rest =>
    (a.own = true ∨ ∀ p ∈ c.heldPass?, p.opening ≠ opening) ∧ (c.act a).Undisturbed opening rest

theorem undisturbed_of_own (hown : ∀ a ∈ actions, a.own = true) (opening : Dispatcher) (c : Chronicle) :
    c.Undisturbed opening actions := by
  induction actions generalizing c with
  | nil => trivial
  | cons a rest ih =>
      obtain ⟨ha, hrest⟩ := List.forall_mem_cons.1 hown
      exact ⟨.inl ha, ih hrest _⟩

theorem Tracing.run (h : c.Tracing fun d => d = opening) (hquiet : c.state.Quiet)
    (hreached : c.Reached True start) (hcalm : c.Undisturbed opening actions) :
    (actions.foldl Chronicle.act c).Tracing fun d => d = opening := by
  induction actions generalizing c with
  | nil => exact h
  | cons a rest ih =>
      obtain ⟨hown, hrest⟩ := hcalm
      exact ih (h.act hreached.held hquiet hown) hquiet.act (hreached.act hquiet (.inr trivial)) hrest

end Chronicle

namespace History

variable {settings settings' : Settings} {content content' : Payload} (h : History settings content)
variable {p q : Pass}

/-- Someone else changes what the host serves at no moment at which this pass is held. -/
def Undisturbed (p : Pass) : Prop :=
  ({ state := h.start.state } : Chronicle).Undisturbed p.opening h.actions

theorem Driven.undisturbed {h : History settings content} (hdriven : h.Driven) (p : Pass) :
    h.Undisturbed p :=
  Chronicle.undisturbed_of_own hdriven.2 _ _

theorem traced_of_undisturbed (hcalm : h.Undisturbed p) (hp : p ∈ h.passes) :
    ∃ past served, p.Traced past served := by
  obtain ⟨hquiet, hreached⟩ := h.start_reached True
  have hstart : ({ state := h.start.state } : Chronicle).Tracing fun d => d = p.opening :=
    ⟨fun _ hnone => absurd hnone List.not_mem_nil,
      fun _ hheld => absurd rfl (Chronicle.mem_heldPass?.1 hheld).1⟩
  exact (hstart.run hquiet hreached hcalm).traced p (List.mem_reverse.1 hp) rfl

theorem opening_keyed (hp : p ∈ h.passes) : p.opening.site.Keyed := by
  have hreached : h.chronicle.Reached True h.start := (h.chronicle_reached fun _ _ => .inr trivial).2
  obtain ⟨-, last, hmoves⟩ := hreached.openings p (List.mem_reverse.1 hp)
  refine hmoves.preserve (P := fun t => t.state.site.Keyed) (fun _ _ => Dispatcher.keyed_move) ?_
  intro id g hg
  cases hg

theorem taking_of_undisturbed (hcalm : h.Undisturbed p) (hp : p ∈ h.passes)
    (hover : p.standing.running = none) :
    Taking p.opening.site.spot p.turns p.asked p.standing.site.spot := by
  obtain ⟨past, served, htraced⟩ := h.traced_of_undisturbed hcalm hp
  exact htraced.taking (h.opening_keyed hp) hover

/-- Two passes that begin alike, with hosts that may have been told, before them or while they are held, to
fail in different calls, publish the same failures and the same default group.  They differ only in the groups
whose calls come to something else: about all others they make the same calls in the same order, and what is
recorded and served of them is the same at the end. -/
theorem failures_confined (h : History settings content) (h' : History settings' content')
    (hcalm : h.Undisturbed p) (hcalm' : h'.Undisturbed q) (hp : p ∈ h.passes) (hq : q ∈ h'.passes)
    (htwin : p.opening.Twin q.opening) (hover : p.standing.running = none)
    (hover' : q.standing.running = none) : p.Confined q := by
  have hreading : q.reading = p.reading := htwin.reading
  obtain ⟨-, hpat, -⟩ := h.standing_at hp
  obtain ⟨-, hqat, -⟩ := h'.standing_at hq
  refine Pass.confined_of_taking htwin.spot (Pass.turns_eq (h.opening_keyed hp) htwin)
    (h.taking_of_undisturbed hcalm hp hover) (h'.taking_of_undisturbed hcalm' hq hover') ?_ ?_
  · rw [(hqat.ended hover').1, (hpat.ended hover).1, hreading]
  · rw [hqat.default, hpat.default, hreading]

end History

end

namespace History

/-- Of four groups one is removed, one claims a path that is taken, and two are to be reloaded; two more are
new.  Before the pass that brings this to the host, the host is told something. -/
def trial (told : List Instruction) : History {} (.shared 0 .plain) where
  host := {}
  pool := {}
  actions :=
    let group (id : Nat) (name path : String) : Action :=
      .upsert .group (.shared id .plain) (sampleProps Key.routeGroup id name [(Key.path, .text path)])
    [.openBatch, group 3 "a" "/a", group 4 "b" "/b", group 5 "c" "/c", group 6 "d" "/d", .endBatch,
      .openBatch, .remove 3, group 4 "b" "/b/b", group 5 "c" "/b/b", group 6 "d" "/d/d", group 7 "e" "/e",
      group 8 "f" "/f"] ++ told.map .tell ++ [.endBatch]

/-- The host is to refuse a removal and a registration, and to panic at a reload. -/
def troubles : List Instruction := [.refuse "a", .follow "d" (.panic none), .refuse "e"]

/-- The other calls of the pass stay as they are. -/
theorem trial_failures_confined : ∃ p ∈ (trial []).passes, ∃ q ∈ (trial troubles).passes,
    p.opening.Twin q.opening ∧
      p.asked.map (fun k => (k.op, k.id, k.failed)) =
        [(.unregister, 3, false), (.unregister, 5, false), (.reload, 4, false), (.reload, 6, false),
          (.register, 7, false), (.register, 8, false)] ∧
      q.asked.map (fun k => (k.op, k.id, k.failed)) =
        [(.unregister, 3, true), (.unregister, 5, false), (.reload, 4, false), (.reload, 6, true),
          (.register, 7, true), (.register, 8, false)] ∧ p.Confined q := by
  have hmem : ∀ l : List Pass, 1 < l.length → l.getD 1 default ∈ l := by
    rintro (_ | ⟨a, _ | ⟨b, rest⟩⟩) h
    · simp at h
    · simp at h
    · exact List.mem_cons_of_mem a List.mem_cons_self
  have hp := hmem (trial []).passes (by decide +kernel)
  have hq := hmem (trial troubles).passes (by decide +kernel)
  have hdriven : (trial []).Driven := ⟨rfl, by decide +kernel⟩
  have hdriven' : (trial troubles).Driven := ⟨rfl, by decide +kernel⟩
  have htwin := Dispatcher.twin_of_inStep ((trial []).opening_steady hdriven hp).1
    ((trial troubles).opening_steady hdriven' hq).1 (by decide +kernel)
  obtain ⟨hcalls, hover⟩ : ((trial []).passes.getD 1 default).asked.map (fun k => (k.op, k.id, k.failed)) =
        [(.unregister, 3, false), (.unregister, 5, false), (.reload, 4, false), (.reload, 6, false),
          (.register, 7, false), (.register, 8, false)] ∧
      ((trial []).passes.getD 1 default).standing.running = none := by decide +kernel
  obtain ⟨hcalls', hover'⟩ :
      ((trial troubles).passes.getD 1 default).asked.map (fun k => (k.op, k.id, k.failed)) =
        [(.unregister, 3, true), (.unregister, 5, false), (.reload, 4, false), (.reload, 6, true),
          (.register, 7, true), (.register, 8, false)] ∧
      ((trial troubles).passes.getD 1 default).standing.running = none := by decide +kernel
  exact ⟨_, hp, _, hq, htwin, hcalls, hcalls', failures_confined (trial []) (trial troubles)
    (hdriven.undisturbed _) (hdriven'.undisturbed _) hp hq htwin hover hover'⟩

end History

end RouteBinding
