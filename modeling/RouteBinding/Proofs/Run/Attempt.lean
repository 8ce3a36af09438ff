import RouteBinding.Proofs.Run.Farewell
import RouteBinding.Proofs.Run.Repeat

/-!
# How often a pass asks to unregister a group

A pass unregisters the groups that were removed, in the order of their removal, and then the registered groups that
it does not want, without those that it has tried before.  A call that succeeds makes the host and the dispatcher
forget the group, so nothing is asked under its identity again; a call that fails leaves both as they were.  The
removals are not compared with each other: an identity that was removed, registered and removed again before the
pass is listed twice, and while calls for its group fail it is tried once for each time that it is listed
(`Site.count_unregisterAsks`).  All other groups are tried once at most (`History.unregister_attempts`).
-/

namespace RouteBinding

open Host Property

section

variable [Route.Routing]

namespace Site

variable {s : Site} {g : Group} {id : ServiceId}

/-- A group that the host serves is unregistered unless calls for it fail. -/
theorem perform_unregister_ok (hserves : s.host.memory.serves g.id = true) :
    (s.perform .unregister g).1 = !s.host.fails g.name := by
  unfold perform Recording.perform
  cases hfails : s.host.fails g.name with
  | true =>
      obtain ⟨e, he⟩ : ∃ e, s.host.outcome .unregister g = .error e := Recording.outcome_of_fails hfails
      rw [he]
      rfl
  | false =>
      rw [Recording.outcome_of_not_fails hfails, Recording.inner, Memory.unregister, if_pos hserves]
      rfl

theorem unregister_fails (s : Site) (id : ServiceId) : (s.unregister id).host.fails = s.host.fails := by
  cases hknown : s.registered.get? id with
  | none => rw [unregister_absent hknown]
  | some g =>
      have hperformed : ((s.announce .unregister g).perform .unregister g).2.host.fails = s.host.fails :=
        perform_fails ..
      rw [unregister_eq hknown]
      split <;> exact hperformed

/-- What is recorded of a registered group once the host was asked to unregister it. -/
theorem unregister_record (hs : s.InStep) (hknown : s.registered.get? id = some g) :
    (s.unregister id).registered.get? id = if s.host.fails g.name then some g else none := by
  have hserves : s.host.memory.serves g.id = true := by
    rw [(hs.known id g hknown).1]
    exact hs.serves_known hknown
  have hdone : ((s.announce .unregister g).perform .unregister g).1 = !s.host.fails g.name :=
    perform_unregister_ok (s := s.announce .unregister g) hserves
  have hsame : ((s.announce .unregister g).perform .unregister g).2.registered = s.registered :=
    perform_registered ..
  rw [unregister_eq hknown, hdone]
  cases s.host.fails g.name with
  | true => simp [hsame, hknown]
  | false => simp [hsame, Table.get?_erase]

/-- Under a registered identity the host is asked as often as the identity is listed while the calls fail, and once
otherwise. -/
theorem count_unregisterAsks (hs : s.InStep) (ids : List ServiceId) (id : ServiceId) :
    ((s.unregisterAsks ids).map Ask.id).count id =
      match s.registered.get? id with
      | none => 0
      | some g => if s.host.fails g.name then ids.count id else min 1 (ids.count id) := by
  induction ids generalizing s with
  | nil => cases s.registered.get? id <;> simp [unregisterAsks]
  | cons j rest ih =>
      have hrest := ih (unregister_inStep hs j)
      rw [unregister_fails] at hrest
      rw [unregisterAsks, List.map_append, List.count_append, hrest]
      by_cases hj : j = id
      · subst hj
        cases hknown : s.registered.get? j with
        | none => simp [unregister_absent hknown, hknown]
        | some g =>
            have hfirst : g.id = j := (hs.known j g hknown).1
            rw [unregister_record hs hknown]
            by_cases hfails : s.host.fails g.name = true
            · simp [hfails, Ask.id, hfirst, Nat.add_comm]
            · simp [hfails, Ask.id, hfirst]
      · have hsame : (s.unregister j).registered.get? id = s.registered.get? id :=
          unregisterEach_other [j] hs (by simpa using Ne.symm hj)
        have hfirst : (((s.registered.get? j).toList.map fun g =>
            (⟨s.announce .unregister g, .unregister, g⟩ : Ask)).map Ask.id).count id = 0 := by
          apply List.count_eq_zero.2
          intro hmem
          simp only [List.map_map, List.mem_map, Option.mem_toList, Function.comp_apply, Ask.id] at hmem
          obtain ⟨g, hg, hid⟩ := hmem
          exact hj ((hs.known j g hg).1.symm.trans hid)
        rw [hfirst, hsame, List.count_cons_of_ne hj, Nat.zero_add]

/-- A group for which calls fail stays recorded, however often the host is asked. -/
theorem unregisterEach_keeps (hs : s.InStep) (ids : List ServiceId) (hknown : s.registered.get? id = some g)
    (hfails : s.host.fails g.name = true) : (s.unregisterEach ids).registered.get? id = some g ∧
      (s.unregisterEach ids).host.fails = s.host.fails := by
  induction ids generalizing s with
  | nil => exact ⟨hknown, rfl⟩
  | cons j rest ih =>
      have hkept : (s.unregister j).registered.get? id = some g := by
        by_cases hj : j = id
        · subst hj
          rw [unregister_record hs hknown, if_pos hfails]
        · rw [← hknown]
          exact unregisterEach_other [j] hs (by simpa using Ne.symm hj)
      have hsame := s.unregister_fails j
      obtain ⟨hrecord, hlast⟩ := ih (unregister_inStep hs j) hkept (by rwa [hsame])
      exact ⟨hrecord, hlast.trans hsame⟩

end Site

namespace Pass

/-- The number of times that a pass asks the host to unregister a group with an identity. -/
def attempts (p : Pass) (id : ServiceId) : Nat :=
  p.asked.countP fun k => k.op == .unregister && k.id == id

/-- How often a pass asks to unregister what is registered under an identity. -/
structure Attempts (p : Pass) (id : ServiceId) : Prop where
  absent : p.opening.site.registered.get? id = none → p.attempts id = 0
  /-- A group that is wanted and was not removed is let be. -/
  wanted : id ∉ p.removed → id ∈ p.wanted.map Group.id → p.attempts id = 0
  /-- One that is no longer wanted is tried once, whether the call fails or not. -/
  stale : ∀ g, p.opening.site.registered.get? id = some g → id ∉ p.removed → id ∉ p.wanted.map Group.id →
    p.attempts id = 1
  /-- One that was removed is tried until a call succeeds, once for each time it is listed. -/
  removed : ∀ g, p.opening.site.registered.get? id = some g → id ∈ p.removed →
    p.attempts id = if p.opening.site.host.fails g.name then p.removed.count id else 1
  /-- So there is one attempt at most, but for a group that is listed twice and for which calls fail. -/
  once_iff : p.attempts id ≤ 1 ↔ ¬∃ g, p.opening.site.registered.get? id = some g ∧
    p.opening.site.host.fails g.name = true ∧ 1 < p.removed.count id
  /-- A group for which calls fail is still recorded afterwards, so that it can be tried again. -/
  kept : ∀ g, p.opening.site.registered.get? id = some g → p.opening.site.host.fails g.name = true →
    p.opening.decided.site.registered.get? id = some g

variable {p : Pass} {past : List Group} {served : List Ask} {A : Archive} {id : ServiceId} {g : Group}

/-- All attempts are made before the wanted groups are brought to the host. -/
theorem Traced.attempts_eq (h : p.Traced past served) (hs : p.opening.site.InStep)
    (hnodup : (p.wanted.map Group.id).Nodup) (hcovers : A.Covers p.opening) : p.attempts id =
      ((p.opening.started.unregisterAsks p.removed).map Ask.id).count id +
        (((p.opening.surveyed p.reading).unregisterAsks (p.opening.staleIds p.reading)).map Ask.id).count id := by
  have hserved : served.countP (fun k => k.op == .unregister && k.id == id) = 0 := by
    apply List.countP_eq_zero.2
    intro k hk
    simp [h.served_brings hs hnodup hcovers hk]
  have hcleared : (p.opening.clearAsks p.reading).countP (fun k => k.op == .unregister && k.id == id) =
      ((p.opening.clearAsks p.reading).map Ask.id).count id := by
    rw [List.count, List.countP_map]
    apply List.countP_congr
    intro k hk
    simp [(Dispatcher.mem_clearAsks hs hk).1]
  rw [attempts, h.asked, List.countP_append, hserved, hcleared, Nat.add_zero, Dispatcher.clearAsks,
    List.map_append, List.count_append]
  rfl

/-- The attempts at a removed identity are those at what is listed as removed. -/
theorem Traced.attempts_removed (h : p.Traced past served) (hs : p.opening.site.InStep)
    (hnodup : (p.wanted.map Group.id).Nodup) (hcovers : A.Covers p.opening) (hremoved : id ∈ p.removed)
    (hknown : p.opening.site.registered.get? id = some g) :
    p.attempts id = if p.opening.site.host.fails g.name then p.removed.count id else 1 := by
  have hfirst := Site.count_unregisterAsks (Dispatcher.started_inStep hs) p.removed id
  have hlast := Site.count_unregisterAsks (Dispatcher.surveyed_inStep hs p.reading)
    (p.opening.staleIds p.reading) id
  -- An identity that was tried before is not stale.
  have hstale : (p.opening.staleIds p.reading).count id = 0 :=
    List.count_eq_zero.2 fun hmem => (Dispatcher.mem_staleIds.1 hmem).2.2 hremoved
  have hpos : 0 < p.removed.count id := List.count_pos_iff.2 hremoved
  have hzero : (((p.opening.surveyed p.reading).unregisterAsks
      (p.opening.staleIds p.reading)).map Ask.id).count id = 0 := by
    rw [hlast, hstale]
    cases (p.opening.surveyed p.reading).registered.get? id <;> simp
  have hsame : p.opening.started.registered.get? id = some g := hknown
  rw [hsame] at hfirst
  rw [h.attempts_eq hs hnodup hcovers, hzero, hfirst, Nat.add_zero]
  show (if p.opening.site.host.fails g.name then _ else _) = _
  split
  · rfl
  · omega

/-- The attempts at any other identity are those at what is stale. -/
theorem Traced.attempts_unremoved (h : p.Traced past served) (hs : p.opening.site.InStep)
    (hnodup : (p.wanted.map Group.id).Nodup) (hcovers : A.Covers p.opening) (hremoved : id ∉ p.removed) :
    p.attempts id = if (p.opening.site.registered.get? id).isSome ∧ id ∉ p.wanted.map Group.id then 1 else 0 := by
  have hfirst : ((p.opening.started.unregisterAsks p.removed).map Ask.id).count id = 0 := by
    apply List.count_eq_zero.2
    intro hmem
    obtain ⟨k, hk, rfl⟩ := List.mem_map.1 hmem
    exact hremoved (Site.mem_unregisterAsks (Dispatcher.started_inStep hs) hk).2.1
  have hlast := Site.count_unregisterAsks (Dispatcher.surveyed_inStep hs p.reading)
    (p.opening.staleIds p.reading) id
  -- Nothing has happened to the identity when the stale groups leave.
  have hsame : (p.opening.surveyed p.reading).registered.get? id = p.opening.site.registered.get? id :=
    Site.unregisterEach_other p.removed (Dispatcher.started_inStep hs) hremoved
  have hcount : (p.opening.staleIds p.reading).count id =
      if (p.opening.site.registered.get? id).isSome ∧ id ∉ p.wanted.map Group.id then 1 else 0 := by
    rw [(Traced.nodup_staleIds _ _).count]
    have hremoved : id ∉ p.opening.removedIds := hremoved
    simp only [Dispatcher.mem_staleIds, hsame, hremoved, not_false_eq_true, and_true]
    rfl
  rw [hsame, hcount] at hlast
  rw [h.attempts_eq hs hnodup hcovers, hfirst, hlast, Nat.zero_add]
  cases p.opening.site.registered.get? id with
  | none => simp
  | some g =>
      dsimp only
      split <;> split <;> rfl

/-- The attempts of a pass that found host and dispatcher in step. -/
theorem Traced.attempted (h : p.Traced past served) (hs : p.opening.site.InStep)
    (hnodup : (p.wanted.map Group.id).Nodup) (hcovers : A.Covers p.opening) (id : ServiceId) :
    p.Attempts id := by
  have hremoved : ∀ g, p.opening.site.registered.get? id = some g → id ∈ p.removed →
      p.attempts id = if p.opening.site.host.fails g.name then p.removed.count id else 1 :=
    fun g hknown hmem => h.attempts_removed hs hnodup hcovers hmem hknown
  have hother : id ∉ p.removed → p.attempts id =
      if (p.opening.site.registered.get? id).isSome ∧ id ∉ p.wanted.map Group.id then 1 else 0 :=
    h.attempts_unremoved hs hnodup hcovers
  have habsent : p.opening.site.registered.get? id = none → p.attempts id = 0 := by
    intro hnone
    rw [attempts, List.countP_eq_zero]
    intro k hk hcounts
    simp only [Bool.and_eq_true, beq_iff_eq] at hcounts
    obtain ⟨hop, rfl⟩ := hcounts
    rw [h.asked, List.mem_append] at hk
    have hclear := hk.resolve_right fun hserved => h.served_brings hs hnodup hcovers hserved hop
    simp [(Dispatcher.mem_clearAsks hs hclear).2.2.1] at hnone
  refine ⟨habsent, ?_, ?_, hremoved, ?_, ?_⟩
  · intro hmem hwanted
    simp [hother hmem, hwanted]
  · intro g hknown hmem hunwanted
    simp [hother hmem, hknown, hunwanted]
  · by_cases hmem : id ∈ p.removed
    · cases hknown : p.opening.site.registered.get? id with
      | none => simp [habsent hknown]
      | some g =>
          rw [hremoved g hknown hmem]
          by_cases hfails : p.opening.site.host.fails g.name = true
          · simp [hfails]
          · simp [hfails]
    · rw [hother hmem, List.count_eq_zero.2 hmem]
      split <;> simp
  · intro g hknown hfails
    have hstarted : p.opening.started.registered.get? id = some g := hknown
    obtain ⟨hfirst, hsame⟩ := Site.unregisterEach_keeps (Dispatcher.started_inStep hs) p.opening.removedIds
      hstarted hfails
    have hstill : (p.opening.surveyed p.reading).host.fails g.name = true := by
      show (p.opening.started.unregisterEach p.opening.removedIds).host.fails g.name = true
      rw [hsame]
      exact hfails
    rw [Dispatcher.decided_site, Dispatcher.cleared_eq]
    exact (Site.unregisterEach_keeps (Dispatcher.surveyed_inStep hs p.reading) _ hfirst hstill).1

end Pass

namespace History

variable {settings : Settings} {content : Payload} (h : History settings content) {p : Pass}

/-- In every history in which the host is left to the dispatcher, a pass asks to unregister a group once at most,
unless the group is listed more than once among the removed ones and calls for it fail. -/
theorem unregister_attempts (hdriven : h.Driven) (hp : p ∈ h.passes) (id : ServiceId) : p.Attempts id := by
  obtain ⟨hs, ⟨A, hcovers⟩, hnodup, past, served, htraced⟩ := h.opening_steady hdriven hp
  exact htraced.attempted hs hnodup hcovers id

end History

end

namespace History

/-- Inside a batch a group for which calls fail is removed, registered again under its identity and removed again. -/
def redeparting : History {} (.shared 0 .plain) where
  host := {}
  pool := {}
  actions :=
    let group : Map := .ofList [(Key.routeGroup, .flag true), (Key.serviceId, .ofNat 3),
      (Key.name, .text "api"), (Key.path, .text "/a")]
    [.upsert .group (.shared 1 .plain) group, .tell (.refuse "api"), .openBatch, .remove 3,
      .upsert .group (.shared 1 .plain) group, .remove 3, .endBatch]

theorem redeparting_attempts : redeparting.Driven ∧ (∀ p ∈ redeparting.passes, p.Attempts 3) ∧
    redeparting.passes.map (fun p => (p.removed, p.attempts 3)) = [([], 0), ([3, 3], 2)] := by
  have hdriven : redeparting.Driven := ⟨rfl, by decide +kernel⟩
  exact ⟨hdriven, fun p hp => unregister_attempts redeparting hdriven hp 3, by decide +kernel⟩

/-- The last pass asks twice to unregister the group. -/
theorem redeparting_attempted_twice : redeparting.Driven ∧
    ¬∀ p ∈ redeparting.passes, ∀ id, p.attempts id ≤ 1 := by
  have htwice : ∃ p ∈ redeparting.passes, ¬p.attempts 3 ≤ 1 := by decide +kernel
  refine ⟨⟨rfl, by decide +kernel⟩, fun honce => ?_⟩
  obtain ⟨p, hp, hmany⟩ := htwice
  exact hmany (honce p hp 3)

end History

end RouteBinding
