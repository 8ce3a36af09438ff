import RouteBinding.Proofs.Run.Independence
import RouteBinding.Proofs.Run.Request

/-!
# Calls while a pass is held

Calls that are made while a pass is held only file their requests (`Dispatcher.Busy.run_like`), and so do
calls that are made inside a batch (`Dispatcher.batch_like`).  The pass that is held reads none of them when
it goes on (`Dispatcher.resume_filed`).  So it makes no difference whether it ends behind the calls or before
them, and one more pass is enough for all (`History.coalesced`).
-/

namespace RouteBinding

open Property

section

variable [Route.Routing]

/-- Calls that end the batches that they open, and no others. -/
def Balanced (calls : List Action) : Prop := calls.foldlM Action.nest 0 = some 0

instance (calls : List Action) : Decidable (Balanced calls) := inferInstanceAs (Decidable (_ = _))

namespace Dispatcher

variable {d e : Dispatcher} {a : Action} {r : Running}

/-- A pass is held behind which nothing was requested, and nothing else is under way: no batch is open, no
closing waits, and no other registration is to wait. -/
structure Held (d : Dispatcher) (r : Running) : Prop extends d.Busy r where
  dirty : d.dirty = false
  batches : d.batches = 0
  gated : d.site.host.gated = false

/-! ### The pass that is held goes on -/

theorem goOn_filed (d : Dispatcher) (q : Requests) (r : Running) :
    (d.filed q).goOn r = (d.goOn r).filed q := by
  have hsite : (d.filed q).site = d.site := rfl
  unfold goOn
  rw [hsite]
  dsimp only
  split <;> rfl

/-- A pass that is held reads nothing of what was requested behind it. -/
theorem resume_filed (d : Dispatcher) (q : Requests) (r : Running) :
    (d.filed q).resume r = (d.resume r).filed q := by
  cases hleft : r.left with
  | nil =>
      rw [resume_nil hleft, resume_nil hleft]
      rfl
  | cons g rest =>
      rw [resume_cons hleft, resume_cons hleft]
      exact goOn_filed (d.unheld g) q _

/-- So it leaves all that was requested. -/
theorem resume_requests (d : Dispatcher) (r : Running) : (d.resume r).requests = d.requests := by
  have hfiled := resume_filed d d.requests r
  rw [filed_requests] at hfiled
  rw [hfiled, requests_filed]

theorem goOn_batches (d : Dispatcher) (r : Running) : (d.goOn r).batches = d.batches := by
  unfold goOn
  dsimp only
  split <;> rfl

theorem startPass_batches (d : Dispatcher) : d.startPass.batches = d.batches := goOn_batches _ _

theorem goOn_waiting (d : Dispatcher) (r : Running) : (d.goOn r).waiting = d.waiting := by
  unfold goOn
  dsimp only
  split <;> rfl

theorem startPass_waiting (d : Dispatcher) : d.startPass.waiting = d.waiting := goOn_waiting _ _

theorem drain_waiting (d : Dispatcher) : d.drain.waiting = d.waiting := by
  rw [drain_eq]
  split
  · exact startPass_waiting d
  · rfl

theorem resume_waiting (d : Dispatcher) (r : Running) : (d.resume r).waiting = d.waiting := by
  cases hleft : r.left with
  | nil =>
      rw [resume_nil hleft]
      rfl
  | cons g rest =>
      rw [resume_cons hleft]
      exact goOn_waiting _ _

/-- Where no closing waits, a pass may begin behind the one that is released, and that is all. -/
theorem Busy.release_eq (h : d.Busy r) : d.release = (d.resume r).drain := by
  have hnone : (d.resume r).drain.waiting = 0 := by rw [drain_waiting, resume_waiting, h.waiting]
  rw [release, h.running]
  dsimp only
  unfold settleClosings
  rw [if_neg (by simp [hnone])]

/-- A dispatcher that runs a pass if one was requested. -/
theorem drain_passes (hidle : d.running = none) (hopen : d.status = .opened) (hbatches : d.batches = 0)
    (hgated : d.site.host.gated = false) : d.drain.running = none ∧
      d.drain.passes = d.passes + if d.dirty then 1 else 0 := by
  have hready : d.ready = d.dirty := by simp [ready, hidle, isOpen, hopen, hbatches]
  rw [drain_eq, hready]
  by_cases hdirty : d.dirty = true
  · rw [if_pos hdirty, if_pos hdirty]
    obtain ⟨hover, hpasses, -⟩ := startPass_ungated hgated
    exact ⟨hover, hpasses⟩
  · rw [if_neg hdirty, if_neg hdirty]
    exact ⟨hidle, rfl⟩

/-- The last batch that is ended lets a pass begin. -/
theorem endBatch_filed (d : Dispatcher) {q q' : Requests} (hregistry : q.registry = q'.registry)
    (hdirty : q.dirty = q'.dirty) (hopen : q.batches = 1) (hended : q'.batches = 0) :
    (d.filed q).endBatch = (d.filed q').drain := by
  have hq' : q' = { q with batches := 0 } := by
    cases q'
    simp_all
  have hone : (d.filed q).batches = 1 := hopen
  unfold endBatch
  rw [hone, if_neg Nat.one_ne_zero, hq']
  rfl

theorem Like.endBatch (h : d.Like e) : d.endBatch.Like e.endBatch := by
  have hended : ({ d with batches := d.batches - 1 } : Dispatcher).Like
      { e with batches := e.batches - 1 } := by
    obtain ⟨s, hs, rfl⟩ := h
    exact ⟨s, hs, rfl⟩
  have hbatches : e.batches = d.batches := congrArg Requests.batches h.requests
  unfold Dispatcher.endBatch
  rw [hbatches] at hended ⊢
  split
  · exact h
  · exact hended.drain

namespace Held

/-- The dispatcher once the pass is over. -/
theorem resume (h : d.Held r) : (d.resume r).running = none ∧ (d.resume r).passes = d.passes + 1 ∧
    (d.resume r).status = .opened ∧ (d.resume r).site.host.gated = false := by
  obtain ⟨hover, hpasses, hgated⟩ := resume_ungated h.gated r
  exact ⟨hover, hpasses, (resume_status d r).trans h.opened, hgated⟩

theorem release_eq (h : d.Held r) : d.release = d.resume r := by
  have hdirty : (d.resume r).dirty = d.dirty := congrArg Requests.dirty (resume_requests d r)
  rw [h.toBusy.release_eq, drain_of_not_ready]
  simp [ready, hdirty, h.dirty]

/-- What follows where calls are made while the pass is held. -/
theorem released_like (h : d.Held r) {calls : List Action} (hcalls : ∀ a ∈ calls, a.isCall = true) :
    (calls.foldl act d).release.Like ((d.resume r).filed (d.requests.after calls)).drain := by
  have hrun := h.toBusy.run_like hcalls
  have hbusy : (calls.foldl act d).Busy r := (h.toBusy.filed _).like hrun.symm
  rw [hbusy.release_eq, ← resume_filed]
  exact (hrun.resume r).drain

/-- What follows where they are made in one batch behind it. -/
theorem batched_like (h : d.Held r) {calls : List Action} (hcalls : ∀ a ∈ calls, a.isCall = true)
    (hbalanced : Balanced calls) :
    ((calls.filter fun a => !a.isClose).foldl act d.release.openBatch).endBatch.Like
      ((d.resume r).filed (d.requests.after calls)).drain := by
  obtain ⟨-, -, hopen, -⟩ := h.resume
  have hrequests := resume_requests d r
  have hbatches : (d.resume r).batches = 0 := (congrArg Requests.batches hrequests).trans h.batches
  rw [h.release_eq]
  have hopened : (d.resume r).openBatch.batches = 0 + 1 := congrArg (· + 1) hbatches
  have hrun := batch_like (d := (d.resume r).openBatch) hopen hcalls hbalanced hopened
  refine hrun.endBatch.trans ?_
  -- The batch that was open around the calls is ended.
  have hfound : (d.resume r).registry = d.registry := congrArg Requests.registry hrequests
  have hclean : (d.resume r).dirty = d.dirty := congrArg Requests.dirty hrequests
  obtain ⟨hregistry, hdirty⟩ : ((d.resume r).openBatch.requests.after calls).registry =
      (d.requests.after calls).registry ∧ ((d.resume r).openBatch.requests.after calls).dirty =
        (d.requests.after calls).dirty :=
    Requests.after_congr hfound hclean
  have hinside : ((d.resume r).openBatch.requests.after calls).batches = 0 + 1 :=
    Requests.after_batches hbalanced hopened
  have hbehind : (d.requests.after calls).batches = 0 + 0 :=
    Requests.after_batches hbalanced h.batches
  have hended := endBatch_filed (d.resume r).openBatch hregistry hdirty hinside hbehind
  rw [hended]
  exact .refl _

/-- One more pass is run if one was requested. -/
theorem released_passes (h : d.Held r) {calls : List Action} (hcalls : ∀ a ∈ calls, a.isCall = true)
    (hbalanced : Balanced calls) : (calls.foldl act d).release.running = none ∧
      (calls.foldl act d).release.passes =
        d.passes + 1 + if (d.replies calls).any Reply.requests then 1 else 0 := by
  obtain ⟨hover, hpasses, hopen, hgated⟩ := h.resume
  have hbehind : (d.requests.after calls).batches = 0 + 0 :=
    Requests.after_batches hbalanced h.batches
  obtain ⟨hidle, hone⟩ := drain_passes (d := (d.resume r).filed (d.requests.after calls)) hover hopen hbehind
    hgated
  have hdirty : ((d.resume r).filed (d.requests.after calls)).dirty =
      (d.replies calls).any Reply.requests := by
    have hrun := h.toBusy.run_dirty hcalls
    rwa [h.dirty, Bool.false_or] at hrun
  have hbefore : ((d.resume r).filed (d.requests.after calls)).passes = d.passes + 1 := hpasses
  rw [hdirty, hbefore] at hone
  obtain ⟨s, -, hs⟩ := (h.released_like hcalls).symm
  rw [hs]
  exact ⟨hidle, hone⟩

end Held

/-! ### How a pass comes to be held -/

theorem trigger_waiting (d : Dispatcher) : d.trigger.waiting = d.waiting := by
  unfold trigger
  split
  · exact drain_waiting _
  · rfl

theorem closeOnce_waiting (d : Dispatcher) : d.closeOnce.waiting = d.waiting := by
  unfold closeOnce
  split <;> rfl

/-- Where no pass is held, nothing makes a closing wait. -/
theorem act_waiting (hidle : d.running = none) (hnone : d.waiting = 0) (a : Action) :
    (d.act a).waiting = 0 := by
  have hevent : ∀ c, d.registry.change a = some c → (d.act a).waiting = 0 := by
    intro c hc
    rw [act_event hc]
    split
    · unfold changed
      split
      · exact (trigger_waiting _).trans hnone
      · exact hnone
    · exact hnone
  cases a with
  | upsert kind payload props => exact hevent _ rfl
  | removeDeclared kind props => exact hevent _ rfl
  | remove id => exact hevent _ rfl
  | trigger => exact hevent _ rfl
  | openBatch => exact hnone
  | endBatch =>
      show d.endBatch.waiting = 0
      unfold endBatch
      split
      · exact hnone
      · exact (drain_waiting _).trans hnone
  | close =>
      show d.close.2.waiting = 0
      simp [close, hidle, closeOnce_waiting, hnone]
  | closeLater =>
      show d.closeLater.waiting = 0
      simp [closeLater, hidle, closeOnce_waiting, hnone]
  | expireClose =>
      show d.expireClose.waiting = 0
      rwa [expireClose, if_pos hnone]
  | holdNext => exact hnone
  | holdNone => exact hnone
  | release =>
      show d.release.waiting = 0
      rwa [release, hidle]
  | tell instruction => exact hnone
  | supply pool => exact hnone
  | interfere mounted => exact hnone

theorem settleClosings_waiting (hidle : d.settleClosings.running = none) : d.settleClosings.waiting = 0 := by
  unfold settleClosings at hidle ⊢
  split at hidle
  · next hready => rw [if_pos hready]
  · next hready =>
    rw [if_neg hready]
    simpa [hidle] using hready

/-- No closing waits where no pass is held. -/
theorem Quiet.waiting (h : d.Quiet) (hnone : d.running = none → d.waiting = 0)
    (hidle : (d.act a).running = none) : (d.act a).waiting = 0 := by
  cases hheld : d.running with
  | none => exact act_waiting hheld (hnone hheld) a
  | some r =>
      by_cases hrelease : a = .release
      · subst hrelease
        have hact : d.act .release = (d.resume r).drain.settleClosings := by
          show d.release = _
          rw [release, hheld]
        rw [hact] at hidle ⊢
        exact settleClosings_waiting hidle
      · -- The pass is still held.
        have hprimed := primed_running (a := a) h.ready fun k => absurd k hrelease
        have hstill : (d.primed a).drain.running = d.running := by
          rw [drain_of_held (by simp [hprimed, hheld]), hprimed]
        by_cases hcloses : d.closes a
        · have hdone := (act_closes h.ready hcloses).idle
          rw [hstill, hheld] at hdone
          cases hdone
        · rw [act_eq_drain h.ready h.closed hcloses, hstill, hheld] at hidle
          cases hidle

theorem primed_begun (hready : d.ready = false) : (d.primed a).begun = d.begun := by
  by_cases hrelease : a = .release → d.running = none
  · by_cases hown : a.own = true
    · exact (primed_follows hready hown hrelease).aside.begun
    · cases a with
      | interfere mounted => rfl
      | _ => exact absurd rfl hown
  · obtain ⟨rfl, hheld⟩ := Classical.not_imp.1 hrelease
    obtain ⟨r, hr⟩ := Option.ne_none_iff_exists'.1 hheld
    rw [primed, hr]
    exact resume_begun hr

/-- When a pass that has just begun is held, nothing was requested behind it yet. -/
theorem Quiet.held (h : d.Quiet) (hbegun : (d.act a).begun ≠ d.begun) (hheld : (d.act a).running = some r)
    (hnone : (d.act a).waiting = 0) : (d.act a).Held r := by
  have hcloses : ¬d.closes a := by
    intro hcloses
    rw [(act_closes h.ready hcloses).running] at hheld
    cases hheld
  have hdrain := act_eq_drain h.ready h.closed hcloses
  have hready : (d.primed a).ready = true := by
    refine Decidable.byContradiction fun hnot => hbegun ?_
    rw [hdrain, drain_eq, if_neg hnot, primed_begun h.ready]
  rw [drain_eq, if_pos hready] at hdrain
  rw [hdrain] at hheld hnone ⊢
  simp only [Dispatcher.ready, isOpen, Bool.and_eq_true, beq_iff_eq] at hready
  obtain ⟨⟨⟨-, hopen⟩, hbatches⟩, -⟩ := hready
  have hgated : (d.primed a).startPass.site.host.gated = false := by
    rw [startPass_eq] at hheld ⊢
    apply goOn_gated
    rw [hheld]
    exact Option.some_ne_none r
  exact ⟨⟨hheld, (startPass_status _).trans hopen, hnone⟩, startPass_dirty _,
    (startPass_batches _).trans hbatches, hgated⟩

end Dispatcher

namespace History

variable {settings : Settings} {content : Payload} (h : History settings content)

/-- A history that goes on. -/
def extend (actions : List Action) : History settings content := { h with actions := h.actions ++ actions }

/-- The history in which some other actions happened, say those up to a point. -/
def upTo (actions : List Action) : History settings content := { h with actions }

theorem foldl_state (t : Tracked) (actions : List Action) :
    (actions.foldl Tracked.act t).state = actions.foldl Dispatcher.act t.state := by
  induction actions generalizing t with
  | nil => rfl
  | cons a rest ih => exact ih (t.act a)

theorem extend_state (actions : List Action) :
    (h.extend actions).final.state = actions.foldl Dispatcher.act h.final.state := by
  have hall : (h.extend actions).final = actions.foldl Tracked.act h.final := List.foldl_append
  rw [hall, foldl_state]

/-- At the end of every history no pass is to begin, and no closing waits where none is held. -/
theorem final_quiet : h.final.state.Quiet ∧ (h.final.state.running = none → h.final.state.waiting = 0) := by
  refine List.foldlRecOn h.actions Tracked.act
    (motive := fun t => t.state.Quiet ∧ (t.state.running = none → t.state.waiting = 0)) ?_ ?_
  · exact ⟨⟨rfl, fun _ => rfl⟩, fun _ => rfl⟩
  · rintro t ⟨hquiet, hnone⟩ a -
    exact ⟨hquiet.act, fun hidle => hquiet.waiting hnone hidle⟩

/-- A pass that has just begun is held with nothing requested behind it, unless a closing still waits for the
pass before it.  Calls that are made while it is held run no pass, make no call to the host and are replied as
on every idle dispatcher with the same providers, but for closing, which times out.  When it is released, one
more pass is run if one was requested.  All but the notices is then as it is where the pass ends first and the
calls are made behind it in one batch, without those that close. -/
theorem coalesced :
    (∀ a r, (h.extend [a]).final.state.begun ≠ h.final.state.begun →
      (h.extend [a]).final.state.running = some r →
        h.final.state.running = none ∨ (h.extend [a]).final.state.waiting = 0 →
          (h.extend [a]).final.state.Held r) ∧
    ∀ r, h.final.state.Held r → ∀ calls : List Action, (∀ a ∈ calls, a.isCall = true) →
      ((h.extend calls).final.state.running = some r ∧
        (h.extend calls).final.state.passes = h.final.state.passes ∧
        (h.extend calls).final.state.site.host = h.final.state.site.host ∧
        (h.extend calls).final.state.close.1 =
          .error (.shutdownTimeout h.final.state.settings.shutdownTimeout)) ∧
      (∀ {settings' : Settings} {content' : Payload} (i : History settings' content'),
        i.final.state.status = .opened → i.final.state.running = none →
          i.final.state.registry.Alike h.final.state.registry →
            i.final.state.replies (calls.filter fun a => !a.isClose) = h.final.state.replies calls) ∧
      (Balanced calls →
        (h.extend (calls ++ [.release])).final.state.running = none ∧
        (h.extend (calls ++ [.release])).final.state.passes = h.final.state.passes + 1 +
          (if (h.final.state.replies calls).any Reply.requests then 1 else 0) ∧
        (h.extend (calls ++ [.release])).final.state.Like
          (h.extend ([.release, .openBatch] ++ (calls.filter fun a => !a.isClose) ++
            [.endBatch])).final.state) := by
  refine ⟨fun a r hbegun hheld hnone => ?_, fun r hheld calls hcalls => ⟨?_, ?_, fun hbalanced => ?_⟩⟩
  · obtain ⟨hquiet, hwaits⟩ := h.final_quiet
    rw [extend_state] at hbegun hheld hnone ⊢
    refine hquiet.held hbegun hheld (hnone.elim (fun hidle => ?_) id)
    exact Dispatcher.act_waiting hidle (hwaits hidle) a
  · have hrun := hheld.toBusy.run_like hcalls
    have hbusy := (hheld.toBusy.filed _).like hrun.symm
    rw [extend_state, hbusy.close_eq]
    obtain ⟨s, ⟨l, rfl⟩, hs⟩ := hrun.symm
    rw [hs]
    exact ⟨hheld.running, rfl, rfl, rfl⟩
  · intro settings' content' i hopen hidle halike
    exact hheld.toBusy.replies_eq hopen i.final_quiet.1.ready halike hcalls
  · obtain ⟨hidle, hpasses⟩ := hheld.released_passes hcalls hbalanced
    have hbehind := (hheld.released_like hcalls).trans (hheld.batched_like hcalls hbalanced).symm
    simp only [extend_state, List.foldl_append, List.foldl_cons, List.foldl_nil]
    exact ⟨hidle, hpasses, hbehind⟩

end History

end

namespace History

/-- A registration is to wait. -/
def contended : History {} (.shared 0 .plain) where
  host := {}
  pool := {}
  actions := [.holdNext]

/-- The group whose registration begins the pass that is held. -/
def contendedEvent : Action :=
  .upsert .group (.shared 1 .plain) (sampleProps Key.routeGroup 3 "api" [(Key.path, .text "/a")])

/-- What others do meanwhile: one identity is taken by two kinds, a closing waits in vain, and a batch is opened
in which the group is removed again. -/
def contendedCalls : List Action :=
  [.upsert .group (.shared 2 .plain) (sampleProps Key.routeGroup 4 "web" [(Key.path, .text "/b")]), .close,
    .openBatch, .upsert .handler (.shared 3 .plain) (sampleProps Key.routeHandler 4 "users" []), .remove 3,
    .remove 9, .endBatch, .trigger]

/-- One more pass serves what is left. -/
theorem contended_coalesced : ∃ r, (contended.extend [contendedEvent]).final.state.Held r ∧
    (contended.extend [contendedEvent]).final.state.replies contendedCalls =
      [.registered (.ok 4), .registered (.error (.idInUse ⟨4, .group⟩)), .removed (.ok true),
        .removed (.ok false), .triggered] ∧
    ((contended.extend [contendedEvent]).extend contendedCalls).final.state.passes = 0 ∧
    ((contended.extend [contendedEvent]).extend (contendedCalls ++ [.release])).final.state.passes = 2 ∧
    ((contended.extend [contendedEvent]).extend (contendedCalls ++ [.release])).final.state.active.map
      ActiveGroup.name = [".default", "web"] ∧
    ((contended.extend [contendedEvent]).extend (contendedCalls ++ [.release])).final.state.Like
      ((contended.extend [contendedEvent]).extend ([.release, .openBatch] ++
        (contendedCalls.filter fun a => !a.isClose) ++ [.endBatch])).final.state := by
  obtain ⟨hidle, hbegun, hsome⟩ : contended.final.state.running = none ∧
      (contended.extend [contendedEvent]).final.state.begun ≠ contended.final.state.begun ∧
        (contended.extend [contendedEvent]).final.state.running.isSome = true := by decide +kernel
  obtain ⟨r, hr⟩ := Option.isSome_iff_exists.1 hsome
  have hheld := (coalesced contended).1 contendedEvent r hbegun hr (.inl hidle)
  obtain ⟨⟨-, hstill, -, -⟩, -, hreleased⟩ :=
    (coalesced (contended.extend [contendedEvent])).2 r hheld contendedCalls (by decide +kernel)
  obtain ⟨-, hpasses, hlike⟩ := hreleased (by decide +kernel)
  obtain ⟨hreplies, hnone, hactive⟩ : (contended.extend [contendedEvent]).final.state.replies contendedCalls =
      [.registered (.ok 4), .registered (.error (.idInUse ⟨4, .group⟩)), .removed (.ok true),
        .removed (.ok false), .triggered] ∧
      (contended.extend [contendedEvent]).final.state.passes = 0 ∧
      ((contended.extend [contendedEvent]).extend (contendedCalls ++ [.release])).final.state.active.map
        ActiveGroup.name = [".default", "web"] := by decide +kernel
  rw [hnone] at hstill
  rw [hreplies, hnone] at hpasses
  exact ⟨r, hheld, hreplies, hstill, hpasses, hactive, hlike⟩

end History

end RouteBinding
