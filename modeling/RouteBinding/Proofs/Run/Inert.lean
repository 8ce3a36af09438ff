import RouteBinding.Proofs.Run.Farewell

/-!
# A dispatcher that is closed does nothing

Once closing has succeeded the dispatcher is closed (`History.Closed.status`), and it knows of no provider, no
failure and no group that is served (`Dispatcher.Shut`).  So it stays whatever happens (`Dispatcher.Shut.act`),
and what its users do changes nothing but the count of open batches and the list of how closings have ended
(`Dispatcher.Shut.act_eq`, `History.closed_inert`).
-/

namespace RouteBinding

open Property

section

variable [Route.Routing]

namespace Action

/-- Whether an action is one of those who use the dispatcher, or one of a pass or a closing that waits. -/
def isUse : Action → Bool
  | holdNext | holdNone | tell _ | supply _ | interfere _ => false
  | _ => true

/-- How a closing that may wait has ended where the dispatcher is closed, if an action is one. -/
def closings : Action → List (Except DispatchError Unit)
  | closeLater => [.ok ()]
  | _ => []

end Action

namespace Dispatcher

variable {d : Dispatcher} {a : Action}

/-! ### How closings end -/

theorem goOn_closings (d : Dispatcher) (r : Running) : (d.goOn r).closings = d.closings := by
  unfold goOn
  dsimp only
  split <;> rfl

theorem drain_closings (d : Dispatcher) : d.drain.closings = d.closings := by
  rw [drain_eq]
  split
  · exact goOn_closings _ _
  · rfl

theorem trigger_closings (d : Dispatcher) : d.trigger.closings = d.closings := by
  unfold trigger
  split
  · exact drain_closings _
  · rfl

theorem resume_closings (d : Dispatcher) (r : Running) : (d.resume r).closings = d.closings := by
  cases hleft : r.left with
  | nil =>
      rw [resume_nil hleft]
      rfl
  | cons g rest =>
      rw [resume_cons hleft]
      exact goOn_closings _ _

theorem expireClose_closings (d : Dispatcher) (h : .ok () ∉ d.closings) : .ok () ∉ d.expireClose.closings := by
  unfold expireClose
  split
  · exact h
  · rw [drain_closings]
    simpa [note] using h

theorem expireAll_closings (n : Nat) (h : .ok () ∉ d.closings) : .ok () ∉ (expireAll n d).closings := by
  induction n generalizing d with
  | zero => exact h
  | succ n ih => exact ih (expireClose_closings d h)

/-- A closing that may wait succeeds only where the dispatcher is closed afterwards. -/
theorem act_closings (hopen : (d.act a).status ≠ .closed) (h : .ok () ∉ d.closings) :
    .ok () ∉ (d.act a).closings := by
  have hevent : ∀ c, d.registry.change a = some c → .ok () ∉ (d.act a).closings := by
    intro c hc
    rw [act_event hc]
    split
    · unfold changed
      split
      · rwa [trigger_closings]
      · exact h
    · exact h
  cases a with
  | upsert kind payload props => exact hevent _ rfl
  | removeDeclared kind props => exact hevent _ rfl
  | remove id => exact hevent _ rfl
  | trigger => exact hevent _ rfl
  | openBatch => exact h
  | endBatch =>
      show .ok () ∉ d.endBatch.closings
      unfold endBatch
      split
      · exact h
      · rwa [drain_closings]
  | close =>
      rw [show d.act .close = d.close.2 from rfl, (close_of_open hopen).2]
      exact expireAll_closings _ h
  | closeLater =>
      rw [show d.act .closeLater = d.closeLater from rfl, closeLater_of_open hopen]
      exact h
  | expireClose => exact expireClose_closings d h
  | holdNext => exact h
  | holdNone => exact h
  | release =>
      cases hheld : d.running with
      | none => rwa [show d.act .release = d.release from rfl, release_of_idle hheld]
      | some r =>
          rw [show d.act .release = d.release from rfl, release_of_open hheld hopen, drain_closings,
            resume_closings]
          exact h
  | tell instruction => exact h
  | supply pool => exact h
  | interfere mounted => exact h

/-! ### What a closed dispatcher knows -/

/-- A dispatcher that is closed, with no pass held: it knows of no provider, no failure and no group that is
served. -/
structure Shut (d : Dispatcher) : Prop where
  status : d.status = .closed
  running : d.running = none
  waiting : d.waiting = 0
  groups : d.registry.groups = ∅
  handlers : d.registry.handlers = ∅
  interceptors : d.registry.interceptors = ∅
  /-- No removal is pending. -/
  removed : d.registry.removedGroups = [] ∧ d.registry.removedContent = []
  failures : d.failures = {}
  active : d.active = []
  default : d.default = none

namespace Shut

variable (h : d.Shut)

include h

theorem drain_eq (batches : Nat) : { d with batches }.drain = { d with batches } :=
  drain_of_not_ready (by simp [ready, isOpen, h.status])

/-- What its users do changes nothing but the count of open batches and the list of how closings have ended. -/
theorem act_eq (ha : a.isUse = true) :
    d.act a = { d with batches := a.batches d.batches, closings := d.closings ++ a.closings } := by
  have hsame : { d with closings := d.closings ++ [] } = d := by rw [List.append_nil]
  have hevent : ∀ c, d.registry.change a = some c → d.act a = d := by
    intro c hc
    rw [act_event hc, if_neg (by simp [isOpen, h.status])]
  cases a with
  | upsert kind payload props => exact (hevent _ rfl).trans hsame.symm
  | removeDeclared kind props => exact (hevent _ rfl).trans hsame.symm
  | remove id => exact (hevent _ rfl).trans hsame.symm
  | trigger => exact (hevent _ rfl).trans hsame.symm
  | openBatch => simp [act, openBatch, Action.batches, Action.closings]
  | endBatch =>
      show d.endBatch = { d with batches := d.batches - 1, closings := d.closings ++ [] }
      rw [List.append_nil, endBatch]
      split
      · next hnone =>
        have hstill : d.batches - 1 = d.batches := by omega
        rw [hstill]
      · exact h.drain_eq _
  | close =>
      have hclose : d.close.2 = d := by simp [close, h.running, closeOnce_of_closed h.status]
      exact hclose.trans hsame.symm
  | closeLater =>
      show d.closeLater = { d with closings := d.closings ++ [.ok ()] }
      rw [closeLater, if_neg (by simp [h.running]), closeOnce_of_closed h.status]
  | expireClose =>
      have hexpire : d.expireClose = d := by rw [expireClose, if_pos h.waiting]
      exact hexpire.trans hsame.symm
  | release => exact (release_of_idle h.running).trans hsame.symm
  | _ => cases ha

/-- Besides what is counted, nothing tells it from one that was used in the meantime. -/
theorem used (batches : Nat) (closings : List (Except DispatchError Unit)) :
    Shut { d with batches, closings } := { h with }

/-- So it stays, whatever happens. -/
theorem act (a : Action) : (d.act a).Shut := by
  cases huse : a.isUse with
  | true =>
      rw [h.act_eq huse]
      exact h.used _ _
  | false =>
      cases a with
      | holdNext | holdNone | tell | supply | interfere => exact { h with }
      | _ => cases huse

theorem run_eq {actions : List Action} (huse : ∀ a ∈ actions, a.isUse = true) :
    actions.foldl Dispatcher.act d =
      { d with
        batches := actions.foldl Action.batches d.batches
        closings := d.closings ++ actions.flatMap Action.closings } := by
  induction actions generalizing d with
  | nil => simp
  | cons a rest ih =>
      obtain ⟨ha, hrest⟩ := List.forall_mem_cons.1 huse
      rw [List.foldl_cons, ih (h.act a) hrest, h.act_eq ha]
      simp

end Shut

/-- Closing leaves a dispatcher that knows of nothing. -/
theorem Quiet.shut (h : d.Quiet) (hwaiting : (d.act a).waiting = 0) (hcloses : d.closes a) : (d.act a).Shut := by
  have hclosed := act_closes h.ready hcloses
  obtain ⟨-, waiting, closings, hact⟩ := act_closeNow h.ready hcloses
  have hrunning := hclosed.running
  rw [hact] at hwaiting hrunning ⊢
  exact ⟨rfl, hrunning, hwaiting, rfl, rfl, rfl, ⟨rfl, rfl⟩, rfl, rfl, rfl⟩

/-- What is asked of a dispatcher that takes no events is refused, and closing it succeeds. -/
structure Refuses (d : Dispatcher) : Prop where
  upsert : ∀ kind payload props, (d.upsert kind payload props).1 = .error .closed
  removeDeclared : ∀ kind props, (d.removeDeclared kind props).1 = .error .closed
  remove : ∀ id, (d.remove id).1 = .error .closed
  close : d.close.1 = .ok ()

theorem Shut.refuses (h : d.Shut) : d.Refuses := by
  have hopen : d.isOpen = false := by simp [isOpen, h.status]
  constructor
  case upsert => intro kind payload props; simp [upsert, hopen]
  case removeDeclared => intro kind props; simp [removeDeclared, hopen]
  case remove => intro id; simp [remove, hopen]
  case close => simp [close, h.running]

end Dispatcher

namespace History

variable {settings : Settings} {content : Payload} (h : History settings content)

/-- Closing has succeeded, at once or after it has waited. -/
inductive Closed : Prop where
  | once (front behind : List Action) (hactions : h.actions = front ++ .close :: behind)
    (hok : (h.upTo front).final.state.close.1 = .ok ())
  | later (hok : .ok () ∈ h.final.state.closings)

/-- The dispatcher is closed then. -/
theorem Closed.status {h : History settings content} (hclosed : h.Closed) : h.final.state.status = .closed := by
  cases hclosed with
  | once front behind hactions hok =>
      have hfinal : h.final.state = ((h.upTo front).extend (.close :: behind)).final.state := by
        unfold final
        rw [hactions]
        rfl
      rw [hfinal, extend_state, List.foldl_cons]
      have hfirst : ((h.upTo front).final.state.act .close).status = .closed := by
        by_cases hbefore : (h.upTo front).final.state.status = .closed
        · exact Dispatcher.act_closed hbefore .close
        · exact ((Dispatcher.close_ok_iff hbefore).1 hok).2
      exact Dispatcher.foldl_closed hfirst behind
  | later hok =>
      have hnone : h.final.state.status ≠ .closed → .ok () ∉ h.final.state.closings := by
        refine List.foldlRecOn h.actions Tracked.act
          (motive := fun t => t.state.status ≠ .closed → .ok () ∉ t.state.closings) ?_ ?_
        · exact fun _ => List.not_mem_nil
        · exact fun t ht a _ hopen =>
            Dispatcher.act_closings hopen (ht fun hbefore => hopen (Dispatcher.act_closed hbefore a))
      exact Decidable.byContradiction fun hopen => hnone hopen hok

/-- A dispatcher that is closed knows of nothing. -/
theorem shut_of_closed (hclosed : h.final.state.status = .closed) : h.final.state.Shut := by
  have hkept : (h.final.state.Quiet ∧ (h.final.state.running = none → h.final.state.waiting = 0)) ∧
      (h.final.state.status = .closed → h.final.state.Shut) := by
    refine List.foldlRecOn h.actions Tracked.act
      (motive := fun t => (t.state.Quiet ∧ (t.state.running = none → t.state.waiting = 0)) ∧
        (t.state.status = .closed → t.state.Shut)) ?_ ?_
    · exact ⟨⟨⟨rfl, fun _ => rfl⟩, fun _ => rfl⟩, fun hnever => nomatch hnever⟩
    · rintro t ⟨⟨hquiet, hnone⟩, hshut⟩ a -
      have hwaiting := fun hidle => hquiet.waiting hnone (a := a) hidle
      refine ⟨⟨hquiet.act, hwaiting⟩, fun hafter => ?_⟩
      by_cases hbefore : t.state.status = .closed
      · exact (hshut hbefore).act a
      · have hcloses : t.state.closes a := ⟨hbefore, hafter⟩
        exact hquiet.shut (hwaiting (Dispatcher.act_closes hquiet.ready hcloses).running) hcloses
  exact hkept.2 hclosed

/-- Once closing has succeeded, the dispatcher knows of no provider, no failure and no group that is served, and
no removal is pending.  Whatever its users do then, every event is refused, every closing succeeds, and nothing
changes but the count of open batches: no call is made to the host, no content is acquired, nothing is published,
and the passes and the report of the last one are as they were. -/
theorem closed_inert (hclosed : h.Closed) {actions : List Action} (huse : ∀ a ∈ actions, a.isUse = true) :
    (h.extend actions).final.state.Shut ∧ (h.extend actions).final.state.Refuses ∧
      (h.extend actions).final.state =
        { h.final.state with
          batches := actions.foldl Action.batches h.final.state.batches
          closings := h.final.state.closings ++ actions.flatMap Action.closings } := by
  have hshut := h.shut_of_closed hclosed.status
  rw [extend_state, hshut.run_eq huse]
  exact ⟨hshut.used _ _, (hshut.used _ _).refuses, rfl⟩

end History

end

namespace History

/-- A pass is held, a batch is open, and a closing has waited until the pass was released. -/
def departed : History {} (.shared 0 .plain) :=
  contended.extend [contendedEvent, .openBatch, .closeLater, .release]

/-- What others try behind that, who end the batch too. -/
def departedUses : List Action :=
  [contendedEvent, .openBatch, .remove 3, .trigger, .endBatch, .endBatch, .close, .closeLater]

/-- Nothing comes of it. -/
theorem departed_closed_inert : departed.Closed ∧ departed.final.state.batches = 1 ∧
    departed.final.state.passes = 1 ∧ (departed.extend departedUses).final.state =
      { departed.final.state with batches := 0, closings := [.ok (), .ok ()] } := by
  obtain ⟨hok, hbatches, hpasses, hclosings⟩ : .ok () ∈ departed.final.state.closings ∧
      departed.final.state.batches = 1 ∧ departed.final.state.passes = 1 ∧
        departed.final.state.closings = [.ok ()] := by decide +kernel
  have hclosed : departed.Closed := .later hok
  have huse : ∀ a ∈ departedUses, a.isUse = true := by decide +kernel
  obtain ⟨-, -, hthen⟩ := closed_inert departed hclosed huse
  rw [hbatches, hclosings] at hthen
  exact ⟨hclosed, hbatches, hpasses, hthen⟩

end History

end RouteBinding
