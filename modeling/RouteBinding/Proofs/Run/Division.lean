import RouteBinding.Proofs.Site.Trail

/-!
# Where a pass may begin

An action is divided at the one moment at which a pass may begin (`Dispatcher.primed`,
`Dispatcher.act_eq_drain`).  What comes before changes the registry at most (`Dispatcher.primed_follows`),
unless the action releases a pass; what comes after is that the dispatcher is closed, if the action closes it
(`Dispatcher.act_closes`).  While a pass is held, an action that does not release it makes no call
(`Dispatcher.act_follows`).
-/

namespace RouteBinding

open Property

variable [Route.Routing]

namespace Dispatcher

/-- Whether a pass begins as soon as it gets the chance. -/
def ready (d : Dispatcher) : Bool := d.running.isNone && d.isOpen && d.batches == 0 && d.dirty

/-- Whether an action closes a dispatcher that was not closed before. -/
def closes (d : Dispatcher) (a : Action) : Prop := d.status ≠ .closed ∧ (d.act a).status = .closed

instance (d : Dispatcher) (a : Action) : Decidable (d.closes a) := inferInstanceAs (Decidable (_ ∧ _))

/-- A dispatcher as an action leaves it before a pass may begin, and before it is closed.  No pass begins
while one is held, so other actions are taken as if one were. -/
def primed (d : Dispatcher) (a : Action) : Dispatcher :=
  match a with
  | .release =>
    match d.running with
    | none => d
    | some r => d.resume r
  | .close => if d.closes .close then d else d.act .close
  | .closeLater => if d.closes .closeLater then d else d.act .closeLater
  | a => { ({ d with running := some ⟨[], []⟩ } : Dispatcher).act a with running := d.running }

/-- The groups that a pass that is held has yet to bring to the host. -/
def left (d : Dispatcher) : List Group :=
  match d.running with
  | none => []
  | some r => r.left

/-- The asks by which a dispatcher is closed. -/
def closeAsks (d : Dispatcher) : List Ask := ({ d.site with report := {} } : Site).abandonAsks

variable {d e f : Dispatcher} {a : Action} {r : Running}

/-! ### Whether a pass begins -/

theorem drain_eq (d : Dispatcher) : d.drain = if d.ready then d.startPass else d := rfl

theorem drain_of_not_ready (h : d.ready = false) : d.drain = d := by
  simp [drain_eq, h]

theorem running_of_ready (h : d.ready = true) : d.running = none := by
  simp only [ready, Bool.and_eq_true, Option.isNone_iff_eq_none] at h
  exact h.1.1.1

theorem ready_of_held (h : d.running ≠ none) : d.ready = false := by
  simp [ready, h]

theorem ready_of_closed (h : d.status = .closed) : d.ready = false := by
  simp [ready, not_isOpen h]

theorem goOn_dirty (d : Dispatcher) (r : Running) : (d.goOn r).dirty = d.dirty := by
  unfold goOn
  dsimp only
  split <;> rfl

theorem startPass_dirty (d : Dispatcher) : d.startPass.dirty = false := goOn_dirty _ _

/-- Where a pass got the chance to begin, none is to begin any more. -/
theorem drain_not_ready (d : Dispatcher) : d.drain.ready = false := by
  rw [drain_eq]
  cases hready : d.ready with
  | true => simp [ready, startPass_dirty]
  | false => simpa using hready

/-! ### What follows on a dispatcher without a call -/

/-- A dispatcher after some registrations and removals, with what may change besides without a call. -/
structure Follows (d e : Dispatcher) : Prop where
  changes : d.registry.Changes e.registry
  aside : ({ d with registry := e.registry } : Dispatcher).Aside e
  calls : e.site.host.calls = d.site.host.calls

namespace Follows

theorem refl (d : Dispatcher) : d.Follows d := ⟨.refl, .refl d, rfl⟩

theorem trans (h : d.Follows e) (k : e.Follows f) : d.Follows f where
  changes := h.changes.trans k.changes
  aside :=
    { registry := rfl
      implicit := k.aside.implicit.trans h.aside.implicit
      registered := k.aside.registered.trans h.aside.registered
      mounted := k.aside.mounted.trans h.aside.mounted
      report := k.aside.report.trans h.aside.report
      default := k.aside.default.trans h.aside.default
      failures := k.aside.failures.trans h.aside.failures
      active := k.aside.active.trans h.aside.active
      passes := k.aside.passes.trans h.aside.passes
      running := k.aside.running.trans h.aside.running }
  calls := k.calls.trans h.calls

/-- Where the registry stays as it is. -/
theorem of_aside (h : d.Aside e) (hcalls : e.site.host.calls = d.site.host.calls) : d.Follows e where
  changes := by
    rw [h.registry]
    exact .refl
  aside := by
    rw [h.registry]
    exact h
  calls := hcalls

theorem rests (h : d.Follows e) : d.site.Rests e.site := ⟨h.aside.registered, h.aside.mounted⟩

theorem running (h : d.Follows e) : e.running = d.running := h.aside.running

theorem left (h : d.Follows e) : e.left = d.left := by
  rw [Dispatcher.left, Dispatcher.left, h.running]

/-- What follows without a call is a chain of moves. -/
theorem moves {shared : Prop} {last : Option Reading} (h : d.Follows e) :
    Moves shared ⟨d, last⟩ ⟨e, last⟩ := by
  exact (Tracked.changes_moves h.changes).tail (.aside h.aside)

/-- A dispatcher that follows where a pass is held follows where none is. -/
theorem unheld {held : Option Running} (h : ({ d with running := held } : Dispatcher).Follows e) :
    d.Follows { e with running := d.running } where
  changes := h.changes
  aside :=
    { registry := rfl
      implicit := h.aside.implicit
      registered := h.aside.registered
      mounted := h.aside.mounted
      report := h.aside.report
      default := h.aside.default
      failures := h.aside.failures
      active := h.aside.active
      passes := h.aside.passes
      running := rfl }
  calls := h.calls

end Follows

/-- A dispatcher with another registry. -/
theorem follows_of_changes {s : Registry} (h : d.registry.Changes s) : d.Follows { d with registry := s } :=
  ⟨h, .refl _, rfl⟩

/-! ### Before a pass may begin -/

theorem drain_of_held (hheld : d.running ≠ none) : d.drain = d := drain_of_not_ready (ready_of_held hheld)

theorem trigger_open (hopen : d.isOpen = true) : d.trigger = ({ d with dirty := true } : Dispatcher).drain :=
  if_pos hopen

/-- While a pass is held, a change is made and a pass is requested where there was something to do, and that is
all. -/
theorem changed_held (hheld : d.running ≠ none) (hopen : d.isOpen = true) (c : Change) :
    d.changed c = { d.note c.notices with registry := c.registry, dirty := d.dirty || c.found } := by
  unfold changed
  cases c.found with
  | false =>
      rw [Bool.or_false]
      rfl
  | true =>
      dsimp only
      rw [if_pos rfl, Bool.or_true, trigger_open (by exact hopen), drain_of_held (by exact hheld)]
      rfl

/-- While a pass is held, an event changes the registry at most. -/
theorem event_follows (hheld : d.running ≠ none) {c : Change} (hevent : d.registry.change a = some c) :
    d.Follows (d.act a) := by
  rw [act_event hevent]
  split
  · next hopen =>
    rw [changed_held hheld hopen]
    exact (follows_of_changes (Registry.change_changes hevent)).trans
      (.of_aside ⟨rfl, rfl, rfl, rfl, rfl, rfl, rfl, rfl, rfl, rfl⟩ rfl)
  · exact .refl d

theorem GaveUp.follows (h : d.GaveUp e) : d.Follows e := by
  refine .of_aside h.aside ?_
  obtain ⟨_, _, _, _, rfl⟩ := h
  rfl

/-- While a pass is held, an action that does not release it makes no call. -/
theorem act_follows (hheld : d.running ≠ none) (ha : a ≠ .release) (hown : a.own = true) :
    d.Follows (d.act a) := by
  have hsome : d.running.isSome = true := Option.isSome_iff_ne_none.2 hheld
  cases a with
  | upsert kind payload props => exact event_follows hheld rfl
  | removeDeclared kind props => exact event_follows hheld rfl
  | remove id => exact event_follows hheld rfl
  | trigger => exact event_follows hheld rfl
  | openBatch => exact .of_aside ⟨rfl, rfl, rfl, rfl, rfl, rfl, rfl, rfl, rfl, rfl⟩ rfl
  | endBatch =>
      show d.Follows d.endBatch
      unfold endBatch
      split
      · exact .refl d
      · rw [drain_of_held (by exact hheld)]
        exact .of_aside ⟨rfl, rfl, rfl, rfl, rfl, rfl, rfl, rfl, rfl, rfl⟩ rfl
  | close =>
      show d.Follows d.close.2
      unfold close
      split
      · have hexpired := (expireAll_gaveUp d.waiting hheld).follows
        exact hexpired.trans (.of_aside ⟨rfl, rfl, rfl, rfl, rfl, rfl, rfl, rfl, rfl, rfl⟩ rfl)
      · next hwaits =>
        have hclosed : d.status = .closed := by simpa [hsome] using hwaits
        simp only [closeOnce, hclosed, beq_self_eq_true, if_true]
        exact .refl d
  | closeLater =>
      show d.Follows d.closeLater
      unfold closeLater
      split
      · exact .of_aside ⟨rfl, rfl, rfl, rfl, rfl, rfl, rfl, rfl, rfl, rfl⟩ rfl
      · next hwaits =>
        have hclosed : d.status = .closed := by simpa [hsome] using hwaits
        simp only [closeOnce, hclosed, beq_self_eq_true, if_true]
        exact .of_aside ⟨rfl, rfl, rfl, rfl, rfl, rfl, rfl, rfl, rfl, rfl⟩ rfl
  | expireClose => exact (expireClose_gaveUp hheld).follows
  | holdNext => exact .of_aside ⟨rfl, rfl, rfl, rfl, rfl, rfl, rfl, rfl, rfl, rfl⟩ rfl
  | holdNone => exact .of_aside ⟨rfl, rfl, rfl, rfl, rfl, rfl, rfl, rfl, rfl, rfl⟩ rfl
  | release => exact absurd rfl ha
  | tell instruction =>
      cases instruction <;> exact .of_aside ⟨rfl, rfl, rfl, rfl, rfl, rfl, rfl, rfl, rfl, rfl⟩ rfl
  | supply pool => exact .of_aside ⟨rfl, rfl, rfl, rfl, rfl, rfl, rfl, rfl, rfl, rfl⟩ rfl
  | interfere mounted => cases hown

/-! ### An action is divided -/

/-- An action does the same where a pass is held, but for the pass that may begin behind it. -/
structure Divides (d : Dispatcher) (a : Action) (e : Dispatcher) : Prop where
  running : e.running = d.running
  status : d.status ≠ .closed → e.status ≠ .closed
  act : d.act a = e.drain
  held : ∀ x, ({ d with running := some x } : Dispatcher).act a = { e with running := some x }

/-- An action behind which no pass can begin. -/
theorem divides_of_quiet (hact : d.act a = e)
    (hheld : ∀ x, ({ d with running := some x } : Dispatcher).act a = { e with running := some x })
    (hrunning : e.running = d.running) (hstatus : e.status = d.status) (hready : e.ready = false) :
    d.Divides a e :=
  ⟨hrunning, fun h => hstatus ▸ h, hact.trans (drain_of_not_ready hready).symm, hheld⟩

/-- An action behind which a pass may begin. -/
theorem divides_of_drain (hact : d.act a = e.drain)
    (hheld : ∀ x, ({ d with running := some x } : Dispatcher).act a =
      ({ e with running := some x } : Dispatcher).drain) (hrunning : e.running = d.running)
    (hstatus : d.status ≠ .closed → e.status ≠ .closed) : d.Divides a e :=
  ⟨hrunning, hstatus, hact, fun x => (hheld x).trans (drain_of_held (Option.some_ne_none x))⟩

theorem event_divides (hready : d.ready = false) {c : Change} (hevent : d.registry.change a = some c) :
    ∃ e, d.Divides a e := by
  -- An event does not see whether a pass is held.
  have hact := act_event hevent
  have hheld : ∀ x, ({ d with running := some x } : Dispatcher).act a =
      if d.isOpen then ({ d with running := some x } : Dispatcher).changed c
      else { d with running := some x } :=
    fun x => act_event (d := { d with running := some x }) hevent
  by_cases hopen : d.isOpen = true
  · simp only [if_pos hopen] at hact hheld
    cases hfound : c.found with
    | false =>
        have hchanged : ∀ e : Dispatcher,
            e.changed c = ({ e with registry := c.registry } : Dispatcher).note c.notices := by
          intro e
          simp [changed, hfound]
        exact ⟨({ d with registry := c.registry } : Dispatcher).note c.notices,
          divides_of_quiet (hact.trans (hchanged d)) (fun x => (hheld x).trans (hchanged _)) rfl rfl hready⟩
    | true =>
        have hchanged : ∀ e : Dispatcher, e.isOpen = true → e.changed c =
            ({ e.note c.notices with registry := c.registry, dirty := true } : Dispatcher).drain := by
          intro e hopen
          rw [changed, hfound]
          exact trigger_open hopen
        exact ⟨{ d.note c.notices with registry := c.registry, dirty := true },
          divides_of_drain (hact.trans (hchanged d hopen)) (fun x => (hheld x).trans (hchanged _ hopen)) rfl
            fun h => h⟩
  · simp only [if_neg hopen] at hact hheld
    exact ⟨d, divides_of_quiet hact hheld rfl rfl hready⟩

theorem endBatch_divides (hready : d.ready = false) : ∃ e, d.Divides .endBatch e := by
  by_cases hnone : d.batches = 0
  · exact ⟨d, divides_of_quiet (if_pos hnone) (fun _ => if_pos hnone) rfl rfl hready⟩
  · exact ⟨{ d with batches := d.batches - 1 },
      divides_of_drain (if_neg hnone) (fun _ => if_neg hnone) rfl fun h => h⟩

theorem reopened_not_closed (h : d.status ≠ .closed) :
    (if (d.status == .closing) = true then Status.opened else d.status) ≠ .closed := by
  cases hstatus : d.status with
  | opened => decide
  | closing => decide
  | closed => exact absurd hstatus h

theorem expireClose_divides (hready : d.ready = false) : ∃ e, d.Divides .expireClose e := by
  by_cases hnone : d.waiting = 0
  · exact ⟨d, divides_of_quiet (if_pos hnone) (fun _ => if_pos hnone) rfl rfl hready⟩
  · exact ⟨_, divides_of_drain (if_neg hnone) (fun _ => if_neg hnone) rfl reopened_not_closed⟩

theorem openBatch_ready (d : Dispatcher) : d.openBatch.ready = false := by
  simp [ready, openBatch]

/-- Every action divides, but for those that release a pass or close. -/
theorem act_divides (hready : d.ready = false) (hrelease : a ≠ .release)
    (hclosing : ¬(a = .close ∨ a = .closeLater)) : ∃ e, d.Divides a e := by
  cases a with
  | upsert kind payload props => exact event_divides hready rfl
  | removeDeclared kind props => exact event_divides hready rfl
  | remove id => exact event_divides hready rfl
  | trigger => exact event_divides hready rfl
  | openBatch => exact ⟨_, divides_of_quiet rfl (fun _ => rfl) rfl rfl d.openBatch_ready⟩
  | endBatch => exact endBatch_divides hready
  | close => exact absurd (.inl rfl) hclosing
  | closeLater => exact absurd (.inr rfl) hclosing
  | expireClose => exact expireClose_divides hready
  | holdNext => exact ⟨d.holdNext, divides_of_quiet rfl (fun _ => rfl) rfl rfl hready⟩
  | holdNone => exact ⟨d.holdNone, divides_of_quiet rfl (fun _ => rfl) rfl rfl hready⟩
  | release => exact absurd rfl hrelease
  | tell instruction => exact ⟨d.act (.tell instruction), divides_of_quiet rfl (fun _ => rfl) rfl rfl hready⟩
  | supply pool => exact ⟨d.act (.supply pool), divides_of_quiet rfl (fun _ => rfl) rfl rfl hready⟩
  | interfere mounted =>
      exact ⟨d.act (.interfere mounted), divides_of_quiet rfl (fun _ => rfl) rfl rfl hready⟩

theorem expireClose_not_closed (h : d.status ≠ .closed) : d.expireClose.status ≠ .closed := by
  unfold expireClose
  split
  · exact h
  · rw [drain_status]
    exact reopened_not_closed h

theorem expireAll_not_closed (n : Nat) (h : d.status ≠ .closed) : (expireAll n d).status ≠ .closed := by
  induction n generalizing d with
  | zero => exact h
  | succ n ih => exact ih (expireClose_not_closed h)

theorem closeNow_calls (d : Dispatcher) :
    d.closeNow.site.host.calls = d.site.host.calls ++ d.closeAsks.map Ask.call :=
  Site.abandon_log _

theorem closeOnce_of_closed (h : d.status = .closed) : d.closeOnce = d := by
  simp [closeOnce, h]

theorem closeOnce_of_not_closed (h : d.status ≠ .closed) : d.closeOnce = d.closeNow := by
  simp [closeOnce, h]

/-- What an action that closes the dispatcher leaves. -/
structure Closes (d e : Dispatcher) : Prop where
  idle : d.running = none
  running : e.running = none
  calls : e.site.host.calls = d.site.host.calls ++ d.closeAsks.map Ask.call

/-- Where a pass that is released closes the dispatcher, this is done behind the pass that may begin. -/
theorem release_closeNow (h : d.closes .release) : (d.primed .release).drain.running = none ∧
    ∃ waiting closings, d.act .release = { (d.primed .release).drain.closeNow with waiting, closings } := by
  obtain ⟨hopen, hclosed⟩ := h
  have hact : d.act .release = d.release := rfl
  rw [hact] at hclosed ⊢
  unfold primed
  unfold release at hclosed ⊢
  cases hheld : d.running with
  | none =>
      rw [hheld] at hclosed
      exact absurd hclosed hopen
  | some r =>
      rw [hheld] at hclosed
      dsimp only at hclosed ⊢
      have hstatus : (d.resume r).drain.status ≠ .closed := by
        rw [drain_status, resume_status]
        exact hopen
      unfold settleClosings at hclosed ⊢
      split at hclosed
      · next hready =>
        have hidle : (d.resume r).drain.running = none := by
          simp only [Bool.and_eq_true, Option.isNone_iff_eq_none] at hready
          exact hready.1
        rw [if_pos hready, closeOnce_of_not_closed hstatus]
        exact ⟨hidle, _, _, rfl⟩
      · exact absurd hclosed hstatus

/-- Where the wait for a pass is in vain, the dispatcher is not closed. -/
theorem idle_of_closes (ha : a = .close ∨ a = .closeLater) (h : d.closes a) : d.running = none := by
  obtain ⟨hopen, hclosed⟩ := h
  cases hheld : d.running with
  | none => rfl
  | some r =>
      rcases ha with rfl | rfl
      · have hact : d.act .close = d.close.2 := rfl
        rw [hact, close, if_pos (by simp [hheld, hopen])] at hclosed
        exact absurd hclosed (expireAll_not_closed _ hopen)
      · have hact : d.act .closeLater = d.closeLater := rfl
        rw [hact, closeLater, if_pos (by simp [hheld, hopen]), beginClose] at hclosed
        dsimp only at hclosed
        split at hclosed
        · cases hclosed
        · exact absurd hclosed hopen

/-- Where it is not closed afterwards, a pass is held, and those that have waited have given up. -/
theorem close_of_open (h : d.close.2.status ≠ .closed) : d.running ≠ none ∧ d.close.2 =
    (expireAll d.waiting d).note [.closeTimedOut (expireAll d.waiting d).settings.shutdownTimeout] := by
  unfold close at h ⊢
  split
  · next hwaits =>
    rw [Bool.and_eq_true] at hwaits
    exact ⟨Option.isSome_iff_ne_none.1 hwaits.1, rfl⟩
  · next hdone =>
    rw [if_neg hdone] at h
    exact absurd d.closeOnce_status h

theorem closeLater_of_open (h : d.closeLater.status ≠ .closed) : d.closeLater = d.beginClose := by
  unfold closeLater at h ⊢
  split
  · rfl
  · next hdone =>
    rw [if_neg hdone] at h
    exact absurd d.closeOnce_status h

theorem release_of_idle (hidle : d.running = none) : d.release = d := by
  simp only [release, hidle]

theorem release_of_open {r : Running} (hheld : d.running = some r) (h : d.release.status ≠ .closed) :
    d.release = (d.resume r).drain := by
  unfold release at h ⊢
  rw [hheld] at h ⊢
  exact Tracked.settleClosings_open h

theorem closing_closeNow (ha : a = .close ∨ a = .closeLater) (hready : d.ready = false) (h : d.closes a) :
    (d.primed a).drain.running = none ∧
      ∃ waiting closings, d.act a = { (d.primed a).drain.closeNow with waiting, closings } := by
  have hidle := idle_of_closes ha h
  have hclosed := closeOnce_of_not_closed h.1
  have hprimed : d.primed a = d := by
    rcases ha with rfl | rfl <;> exact if_pos h
  rw [hprimed, drain_of_not_ready hready]
  refine ⟨hidle, ?_⟩
  rcases ha with rfl | rfl
  · show ∃ waiting closings, d.close.2 = _
    simp only [close, hidle, hclosed]
    exact ⟨_, _, rfl⟩
  · show ∃ waiting closings, d.closeLater = _
    simp only [closeLater, hidle, hclosed]
    exact ⟨_, _, rfl⟩

theorem primed_of_divides (h : d.Divides a e) (hrelease : a ≠ .release)
    (hclosing : ¬(a = .close ∨ a = .closeLater)) : d.primed a = e := by
  have hprimed : d.primed a =
      { ({ d with running := some ⟨[], []⟩ } : Dispatcher).act a with running := d.running } := by
    cases a with
    | release => exact absurd rfl hrelease
    | close => exact absurd (.inl rfl) hclosing
    | closeLater => exact absurd (.inr rfl) hclosing
    | _ => rfl
  rw [hprimed, h.held, ← h.running]

/-- Where no pass is held, only a dispatcher that is closed is not closed by closing. -/
theorem closed_of_not_closes (ha : a = .close ∨ a = .closeLater) (hidle : d.running = none)
    (h : ¬d.closes a) : d.status = .closed := by
  refine Decidable.byContradiction fun hopen => h ⟨hopen, ?_⟩
  rcases ha with rfl | rfl
  · show d.close.2.status = _
    simp [close, hidle, closeOnce_status]
  · show d.closeLater.status = _
    simp [closeLater, hidle, closeOnce_status]

/-- Closing changes nothing that counts where a pass is held, or where it is done. -/
theorem closing_follows (ha : a = .close ∨ a = .closeLater) (h : ¬d.closes a) : d.Follows (d.act a) := by
  cases hheld : d.running with
  | none =>
      have hdone : d.closeOnce = d := closeOnce_of_closed (closed_of_not_closes ha hheld h)
      rcases ha with rfl | rfl
      · show d.Follows d.close.2
        simp only [close, hheld, hdone]
        exact .refl d
      · show d.Follows d.closeLater
        simp only [closeLater, hheld, hdone]
        exact .of_aside ⟨rfl, rfl, rfl, rfl, rfl, rfl, rfl, rfl, rfl, hheld.symm⟩ rfl
  | some r =>
      have hsome : d.running ≠ none := by simp [hheld]
      rcases ha with rfl | rfl <;> exact act_follows hsome (by simp) rfl

theorem closing_ready (ha : a = .close ∨ a = .closeLater) (h : ¬d.closes a) :
    (d.act a).ready = false := by
  cases hheld : d.running with
  | none => exact ready_of_closed (act_closed (closed_of_not_closes ha hheld h) a)
  | some r => exact ready_of_held (by simp [(closing_follows ha h).running, hheld])

theorem primed_closing (ha : a = .close ∨ a = .closeLater) :
    d.primed a = if d.closes a then d else d.act a := by
  rcases ha with rfl | rfl <;> rfl

theorem release_eq_drain (hready : d.ready = false) (h : ¬d.closes .release)
    (hclosed : d.status = .closed → d.running = none) : d.act .release = (d.primed .release).drain := by
  show d.release = _
  unfold release primed
  cases hheld : d.running with
  | none => exact (drain_of_not_ready hready).symm
  | some r =>
      -- A dispatcher that is not closed afterwards did not close.
      refine Tracked.settleClosings_open fun hafter => h ⟨fun hbefore => ?_, ?_⟩
      · rw [hclosed hbefore] at hheld
        cases hheld
      · show d.release.status = _
        rwa [release, hheld]

/-- An action that does not close the dispatcher ends with the chance for a pass to begin. -/
theorem act_eq_drain (hready : d.ready = false) (hclosed : d.status = .closed → d.running = none)
    (h : ¬d.closes a) : d.act a = (d.primed a).drain := by
  by_cases hrelease : a = .release
  · subst hrelease
    exact release_eq_drain hready h hclosed
  by_cases hclosing : a = .close ∨ a = .closeLater
  · rw [primed_closing hclosing, if_neg h, drain_of_not_ready (closing_ready hclosing h)]
  obtain ⟨e, he⟩ := act_divides hready hrelease hclosing
  rw [primed_of_divides he hrelease hclosing, he.act]

/-- An action that closes the dispatcher does so behind the pass that may begin. -/
theorem act_closeNow (hready : d.ready = false) (h : d.closes a) : (d.primed a).drain.running = none ∧
    ∃ waiting closings, d.act a = { (d.primed a).drain.closeNow with waiting, closings } := by
  by_cases hrelease : a = .release
  · subst hrelease
    exact release_closeNow h
  by_cases hclosing : a = .close ∨ a = .closeLater
  · exact closing_closeNow hclosing hready h
  obtain ⟨e, he⟩ := act_divides hready hrelease hclosing
  have hstatus := h.2
  rw [he.act, drain_status] at hstatus
  exact absurd hstatus (he.status h.1)

theorem act_closes (hready : d.ready = false) (h : d.closes a) : (d.primed a).drain.Closes (d.act a) := by
  obtain ⟨hidle, waiting, closings, hact⟩ := act_closeNow hready h
  rw [hact]
  exact ⟨hidle, hidle, closeNow_calls _⟩

/-- An action that releases no pass changes the registry at most, before a pass may begin. -/
theorem primed_follows (hready : d.ready = false) (hown : a.own = true)
    (hrelease : a = .release → d.running = none) : d.Follows (d.primed a) := by
  by_cases ha : a = .release
  · subst ha
    rw [primed, hrelease rfl]
    exact .refl d
  by_cases hclosing : a = .close ∨ a = .closeLater
  · rw [primed_closing hclosing]
    split
    · exact .refl d
    · next h => exact closing_follows hclosing h
  obtain ⟨e, he⟩ := act_divides hready ha hclosing
  have hheld := act_follows (d := { d with running := some ⟨[], []⟩ }) (Option.some_ne_none _) ha hown
  rw [he.held] at hheld
  have hfollows := hheld.unheld
  rw [← he.running] at hfollows
  rwa [primed_of_divides he ha hclosing]

/-- What comes before a pass may begin is a chain of moves. -/
theorem primed_moves {shared : Prop} (hready : d.ready = false) (hown : a.own = true ∨ shared)
    (last : Option Reading) : Moves shared ⟨d, last⟩ ⟨d.primed a, last⟩ := by
  by_cases hrelease : a = .release → d.running = none
  · by_cases ha : a.own = true
    · exact (primed_follows hready ha hrelease).moves
    · cases a with
      | interfere mounted =>
          exact .single (.interferes d last mounted (hown.resolve_left ha))
      | _ => exact absurd rfl ha
  · obtain ⟨rfl, hheld⟩ := Classical.not_imp.1 hrelease
    obtain ⟨r, hr⟩ := Option.ne_none_iff_exists'.1 hheld
    rw [primed, hr]
    exact .single (.resumes d last r hr)

theorem primed_running (hready : d.ready = false) (hrelease : a = .release → d.running = none) :
    (d.primed a).running = d.running := by
  by_cases ha : a.own = true
  · exact (primed_follows hready ha hrelease).running
  · cases a with
    | interfere mounted => rfl
    | _ => exact absurd rfl ha

/-! ### Between two actions -/

/-- A dispatcher as every action leaves it: no pass is to begin, and none is held where it is closed. -/
structure Quiet (d : Dispatcher) : Prop where
  ready : d.ready = false
  closed : d.status = .closed → d.running = none

namespace Quiet

variable (h : d.Quiet)

include h

/-- A dispatcher that is closed makes no pass. -/
theorem drain_of_closed (hclosed : d.status = .closed) : (d.primed a).ready = false := by
  have hact := act_eq_drain (a := a) h.ready h.closed fun k => k.1 hclosed
  have hstatus := act_closed hclosed a
  rw [hact, drain_status] at hstatus
  exact ready_of_closed hstatus

theorem act_of_closed (hclosed : d.status = .closed) : d.act a = d.primed a := by
  rw [act_eq_drain h.ready h.closed fun k => k.1 hclosed, drain_of_not_ready (h.drain_of_closed hclosed)]

/-- A dispatcher that is open when an action begins is not closed before a pass may begin. -/
theorem primed_open (hopen : d.status ≠ .closed) : (d.primed a).status ≠ .closed := by
  by_cases hrelease : a = .release
  · subst hrelease
    unfold primed
    cases d.running with
    | none => exact hopen
    | some r =>
        dsimp only
        rwa [resume_status]
  by_cases hclosing : a = .close ∨ a = .closeLater
  · rw [primed_closing hclosing]
    split
    · exact hopen
    · next hcloses => exact fun hclosed => hcloses ⟨hopen, hclosed⟩
  obtain ⟨e, he⟩ := act_divides h.ready hrelease hclosing
  rw [primed_of_divides he hrelease hclosing]
  exact he.status hopen

theorem act : (d.act a).Quiet := by
  by_cases hcloses : d.closes a
  · exact ⟨ready_of_closed hcloses.2, fun _ => (act_closes h.ready hcloses).running⟩
  · refine ⟨?_, fun hafter => ?_⟩
    · rw [act_eq_drain h.ready h.closed hcloses]
      exact drain_not_ready _
    · -- It was closed before.
      have hclosed : d.status = .closed := Decidable.byContradiction fun hopen => hcloses ⟨hopen, hafter⟩
      rw [h.act_of_closed hclosed, primed_running h.ready fun _ => h.closed hclosed]
      exact h.closed hclosed

end Quiet

end Dispatcher

end RouteBinding
