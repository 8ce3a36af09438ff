import RouteBinding.Proofs.Run.Heeded

/-!
# How many passes are run

Where calls are made one after the other on a dispatcher that is open, an event or a trigger runs one pass, and
inside batches one pass is run when the last of them ends, if there was a request for it (`History.Counts`).  A
request is pending until a pass begins (`Dispatcher.Quiet.act_dirty`, `History.dirty_iff`), and where none is
pending the last pass has read the providers that are registered (`Chronicle.Current`).
-/

namespace RouteBinding

open Property

section

variable [Route.Routing]

namespace Dispatcher

variable {d : Dispatcher} {a : Action}

/-! ### Batches -/

theorem drain_batches (d : Dispatcher) : d.drain.batches = d.batches := by
  rw [drain_eq]
  split
  · exact startPass_batches d
  · rfl

theorem trigger_batches (d : Dispatcher) : d.trigger.batches = d.batches := by
  unfold trigger
  split
  · exact drain_batches _
  · rfl

theorem expireClose_batches (d : Dispatcher) : d.expireClose.batches = d.batches := by
  unfold expireClose
  split
  · rfl
  · exact drain_batches _

theorem expireAll_batches (n : Nat) (d : Dispatcher) : (expireAll n d).batches = d.batches := by
  induction n generalizing d with
  | zero => rfl
  | succ n ih => exact (ih d.expireClose).trans (expireClose_batches d)

theorem closeOnce_batches (d : Dispatcher) : d.closeOnce.batches = d.batches := by
  unfold closeOnce
  split <;> rfl

theorem settleClosings_batches (d : Dispatcher) : d.settleClosings.batches = d.batches := by
  unfold settleClosings
  split
  · exact closeOnce_batches d
  · rfl

/-- Batches are opened and ended by the actions that say so. -/
theorem act_batches (d : Dispatcher) (a : Action) : (d.act a).batches = a.batches d.batches := by
  have hevent : ∀ c, d.registry.change a = some c → (d.act a).batches = d.batches := by
    intro c hc
    rw [act_event hc]
    split
    · unfold changed
      split
      · exact trigger_batches _
      · rfl
    · rfl
  cases a with
  | upsert kind payload props => exact hevent _ rfl
  | removeDeclared kind props => exact hevent _ rfl
  | remove id => exact hevent _ rfl
  | trigger => exact hevent _ rfl
  | endBatch =>
      show d.endBatch.batches = d.batches - 1
      unfold endBatch
      split
      · next hnone => rw [hnone]
      · exact drain_batches _
  | close =>
      show d.close.2.batches = d.batches
      unfold close
      split
      · exact expireAll_batches _ d
      · exact closeOnce_batches d
  | closeLater =>
      show d.closeLater.batches = d.batches
      unfold closeLater
      split
      · rfl
      · exact closeOnce_batches d
  | expireClose => exact expireClose_batches d
  | release =>
      show d.release.batches = d.batches
      unfold release
      cases d.running with
      | none => rfl
      | some r =>
          have hresumed : (d.resume r).batches = d.batches := congrArg Requests.batches (d.resume_requests r)
          dsimp only
          rw [settleClosings_batches, drain_batches, hresumed]
  | openBatch | holdNext | holdNone | tell | supply | interfere => rfl

/-! ### Requests -/

/-- A pass begins where one may. -/
theorem drain_begun (d : Dispatcher) : d.drain.begun = d.begun + if d.ready then 1 else 0 := by
  rw [drain_eq]
  split
  · next hready => exact startPass_begun (running_of_ready hready)
  · rfl

/-- Either no pass begins, and one is requested where one was requested before or the action does, or one
begins, behind which none is requested. -/
theorem Quiet.act_dirty (h : d.Quiet) (hopen : (d.act a).status ≠ .closed) :
    (d.act a).begun = d.begun ∧ (d.act a).dirty = (d.dirty || d.asks a) ∨
      (d.act a).begun = d.begun + 1 ∧ (d.act a).dirty = false := by
  have hact := act_eq_drain h.ready h.closed fun hcloses => hopen hcloses.2
  rw [hact, drain_begun, primed_begun h.ready, drain_eq]
  split
  · exact .inr ⟨rfl, startPass_dirty _⟩
  · exact .inl ⟨rfl, primed_dirty d a⟩

/-- A pass that has begun stays counted. -/
theorem Quiet.begun_le (h : d.Quiet) {actions : List Action}
    (hopen : (actions.foldl Dispatcher.act d).status ≠ .closed) :
    d.begun ≤ (actions.foldl Dispatcher.act d).begun := by
  induction actions generalizing d with
  | nil => exact le_rfl
  | cons a rest ih =>
      have hfirst : (d.act a).status ≠ .closed := fun hclosed => hopen (foldl_closed hclosed rest)
      have hrest := ih h.act hopen
      rw [List.foldl_cons]
      rcases h.act_dirty hfirst with ⟨hbegun, -⟩ | ⟨hbegun, -⟩ <;> omega

/-- Without a request no live provider is changed. -/
theorem act_live (hopen : (d.act a).status ≠ .closed) (hasks : d.asks a = false) :
    (d.act a).registry.live = d.registry.live := by
  have hevent : ∀ c, d.registry.change a = some c → (d.act a).registry.live = d.registry.live := by
    intro c hc
    rw [act_event hc]
    rw [asks_event hc] at hasks
    split
    · next hopen =>
      rw [hopen, Bool.true_and] at hasks
      rw [changed, if_neg (by simp [hasks])]
      exact Registry.change_idle_live hc hasks
    · rfl
  cases a with
  | upsert kind payload props => exact hevent _ rfl
  | removeDeclared kind props => exact hevent _ rfl
  | remove id => exact hevent _ rfl
  | trigger => exact hevent _ rfl
  | endBatch =>
      show d.endBatch.registry.live = d.registry.live
      unfold endBatch
      split
      · rfl
      · exact drain_live _
  | close =>
      obtain ⟨hheld, hclose⟩ := close_of_open hopen
      rw [show d.act .close = d.close.2 from rfl, hclose]
      exact congrArg Registry.live (expireAll_gaveUp d.waiting hheld).aside.registry
  | closeLater =>
      rw [show d.act .closeLater = d.closeLater from rfl, closeLater_of_open hopen]
      rfl
  | expireClose =>
      show d.expireClose.registry.live = d.registry.live
      unfold expireClose
      split
      · rfl
      · exact drain_live _
  | release =>
      cases hheld : d.running with
      | none => rw [show d.act .release = d.release from rfl, release_of_idle hheld]
      | some r =>
          rw [show d.act .release = d.release from rfl, release_of_open hheld hopen, drain_live,
            d.resume_registry r]
  | openBatch | holdNext | holdNone | tell | supply | interfere => rfl

/-! ### A call on a dispatcher that is open -/

/-- Where no pass is held, a call that does not close runs a pass if one is requested and no batch is open behind
the call. -/
theorem call_begun (hopen : d.status = .opened) (hidle : d.running = none) (hready : d.ready = false)
    (hcall : a.isCall = true) (hclose : a.isClose = false) :
    (d.act a).begun = d.begun + if a.batches d.batches = 0 ∧ (d.dirty || d.asks a) = true then 1 else 0 := by
  have hdirty : (d.requests.file a).dirty = (d.dirty || d.asks a) := by
    rw [Requests.file_dirty, asks, isOpen_of_opened hopen, reply_eq hopen]
    rfl
  have hfiled : (d.filed (d.requests.file a)).ready = true ↔
      a.batches d.batches = 0 ∧ (d.dirty || d.asks a) = true := by
    rw [← hdirty]
    simp [ready, filed, hidle, isOpen, hopen, Requests.file, requests]
  have hsame : (d.filed (d.requests.file a)).begun = d.begun := rfl
  rw [(act_like hopen hready hcall hclose).symm.begun, drain_begun, hsame]
  simp only [hfiled]

/-- A dispatcher that is open, with no pass held, and no registration is to wait. -/
structure Free (d : Dispatcher) : Prop where
  opened : d.status = .opened
  running : d.running = none
  gated : d.site.host.gated = false

instance (d : Dispatcher) : Decidable d.Free :=
  decidable_of_iff (d.status = .opened ∧ d.running = none ∧ d.site.host.gated = false)
    ⟨fun ⟨hopen, hidle, hgated⟩ => ⟨hopen, hidle, hgated⟩, fun h => ⟨h.opened, h.running, h.gated⟩⟩

theorem Free.drain (h : d.Free) : d.drain.Free := by
  rw [drain_eq]
  split
  · obtain ⟨hidle, -, hgated⟩ := startPass_ungated h.gated
    exact ⟨(startPass_status d).trans h.opened, hidle, hgated⟩
  · exact h

/-- Such a dispatcher returns from every call that does not close it, and is as free as before. -/
theorem Free.call (h : d.Free) (hready : d.ready = false) (hcall : a.isCall = true) (hclose : a.isClose = false) :
    (d.act a).Free := by
  have hfiled : (d.filed (d.requests.file a)).Free := ⟨h.opened, h.running, h.gated⟩
  obtain ⟨site, ⟨notices, rfl⟩, hact⟩ := act_like h.opened hready hcall hclose
  have hdrained := hfiled.drain
  rw [hact] at hdrained
  exact ⟨hdrained.opened, hdrained.running, hdrained.gated⟩

theorem Free.run (h : d.Free) (hquiet : d.Quiet) {calls : List Action}
    (hcalls : ∀ a ∈ calls, a.isCall = true ∧ a.isClose = false) : (calls.foldl Dispatcher.act d).Free := by
  induction calls generalizing d with
  | nil => exact h
  | cons a rest ih =>
      obtain ⟨⟨hcall, hclose⟩, hrest⟩ := List.forall_mem_cons.1 hcalls
      exact ih (h.call hquiet.ready hcall hclose) hquiet.act hrest

end Dispatcher

namespace Chronicle

variable {c : Chronicle} {a : Action}

/-- A pass is requested, or the last one that has begun read the providers that are registered. -/
def Current (c : Chronicle) : Prop :=
  c.state.dirty = true ∨ ∃ p ∈ c.passes.head?, p.opening.registry.live = c.state.registry.live

/-- So it is behind a request, and so it stays. -/
theorem Current.act (h : c.state.asks a = true ∨ c.Current) (hquiet : c.state.Quiet)
    (hopen : (c.state.act a).status ≠ .closed) : (c.act a).Current := by
  have hact := act_of_not_closes hquiet fun hcloses => hopen hcloses.2
  cases hready : (c.primed a).state.ready with
  | true =>
      -- The pass that begins reads what the action leaves, and forgets removals only.
      rw [hact, begun_of_ready hready]
      refine .inr ⟨_, rfl, ?_⟩
      rw [Pass.beginning_opening, Dispatcher.startPass_registry]
      rfl
  | false =>
      have hthen : c.act a = c.primed a := by rw [hact, begun_of_not_ready hready]
      have hdirty : (c.act a).state.dirty = (c.state.dirty || c.state.asks a) := by
        rw [hthen]
        exact Dispatcher.primed_dirty c.state a
      cases hrequested : c.state.dirty || c.state.asks a with
      | true => exact .inl (hdirty.trans hrequested)
      | false =>
          obtain ⟨hclean, hasks⟩ := Bool.or_eq_false_iff.1 hrequested
          obtain ⟨p, hp, hlive⟩ : ∃ p ∈ c.passes.head?, p.opening.registry.live = c.state.registry.live := by
            rcases h with h | h | h
            · rw [hasks] at h
              cases h
            · rw [hclean] at h
              cases h
            · exact h
          -- The pass that goes on, if one does, began where it began.
          have hopenings := congrArg List.head? (c.continued_openings a)
          rw [List.head?_map, List.head?_map, Option.mem_def.1 hp] at hopenings
          obtain ⟨q, hq, hsame⟩ := Option.map_eq_some_iff.1 hopenings
          refine .inr ⟨q, ?_, ?_⟩
          · rw [hthen]
            exact hq
          · rw [hsame, hlive]
            exact (Dispatcher.act_live hopen hasks).symm

theorem Current.run (h : c.Current) (hquiet : c.state.Quiet) {actions : List Action}
    (hopen : (actions.foldl Chronicle.act c).state.status ≠ .closed) :
    (actions.foldl Chronicle.act c).Current := by
  induction actions generalizing c with
  | nil => exact h
  | cons a rest ih =>
      have hstill : (c.state.act a).status ≠ .closed := fun hclosed =>
        hopen (foldl_closed (c := c.act a) hclosed rest)
      exact ih (Current.act (.inr h) hquiet hstill) hquiet.act hopen

end Chronicle

namespace History

variable {settings : Settings} {content : Payload} (h : History settings content)

/-- The number of batches that are open. -/
def guards : Nat := h.actions.foldl Action.batches 0

/-- An action of a history that has requested a pass. -/
structure Request where
  front : List Action
  action : Action
  behind : List Action
  split : h.actions = front ++ action :: behind
  asks : (h.upTo front).final.state.asks action = true

/-- A pass was requested, and none has begun since. -/
def Requested : Prop := ∃ r : h.Request, (h.upTo r.front).final.state.begun = h.final.state.begun

/-- The last pass is over, and it has read the providers that are registered. -/
def UpToDate : Prop := ∃ p ∈ h.passes.getLast?, p.standing.running = none ∧
  p.reading.intake.roster = h.final.state.registry.live

theorem final_batches : h.final.state.batches = h.guards := by
  have hrun : ∀ (actions : List Action) (d : Dispatcher),
      (actions.foldl Dispatcher.act d).batches = actions.foldl Action.batches d.batches := by
    intro actions
    induction actions with
    | nil => exact fun d => rfl
    | cons a rest ih =>
        intro d
        rw [List.foldl_cons, ih, Dispatcher.act_batches]
        rfl
  have hall := hrun h.actions h.start.state
  rwa [← foldl_state] at hall

variable {h} {a : Action}

/-- A request of a history that goes on was made before, or is made by the action by which it does. -/
theorem Request.of_extend (r : (h.extend [a]).Request) :
    r.front = h.actions ∧ h.final.state.asks a = true ∨ ∃ r' : h.Request, r'.front = r.front := by
  obtain ⟨front, b, behind, hsplit, hasks⟩ := r
  have hsplit : h.actions ++ [a] = front ++ b :: behind := hsplit
  rcases List.eq_nil_or_concat behind with rfl | ⟨more, c, rfl⟩
  · obtain ⟨rfl, hb⟩ := List.append_inj' hsplit rfl
    obtain rfl : a = b := List.head_eq_of_cons_eq hb
    exact .inl ⟨rfl, hasks⟩
  · have hsplit : h.actions ++ [a] = (front ++ b :: more) ++ [c] := by simpa using hsplit
    obtain ⟨hactions, -⟩ := List.append_inj' hsplit rfl
    exact .inr ⟨⟨front, b, more, hactions, hasks⟩, rfl⟩

theorem Request.history_eq (r : h.Request) : h = (h.upTo r.front).extend (r.action :: r.behind) := by
  have hsame : h = h.upTo h.actions := rfl
  rw [r.split] at hsame
  exact hsame

/-- When it was made, no more passes had begun than in the end. -/
theorem Request.begun_le (r : h.Request) (hopen : h.final.state.status ≠ .closed) :
    (h.upTo r.front).final.state.begun ≤ h.final.state.begun := by
  rw [r.history_eq, extend_state] at hopen
  have hle := (h.upTo r.front).final_quiet.1.begun_le hopen
  rwa [← extend_state, ← r.history_eq] at hle

/-- What is pending when a history goes on was requested before, unless a pass has begun, or by the action by which
it does. -/
theorem dirty_extend (h : History settings content) (hbefore : h.final.state.dirty = true ↔ h.Requested)
    (hopen : (h.extend [a]).final.state.status ≠ .closed) :
    (h.extend [a]).final.state.dirty = true ↔ (h.extend [a]).Requested := by
  have hact : (h.extend [a]).final.state = h.final.state.act a := h.extend_state [a]
  have hstill : h.final.state.status ≠ .closed := fun hclosed =>
    hopen (hact ▸ Dispatcher.act_closed hclosed a)
  rcases h.final_quiet.1.act_dirty (hact ▸ hopen) with ⟨hbegun, hdirty⟩ | ⟨hbegun, hdirty⟩ <;>
    rw [← hact] at hbegun hdirty
  · rw [hdirty, Bool.or_eq_true, hbefore]
    constructor
    · rintro (⟨r, hr⟩ | hasks)
      · have hsplit : (h.extend [a]).actions = r.front ++ r.action :: (r.behind ++ [a]) := by
          simp [extend, r.split]
        exact ⟨⟨r.front, r.action, r.behind ++ [a], hsplit, r.asks⟩, hr.trans hbegun.symm⟩
      · exact ⟨⟨h.actions, a, [], rfl, hasks⟩, hbegun.symm⟩
    · rintro ⟨r, hr⟩
      rcases r.of_extend with ⟨-, hasks⟩ | ⟨r', hfront⟩
      · exact .inr hasks
      · exact .inl ⟨r', hfront ▸ hr.trans hbegun⟩
  · -- No request was made behind the pass that has begun.
    rw [hdirty]
    refine iff_of_false Bool.false_ne_true ?_
    rintro ⟨r, hr⟩
    have hle : (h.upTo r.front).final.state.begun ≤ h.final.state.begun := by
      rcases r.of_extend with ⟨hfront, -⟩ | ⟨r', hfront⟩
      · rw [hfront]
        exact le_rfl
      · rw [← hfront]
        exact r'.begun_le hstill
    have hr : (h.upTo r.front).final.state.begun = (h.extend [a]).final.state.begun := hr
    omega

/-- A request is pending exactly if a pass was requested since the last one has begun. -/
theorem dirty_iff (h : History settings content) (hopen : h.final.state.status ≠ .closed) :
    h.final.state.dirty = true ↔ h.Requested := by
  have hall : ∀ actions : List Action, (h.upTo actions).final.state.status ≠ .closed →
      ((h.upTo actions).final.state.dirty = true ↔ (h.upTo actions).Requested) := by
    intro actions
    induction actions using List.reverseRecOn with
    | nil =>
        refine fun _ => iff_of_false Bool.false_ne_true ?_
        rintro ⟨r, -⟩
        exact List.append_ne_nil_of_right_ne_nil r.front (List.cons_ne_nil r.action r.behind) r.split.symm
    | append_singleton actions a ih =>
        intro hopen
        have hstill : (h.upTo actions).final.state.status ≠ .closed := fun hclosed => by
          have hact : ((h.upTo actions).extend [a]).final.state = (h.upTo actions).final.state.act a :=
            (h.upTo actions).extend_state [a]
          exact hopen (hact ▸ Dispatcher.act_closed hclosed a)
        exact dirty_extend (h.upTo actions) (ih hstill) hopen
  exact hall h.actions hopen

/-- Where a pass was requested, it is pending, or the last pass has read the providers that are registered. -/
theorem Request.current (r : h.Request) (hopen : h.final.state.status ≠ .closed) : h.chronicle.Current := by
  have hall : h.chronicle = r.behind.foldl Chronicle.act ((h.upTo r.front).chronicle.act r.action) := by
    have hsplit : ((h.upTo r.front).extend (r.action :: r.behind)).chronicle =
        (r.action :: r.behind).foldl Chronicle.act (h.upTo r.front).chronicle := List.foldl_append
    rwa [← r.history_eq] at hsplit
  have hquiet := (h.upTo r.front).final_quiet.1
  have hasks := r.asks
  rw [← chronicle_state] at hquiet hasks hopen
  rw [hall] at hopen ⊢
  have hfirst : ((h.upTo r.front).chronicle.state.act r.action).status ≠ .closed := fun hclosed =>
    hopen (Chronicle.foldl_closed (c := (h.upTo r.front).chronicle.act r.action) hclosed r.behind)
  exact (Chronicle.Current.act (.inl hasks) hquiet hfirst).run hquiet.act hopen

theorem Request.upToDate (r : h.Request) (hrested : h.final.state.Rested) : h.UpToDate := by
  have hopen : h.final.state.status ≠ .closed := by
    rw [hrested.opened]
    exact Status.noConfusion
  have hclean := hrested.dirty h.final_quiet.1
  rcases r.current hopen with hdirty | ⟨p, hp, hlive⟩
  · rw [chronicle_state, hclean] at hdirty
    cases hdirty
  · have hlast : p ∈ h.passes.getLast? := by rwa [passes, List.getLast?_reverse]
    have hidle : h.chronicle.state.running = none := by rw [chronicle_state, hrested.running]
    have hover := h.chronicle_ordered.2.over hidle (List.mem_of_mem_head? hp)
    rw [chronicle_state] at hlive
    exact ⟨p, hlast, hover, hlive⟩

/-- How the number of passes grows by a call. -/
structure Counts (h : History settings content) (a : Action) : Prop where
  /-- Where no batch is open: by one pass for every request. -/
  free : h.guards = 0 →
    (h.extend [a]).final.state.passes = h.final.state.passes + if h.final.state.asks a then 1 else 0
  /-- Where a batch is open, and stays open: not at all. -/
  guarded : h.guards ≠ 0 → ¬(h.guards = 1 ∧ a = .endBatch) →
    (h.extend [a]).final.state.passes = h.final.state.passes
  /-- Where the last batch is ended: by one pass if one was requested since the last one. -/
  requested : h.guards = 1 → a = .endBatch → h.Requested →
    (h.extend [a]).final.state.passes = h.final.state.passes + 1
  unrequested : h.guards = 1 → a = .endBatch → ¬h.Requested →
    (h.extend [a]).final.state.passes = h.final.state.passes
  /-- By an event that was refused or found nothing to do: not at all, and no provider is changed. -/
  idle : ∀ reply, h.final.state.reply a = some reply → reply.requests = false →
    (h.extend [a]).final.state.passes = h.final.state.passes ∧
      (h.extend [a]).final.state.registry.live = h.final.state.registry.live

/-- Without a pass held, the passes that have begun are those that are over. -/
theorem begun_of_idle {d : Dispatcher} (hidle : d.running = none) : d.begun = d.passes := by
  rw [Dispatcher.begun, hidle]
  rfl

theorem counts_of_returned (h : History settings content) (hopen : h.final.state.status = .opened)
    (hidle : h.final.state.running = none) (hcall : a.isCall = true) (hclose : a.isClose = false)
    (hreturned : (h.extend [a]).final.state.running = none) : h.Counts a := by
  have hquiet := h.final_quiet.1
  have hact : (h.extend [a]).final.state = h.final.state.act a := h.extend_state [a]
  have hpasses := Dispatcher.call_begun hopen hidle hquiet.ready hcall hclose
  rw [← hact, begun_of_idle hidle, begun_of_idle hreturned, h.final_batches] at hpasses
  have hpending := h.dirty_iff (by rw [hopen]; exact Status.noConfusion)
  have hfree : h.guards = 0 → (h.extend [a]).final.state.passes =
      h.final.state.passes + if h.final.state.asks a then 1 else 0 := by
    intro hnone
    have hrested : h.final.state.Rested := ⟨hopen, hidle, h.final_batches.trans hnone⟩
    rw [hpasses, hnone, hrested.dirty hquiet, Bool.false_or]
    by_cases ha : a = .openBatch
    · subst ha
      rw [Dispatcher.asks_other rfl]
      rfl
    · have hstill : a.batches 0 = 0 := by
        cases a with
        | openBatch => exact absurd rfl ha
        | _ => rfl
      simp only [hstill, true_and]
  have hguarded : h.guards ≠ 0 → ¬(h.guards = 1 ∧ a = .endBatch) →
      (h.extend [a]).final.state.passes = h.final.state.passes := by
    intro hsome hlast
    have hstill : a.batches h.guards ≠ 0 := by
      cases a with
      | openBatch => exact Nat.succ_ne_zero _
      | endBatch =>
          have hmore : h.guards ≠ 1 := fun hone => hlast ⟨hone, rfl⟩
          show h.guards - 1 ≠ 0
          omega
      | _ => exact hsome
    rw [hpasses, if_neg fun hthen => hstill hthen.1, Nat.add_zero]
  have hended : h.guards = 1 → a = .endBatch → (h.extend [a]).final.state.passes =
      h.final.state.passes + if h.final.state.dirty then 1 else 0 := by
    rintro hone rfl
    rw [hpasses, hone, Dispatcher.asks_other rfl, Bool.or_false]
    simp only [Action.batches, Nat.sub_self, true_and]
  constructor
  case free => exact hfree
  case guarded => exact hguarded
  case requested =>
    intro hone ha hrequested
    rw [hended hone ha, if_pos (hpending.2 hrequested)]
  case unrequested =>
    intro hone ha hnone
    rw [hended hone ha, if_neg fun hdirty => hnone (hpending.1 hdirty), Nat.add_zero]
  case idle =>
    intro reply hreply hnothing
    have hasks : h.final.state.asks a = false := by
      rw [Dispatcher.asks, hreply, Option.any_some, hnothing, Bool.and_false]
    constructor
    · by_cases hnone : h.guards = 0
      · rw [hfree hnone, hasks]
        rfl
      · refine hguarded hnone fun hlast => ?_
        rw [hlast.2] at hreply
        cases hreply
    · have hstill : (h.final.state.act a).status ≠ .closed := by
        rw [(Dispatcher.act_opened hopen hquiet.ready hcall hclose).1]
        exact Status.noConfusion
      rw [hact]
      exact Dispatcher.act_live hstill hasks

/-- Calls are made one after the other on a dispatcher that is open.  Where no registration is to wait, they all
return, and the dispatcher stays open.  Where one has returned, as many passes were run as `Counts` says.  While no
batch is open the last pass has read the providers that are registered, if any request was made. -/
theorem pass_counting (h : History settings content) (hopen : h.final.state.status = .opened)
    (hidle : h.final.state.running = none) :
    (h.final.state.site.host.gated = false → ∀ calls : List Action,
      (∀ a ∈ calls, a.isCall = true ∧ a.isClose = false) → (h.extend calls).final.state.Free) ∧
    (∀ a : Action, a.isCall = true → a.isClose = false → (h.extend [a]).final.state.running = none →
      (h.extend [a]).final.state.status = .opened ∧ h.Counts a) ∧
    (h.guards = 0 → Nonempty h.Request → h.UpToDate) := by
  have hquiet := h.final_quiet.1
  refine ⟨fun hgated calls hcalls => ?_, fun a hcall hclose hreturned => ⟨?_, ?_⟩, fun hnone ⟨r⟩ => ?_⟩
  · rw [extend_state]
    exact Dispatcher.Free.run ⟨hopen, hidle, hgated⟩ hquiet hcalls
  · rw [extend_state]
    exact (Dispatcher.act_opened hopen hquiet.ready hcall hclose).1
  · exact h.counts_of_returned hopen hidle hcall hclose hreturned
  · exact r.upToDate ⟨hopen, hidle, h.final_batches.trans hnone⟩

end History

end

namespace History

/-- Two batches are open around the events, of which one is refused, and the first of them has ended. -/
def batched : History {} (.shared 0 .plain) where
  host := {}
  pool := {}
  actions := [.openBatch, .openBatch, contendedEvent,
    .upsert .handler (.shared 2 .plain) (sampleProps Key.routeHandler 3 "users" []), .endBatch]

/-- The group is registered while no pass has begun. -/
def batchedRequest : batched.Request where
  front := [.openBatch, .openBatch]
  action := contendedEvent
  behind := [.upsert .handler (.shared 2 .plain) (sampleProps Key.routeHandler 3 "users" []), .endBatch]
  split := rfl
  asks := by decide +kernel

/-- When the other batch ends one pass is run, which has read what is registered. -/
theorem batched_pass_counting : batched.guards = 1 ∧ batched.final.state.passes = 0 ∧
    (batched.extend [.endBatch]).final.state.passes = 1 ∧ (batched.extend [.endBatch]).UpToDate := by
  obtain ⟨hfree, hguards, hpasses, hbegun⟩ : batched.final.state.Free ∧ batched.guards = 1 ∧
      batched.final.state.passes = 0 ∧
        (batched.upTo batchedRequest.front).final.state.begun = batched.final.state.begun := by decide +kernel
  obtain ⟨hcalls, hreturns, -⟩ := pass_counting batched hfree.opened hfree.running
  have hafter : (batched.extend [.endBatch]).final.state.Free :=
    hcalls hfree.gated [.endBatch] (by decide +kernel)
  obtain ⟨-, hcounts⟩ := hreturns .endBatch rfl rfl hafter.running
  have hone := hcounts.requested hguards rfl ⟨batchedRequest, hbegun⟩
  rw [hpasses] at hone
  obtain ⟨-, -, hcurrent⟩ := pass_counting (batched.extend [.endBatch]) hafter.opened hafter.running
  have hrequest : (batched.extend [.endBatch]).Request :=
    ⟨batchedRequest.front, contendedEvent, batchedRequest.behind ++ [.endBatch], rfl, batchedRequest.asks⟩
  exact ⟨hguards, hpasses, hone, hcurrent (by decide +kernel) ⟨hrequest⟩⟩

end History

end RouteBinding
