import RouteBinding.Proofs.Run.Action

/-!
# The moves of a dispatcher

Every action that does not end with a closed dispatcher is a chain of a few moves (`Tracked.act_moves`): the
registry changes, a pass begins, a pass that was held goes on, someone else changes the host, or nothing
happens that a pass would see.  So what every move preserves holds at the end of every history
(`History.final_of_moves`).
-/

namespace RouteBinding

open Property

/-- A registry after some registrations and removals. -/
def Registry.Changes : Registry → Registry → Prop :=
  Relation.ReflTransGen fun r s => (∃ kind payload props, s = (r.upsert kind payload props).2) ∨
    ∃ kind id, s = (r.remove kind id).2

/-- Searching the kinds for a provider to remove is a chain of removals. -/
theorem Registry.removeFirst_changes (r : Registry) (id : ServiceId) (kinds : List Kind) :
    r.Changes (r.removeFirst id kinds).2 := by
  induction kinds generalizing r with
  | nil => exact .refl
  | cons kind rest ih =>
      have hremoved : r.Changes (r.remove kind id).2 := .single (.inr ⟨kind, id, rfl⟩)
      unfold removeFirst
      cases hresult : r.remove kind id with
      | mk found s =>
          rw [hresult] at hremoved
          cases found with
          | true => exact hremoved
          -- There is none of this kind, so the search goes on.
          | false => exact hremoved.trans (ih s)

variable [Route.Routing]

namespace Dispatcher

/-- Two dispatchers that differ only in what is noted, requested and waited for, and in what the next pass
will read of the host and of the sources of content. -/
structure Aside (d e : Dispatcher) : Prop where
  registry : e.registry = d.registry
  implicit : e.implicit = d.implicit
  registered : e.site.registered = d.site.registered
  mounted : e.site.host.memory.mounted = d.site.host.memory.mounted
  report : e.site.report = d.site.report
  default : e.default = d.default
  failures : e.failures = d.failures
  active : e.active = d.active
  passes : e.passes = d.passes
  running : e.running = d.running

namespace Aside

theorem refl (d : Dispatcher) : d.Aside d := ⟨rfl, rfl, rfl, rfl, rfl, rfl, rfl, rfl, rfl, rfl⟩

theorem trans {d e f : Dispatcher} (h : d.Aside e) (k : e.Aside f) : d.Aside f where
  registry := k.registry.trans h.registry
  implicit := k.implicit.trans h.implicit
  registered := k.registered.trans h.registered
  mounted := k.mounted.trans h.mounted
  report := k.report.trans h.report
  default := k.default.trans h.default
  failures := k.failures.trans h.failures
  active := k.active.trans h.active
  passes := k.passes.trans h.passes
  running := k.running.trans h.running

theorem begun {d e : Dispatcher} (h : d.Aside e) : e.begun = d.begun := by
  rw [Dispatcher.begun, Dispatcher.begun, h.passes, h.running]

end Aside

/-- A dispatcher of which some closings have given up: besides the closings only the notices have changed. -/
def GaveUp (d e : Dispatcher) : Prop :=
  ∃ notices status waiting closings, e = { d.note notices with status, waiting, closings }

namespace GaveUp

variable {d e f : Dispatcher}

theorem refl (d : Dispatcher) : d.GaveUp d := ⟨[], d.status, d.waiting, d.closings, (note_nil d).symm⟩

theorem trans (h : d.GaveUp e) (k : e.GaveUp f) : d.GaveUp f := by
  obtain ⟨first, _, _, _, rfl⟩ := h
  obtain ⟨second, status, waiting, closings, rfl⟩ := k
  exact ⟨first ++ second, status, waiting, closings, by simp [note, Site.note]⟩

theorem aside (h : d.GaveUp e) : d.Aside e := by
  obtain ⟨_, _, _, _, rfl⟩ := h
  exact ⟨rfl, rfl, rfl, rfl, rfl, rfl, rfl, rfl, rfl, rfl⟩

end GaveUp

theorem expireClose_gaveUp {d : Dispatcher} (hheld : d.running ≠ none) : d.GaveUp d.expireClose := by
  unfold expireClose
  split
  · exact .refl d
  · unfold drain
    rw [if_neg]
    · exact ⟨_, _, _, _, rfl⟩
    · simp [note, Option.isNone_iff_eq_none, hheld]

theorem expireAll_gaveUp {d : Dispatcher} (n : Nat) (hheld : d.running ≠ none) :
    d.GaveUp (expireAll n d) := by
  induction n generalizing d with
  | zero => exact .refl d
  | succ n ih =>
      have hfirst := expireClose_gaveUp hheld
      -- The pass is still held, so that none begins when the next closing gives up.
      have hstill : d.expireClose.running ≠ none := by rwa [hfirst.aside.running]
      exact hfirst.trans (ih hstill)

end Dispatcher

/-- A move of a tracked dispatcher; someone else may change what the host serves only where it is `shared`. -/
inductive Move (shared : Prop) : Tracked → Tracked → Prop where
  /-- Nothing happens that a pass would see. -/
  | aside {d e : Dispatcher} {last : Option Reading} (h : d.Aside e) : Move shared ⟨d, last⟩ ⟨e, last⟩
  /-- A provider is registered, or refused. -/
  | registers (d : Dispatcher) (last : Option Reading) (kind : Kind) (payload : Payload) (props : Map) :
      Move shared ⟨d, last⟩ ⟨{ d with registry := (d.registry.upsert kind payload props).2 }, last⟩
  /-- A provider is removed, if it is there. -/
  | removes (d : Dispatcher) (last : Option Reading) (kind : Kind) (id : ServiceId) :
      Move shared ⟨d, last⟩ ⟨{ d with registry := (d.registry.remove kind id).2 }, last⟩
  /-- A pass begins. -/
  | begins (d : Dispatcher) (last : Option Reading) (hidle : d.running = none) :
      Move shared ⟨d, last⟩ ⟨d.startPass, some d.reading⟩
  /-- A pass that was held goes on. -/
  | resumes (d : Dispatcher) (last : Option Reading) (r : Running) (hheld : d.running = some r) :
      Move shared ⟨d, last⟩ ⟨d.resume r, last⟩
  /-- Someone else changes what the host serves. -/
  | interferes (d : Dispatcher) (last : Option Reading) (mounted : Table ServiceId Host.Mounted)
      (hshared : shared) :
      Move shared ⟨d, last⟩ ⟨d.act (.interfere mounted), last⟩

def Moves (shared : Prop) : Tracked → Tracked → Prop := Relation.ReflTransGen (Move shared)

/-- What every move preserves a chain of moves preserves. -/
theorem Moves.preserve {shared : Prop} {P : Tracked → Prop} (hmove : ∀ t u, P t → Move shared t u → P u)
    {t u : Tracked} (h : Moves shared t u) (ht : P t) : P u := by
  induction h with
  | refl => exact ht
  | tail _ hstep ih => exact hmove _ _ ih hstep

namespace Dispatcher

variable {d e : Dispatcher}

/-! ### What a pass leaves alone -/

theorem goOn_begun (d : Dispatcher) (r : Running) : (d.goOn r).begun = d.passes + 1 := by
  unfold goOn begun
  dsimp only
  split <;> rfl

theorem goOn_pool (d : Dispatcher) (r : Running) : (d.goOn r).pool = d.pool := by
  unfold goOn
  dsimp only
  split <;> rfl

theorem goOn_implicit (d : Dispatcher) (r : Running) : (d.goOn r).implicit = d.implicit := by
  unfold goOn
  dsimp only
  split <;> rfl

theorem goOn_registry (d : Dispatcher) (r : Running) : (d.goOn r).registry = d.registry := by
  unfold goOn
  dsimp only
  split <;> rfl

/-- All that a pass does to the site where it goes on is a chain of calls. -/
theorem goOn_calls (d : Dispatcher) (r : Running) : Site.Calls r.left d.site (d.goOn r).site := by
  have hadvanced := Site.advance_calls d.site r.left
  unfold goOn
  dsimp only
  split
  · exact hadvanced.tail (.still ⟨rfl, rfl⟩)
  · exact hadvanced

theorem cleared_calls (d : Dispatcher) (r : Reading) : Site.Calls [] d.site (d.cleared r) := by
  have hstart : Site.Calls [] d.site
      ({ d.site with report := {} }.note [.passStarted (d.passes + 1)]) :=
    .single (.still ⟨rfl, rfl⟩)
  have hretracted : Site.Calls [] d.site d.retracted :=
    (hstart.trans (Site.unregisterEach_calls _ d.removedIds)).tail (.still ⟨rfl, rfl⟩)
  unfold cleared
  dsimp only
  exact (hretracted.tail (.still (Site.note_still _ _))).trans (Site.unregisterEach_calls _ _)

/-- A dispatcher that has decided which groups to serve and has taken the others from the host. -/
def decided (d : Dispatcher) : Dispatcher :=
  { d with
    dirty := false
    registry := d.registry.drain.2
    pool := d.probe.2
    site := d.cleared d.reading
    default := d.reading.decision.default }

theorem decided_default (d : Dispatcher) : d.decided.default = d.reading.decision.default := by
  unfold decided
  rfl

theorem decided_site (d : Dispatcher) : d.decided.site = d.cleared d.reading := by
  unfold decided
  rfl

theorem decided_nextRevision (d : Dispatcher) :
    d.decided.registry.nextRevision = d.registry.nextRevision := by
  unfold decided
  rfl

theorem startPass_eq (d : Dispatcher) :
    d.startPass = d.decided.goOn ⟨d.reading.plan, d.reading.failures⟩ := rfl

/-- A dispatcher of which the call that waited is done. -/
def unheld (d : Dispatcher) (g : Group) : Dispatcher :=
  { d with site := d.site.settle .register g, running := none }

theorem resume_nil {r : Running} (hleft : r.left = []) : d.resume r = d.finishPass r.failures := by
  unfold resume
  rw [hleft]

theorem resume_cons {r : Running} {g : Group} {rest : List Group} (hleft : r.left = g :: rest) :
    d.resume r = (d.unheld g).goOn ⟨rest, r.failures⟩ := by
  unfold resume
  rw [hleft]
  rfl

/-- All that a pass does to the site is a chain of calls. -/
theorem startPass_calls (d : Dispatcher) : Site.Calls d.reading.plan d.site d.startPass.site := by
  have hcleared : Site.Calls d.reading.plan d.site d.decided.site :=
    (d.cleared_calls d.reading).mono (List.nil_subset _)
  have hgone : Site.Calls d.reading.plan d.decided.site d.startPass.site :=
    goOn_calls d.decided ⟨d.reading.plan, d.reading.failures⟩
  exact hcleared.trans hgone

/-- So is all that a pass that was held does when it goes on. -/
theorem resume_calls (d : Dispatcher) (r : Running) : Site.Calls r.left d.site (d.resume r).site := by
  cases hleft : r.left with
  | nil =>
      rw [resume_nil hleft]
      exact .single (.still ⟨rfl, rfl⟩)
  | cons g rest =>
      have hsettled : Site.Call (g :: rest) d.site (d.unheld g).site :=
        Site.settle_call d.site (by decide) (List.mem_cons_self ..)
      rw [resume_cons hleft]
      exact .head hsettled ((goOn_calls _ ⟨rest, r.failures⟩).mono (List.subset_cons_self g rest))

theorem startPass_begun (hidle : d.running = none) : d.startPass.begun = d.begun + 1 := by
  have hbegun : d.startPass.begun = d.passes + 1 := goOn_begun _ _
  rw [hbegun, begun, hidle]
  rfl

theorem resume_begun {r : Running} (hheld : d.running = some r) : (d.resume r).begun = d.begun := by
  have hbegun : d.begun = d.passes + 1 := by
    rw [begun, hheld]
    rfl
  rw [hbegun]
  cases hleft : r.left with
  | nil =>
      rw [resume_nil hleft]
      rfl
  | cons g rest =>
      rw [resume_cons hleft]
      exact goOn_begun _ _

theorem startPass_registry (d : Dispatcher) : d.startPass.registry = d.registry.drain.2 := by
  rw [startPass_eq, goOn_registry]
  unfold decided
  rfl

theorem startPass_implicit (d : Dispatcher) : d.startPass.implicit = d.implicit := by
  rw [startPass_eq, goOn_implicit]
  unfold decided
  rfl

theorem resume_registry (r : Running) : (d.resume r).registry = d.registry := by
  unfold resume
  cases r.left with
  | nil => rfl
  | cons g rest => exact goOn_registry _ _

theorem resume_implicit (r : Running) : (d.resume r).implicit = d.implicit := by
  unfold resume
  cases r.left with
  | nil => rfl
  | cons g rest => exact goOn_implicit _ _

theorem resume_pool (r : Running) : (d.resume r).pool = d.pool := by
  unfold resume
  cases r.left with
  | nil => rfl
  | cons g rest => exact goOn_pool _ _

/-- A pass that begins forgets which removals were pending, and nothing else of the registry. -/
theorem drain_live (d : Dispatcher) : d.drain.registry.live = d.registry.live := by
  unfold drain
  split
  · rw [startPass_registry]
    rfl
  · rfl

/-- What a pass reads are the live providers, the properties of the host, the implicit default group and the
sources of content. -/
theorem reading_congr (hlive : e.registry.live = d.registry.live)
    (hproperties : e.site.host.memory.properties = d.site.host.memory.properties)
    (himplicit : e.implicit = d.implicit) (hpool : e.pool = d.pool) : e.reading = d.reading := by
  have hintake : e.intake = d.intake := by
    rw [intake, intake, hlive, hproperties, himplicit]
  rw [reading, reading, probe, probe, hintake, hpool]

end Dispatcher

namespace Registry

variable {r : Registry} {a : Action} {c : Change}

theorem change_changes (h : r.change a = some c) : r.Changes c.registry := by
  cases a with
  | upsert kind payload props =>
      obtain rfl := Option.some.inj h
      exact .single (.inl ⟨kind, payload, props, rfl⟩)
  | removeDeclared kind props =>
      obtain rfl := Option.some.inj h
      cases declaredId? props with
      | none => exact .refl
      | some id => exact .single (.inr ⟨kind, id, rfl⟩)
  | remove id =>
      obtain rfl := Option.some.inj h
      exact r.removeFirst_changes id Kind.every
  | trigger =>
      obtain rfl := Option.some.inj h
      exact .refl
  | _ => cases h

end Registry

namespace Tracked

variable {shared : Prop} {d e : Dispatcher} {last : Option Reading} {a : Action}

/-- A pass begins if one was requested and nothing stands against it. -/
theorem drain_moves (d : Dispatcher) (last : Option Reading) :
    Moves shared ⟨d, last⟩ ⟨d.drain, if d.drain.begun = d.begun then last else some d.reading⟩ := by
  unfold Dispatcher.drain
  split
  · next hready =>
    have hidle : d.running = none := by
      simp only [Bool.and_eq_true, Option.isNone_iff_eq_none] at hready
      exact hready.1.1.1
    -- The pass counts as begun, so the reading is the new one.
    rw [if_neg (by rw [Dispatcher.startPass_begun hidle]; omega)]
    exact .single (.begins d last hidle)
  · rw [if_pos rfl]
    exact .refl

/-- An action during which no pass begins. -/
theorem act_of_quiet (hbegun : (d.act a).begun = d.begun)
    (hmoves : Moves shared ⟨d, last⟩ ⟨d.act a, last⟩) : Moves shared ⟨d, last⟩ (act ⟨d, last⟩ a) := by
  unfold act
  dsimp only
  rw [if_pos hbegun]
  exact hmoves

/-- An action that ends with the chance for a pass to begin. -/
theorem act_of_drain (hact : d.act a = e.drain) (hbegun : e.begun = d.begun)
    (hproperties : e.site.host.memory.properties = d.site.host.memory.properties)
    (himplicit : e.implicit = d.implicit) (hpool : e.pool = d.pool)
    (hmoves : Moves shared ⟨d, last⟩ ⟨e, last⟩) : Moves shared ⟨d, last⟩ (act ⟨d, last⟩ a) := by
  -- A pass that begins forgets removals only, so it reads what the registry lists afterwards.
  have hreading : ({ d with registry := e.drain.registry } : Dispatcher).reading = e.reading :=
    Dispatcher.reading_congr e.drain_live hproperties.symm himplicit.symm hpool.symm
  have hdrained := hmoves.trans (drain_moves e last)
  unfold act
  dsimp only
  rw [hact, hreading, ← hbegun]
  exact hdrained

/-- An action after which nothing has changed that a pass would see. -/
theorem act_of_aside (h : d.Aside (d.act a)) : Moves shared ⟨d, last⟩ (act ⟨d, last⟩ a) :=
  act_of_quiet h.begun (.single (.aside h))

/-- Requesting a pass after the registry has changed. -/
theorem act_of_trigger (hact : d.act a = e.trigger) (hbegun : e.begun = d.begun)
    (hproperties : e.site.host.memory.properties = d.site.host.memory.properties)
    (himplicit : e.implicit = d.implicit) (hpool : e.pool = d.pool)
    (hmoves : Moves shared ⟨d, last⟩ ⟨e, last⟩) : Moves shared ⟨d, last⟩ (act ⟨d, last⟩ a) := by
  unfold Dispatcher.trigger at hact
  split at hact
  · refine act_of_drain (e := { e with dirty := true }) hact hbegun hproperties himplicit hpool ?_
    exact hmoves.tail (.aside ⟨rfl, rfl, rfl, rfl, rfl, rfl, rfl, rfl, rfl, rfl⟩)
  · refine act_of_quiet ?_ ?_
    · rw [hact, hbegun]
    · rw [hact]
      exact hmoves

/-- What changes the registry is a chain of moves. -/
theorem changes_moves {s : Registry} (h : d.registry.Changes s) :
    Moves shared ⟨d, last⟩ ⟨{ d with registry := s }, last⟩ := by
  induction h with
  | refl => exact .refl
  | tail _ hstep ih =>
      rcases hstep with ⟨kind, payload, props, rfl⟩ | ⟨kind, id, rfl⟩
      · exact ih.tail (.registers _ last kind payload props)
      · exact ih.tail (.removes _ last kind id)

theorem settleClosings_open (h : d.settleClosings.status ≠ .closed) : d.settleClosings = d := by
  unfold Dispatcher.settleClosings at h ⊢
  split
  · next hready =>
    rw [if_pos hready] at h
    exact absurd d.closeOnce_status h
  · rfl

/-! ### The actions one by one -/

theorem event_moves {c : Change} (hevent : d.registry.change a = some c) :
    Moves shared ⟨d, last⟩ (act ⟨d, last⟩ a) := by
  have hact := Dispatcher.act_event hevent
  by_cases hopen : d.isOpen = true
  · have hchanged : Moves shared ⟨d, last⟩
        ⟨({ d with registry := c.registry } : Dispatcher).note c.notices, last⟩ :=
      (changes_moves (Registry.change_changes hevent)).tail
        (.aside ⟨rfl, rfl, rfl, rfl, rfl, rfl, rfl, rfl, rfl, rfl⟩)
    rw [if_pos hopen, Dispatcher.changed] at hact
    split at hact
    · exact act_of_trigger hact rfl rfl rfl rfl hchanged
    · refine act_of_quiet ?_ ?_
      · rw [hact]
        rfl
      · rw [hact]
        exact hchanged
  · refine act_of_aside ?_
    rw [hact, if_neg hopen]
    exact .refl d

/-- The last batch that ends gives a pass that was requested the chance to begin. -/
theorem endBatch_moves (d : Dispatcher) (last : Option Reading) :
    Moves shared ⟨d, last⟩ (act ⟨d, last⟩ .endBatch) := by
  by_cases hnone : d.batches = 0
  · refine act_of_aside ?_
    show d.Aside d.endBatch
    rw [Dispatcher.endBatch, if_pos hnone]
    exact .refl d
  · refine act_of_drain (e := { d with batches := d.batches - 1 }) ?_ rfl rfl rfl rfl ?_
    · show d.endBatch = _
      rw [Dispatcher.endBatch, if_neg hnone]
    · exact .single (.aside ⟨rfl, rfl, rfl, rfl, rfl, rfl, rfl, rfl, rfl, rfl⟩)

theorem close_moves (hopen : (d.act .close).status ≠ .closed) :
    Moves shared ⟨d, last⟩ (act ⟨d, last⟩ .close) := by
  have hact : d.act .close = d.close.2 := rfl
  rw [hact, Dispatcher.close] at hopen
  by_cases hwaits : (d.running.isSome && d.status != .closed) = true
  · have hheld := (Bool.and_eq_true_iff.1 hwaits).1
    refine act_of_aside ?_
    rw [hact, Dispatcher.close, if_pos hwaits]
    -- The closings that waited before give up, and this one waits.
    have hexpired := Dispatcher.expireAll_gaveUp d.waiting (Option.isSome_iff_ne_none.1 hheld)
    exact hexpired.aside.trans ⟨rfl, rfl, rfl, rfl, rfl, rfl, rfl, rfl, rfl, rfl⟩
  · rw [if_neg hwaits] at hopen
    exact absurd d.closeOnce_status hopen

theorem closeLater_moves (hopen : (d.act .closeLater).status ≠ .closed) :
    Moves shared ⟨d, last⟩ (act ⟨d, last⟩ .closeLater) := by
  have hact : d.act .closeLater = d.closeLater := rfl
  rw [hact, Dispatcher.closeLater] at hopen
  by_cases hwaits : (d.running.isSome && d.status != .closed) = true
  · refine act_of_aside ?_
    rw [hact, Dispatcher.closeLater, if_pos hwaits]
    exact ⟨rfl, rfl, rfl, rfl, rfl, rfl, rfl, rfl, rfl, rfl⟩
  · rw [if_neg hwaits] at hopen
    exact absurd d.closeOnce_status hopen

theorem expireClose_moves (d : Dispatcher) (last : Option Reading) :
    Moves shared ⟨d, last⟩ (act ⟨d, last⟩ .expireClose) := by
  by_cases hnone : d.waiting = 0
  · refine act_of_aside ?_
    show d.Aside d.expireClose
    rw [Dispatcher.expireClose, if_pos hnone]
    exact .refl d
  · have hact : d.act .expireClose = d.expireClose := rfl
    rw [Dispatcher.expireClose, if_neg hnone] at hact
    refine act_of_drain hact rfl rfl rfl rfl ?_
    exact .single (.aside ⟨rfl, rfl, rfl, rfl, rfl, rfl, rfl, rfl, rfl, rfl⟩)

/-- A pass that is released goes on, and another one may begin behind it. -/
theorem release_moves (hopen : (d.act .release).status ≠ .closed) :
    Moves shared ⟨d, last⟩ (act ⟨d, last⟩ .release) := by
  have hact : d.act .release = d.release := rfl
  rw [hact, Dispatcher.release] at hopen
  cases hheld : d.running with
  | none =>
      refine act_of_aside ?_
      rw [hact, Dispatcher.release, hheld]
      exact .refl d
  | some r =>
      rw [hheld] at hopen
      -- Closings that waited for the pass would leave the dispatcher closed.
      have hreleased : d.act .release = (d.resume r).drain := by
        rw [hact, Dispatcher.release, hheld]
        exact settleClosings_open hopen
      have hresumes : Move shared ⟨d, last⟩ ⟨d.resume r, last⟩ := .resumes d last r hheld
      exact act_of_drain hreleased (Dispatcher.resume_begun hheld) (d.resume_calls r).properties
        (Dispatcher.resume_implicit r) (Dispatcher.resume_pool r) (.single hresumes)

/-- An action that does not end with a closed dispatcher is a chain of moves. -/
theorem act_moves (t : Tracked) (a : Action) (hopen : (t.act a).state.status ≠ .closed)
    (hown : a.own = true ∨ shared) : Moves shared t (t.act a) := by
  obtain ⟨d, last⟩ := t
  have hopen : (d.act a).status ≠ .closed := hopen
  cases a with
  | upsert kind payload props => exact event_moves rfl
  | removeDeclared kind props => exact event_moves rfl
  | remove id => exact event_moves rfl
  | trigger => exact event_moves rfl
  | openBatch => exact act_of_aside ⟨rfl, rfl, rfl, rfl, rfl, rfl, rfl, rfl, rfl, rfl⟩
  | endBatch => exact endBatch_moves d last
  | close => exact close_moves hopen
  | closeLater => exact closeLater_moves hopen
  | expireClose => exact expireClose_moves d last
  | holdNext => exact act_of_aside ⟨rfl, rfl, rfl, rfl, rfl, rfl, rfl, rfl, rfl, rfl⟩
  | holdNone => exact act_of_aside ⟨rfl, rfl, rfl, rfl, rfl, rfl, rfl, rfl, rfl, rfl⟩
  | release => exact release_moves hopen
  | tell instruction =>
      refine act_of_aside ?_
      cases instruction <;> exact ⟨rfl, rfl, rfl, rfl, rfl, rfl, rfl, rfl, rfl, rfl⟩
  | supply pool => exact act_of_aside ⟨rfl, rfl, rfl, rfl, rfl, rfl, rfl, rfl, rfl, rfl⟩
  | interfere mounted =>
      rcases hown with hown | hshared
      · cases hown
      · exact act_of_quiet rfl (.single (.interferes d last mounted hshared))

theorem foldl_closed {t : Tracked} (h : t.state.status = .closed) (actions : List Action) :
    (actions.foldl act t).state.status = .closed := by
  induction actions generalizing t with
  | nil => exact h
  | cons a rest ih => exact ih (Dispatcher.act_closed h a)

/-- Actions that do not end with a closed dispatcher are a chain of moves. -/
theorem foldl_moves (t : Tracked) (actions : List Action)
    (hopen : (actions.foldl act t).state.status ≠ .closed)
    (hown : (∀ a ∈ actions, a.own = true) ∨ shared) : Moves shared t (actions.foldl act t) := by
  induction actions generalizing t with
  | nil => exact .refl
  | cons a rest ih =>
      -- A dispatcher that is closed on the way would be closed at the end.
      have hstep : (t.act a).state.status ≠ .closed := fun hclosed => hopen (foldl_closed hclosed rest)
      have hfirst : a.own = true ∨ shared := hown.imp_left fun h => h a (List.mem_cons_self ..)
      have hrest : (∀ b ∈ rest, b.own = true) ∨ shared :=
        hown.imp_left fun h b hb => h b (List.mem_cons_of_mem a hb)
      exact (act_moves t a hstep hfirst).trans (ih (t.act a) hopen hrest)

end Tracked

namespace History

variable {settings : Settings} {content : Payload} {h : History settings content} {P : Tracked → Prop}

/-- What holds of a new dispatcher and is preserved by every move holds at the end of every history that
does not end with a closed dispatcher. -/
theorem final_of_moves (hopen : h.final.state.status ≠ .closed) (hstart : P h.start)
    (hmove : ∀ t u, P t → Move True t u → P u) : P h.final :=
  (Tracked.foldl_moves _ _ hopen (.inr trivial)).preserve hmove hstart

/-- The case in which the host is left to the dispatcher. -/
theorem final_of_own_moves (hdriven : h.Driven) (hopen : h.final.state.status ≠ .closed)
    (hstart : P h.start) (hmove : ∀ t u, P t → Move False t u → P u) : P h.final :=
  (Tracked.foldl_moves _ _ hopen (.inl hdriven.2)).preserve hmove hstart

end History

end RouteBinding
