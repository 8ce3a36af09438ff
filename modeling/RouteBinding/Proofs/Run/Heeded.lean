import RouteBinding.Proofs.Run.Coalesce

/-!
# Requests and the passes that heed them

A pass that is requested is pending until the next pass begins, which reads the registry as the request left
it or as others have changed it since (`Chronicle.Heeds`).  No action loses a pending request, unless it
closes the dispatcher (`Chronicle.Heeds.act`).  So where a dispatcher that is open ends with no pass held and
no batch open, every request was followed by a pass that has read it (`History.requests_heeded`).  A closing
that waits lets no request be made: events are refused then, and a trigger does nothing
(`Dispatcher.trigger_of_closing`).
-/

namespace RouteBinding

open Property

namespace Registry

variable {r : Registry}

/-- A registration that is refused has settled an identity at most. -/
theorem upsert_refused_live {kind : Kind} {payload : Payload} {props : Map}
    (h : (r.upsert kind payload props).1.isOk = false) :
    (r.upsert kind payload props).2.live = r.live := by
  have hlive := (r.assignId_same props).1
  unfold upsert at h ⊢
  generalize r.assignId props = assigned at hlive h ⊢
  obtain ⟨id, props, s⟩ := assigned
  dsimp only at hlive h ⊢
  cases howner : s.owners.get? id with
  | none =>
      rw [howner] at h
      cases h
  | some owner =>
      rw [howner] at h
      dsimp only at h ⊢
      split at h
      · cases h
      · next hother =>
        rw [if_neg hother]
        exact hlive

theorem remove_absent_live {kind : Kind} {id : ServiceId} (h : (r.remove kind id).1 = false) :
    (r.remove kind id).2.live = r.live := by
  unfold remove at h ⊢
  split at h
  · next howner =>
    rw [if_pos howner]
    cases kind with
    | group => cases hfound : r.groups.get? id <;> simp_all [live]
    | handler => cases hfound : r.handlers.get? id <;> simp_all [live]
    | interceptor => cases hfound : r.interceptors.get? id <;> simp_all [live]
  · next howner => rw [if_neg howner]

theorem removeFirst_absent_live {id : ServiceId} {kinds : List Kind}
    (h : (r.removeFirst id kinds).1 = none) : (r.removeFirst id kinds).2.live = r.live := by
  induction kinds generalizing r with
  | nil => rfl
  | cons kind rest ih =>
      unfold removeFirst at h ⊢
      cases hremoved : r.remove kind id with
      | mk found s =>
          rw [hremoved] at h
          cases found with
          | true => cases h
          | false =>
              have hsame : (r.remove kind id).2.live = r.live := remove_absent_live (by rw [hremoved])
              rw [hremoved] at hsame
              exact (ih h).trans hsame

end Registry

section

variable [Route.Routing]

/-- Whether an event was refused because the dispatcher was closed or closing. -/
def Reply.refused : Reply → Bool
  | registered (.error .closed) | removed (.error .closed) => true
  | _ => false

/-! ### Events that find nothing to do -/

namespace Registry

variable {r : Registry} {a : Action} {c : Change}

/-- An event that finds nothing to do changes no live provider. -/
theorem change_idle_live (h : r.change a = some c) (hidle : c.found = false) : c.registry.live = r.live := by
  cases a with
  | upsert kind payload props =>
      obtain rfl := Option.some.inj h
      exact upsert_refused_live hidle
  | removeDeclared kind props =>
      obtain rfl := Option.some.inj h
      cases hid : declaredId? props with
      | none => rfl
      | some id =>
          simp only [hid] at hidle ⊢
          exact remove_absent_live hidle
  | remove id =>
      obtain rfl := Option.some.inj h
      exact removeFirst_absent_live (Option.isNone_iff_eq_none.1 (Option.isSome_eq_false_iff.1 hidle))
  | trigger =>
      obtain rfl := Option.some.inj h
      cases hidle
  | _ => cases h

end Registry

/-! ### What an action leaves before a pass may begin -/

namespace Dispatcher

variable {d : Dispatcher} {a : Action} {c : Change}

/-- The events are the actions that are replied to; a pass is requested where there is something to do. -/
theorem reply_found {reply : Reply} (hopen : d.status = .opened) (hreply : d.reply a = some reply) :
    ∃ c, d.registry.change a = some c ∧ c.found = reply.requests := by
  have hrequests := Requests.file_dirty ⟨d.registry, false, 0⟩ a
  rw [reply_eq hopen] at hreply
  rw [hreply] at hrequests
  cases hchange : d.registry.change a with
  | none => cases a <;> cases hreply <;> cases hchange
  | some c =>
      rw [Requests.file_event hchange] at hrequests
      exact ⟨c, rfl, by simpa using hrequests⟩

/-- Whether an action requests a pass. -/
def asks (d : Dispatcher) (a : Action) : Bool := d.isOpen && (d.reply a).any Reply.requests

/-- Of all actions only events request a pass, where there is something to do. -/
theorem asks_eq (d : Dispatcher) (a : Action) :
    d.asks a = (d.isOpen && ((d.registry.change a).map Change.found).getD false) := by
  unfold asks
  cases hopen : d.isOpen with
  | false => rfl
  | true =>
      have hrequests := Requests.file_dirty ⟨d.registry, false, 0⟩ a
      rw [reply_eq (by simpa [isOpen] using hopen), Bool.true_and, Bool.true_and]
      cases hchange : d.registry.change a with
      | none => simpa [Requests.file_other (q := ⟨d.registry, false, 0⟩) hchange] using hrequests.symm
      | some c => simpa [Requests.file_event (q := ⟨d.registry, false, 0⟩) hchange] using hrequests.symm

theorem asks_event (h : d.registry.change a = some c) : d.asks a = (d.isOpen && c.found) := by
  rw [asks_eq, h]
  rfl

theorem asks_other (h : d.registry.change a = none) : d.asks a = false := by
  rw [asks_eq, h]
  exact Bool.and_false _

/-- A trigger while a closing waits makes no request. -/
theorem trigger_of_closing (h : d.status = .closing) : d.trigger = d := by
  simp [trigger, isOpen, h]

/-- An event that is not refused is made where the dispatcher is open, but for a trigger. -/
theorem opened_of_reply {reply : Reply} (hreply : d.reply a = some reply) (hanswered : reply.refused = false)
    (htrigger : a = .trigger → d.status = .opened) : d.status = .opened := by
  refine Decidable.byContradiction fun hclosed => ?_
  have hopen : d.isOpen = false := by simpa [isOpen] using hclosed
  cases a with
  | upsert kind payload props =>
      obtain rfl := Option.some.inj hreply
      simp [upsert, hopen, Reply.refused] at hanswered
  | removeDeclared kind props =>
      obtain rfl := Option.some.inj hreply
      simp [removeDeclared, hopen, Reply.refused] at hanswered
  | remove id =>
      obtain rfl := Option.some.inj hreply
      simp [remove, hopen, Reply.refused] at hanswered
  | trigger => exact hclosed (htrigger rfl)
  | _ => cases hreply

/-- An event leaves its change of the registry, and a request if there was something to do. -/
theorem primed_event (hopen : d.isOpen = true) (hevent : d.registry.change a = some c) :
    (d.primed a).registry = c.registry ∧ (c.found = true → (d.primed a).dirty = true) := by
  have hheld : ({ d with running := some ⟨[], []⟩ } : Dispatcher).act a =
      ({ d with running := some ⟨[], []⟩ } : Dispatcher).changed c := by
    rw [act_event (d := { d with running := some ⟨[], []⟩ }) hevent]
    exact if_pos hopen
  have hprimed : d.primed a =
      { ({ d with running := some ⟨[], []⟩ } : Dispatcher).changed c with running := d.running } := by
    rw [← hheld]
    cases a with
    | upsert kind payload props => rfl
    | removeDeclared kind props => rfl
    | remove id => rfl
    | trigger => rfl
    | _ => cases hevent
  rw [hprimed, changed_held (d := { d with running := some ⟨[], []⟩ }) (Option.some_ne_none _) hopen]
  exact ⟨rfl, fun hfound => by simp [hfound]⟩

theorem GaveUp.dirty {e : Dispatcher} (h : d.GaveUp e) : e.dirty = d.dirty := by
  obtain ⟨_, _, _, _, rfl⟩ := h
  rfl

/-- While a pass is held, a pass is requested where one was requested before, and by events, unless an action
releases the pass. -/
theorem act_dirty (hheld : d.running ≠ none) (ha : a ≠ .release) :
    (d.act a).dirty = (d.dirty || d.asks a) := by
  have hevent : ∀ c, d.registry.change a = some c → (d.act a).dirty = (d.dirty || d.asks a) := by
    intro c hc
    rw [act_event hc, asks_event hc]
    split
    · next hopen => rw [changed_held hheld hopen, hopen, Bool.true_and]
    · next hopen => simp [hopen]
  have hother : d.registry.change a = none → (d.dirty || d.asks a) = d.dirty := fun hnone => by
    rw [asks_other hnone, Bool.or_false]
  cases a with
  | upsert kind payload props => exact hevent _ rfl
  | removeDeclared kind props => exact hevent _ rfl
  | remove id => exact hevent _ rfl
  | trigger => exact hevent _ rfl
  | endBatch =>
      rw [hother rfl]
      show d.endBatch.dirty = d.dirty
      unfold endBatch
      split
      · rfl
      · rw [drain_of_held (by exact hheld)]
  | close =>
      rw [hother rfl]
      show d.close.2.dirty = d.dirty
      unfold close
      split
      · exact (expireAll_gaveUp _ hheld).dirty
      · next hdone =>
        have hclosed : d.status = .closed := by simpa [Option.isSome_iff_ne_none.2 hheld] using hdone
        rw [closeOnce_of_closed hclosed]
  | closeLater =>
      rw [hother rfl]
      show d.closeLater.dirty = d.dirty
      unfold closeLater
      split
      · rfl
      · next hdone =>
        have hclosed : d.status = .closed := by simpa [Option.isSome_iff_ne_none.2 hheld] using hdone
        rw [closeOnce_of_closed hclosed]
  | expireClose =>
      rw [hother rfl]
      exact (expireClose_gaveUp hheld).dirty
  | release => exact absurd rfl ha
  | openBatch | holdNext | holdNone | tell | supply | interfere => exact (hother rfl).symm

/-- A pass is requested when one may begin if one was requested before, or if the action does. -/
theorem primed_dirty (d : Dispatcher) (a : Action) : (d.primed a).dirty = (d.dirty || d.asks a) := by
  by_cases hrelease : a = .release
  · subst hrelease
    rw [asks_other rfl, Bool.or_false]
    unfold primed
    cases d.running with
    | none => rfl
    | some r => exact congrArg Requests.dirty (d.resume_requests r)
  by_cases hclosing : a = .close ∨ a = .closeLater
  · have hother : (d.dirty || d.asks a) = d.dirty := by
      rcases hclosing with rfl | rfl <;> rw [asks_other rfl, Bool.or_false]
    rw [primed_closing hclosing]
    split
    · exact hother.symm
    · next hcloses =>
      by_cases hidle : d.running = none
      · have hdone := closeOnce_of_closed (closed_of_not_closes hclosing hidle hcloses)
        rw [hother]
        rcases hclosing with rfl | rfl
        · show d.close.2.dirty = d.dirty
          simp [close, hidle, hdone]
        · show d.closeLater.dirty = d.dirty
          simp [closeLater, hidle, hdone]
      · exact act_dirty hidle hrelease
  · have hheld := act_dirty (d := { d with running := some ⟨[], []⟩ }) (by simp) hrelease
    have hsame : ({ d with running := some ⟨[], []⟩ } : Dispatcher).asks a = d.asks a := by
      rw [asks_eq, asks_eq]
      rfl
    rw [hsame] at hheld
    cases a with
    | release => exact absurd rfl hrelease
    | close => exact absurd (.inl rfl) hclosing
    | closeLater => exact absurd (.inr rfl) hclosing
    | _ => exact hheld

/-- Before a pass may begin, an action registers and removes providers at most. -/
theorem primed_changes (hready : d.ready = false) (a : Action) :
    d.registry.Changes (d.primed a).registry := by
  by_cases hown : a.own = true
  · by_cases hrelease : a = .release → d.running = none
    · exact (primed_follows hready hown hrelease).changes
    · obtain ⟨rfl, hheld⟩ := Classical.not_imp.1 hrelease
      obtain ⟨r, hr⟩ := Option.ne_none_iff_exists'.1 hheld
      rw [primed, hr]
      exact d.resume_registry r ▸ .refl
  · cases a with
    | interfere mounted => exact .refl
    | _ => exact absurd rfl hown

/-- A dispatcher that takes events, with no pass held and no batch open. -/
structure Rested (d : Dispatcher) : Prop where
  opened : d.status = .opened
  running : d.running = none
  batches : d.batches = 0

instance (d : Dispatcher) : Decidable d.Rested :=
  decidable_of_iff (d.status = .opened ∧ d.running = none ∧ d.batches = 0)
    ⟨fun ⟨hopen, hidle, hnone⟩ => ⟨hopen, hidle, hnone⟩, fun h => ⟨h.opened, h.running, h.batches⟩⟩

/-- At rest nothing is pending. -/
theorem Rested.dirty (h : d.Rested) (hquiet : d.Quiet) : d.dirty = false := by
  simpa [ready, h.running, isOpen, h.opened, h.batches] using hquiet.ready

end Dispatcher

namespace Chronicle

variable {c : Chronicle} {a : Action}

/-! ### Which passes are over -/

/-- All passes but the last one are over, and the last one is held where the dispatcher holds one. -/
structure Ordered (c : Chronicle) : Prop where
  head : ∀ p ∈ c.passes.head?, p.standing.running = c.state.running
  tail : ∀ p ∈ c.passes.tail, p.standing.running = none

theorem Ordered.over (h : c.Ordered) (hidle : c.state.running = none) {p : Pass} (hp : p ∈ c.passes) :
    p.standing.running = none := by
  cases hpasses : c.passes with
  | nil => simp [hpasses] at hp
  | cons q rest =>
      have hhead := h.head q (by rw [hpasses]; rfl)
      have htail := h.tail
      rw [hpasses] at hp htail
      rcases List.mem_cons.1 hp with rfl | hrest
      · exact hhead.trans hidle
      · exact htail p hrest

theorem Ordered.primed (h : c.Ordered) (hheld : c.state.running ≠ none → c.passes ≠ [])
    (hquiet : c.state.Quiet) : (c.primed a).Ordered := by
  unfold Chronicle.primed
  rcases continued_cases hheld a with ⟨r, p, rest, rfl, hr, hpasses, hcontinued, hprimed⟩ | ⟨ha, hsame⟩
  · have htail := h.tail
    rw [hpasses] at htail
    rw [hcontinued, hprimed]
    refine ⟨fun q hq => ?_, htail⟩
    obtain rfl := Option.some.inj hq
    rfl
  · rw [hsame]
    refine ⟨fun q hq => ?_, h.tail⟩
    rw [Dispatcher.primed_running hquiet.ready ha]
    exact h.head q hq

theorem Ordered.begun (h : c.Ordered) : c.begun.Ordered := by
  cases hready : c.state.ready with
  | false => rwa [begun_of_not_ready hready]
  | true =>
      rw [begun_of_ready hready]
      refine ⟨fun q hq => ?_, fun q hq => h.over (Dispatcher.running_of_ready hready) hq⟩
      obtain rfl := Option.some.inj hq
      rw [Pass.beginning_standing]

theorem Ordered.act (h : c.Ordered) (hheld : c.state.running ≠ none → c.passes ≠ [])
    (hquiet : c.state.Quiet) : (c.act a).Ordered := by
  by_cases hclosed : c.state.status = .closed
  · rw [act_of_closed hquiet hclosed]
    refine ⟨fun p hp => ?_, h.tail⟩
    have hafter := hquiet.act.closed (Dispatcher.act_closed hclosed a)
    exact (h.head p hp).trans ((hquiet.closed hclosed).trans hafter.symm)
  · have hbegun := (h.primed (a := a) hheld hquiet).begun
    by_cases hcloses : c.state.closes a
    · -- It is closed behind the pass, which is over then.
      have hdone := Dispatcher.act_closes hquiet.ready hcloses
      refine ⟨fun p hp => ?_, hbegun.tail⟩
      exact (hbegun.head p hp).trans (hdone.idle.trans hdone.running.symm)
    · rwa [act_of_not_closes hquiet hcloses]

/-! ### Requests are heeded -/

/-- A request that left a registry is pending, or a pass after the first ones has read what it left. -/
inductive Heeds (n : Nat) (asked : Registry) (c : Chronicle) : Prop where
  | pending (later : n ≤ c.passes.length) (dirty : c.state.dirty = true)
    (changes : asked.Changes c.state.registry)
  | heeded (newer older : List Dispatcher) (opening : Dispatcher)
    (openings : c.passes.map Pass.opening = newer ++ opening :: older) (later : n ≤ older.length)
    (changes : asked.Changes opening.registry)

variable {n : Nat} {asked : Registry}

/-- The pass that goes on began where it began. -/
theorem continued_openings (c : Chronicle) (a : Action) :
    (c.continued a).map Pass.opening = c.passes.map Pass.opening := by
  unfold continued
  split
  · next hpasses => rw [hpasses]; rfl
  · rfl

theorem continued_length (c : Chronicle) (a : Action) : (c.continued a).length = c.passes.length := by
  simpa using congrArg List.length (c.continued_openings a)

theorem Heeds.primed (h : c.Heeds n asked) (hready : c.state.ready = false) (a : Action) :
    (c.primed a).Heeds n asked := by
  cases h with
  | pending later dirty changes =>
      have hstill : (c.state.primed a).dirty = true := by rw [Dispatcher.primed_dirty, dirty, Bool.true_or]
      refine .pending ?_ hstill (changes.trans (Dispatcher.primed_changes hready a))
      exact later.trans_eq (c.continued_length a).symm
  | heeded newer older opening openings later changes =>
      exact .heeded newer older opening ((c.continued_openings a).trans openings) later changes

/-- The pass that begins reads what is pending. -/
theorem Heeds.begun (h : c.Heeds n asked) : c.begun.Heeds n asked := by
  cases hready : c.state.ready with
  | false => rwa [begun_of_not_ready hready]
  | true =>
      have hbegun : (Pass.beginning c.state :: c.passes).map Pass.opening =
          c.state :: c.passes.map Pass.opening := by
        rw [List.map_cons, Pass.beginning_opening]
      rw [begun_of_ready hready]
      cases h with
      | pending later dirty changes =>
          exact .heeded [] (c.passes.map Pass.opening) c.state hbegun (by simpa using later) changes
      | heeded newer older opening openings later changes =>
          refine .heeded (c.state :: newer) older opening ?_ later changes
          rw [List.cons_append, ← openings]
          exact hbegun

/-- No action loses a request, unless it closes the dispatcher. -/
theorem Heeds.act (h : c.Heeds n asked) (hquiet : c.state.Quiet)
    (hopen : (c.state.act a).status ≠ .closed) : (c.act a).Heeds n asked := by
  rw [act_of_not_closes hquiet fun hcloses => hopen hcloses.2]
  exact (h.primed hquiet.ready a).begun

/-- A dispatcher that is closed on the way is closed in the end. -/
theorem foldl_closed (h : c.state.status = .closed) (actions : List Action) :
    (actions.foldl Chronicle.act c).state.status = .closed :=
  List.foldlRecOn actions Chronicle.act (motive := fun c => c.state.status = .closed) h
    fun _ hc a _ => Dispatcher.act_closed hc a

theorem Heeds.run (h : c.Heeds n asked) (hquiet : c.state.Quiet) {actions : List Action}
    (hopen : (actions.foldl Chronicle.act c).state.status ≠ .closed) :
    (actions.foldl Chronicle.act c).Heeds n asked := by
  induction actions generalizing c with
  | nil => exact h
  | cons a rest ih =>
      have hstill : (c.state.act a).status ≠ .closed := fun hclosed =>
        hopen (foldl_closed (c := c.act a) hclosed rest)
      exact ih (h.act hquiet hstill) hquiet.act hopen

/-- An event that has something to do makes a request. -/
theorem heeds_event {e : Change} (hquiet : c.state.Quiet) (hopen : c.state.status = .opened)
    (hevent : c.state.registry.change a = some e) (hfound : e.found = true)
    (hafter : (c.state.act a).status ≠ .closed) : (c.act a).Heeds c.passes.length e.registry := by
  obtain ⟨hregistry, hdirty⟩ := Dispatcher.primed_event (Dispatcher.isOpen_of_opened hopen) hevent
  rw [act_of_not_closes hquiet fun hcloses => hafter hcloses.2]
  refine Heeds.begun (.pending (c.continued_length a).ge (hdirty hfound) ?_)
  exact hregistry ▸ .refl

end Chronicle

namespace History

variable {settings : Settings} {content : Payload} (h : History settings content)

theorem chronicle_ordered : h.chronicle.state.Quiet ∧ h.chronicle.Ordered := by
  have hkept : (h.chronicle.state.Quiet ∧ h.chronicle.Reached True h.start) ∧ h.chronicle.Ordered := by
    apply h.chronicle_of_act (P := fun c => (c.state.Quiet ∧ c.Reached True h.start) ∧ c.Ordered)
    · exact ⟨h.start_reached True, by simp, by simp⟩
    · rintro c ⟨⟨hquiet, hreached⟩, hordered⟩ a -
      exact ⟨⟨hquiet.act, hreached.act hquiet (.inr trivial)⟩, hordered.act hreached.held hquiet⟩
  exact ⟨hkept.1.1, hkept.2⟩

/-- An event is heeded: behind it a pass has begun, and has ended, that read the registry as the event left
it, but for what was registered and removed in between. -/
def Heeds (a : Action) (rest : List Action) : Prop :=
  ∀ c, h.final.state.registry.change a = some c →
    ∃ p ∈ (h.extend (a :: rest)).passes.drop h.passes.length,
      p.standing.running = none ∧ c.registry.Changes p.opening.registry

/-- An event that had something to do is heeded where the dispatcher comes to rest. -/
theorem heeds_of_found {a : Action} {rest : List Action} {c : Change} (hopen : h.final.state.status = .opened)
    (hevent : h.final.state.registry.change a = some c) (hfound : c.found = true)
    (hrested : (h.extend (a :: rest)).final.state.Rested) : h.Heeds a rest := by
  obtain ⟨hquiet, -⟩ := h.chronicle_ordered
  obtain ⟨hendQuiet, hordered⟩ := (h.extend (a :: rest)).chronicle_ordered
  rw [← chronicle_state] at hopen hevent hrested
  have hchronicle : (h.extend (a :: rest)).chronicle = rest.foldl Chronicle.act (h.chronicle.act a) :=
    List.foldl_append
  have hnotClosed : (rest.foldl Chronicle.act (h.chronicle.act a)).state.status ≠ .closed := by
    rw [← hchronicle, hrested.opened]
    exact Status.noConfusion
  have hfirst := Chronicle.heeds_event hquiet hopen hevent hfound
    fun hclosed => hnotClosed (Chronicle.foldl_closed hclosed rest)
  have hheeds := hfirst.run hquiet.act hnotClosed
  rw [← hchronicle] at hheeds
  intro e he
  obtain rfl : c = e := by
    rw [← chronicle_state, hevent] at he
    exact Option.some.inj he
  cases hheeds with
  | pending later dirty changes =>
      rw [hrested.dirty hendQuiet] at dirty
      cases dirty
  | heeded newer older opening openings later changes =>
      obtain ⟨front, back, hpasses, -, hback⟩ := List.map_eq_append_iff.1 openings
      obtain ⟨p, earlier, rfl, rfl, hearlier⟩ := List.map_eq_cons_iff.1 hback
      have hlater : h.passes.length ≤ earlier.reverse.length := by
        rw [← hearlier, List.length_map] at later
        simpa [passes] using later
      have hsplit : (h.extend (a :: rest)).passes = earlier.reverse ++ p :: front.reverse := by
        simp [passes, hpasses]
      refine ⟨p, ?_, hordered.over hrested.running (by simp [hpasses]), changes⟩
      rw [hsplit, List.drop_append_of_le_length hlater]
      simp

/-- A dispatcher that is open in the end, with no pass held and no batch open, has heeded every event that was
not refused and had something to do, unless it was a trigger while a closing waited.  Such a trigger makes no
difference to anything that follows.  An event that had nothing to do has changed no live provider. -/
theorem requests_heeded (a : Action) (rest : List Action) (reply : Reply)
    (hreply : h.final.state.reply a = some reply) (hanswered : reply.refused = false)
    (hrested : (h.extend (a :: rest)).final.state.Rested) :
    (a = .trigger ∧ h.final.state.status = .closing →
      (h.extend (a :: rest)).final.state = (h.extend rest).final.state) ∧
    (¬(a = .trigger ∧ h.final.state.status = .closing) →
      (reply.requests = true → h.Heeds a rest) ∧
      (reply.requests = false →
        (h.extend [a]).final.state.registry.live = h.final.state.registry.live)) := by
  refine ⟨?_, fun hmade => ?_⟩
  · rintro ⟨rfl, hclosing⟩
    rw [extend_state, extend_state, List.foldl_cons]
    exact congrArg (rest.foldl Dispatcher.act) (Dispatcher.trigger_of_closing hclosing)
  have hopen : h.final.state.status = .opened := by
    refine Dispatcher.opened_of_reply hreply hanswered fun ha => ?_
    cases hstatus : h.final.state.status with
    | opened => rfl
    | closing => exact absurd ⟨ha, hstatus⟩ hmade
    | closed =>
        have hend : (h.extend (a :: rest)).final.state.status = .closed := by
          have hall : (h.extend (a :: rest)).final = (a :: rest).foldl Tracked.act h.final :=
            List.foldl_append
          rw [hall]
          exact Tracked.foldl_closed hstatus (a :: rest)
        rw [hrested.opened] at hend
        cases hend
  obtain ⟨c, hevent, hfound⟩ := Dispatcher.reply_found hopen hreply
  refine ⟨fun hrequests => ?_, fun hidle => ?_⟩
  · exact h.heeds_of_found hopen hevent (hfound.trans hrequests) hrested
  · rw [extend_state]
    show (h.final.state.act a).registry.live = _
    rw [Dispatcher.act_event hevent, if_pos (Dispatcher.isOpen_of_opened hopen), Dispatcher.changed,
      if_neg (by simp [hfound, hidle])]
    exact Registry.change_idle_live hevent (hfound.trans hidle)

end History

end

namespace History

/-- A pass is held, and a closing waits for it. -/
def contendedClosing : History {} (.shared 0 .plain) := contended.extend [contendedEvent, .closeLater]

/-- Once the closing has given up, a trigger is heeded. -/
theorem contended_requests_heeded :
    (contendedClosing.extend [.expireClose]).final.state.reply .trigger = some .triggered ∧
    ((contendedClosing.extend [.expireClose]).extend [.trigger, .release]).final.state.Rested ∧
    (contendedClosing.extend [.expireClose]).Heeds .trigger [.release] := by
  obtain ⟨hreply, hstatus, hrested⟩ :
      (contendedClosing.extend [.expireClose]).final.state.reply .trigger = some .triggered ∧
      (contendedClosing.extend [.expireClose]).final.state.status ≠ .closing ∧
      ((contendedClosing.extend [.expireClose]).extend [.trigger, .release]).final.state.Rested := by
    decide +kernel
  have hheeded := requests_heeded (contendedClosing.extend [.expireClose]) .trigger [.release] .triggered
    hreply rfl hrested
  exact ⟨hreply, hrested, (hheeded.2 fun h => hstatus h.2).1 rfl⟩

/-- While the closing waits, a trigger is lost: the dispatcher comes to rest, and no pass has begun behind it
that could have heeded it. -/
theorem contended_trigger_unheeded :
    contendedClosing.final.state.status = .closing ∧
    contendedClosing.final.state.reply .trigger = some .triggered ∧
    (contendedClosing.extend [.trigger, .expireClose, .release]).final.state.Rested ∧
    ¬contendedClosing.Heeds .trigger [.expireClose, .release] := by
  obtain ⟨hstatus, hrested, hpasses⟩ : contendedClosing.final.state.status = .closing ∧
      (contendedClosing.extend [.trigger, .expireClose, .release]).final.state.Rested ∧
      (contendedClosing.extend [.trigger, .expireClose, .release]).passes.length ≤
        contendedClosing.passes.length := by decide +kernel
  refine ⟨hstatus, rfl, hrested, fun hheeds => ?_⟩
  obtain ⟨p, hp, -, -⟩ := hheeds _ rfl
  rw [List.drop_of_length_le hpasses] at hp
  cases hp

end History

end RouteBinding
