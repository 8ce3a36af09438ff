import RouteBinding.Proofs.Run.Coalesce
import RouteBinding.Proofs.Run.Justified

/-!
# What closing leaves on the host

Closing forgets every group before it asks the host to unregister it (`Site.abandon`), and does not look at
what the call comes to.  A call fails for a group that the host was told to refuse or for which it follows a
script (`Host.Recording.fails`), and then the host goes on serving the group.  So a closed dispatcher knows of
no group, while the host serves exactly the groups that were registered and for which calls fail
(`Site.abandon_serves`, `History.closing_forgets`).
-/

namespace RouteBinding

open Host Property

section

variable [Route.Routing]

namespace Host.Recording

/-- Whether the calls for groups of a name fail, whatever they ask for. -/
def fails (h : Recording) (name : String) : Bool := h.scripts.contains name || h.refused.contains name

variable {h : Recording} {op : Operation} {g : Group}

theorem outcome_of_fails (hfails : h.fails g.name = true) : ∃ e, h.outcome op g = .error e := by
  unfold fails Table.contains at hfails
  unfold outcome
  cases hscript : h.scripts.get? g.name with
  | some script => exact ⟨_, rfl⟩
  | none =>
      have hrefused : h.refused.contains g.name = true := by simpa [hscript] using hfails
      exact ⟨_, if_pos hrefused⟩

/-- Other calls come to what the host inside makes of them. -/
theorem outcome_of_not_fails (hfails : h.fails g.name = false) : h.outcome op g = h.inner op g := by
  obtain ⟨hscript, hrefused⟩ := Bool.or_eq_false_iff.1 hfails
  have hnone : h.scripts.get? g.name = none := Option.not_isSome_iff_eq_none.1 (Bool.eq_false_iff.1 hscript)
  unfold outcome
  rw [hnone]
  exact if_neg (Bool.eq_false_iff.1 hrefused)

end Host.Recording

namespace Site

variable {s : Site} {g : Group} {id : ServiceId}

/-- Whether the calls for a group fail is not changed by a call. -/
theorem perform_fails (s : Site) (op : Operation) (g : Group) :
    (s.perform op g).2.host.fails = s.host.fails := by
  unfold perform Recording.perform
  cases s.host.outcome op g <;> rfl

theorem perform_memory (s : Site) (op : Operation) (g : Group) : (s.perform op g).2.host.memory =
    (s.host.outcome op g).toOption.getD s.host.memory := by
  unfold perform Recording.perform
  cases s.host.outcome op g <;> rfl

/-- A host goes on serving a group that it is asked to unregister exactly if calls for the group fail. -/
theorem perform_unregister (s : Site) (g : Group) (id : ServiceId) :
    (s.perform .unregister g).2.host.memory.serves id =
      (s.host.memory.serves id && (id != g.id || s.host.fails g.name)) := by
  by_cases hid : id = g.id
  · subst hid
    rw [perform_memory]
    cases hfails : s.host.fails g.name with
    | true =>
        obtain ⟨e, he⟩ : ∃ e, s.host.outcome .unregister g = .error e := Recording.outcome_of_fails hfails
        rw [he]
        simp [Except.toOption]
    | false =>
        rw [Recording.outcome_of_not_fails hfails, Recording.inner, Memory.unregister]
        by_cases hserves : s.host.memory.serves g.id = true
        · rw [if_pos hserves]
          simp [Except.toOption, Memory.serves, Table.contains, Table.get?_erase]
        · rw [if_neg hserves]
          simp [Except.toOption, hserves]
  · have hother : (id != g.id) = true := by simpa using hid
    rw [perform_unregister_serves s hid, hother, Bool.true_or, Bool.and_true]

/-- Asking the host to unregister some groups leaves those for which calls fail. -/
theorem foldl_unregister_serves (s : Site) (groups : List Group) (id : ServiceId) :
    (groups.foldl (fun s g => ((s.announce .unregister g).perform .unregister g).2) s).host.memory.serves id =
      (s.host.memory.serves id && groups.all fun g => id != g.id || s.host.fails g.name) := by
  induction groups generalizing s with
  | nil => simp
  | cons g rest ih =>
      have hfails : ((s.announce .unregister g).perform .unregister g).2.host.fails = s.host.fails :=
        perform_fails ..
      have hserves := perform_unregister (s.announce .unregister g) g id
      rw [List.foldl_cons, ih, hfails, hserves, List.all_cons, ← Bool.and_assoc]
      rfl

theorem abandon_registered (s : Site) : s.abandon.registered = ∅ := by
  unfold abandon
  generalize s.registered.values = groups
  have hkept : ∀ t : Site, (groups.foldl
      (fun s g => ((s.announce .unregister g).perform .unregister g).2) t).registered = t.registered := by
    induction groups with
    | nil => exact fun t => rfl
    | cons g rest ih => exact fun t => (ih _).trans (perform_registered ..)
  exact hkept _

/-- Where host and dispatcher are in step, abandoning all groups leaves those for which calls fail. -/
theorem abandon_serves (hs : s.InStep) : s.abandon.host.memory.serves id = true ↔
    ∃ g, s.registered.get? id = some g ∧ s.host.fails g.name = true := by
  unfold abandon
  rw [foldl_unregister_serves, Bool.and_eq_true, List.all_eq_true]
  constructor
  · rintro ⟨hserves, hall⟩
    cases hknown : s.registered.get? id with
    | none =>
        have hgone := hs.serves_unknown hknown
        have hserves : s.host.memory.serves id = true := hserves
        rw [hgone] at hserves
        cases hserves
    | some g =>
        have hfails := hall g (Table.mem_values.2 ⟨id, hknown⟩)
        rw [(hs.known id g hknown).1] at hfails
        exact ⟨g, rfl, by simpa using hfails⟩
  · rintro ⟨g, hknown, hfails⟩
    refine ⟨hs.serves_known hknown, fun g' hg' => ?_⟩
    obtain ⟨id', hknown'⟩ := Table.mem_values.1 hg'
    by_cases hid : id = g'.id
    · -- Only one group is registered under the identity.
      obtain rfl : id' = id := by rw [hid, (hs.known id' g' hknown').1]
      obtain rfl := Option.some.inj (hknown'.symm.trans hknown)
      exact Bool.or_eq_true_iff.2 (.inr hfails)
    · simp [hid]

end Site

namespace Dispatcher

variable {d : Dispatcher} {a : Action}

/-- Only those who use a dispatcher close it. -/
theorem own_of_closes (h : d.closes a) : a.own = true := by
  cases a with
  | interfere mounted => exact absurd h.2 h.1
  | _ => rfl

/-- Closing a dispatcher that is not closed succeeds exactly if it closes it. -/
theorem close_ok_iff (hopen : d.status ≠ .closed) : d.close.1 = .ok () ↔ d.closes .close := by
  have hact : d.act .close = d.close.2 := rfl
  rw [closes, hact, close]
  by_cases hwaits : (d.running.isSome && d.status != .closed) = true
  · rw [if_pos hwaits]
    refine ⟨fun hok => ?_, fun h => absurd h.2 (expireAll_not_closed _ hopen)⟩
    cases hok
  · rw [if_neg hwaits]
    exact ⟨fun _ => ⟨hopen, closeOnce_status d⟩, fun _ => rfl⟩

/-- Nothing that counts changes behind the closing of a dispatcher. -/
theorem foldl_follows_of_closed (hquiet : d.Quiet) (hclosed : d.status = .closed) {actions : List Action}
    (hown : ∀ a ∈ actions, a.own = true) : d.Follows (actions.foldl act d) := by
  induction actions generalizing d with
  | nil => exact .refl d
  | cons a rest ih =>
      obtain ⟨ha, hrest⟩ := List.forall_mem_cons.1 hown
      have hfirst : d.Follows (d.act a) := by
        rw [hquiet.act_of_closed hclosed]
        exact primed_follows hquiet.ready ha fun _ => hquiet.closed hclosed
      exact hfirst.trans (ih hquiet.act (act_closed hclosed a) hrest)

/-- Every group that the host serves is recorded as registered and published as active. -/
def KeepsServed (d : Dispatcher) : Prop := ∀ id, d.site.host.memory.serves id = true →
  (d.site.registered.get? id).isSome = true ∧ id ∈ d.active.map ActiveGroup.id

/-- What the closing of a dispatcher leaves: nothing is known of the groups that the host goes on serving. -/
structure Forgets (d e : Dispatcher) : Prop where
  registered : e.site.registered = ∅
  active : e.active = []
  /-- The host still serves the groups that were registered and for which calls fail. -/
  serves : ∀ id, e.site.host.memory.serves id = true ↔
    ∃ g, d.site.registered.get? id = some g ∧ d.site.host.fails g.name = true
  /-- So what is served is recorded only where there is no such group. -/
  keeps : e.KeepsServed ↔ ∀ g ∈ d.site.registered.values, d.site.host.fails g.name = false

theorem forgets_of_serves {e : Dispatcher} (hregistered : e.site.registered = ∅) (hactive : e.active = [])
    (hserves : ∀ id, e.site.host.memory.serves id = true ↔
      ∃ g, d.site.registered.get? id = some g ∧ d.site.host.fails g.name = true) : d.Forgets e := by
  refine ⟨hregistered, hactive, hserves, fun hkeeps g hg => ?_, fun hnone id hid => ?_⟩
  · obtain ⟨id, hknown⟩ := Table.mem_values.1 hg
    refine Bool.eq_false_iff.2 fun hfails => ?_
    have hlost := (hkeeps id ((hserves id).2 ⟨g, hknown, hfails⟩)).2
    rw [hactive] at hlost
    cases hlost
  · obtain ⟨g, hknown, hfails⟩ := (hserves id).1 hid
    rw [hnone g (Table.mem_values.2 ⟨id, hknown⟩)] at hfails
    cases hfails

/-- Closing forgets all groups, those included that the host goes on serving. -/
theorem closeNow_forgets (hs : d.site.InStep) : d.Forgets d.closeNow :=
  forgets_of_serves (Site.abandon_registered _) rfl fun _ =>
    Site.abandon_serves (s := { d.site with report := {} }) (hs.still rfl rfl)

/-- So it stays. -/
theorem Forgets.follows {e f : Dispatcher} (h : d.Forgets e) (hfollows : e.Follows f) : d.Forgets f := by
  refine forgets_of_serves (hfollows.rests.registered.trans h.registered)
    (hfollows.aside.active.trans h.active) fun id => ?_
  rw [← h.serves id, Host.Memory.serves, hfollows.rests.mounted]
  rfl

end Dispatcher

namespace History

variable {settings : Settings} {content : Payload} (h : History settings content) {a : Action}

/-- The dispatcher as a closing finds it when it has its turn. -/
def parting (a : Action) : Dispatcher := (h.final.state.primed a).drain

/-- It is in step with the host. -/
theorem parting_inStep (hdriven : h.Driven) (hcloses : h.final.state.closes a) :
    (h.parting a).site.InStep := by
  have hready := h.final_quiet.1.ready
  have hown := Dispatcher.own_of_closes hcloses
  have hfinal : Moves False h.start h.final := Tracked.foldl_moves _ _ hcloses.1 (.inl hdriven.2)
  have hprimed := hfinal.trans (Dispatcher.primed_moves hready (.inl hown) h.final.last)
  exact h.inStep_of_moves hdriven (hprimed.trans (Tracked.drain_moves _ _))

/-- Where it need not wait, it finds the dispatcher as it is. -/
theorem parting_close (hcloses : h.final.state.closes .close) : h.parting .close = h.final.state := by
  have hprimed : h.final.state.primed .close = h.final.state := if_pos hcloses
  rw [parting, hprimed, Dispatcher.drain_of_not_ready h.final_quiet.1.ready]

/-- Where the host is left to the dispatcher, closing takes from the host the groups for which calls do not
fail, and forgets the others, whatever happens afterwards.  The dispatcher is closed at once where closing
succeeds at once, and else when the closing that waits has its turn. -/
theorem closing_forgets (hdriven : h.Driven) :
    (h.final.state.status ≠ .closed → h.final.state.close.1 = .ok () →
      h.final.state.closes .close ∧ h.parting .close = h.final.state) ∧
    ∀ a, h.final.state.closes a → ∀ rest : List Action, (∀ b ∈ rest, b.own = true) →
      (h.parting a).Forgets (h.extend (a :: rest)).final.state := by
  refine ⟨fun hopen hok => ?_, fun a hcloses rest hown => ?_⟩
  · have hcloses := (Dispatcher.close_ok_iff hopen).1 hok
    exact ⟨hcloses, h.parting_close hcloses⟩
  · have hquiet := h.final_quiet.1
    obtain ⟨-, waiting, closings, hact⟩ := Dispatcher.act_closeNow hquiet.ready hcloses
    have hforgets := Dispatcher.closeNow_forgets (h.parting_inStep hdriven hcloses)
    -- How the closings have ended makes no difference.
    have hthen : (h.parting a).Forgets (h.final.state.act a) := by
      rw [hact]
      exact ⟨hforgets.registered, hforgets.active, hforgets.serves, hforgets.keeps⟩
    rw [extend_state]
    exact hthen.follows (Dispatcher.foldl_follows_of_closed hquiet.act hcloses.2 hown)

end History

end

namespace History

/-- Two groups are registered, and the host is told to refuse the calls for one of them. -/
def stubborn : History {} (.shared 0 .plain) where
  host := {}
  pool := {}
  actions := [.upsert .group (.shared 1 .plain) (sampleProps Key.routeGroup 3 "api" [(Key.path, .text "/a")]),
    .upsert .group (.shared 2 .plain) (sampleProps Key.routeGroup 4 "web" [(Key.path, .text "/b")]),
    .tell (.refuse "api")]

/-- When it is closed, the host goes on serving this group. -/
theorem stubborn_closing_forgets : stubborn.Driven ∧ stubborn.final.state.close.1 = .ok () ∧
    stubborn.final.state.site.registered.keys = [0, 3, 4] ∧
      stubborn.final.state.Forgets (stubborn.extend [.close]).final.state ∧
      (stubborn.extend [.close]).final.state.site.host.memory.groups.map Group.name = ["api"] := by
  have hdriven : stubborn.Driven := ⟨rfl, by decide +kernel⟩
  obtain ⟨hopen, hok, hkeys, hleft⟩ : stubborn.final.state.status ≠ .closed ∧
      stubborn.final.state.close.1 = .ok () ∧ stubborn.final.state.site.registered.keys = [0, 3, 4] ∧
      (stubborn.extend [.close]).final.state.site.host.memory.groups.map Group.name = ["api"] := by
    decide +kernel
  obtain ⟨hdone, hforgets⟩ := closing_forgets stubborn hdriven
  obtain ⟨hcloses, hparting⟩ := hdone hopen hok
  have hthen := hforgets .close hcloses [] (List.forall_mem_nil _)
  rw [hparting] at hthen
  exact ⟨hdriven, hok, hkeys, hthen, hleft⟩

/-- So a group that is still served when closing has succeeded need not be recorded. -/
theorem stubborn_not_keepsServed : ¬(stubborn.Driven → stubborn.final.state.status = .opened →
    stubborn.final.state.close.1 = .ok () → (stubborn.extend [.close]).final.state.KeepsServed) := by
  intro hkeeps
  obtain ⟨hopen, hok, hserves, hactive⟩ : stubborn.final.state.status = .opened ∧
      stubborn.final.state.close.1 = .ok () ∧
      (stubborn.extend [.close]).final.state.site.host.memory.serves 3 = true ∧
      (stubborn.extend [.close]).final.state.active = [] := by
    decide +kernel
  have hlost := (hkeeps ⟨rfl, by decide +kernel⟩ hopen hok 3 hserves).2
  rw [hactive] at hlost
  cases hlost

end History

end RouteBinding
