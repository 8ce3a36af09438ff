import RouteBinding.Proofs.Run.Justified
import RouteBinding.Proofs.Site.Tally

/-!
# The report of a pass balances

A pass keeps three books: the calls that the host records, the counters of its report, and the groups that are
recorded as registered, which it publishes as active when it is over.  The report counts exactly the calls that the
host has recorded since the pass began (`Pass.Booked`).  Since a pass registers only what is not recorded, and
reloads and unregisters only what is, the number of active groups changes by what was registered less what was
unregistered (`Pass.Balances`).  This holds of every pass, whatever calls fail (`History.reports_balance`).
-/

namespace RouteBinding

open Host Property

section

variable [Route.Routing]

namespace Dispatcher

variable {d : Dispatcher} {l : List Ask}

/-! ### The report of a pass counts its calls -/

theorem goOn_tallies (h : d.lastReport.Tallies l) (r : Running) :
    (d.goOn r).lastReport.Tallies (l ++ d.site.advanceAsks r.left) := by
  have hadvanced := Site.advance_tallies h r.left
  unfold goOn
  dsimp only
  split
  · exact hadvanced.withFailures _
  · exact hadvanced

/-- A pass begins to count anew. -/
theorem cleared_tallies (d : Dispatcher) (r : Reading) : (d.cleared r).report.Tallies (d.clearAsks r) := by
  have hremoved : (d.surveyed r).report.Tallies (d.started.unregisterAsks d.removedIds) :=
    Site.unregisterEach_tallies (s := d.started) .nil d.removedIds
  exact Site.unregisterEach_tallies hremoved (d.staleIds r)

theorem startPass_tallies (d : Dispatcher) : d.startPass.lastReport.Tallies d.startAsks := by
  have hdecided : d.decided.lastReport.Tallies (d.clearAsks d.reading) := by
    rw [lastReport, decided_site]
    exact d.cleared_tallies d.reading
  rw [startPass_eq]
  exact goOn_tallies hdecided ⟨d.reading.plan, d.reading.failures⟩

/-- A pass that was held goes on counting, first the call that has waited. -/
theorem resume_tallies (h : d.lastReport.Tallies l) (r : Running) :
    (d.resume r).lastReport.Tallies (l ++ d.resumeAsks r) := by
  unfold resumeAsks
  cases hleft : r.left with
  | nil =>
      rw [resume_nil hleft, List.append_nil]
      exact h.withFailures _
  | cons g rest =>
      have hsettled : (d.unheld g).lastReport.Tallies (l ++ [⟨d.site, .register, g.told⟩]) :=
        Site.settle_tallies h .register g
      have hgone := goOn_tallies hsettled ⟨rest, r.failures⟩
      rw [List.append_assoc] at hgone
      rw [resume_cons hleft]
      exact hgone

/-! ### The report of a pass counts its failures -/

/-- Unless a pass is held, the failures that the report counts are those that were published last. -/
def Declared (d : Dispatcher) : Prop := d.running = none →
  d.lastReport.failures = d.failures.toList.length ∧ d.published.getLast? = some d.failures

theorem finishPass_declared (d : Dispatcher) (failures : List FailedProvider) :
    (d.finishPass failures).Declared :=
  fun _ => ⟨rfl, List.getLast?_concat⟩

theorem goOn_declared (d : Dispatcher) (r : Running) : (d.goOn r).Declared := by
  unfold goOn
  dsimp only
  split
  · exact finishPass_declared _ _
  · exact fun hidle => nomatch hidle

theorem resume_declared (d : Dispatcher) (r : Running) : (d.resume r).Declared := by
  cases hleft : r.left with
  | nil =>
      rw [resume_nil hleft]
      exact finishPass_declared _ _
  | cons g rest =>
      rw [resume_cons hleft]
      exact goOn_declared _ _

end Dispatcher

namespace Pass

/-- What a pass has entered in its books, as far as it has come. -/
structure Booked (p : Pass) : Prop where
  /-- The host has recorded the calls of the pass, and the one that waits if the pass is held. -/
  recorded : p.standing.site.host.calls =
    p.opening.site.host.calls ++ p.asked.map Ask.call ++ Site.waitingCalls p.standing.left
  /-- The report counts them by what they have come to. -/
  counted : p.standing.lastReport.Tallies p.asked
  declared : p.standing.Declared

/-- The books of a pass balance. -/
structure Balances (p : Pass) : Prop where
  /-- The host has recorded as many calls since the pass began as the report counts in all. -/
  calls : p.standing.site.host.calls.length = p.opening.site.host.calls.length +
    (p.standing.lastReport.registered + p.standing.lastReport.reloaded + p.standing.lastReport.unregistered +
      p.standing.lastReport.failedCalls)
  /-- There are as many active groups as before, with what was registered and without what was unregistered. -/
  active : p.standing.active.length + p.standing.lastReport.unregistered =
    p.opening.active.length + p.standing.lastReport.registered
  /-- The report counts the failures of the snapshot that was published. -/
  failures : p.standing.lastReport.failures = p.standing.failures.toList.length
  published : p.standing.published.getLast? = some p.standing.failures

variable {p : Pass} {d : Dispatcher} {r : Running}

theorem beginning_booked (d : Dispatcher) : (beginning d).Booked := by
  refine ⟨?_, ?_, ?_⟩
  · rw [beginning_opening, beginning_standing]
    exact d.startPass_log
  · rw [beginning_standing]
    exact d.startPass_tallies
  · rw [beginning_standing]
    exact d.decided.goOn_declared _

/-- Nothing is entered while a pass is held. -/
theorem Booked.resumed (h : p.Booked) (hfollows : p.standing.Follows d) (hheld : d.running = some r) :
    (p.resumed d r).Booked := by
  have hrecorded := h.recorded
  rw [← hfollows.calls, ← hfollows.left, Dispatcher.left_of_held hheld] at hrecorded
  have hcounted : d.lastReport.Tallies p.asked := by
    rw [Dispatcher.lastReport, hfollows.aside.report]
    exact h.counted
  refine ⟨?_, Dispatcher.resume_tallies hcounted r, d.resume_declared r⟩
  show (d.resume r).site.host.calls = p.opening.site.host.calls ++ (p.asked ++ d.resumeAsks r).map Ask.call ++
    Site.waitingCalls (d.resume r).left
  rw [Dispatcher.resume_log hrecorded, List.map_append, ← List.append_assoc p.opening.site.host.calls]

/-- A justified call finds a group recorded, unless it registers it. -/
theorem Justified.known (h : p.Justified) {k : Ask} (hk : k ∈ p.asked) :
    k.known.isSome = !(k.op == .register) := by
  cases hop : k.op with
  | register => rw [(h.register k hk hop).1]; rfl
  | reload =>
      obtain ⟨-, -, -, old, hknown, -⟩ := h.reload k hk hop
      rw [hknown]
      rfl
  | unregister => rw [(h.unregister k hk hop).1]; rfl

/-- The books of a pass that is over balance, if its calls found recorded what they took for granted. -/
theorem Booked.balances (h : p.Booked) (hidle : p.standing.running = none)
    (htrail : Site.Trail p.opening.site p.asked p.standing.site)
    (hknown : ∀ k ∈ p.asked, k.known.isSome = !(k.op == .register))
    (hbefore : p.opening.active = p.opening.site.registered.values.map Group.summary)
    (hafter : p.standing.active = p.standing.site.registered.values.map Group.summary) : p.Balances := by
  obtain ⟨hfailures, hpublished⟩ := h.declared hidle
  refine ⟨?_, ?_, hfailures, hpublished⟩
  · rw [h.recorded, Dispatcher.left_of_idle hidle, h.counted.total]
    simp [Site.waitingCalls]
  · rw [hbefore, hafter, List.length_map, List.length_map, Table.length_values, Table.length_values,
      h.counted.registered, h.counted.unregistered]
    exact htrail.size hknown

end Pass

namespace History

variable {settings : Settings} {content : Payload} (h : History settings content) {p : Pass}

theorem booked (hdriven : h.Driven) : ∀ p ∈ h.passes, p.Booked :=
  h.passes_of_steps hdriven Pass.beginning_booked fun _ _ _ hp hfollows hheld => hp.resumed hfollows hheld

/-- A pass begins where what is active is what is recorded. -/
theorem opening_active (hp : p ∈ h.passes) :
    p.opening.active = p.opening.site.registered.values.map Group.summary := by
  have hreached : h.chronicle.Reached True h.start := (h.chronicle_reached fun _ _ => .inr trivial).2
  obtain ⟨hidle, last, hmoves⟩ := hreached.openings p (List.mem_reverse.1 hp)
  have hpublished : p.opening.Published :=
    hmoves.preserve (P := fun t => t.state.Published) (fun _ _ => Dispatcher.published_move) fun _ => rfl
  exact hpublished hidle

theorem passes_balance (hdriven : h.Driven) (hp : p ∈ h.passes) (hidle : p.standing.running = none) :
    p.Balances := by
  obtain ⟨hs, -, -, past, served, htraced⟩ := h.opening_steady hdriven hp
  have hjustified := h.passes_justified hdriven p hp
  exact (h.booked hdriven p hp).balances hidle (htraced.trail hs) (fun _ => hjustified.known)
    (h.opening_active hp) ((h.standing_at hp).2.2 hidle)

/-- In every history in which the host is left to the dispatcher, the report of each pass counts the calls that the
host has recorded since the pass began, and the books of each pass that is over balance.  What the last pass has
left is what the dispatcher tells until it is closed. -/
theorem reports_balance (hdriven : h.Driven) :
    (∀ p ∈ h.passes, p.Booked ∧ (p.standing.running = none → p.Balances)) ∧
      (h.final.state.status ≠ .closed → ∀ p ∈ h.passes.getLast?,
        h.final.state.lastReport = p.standing.lastReport ∧ h.final.state.active = p.standing.active ∧
          h.final.state.failures = p.standing.failures) := by
  refine ⟨fun p hp => ⟨h.booked hdriven p hp, h.passes_balance hdriven hp⟩, fun hopen p hp => ?_⟩
  have hlinked := h.chronicle_linked hdriven.2
  have hhead := hlinked.head
  rw [h.chronicle_state] at hhead
  rw [passes, List.getLast?_reverse] at hp
  have hfollows := hhead hopen p hp
  exact ⟨hfollows.aside.report, hfollows.aside.active, hfollows.aside.failures⟩

end History

end

namespace History

/-- While a pass is held, the host is told to panic when it is called for a group, and later on it is told so again
while the group is removed; in the end a handler with a reserved name is registered. -/
def turbulent : History {} (.shared 0 .plain) where
  host := {}
  pool := {}
  actions :=
    let group (path : String) : Map := .ofList [(Key.routeGroup, .flag true), (Key.serviceId, .ofNat 3),
      (Key.name, .text "api"), (Key.path, .text path)]
    let panics : Instruction := .follow "api" (.panic none)
    [.holdNext, .upsert .group (.shared 1 .plain) (group "/a"), .tell panics, .release, .tell (.restore "api"),
      .upsert .group (.shared 1 .plain) (group "/b"), .upsert .group (.shared 1 .plain) (group "/c"),
      .tell panics, .remove 3, .tell (.restore "api"),
      .upsert .handler (.shared 2 .plain) (.ofList [(Key.routeHandler, .flag true), (Key.name, .text ".h")])]

/-- Its reports, with the numbers of active groups before and after each pass. -/
theorem turbulent_reports_balance : turbulent.Driven ∧
    turbulent.passes.map (fun p => (p.standing.lastReport, p.opening.active.length, p.standing.active.length)) =
      [(⟨1, 0, 0, 1, 0⟩, 0, 1), (⟨1, 0, 0, 0, 0⟩, 1, 2), (⟨0, 1, 0, 0, 0⟩, 2, 2), (⟨0, 0, 0, 1, 0⟩, 2, 2),
        (⟨0, 0, 1, 0, 1⟩, 2, 1)] ∧
      ∀ p ∈ turbulent.passes, p.standing.running = none ∧ p.Balances := by
  have hdriven : turbulent.Driven := ⟨rfl, by decide +kernel⟩
  have hidle : ∀ p ∈ turbulent.passes, p.standing.running = none := by decide +kernel
  obtain ⟨hpasses, -⟩ := reports_balance turbulent hdriven
  exact ⟨hdriven, by decide +kernel, fun p hp => ⟨hidle p hp, (hpasses p hp).2 (hidle p hp)⟩⟩

end History

end RouteBinding
