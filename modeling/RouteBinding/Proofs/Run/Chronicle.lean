import RouteBinding.Proofs.Run.Division
import Mathlib.Data.List.Chain

/-!
# The passes of a history

A history tells what happened to a dispatcher, action by action, but a pass may begin in the middle of an
action, go on in a later one, and end there before the next one begins.  A `Chronicle` follows a history and
keeps every pass of it: the dispatcher as the pass found it, the dispatcher as the pass left it or left it
waiting, and the calls it has made (`History.passes`).  The calls by which a dispatcher is closed are kept
too, and together they are all that the host has seen (`History.calls_eq`).
-/

namespace RouteBinding

variable [Route.Routing]

namespace Dispatcher

/-! ### The asks of a pass -/

/-- The host as a pass begins. -/
def started (d : Dispatcher) : Site := { d.site with report := {} }.note [.passStarted (d.passes + 1)]

/-- The host once the groups that were removed have left it and the pass has found out what it reports. -/
def surveyed (d : Dispatcher) (r : Reading) : Site :=
  d.retracted.note (r.findings.flatMap (Notice.ofFinding d.failures d.default))

/-- The registered groups that a pass does not plan, but for those it has tried to unregister already. -/
def staleIds (d : Dispatcher) (r : Reading) : List ServiceId :=
  (d.surveyed r).stale (r.plan.map Group.id) d.removedIds

theorem cleared_eq (d : Dispatcher) (r : Reading) :
    d.cleared r = (d.surveyed r).unregisterEach (d.staleIds r) := rfl

/-- The asks by which a pass takes groups from the host. -/
def clearAsks (d : Dispatcher) (r : Reading) : List Ask :=
  d.started.unregisterAsks d.removedIds ++ (d.surveyed r).unregisterAsks (d.staleIds r)

/-- The asks of a pass, as far as it goes at first. -/
def startAsks (d : Dispatcher) : List Ask :=
  d.clearAsks d.reading ++ d.decided.site.advanceAsks d.reading.plan

/-- The asks of a pass that was held and goes on: first for the call that has waited. -/
def resumeAsks (d : Dispatcher) (r : Running) : List Ask :=
  match r.left with
  | [] => []
  | g :: rest => ⟨d.site, .register, g.told⟩ :: (d.site.settle .register g).advanceAsks rest

end Dispatcher

/-- A pass of a dispatcher. -/
structure Pass where
  /-- The dispatcher as the pass found it. -/
  opening : Dispatcher
  /-- The dispatcher as the pass left it, or left it waiting. -/
  standing : Dispatcher
  /-- The calls of the pass, in order. -/
  asked : List Ask
  deriving Inhabited

namespace Pass

/-- A pass as far as it goes at first. -/
def beginning (d : Dispatcher) : Pass := ⟨d, d.startPass, d.startAsks⟩

/-- A pass that was held and has gone on. -/
def resumed (p : Pass) (d : Dispatcher) (r : Running) : Pass :=
  ⟨p.opening, d.resume r, p.asked ++ d.resumeAsks r⟩

/-- What the pass has read. -/
def reading (p : Pass) : Reading := p.opening.reading

/-- The groups that the pass decided to serve, with all that is attached to them. -/
def wanted (p : Pass) : List Group := p.reading.plan

/-- The identities of the groups that were removed since the pass before. -/
def removed (p : Pass) : List ServiceId := p.opening.removedIds

end Pass

/-- A dispatcher with the passes it has run and the calls by which it was closed. -/
structure Chronicle where
  state : Dispatcher
  /-- The passes, the last one first. -/
  passes : List Pass := []
  /-- The calls by which it was closed. -/
  farewell : List Ask := []

namespace Chronicle

/-- All calls that the dispatcher has made, in order. -/
def asked (c : Chronicle) : List Ask := c.passes.reverse.flatMap Pass.asked ++ c.farewell

/-- What the last pass has read. -/
def last (c : Chronicle) : Option Reading := c.passes.head?.map Pass.reading

/-- The passes after the one that is held has gone on, if an action releases it. -/
def continued (c : Chronicle) (a : Action) : List Pass :=
  match a, c.state.running, c.passes with
  | .release, some r, p :: rest => p.resumed c.state r :: rest
  | _, _, passes => passes

/-- A chronicle before a pass may begin behind an action. -/
def primed (c : Chronicle) (a : Action) : Chronicle :=
  { c with state := c.state.primed a, passes := c.continued a }

/-- A chronicle after a pass has begun, if one was requested and nothing stands against it. -/
def begun (c : Chronicle) : Chronicle :=
  { c with
    state := c.state.drain
    passes := if c.state.ready then .beginning c.state :: c.passes else c.passes }

def act (c : Chronicle) (a : Action) : Chronicle :=
  let begun := (c.primed a).begun
  { begun with
    state := c.state.act a
    farewell := if c.state.closes a then begun.state.closeAsks else c.farewell }

end Chronicle

namespace History

variable {settings : Settings} {content : Payload} (h : History settings content)

/-- The chronicle of a history. -/
def chronicle : Chronicle := h.actions.foldl Chronicle.act { state := h.start.state }

/-- The passes of a history, in order. -/
def passes : List Pass := h.chronicle.passes.reverse

/-- The calls that the dispatcher has made in a history, in order. -/
def asked : List Ask := h.chronicle.asked

theorem chronicle_state : h.chronicle.state = h.final.state := by
  have hsame : ∀ (c : Chronicle) (t : Tracked) (actions : List Action), c.state = t.state →
      (actions.foldl Chronicle.act c).state = (actions.foldl Tracked.act t).state := by
    intro c t actions
    induction actions generalizing c t with
    | nil => exact id
    | cons a rest ih => exact fun hstate => ih _ _ (congrArg (fun d => Dispatcher.act d a) hstate)
  exact hsame _ _ _ rfl

end History

namespace Dispatcher

variable {d e : Dispatcher} {r : Running}

/-! ### What a pass asks for -/

theorem left_of_held (hheld : d.running = some r) : d.left = r.left := by
  rw [left, hheld]

theorem left_of_idle (hidle : d.running = none) : d.left = [] := by
  rw [left, hidle]

/-- Where a pass goes on, it does to the host what bringing the groups to it does. -/
theorem goOn_advance (d : Dispatcher) (r : Running) : (d.goOn r).left = (d.site.advance r.left).2 ∧
    (d.site.advance r.left).1.Rests (d.goOn r).site ∧
      (d.goOn r).site.host.calls = (d.site.advance r.left).1.host.calls := by
  unfold goOn
  dsimp only
  split
  · next hempty =>
    refine ⟨?_, ⟨rfl, rfl⟩, rfl⟩
    rw [List.isEmpty_iff.1 hempty]
    rfl
  · exact ⟨rfl, ⟨rfl, rfl⟩, rfl⟩

theorem goOn_log (d : Dispatcher) (r : Running) : (d.goOn r).site.host.calls =
    d.site.host.calls ++ (d.site.advanceAsks r.left).map Ask.call ++
      Site.waitingCalls (d.goOn r).left := by
  obtain ⟨hleft, -, hcalls⟩ := goOn_advance d r
  rw [hcalls, hleft, Site.advance_log]

/-- A pass that goes on gets past some groups; the next one waits to be registered. -/
theorem goOn_serving (d : Dispatcher) (r : Running) : ∃ past, r.left = past ++ (d.goOn r).left ∧
    d.site.Serving past (d.site.advanceAsks r.left) (d.goOn r).site ∧
      ∀ g ∈ (d.goOn r).left.head?, (d.goOn r).site.operationFor g = some .register := by
  obtain ⟨hleft, hrests, -⟩ := goOn_advance d r
  obtain ⟨past, hplan, hserving, hwaits⟩ := Site.advance_serving d.site r.left
  refine ⟨past, ?_, ?_, ?_⟩
  · rwa [hleft]
  · have hrested := hserving.append (.rests hrests (.refl _))
    rwa [List.append_nil, List.append_nil] at hrested
  · rw [hleft]
    intro g hg
    rw [Site.operationFor_rests hrests]
    exact hwaits g hg

/-- A pass that is held has groups left. -/
theorem goOn_held (d : Dispatcher) (r : Running) (hheld : (d.goOn r).running ≠ none) :
    (d.goOn r).left ≠ [] := by
  unfold goOn at hheld ⊢
  dsimp only at hheld ⊢
  split at hheld
  · exact absurd rfl hheld
  · next hempty =>
    rw [if_neg hempty]
    simpa [left] using hempty

/-- A pass that goes on without a call leaves the host as it was. -/
theorem goOn_untouched (d : Dispatcher) (r : Running) (hnone : d.site.advanceAsks r.left = [])
    (hleft : (d.goOn r).left = []) : (d.goOn r).site.host = d.site.host := by
  rw [(goOn_advance d r).1] at hleft
  have hsame := Site.advance_untouched hnone hleft
  unfold goOn
  dsimp only
  split
  · show (d.site.advance r.left).1.host = _
    rw [hsame]
  · rw [hsame]

theorem startPass_untouched (d : Dispatcher) (hnone : d.startAsks = []) (hleft : d.startPass.left = []) :
    d.startPass.site.host = d.site.host := by
  obtain ⟨hclear, hserve⟩ := List.append_eq_nil_iff.1 hnone
  obtain ⟨hremoved, hstale⟩ := List.append_eq_nil_iff.1 hclear
  have hcleared : (d.cleared d.reading).host = d.site.host := by
    have hfirst : (d.surveyed d.reading).host = (d.started.unregisterEach d.removedIds).host := rfl
    have hthen : d.cleared d.reading = (d.surveyed d.reading).unregisterEach (d.staleIds d.reading) := rfl
    rw [hthen, Site.unregisterEach_untouched hstale, hfirst, Site.unregisterEach_untouched hremoved]
    rfl
  rw [startPass_eq] at hleft ⊢
  rw [goOn_untouched d.decided ⟨d.reading.plan, d.reading.failures⟩ hserve hleft, decided_site, hcleared]

theorem cleared_log (d : Dispatcher) (r : Reading) :
    (d.cleared r).host.calls = d.site.host.calls ++ (d.clearAsks r).map Ask.call := by
  have hremoved : (d.surveyed r).host.calls =
      d.site.host.calls ++ (d.started.unregisterAsks d.removedIds).map Ask.call :=
    Site.unregisterEach_log d.started d.removedIds
  have hstale : (d.cleared r).host.calls = _ := Site.unregisterEach_log (d.surveyed r) (d.staleIds r)
  rw [hstale, hremoved, clearAsks, List.map_append, List.append_assoc]

theorem startPass_log (d : Dispatcher) : d.startPass.site.host.calls =
    d.site.host.calls ++ d.startAsks.map Ask.call ++ Site.waitingCalls d.startPass.left := by
  rw [startPass_eq, goOn_log, decided_site, cleared_log, startAsks, decided_site]
  simp

/-- The call that waits is the first one of a pass that goes on. -/
theorem resume_log {log : List Host.Call} (h : d.site.host.calls = log ++ Site.waitingCalls r.left) :
    (d.resume r).site.host.calls =
      log ++ (d.resumeAsks r).map Ask.call ++ Site.waitingCalls (d.resume r).left := by
  unfold resumeAsks
  cases hleft : r.left with
  | nil =>
      rw [hleft] at h
      rw [resume_nil hleft]
      show d.site.host.calls = _
      rw [h]
      simp [Site.waitingCalls, left, finishPass]
  | cons g rest =>
      have hsettled : (d.unheld g).site.host.calls = d.site.host.calls := Site.settle_log ..
      rw [resume_cons hleft, goOn_log, hsettled, h, hleft]
      simp [Site.waitingCalls, Ask.call, unheld]

end Dispatcher

/-- A pass as it is known: it is past some of the groups that it wanted, and has asked for what it cleared and
for what these groups were due. -/
structure Pass.Traced (p : Pass) (past : List Group) (served : List Ask) : Prop where
  wanted : p.wanted = past ++ p.standing.left
  asked : p.asked = p.opening.clearAsks p.reading ++ served
  serving : p.opening.decided.site.Serving past served p.standing.site
  /-- A call that waits is a registration. -/
  waits : ∀ g ∈ p.standing.left.head?, p.standing.site.operationFor g = some .register
  /-- A pass that is held has groups left. -/
  held : p.standing.running ≠ none → p.standing.left ≠ []
  /-- A pass without a call leaves the host as it was. -/
  untouched : p.asked = [] → p.standing.left = [] → p.standing.site.host = p.opening.site.host

namespace Pass

variable {p : Pass} {d : Dispatcher} {r : Running} {past : List Group} {served : List Ask}

theorem beginning_opening (d : Dispatcher) : (beginning d).opening = d := by
  simp only [beginning]

theorem beginning_standing (d : Dispatcher) : (beginning d).standing = d.startPass := by
  simp only [beginning]

theorem beginning_reading (d : Dispatcher) : (beginning d).reading = d.reading := by
  rw [reading, beginning_opening]

theorem beginning_traced (d : Dispatcher) : ∃ past served, (beginning d).Traced past served := by
  have hgone := d.startPass_eq
  obtain ⟨past, hplan, hserving, hwaits⟩ :=
    Dispatcher.goOn_serving d.decided ⟨d.reading.plan, d.reading.failures⟩
  rw [← hgone] at hplan hserving hwaits
  dsimp only at hplan hserving
  refine ⟨past, d.decided.site.advanceAsks d.reading.plan, ?_⟩
  constructor
  · rw [wanted, beginning_reading, beginning_standing]
    exact hplan
  · rw [beginning_reading, beginning_opening]
    rfl
  · rw [beginning_opening, beginning_standing]
    exact hserving
  · rw [beginning_standing]
    exact hwaits
  · rw [beginning_standing]
    exact Dispatcher.goOn_held _ _
  · rw [beginning_standing, beginning_opening]
    exact fun hnone hleft => d.startPass_untouched hnone hleft

theorem Traced.resumed (h : p.Traced past served) (hfollows : p.standing.Follows d)
    (hheld : d.running = some r) : ∃ past served, (p.resumed d r).Traced past served := by
  have hleft : p.standing.left = r.left := by rw [← hfollows.left, Dispatcher.left_of_held hheld]
  have hstood := h.serving.append (.rests hfollows.rests (.refl _))
  rw [List.append_nil, List.append_nil] at hstood
  have hnonempty : p.standing.left ≠ [] := h.held (by rw [← hfollows.running, hheld]; simp)
  obtain ⟨g, rest, hrest⟩ := List.exists_cons_of_ne_nil (hleft ▸ hnonempty)
  have hwanted : p.wanted = past ++ g :: rest := by rw [← hrest, ← hleft]; exact h.wanted
  -- The host still serves nothing under the identity of the group that waits.
  have hop : d.site.operationFor g = some .register := by
    rw [Site.operationFor_rests hfollows.rests]
    exact h.waits g (by rw [hleft, hrest]; rfl)
  have hgone : (p.resumed d r).standing = (d.unheld g).goOn ⟨rest, r.failures⟩ :=
    Dispatcher.resume_cons hrest
  have hasked : d.resumeAsks r =
      ⟨d.site, .register, g.told⟩ :: (d.site.settle .register g).advanceAsks rest := by
    rw [Dispatcher.resumeAsks, hrest]
  obtain ⟨more, hplan, hserving, hwaits⟩ :=
    Dispatcher.goOn_serving (d.unheld g) ⟨rest, r.failures⟩
  refine ⟨past ++ (g :: more), served ++ d.resumeAsks r, ?_, ?_, ?_, ?_, ?_, ?_⟩
  · rw [hgone, List.append_assoc, List.cons_append, ← hplan]
    exact hwanted
  · show p.asked ++ d.resumeAsks r = _
    rw [h.asked, List.append_assoc]
    rfl
  · rw [hgone, hasked]
    exact hstood.append (.asks hop hserving)
  · rw [hgone]
    exact hwaits
  · rw [hgone]
    exact Dispatcher.goOn_held _ _
  · intro hnone
    have hnone : p.asked ++ d.resumeAsks r = [] := hnone
    rw [hasked] at hnone
    simp at hnone

end Pass

namespace Chronicle

variable {shared : Prop} {start : Tracked} {c : Chronicle} {a : Action} {log : List Host.Call}

theorem continued_eq (h : a = .release → c.state.running = none) : c.continued a = c.passes := by
  cases a with
  | release =>
      unfold continued
      rw [h rfl]
  | _ => rfl

theorem continued_release {r : Running} {p : Pass} {rest : List Pass} (hheld : c.state.running = some r)
    (hpasses : c.passes = p :: rest) : c.continued .release = p.resumed c.state r :: rest := by
  unfold continued
  rw [hheld, hpasses]

/-- An action releases a pass, or it leaves the passes as they are. -/
theorem continued_cases (h : c.state.running ≠ none → c.passes ≠ []) (a : Action) :
    (∃ r p rest, a = .release ∧ c.state.running = some r ∧ c.passes = p :: rest ∧
      c.continued a = p.resumed c.state r :: rest ∧ c.state.primed a = c.state.resume r) ∨
      (a = .release → c.state.running = none) ∧ c.continued a = c.passes := by
  by_cases hrelease : a = .release → c.state.running = none
  · exact .inr ⟨hrelease, continued_eq hrelease⟩
  · obtain ⟨rfl, hheld⟩ := Classical.not_imp.1 hrelease
    obtain ⟨r, hr⟩ := Option.ne_none_iff_exists'.1 hheld
    obtain ⟨p, rest, hpasses⟩ := List.exists_cons_of_ne_nil (h hheld)
    refine .inl ⟨r, p, rest, rfl, hr, hpasses, continued_release hr hpasses, ?_⟩
    rw [Dispatcher.primed, hr]

theorem begun_of_ready (h : c.state.ready = true) : c.begun =
    { c with state := c.state.startPass, passes := .beginning c.state :: c.passes } := by
  rw [begun, Dispatcher.drain_eq, if_pos h, if_pos h]

theorem begun_of_not_ready (h : c.state.ready = false) : c.begun = c := by
  simp [begun, Dispatcher.drain_of_not_ready, h]

/-! ### Every pass is reached -/

/-- A chronicle with every dispatcher that it keeps reached by moves. -/
structure Reached (shared : Prop) (start : Tracked) (c : Chronicle) : Prop where
  /-- A pass that is held has begun. -/
  held : c.state.running ≠ none → c.passes ≠ []
  state : c.state.status ≠ .closed → Moves shared start ⟨c.state, c.last⟩
  openings : ∀ p ∈ c.passes, p.opening.running = none ∧ ∃ last, Moves shared start ⟨p.opening, last⟩
  standings : ∀ p ∈ c.passes, Moves shared start ⟨p.standing, some p.reading⟩
  farewell : c.farewell = [] ∨ ∃ d last, Moves shared start ⟨d, last⟩ ∧ c.farewell = d.closeAsks

theorem Reached.primed (h : c.Reached shared start) (hquiet : c.state.Quiet)
    (hopen : c.state.status ≠ .closed) (hown : a.own = true ∨ shared) :
    (c.primed a).Reached shared start := by
  have hmoves : Moves shared start ⟨c.state.primed a, c.last⟩ :=
    (h.state hopen).trans (Dispatcher.primed_moves hquiet.ready hown c.last)
  rcases continued_cases h.held a with ⟨r, p, rest, rfl, hheld, hpasses, hcontinued, hprimed⟩ | ⟨ha, hsame⟩
  · have hlast : c.last = some p.reading := by rw [last, hpasses]; rfl
    rw [hprimed, hlast] at hmoves
    have hp : p ∈ c.passes := hpasses ▸ List.mem_cons_self ..
    have hrest : ∀ q ∈ rest, q ∈ c.passes := fun q hq => hpasses ▸ List.mem_cons_of_mem p hq
    unfold Chronicle.primed
    rw [hcontinued, hprimed]
    exact
      { held := fun _ => List.cons_ne_nil _ _
        state := fun _ => hmoves
        openings := List.forall_mem_cons.2 ⟨h.openings p hp, fun q hq => h.openings q (hrest q hq)⟩
        standings := List.forall_mem_cons.2 ⟨hmoves, fun q hq => h.standings q (hrest q hq)⟩
        farewell := h.farewell }
  · unfold Chronicle.primed
    rw [hsame]
    refine ⟨?_, fun _ => hmoves, h.openings, h.standings, h.farewell⟩
    rw [Dispatcher.primed_running hquiet.ready ha]
    exact h.held

theorem Reached.begun (h : c.Reached shared start) (hopen : c.state.status ≠ .closed) :
    c.begun.Reached shared start := by
  by_cases hready : c.state.ready = true
  · have hidle := Dispatcher.running_of_ready hready
    have hbegins : Moves shared start ⟨c.state.startPass, some c.state.reading⟩ :=
      (h.state hopen).tail (.begins c.state c.last hidle)
    rw [begun_of_ready hready]
    refine ⟨fun _ => List.cons_ne_nil _ _, fun _ => ?_, List.forall_mem_cons.2 ⟨?_, h.openings⟩,
      List.forall_mem_cons.2 ⟨?_, h.standings⟩, h.farewell⟩
    · dsimp only [last]
      rw [List.head?_cons, Option.map_some, Pass.beginning_reading]
      exact hbegins
    · rw [Pass.beginning_opening]
      exact ⟨hidle, c.last, h.state hopen⟩
    · rw [Pass.beginning_standing, Pass.beginning_reading]
      exact hbegins
  · rwa [begun_of_not_ready (by simpa using hready)]

theorem act_of_closed (hquiet : c.state.Quiet) (hclosed : c.state.status = .closed) (a : Action) :
    c.act a = { c with state := c.state.act a } := by
  have hcloses : ¬c.state.closes a := fun k => k.1 hclosed
  have hready : (c.primed a).state.ready = false := hquiet.drain_of_closed hclosed
  have hcontinued : c.continued a = c.passes := continued_eq fun _ => hquiet.closed hclosed
  rw [act, begun_of_not_ready hready, if_neg hcloses, primed, hcontinued]

theorem act_of_not_closes (hquiet : c.state.Quiet) (hcloses : ¬c.state.closes a) :
    c.act a = (c.primed a).begun := by
  rw [act, if_neg hcloses, Dispatcher.act_eq_drain hquiet.ready hquiet.closed hcloses]
  rfl

theorem Reached.act (h : c.Reached shared start) (hquiet : c.state.Quiet)
    (hown : a.own = true ∨ shared) : (c.act a).Reached shared start := by
  by_cases hclosed : c.state.status = .closed
  · rw [act_of_closed hquiet hclosed]
    refine ⟨?_, ?_, h.openings, h.standings, h.farewell⟩
    · intro hheld
      exact absurd (hquiet.act.closed (Dispatcher.act_closed hclosed a)) hheld
    · exact fun hopen => absurd (Dispatcher.act_closed hclosed a) hopen
  · have hprimed := hquiet.primed_open (a := a) hclosed
    have hbegun := (h.primed hquiet hclosed hown).begun hprimed
    by_cases hcloses : c.state.closes a
    · have hidle := (Dispatcher.act_closes hquiet.ready hcloses).running
      refine ⟨fun hheld => absurd hidle hheld, fun hopen => absurd hcloses.2 hopen, hbegun.openings,
        hbegun.standings, ?_⟩
      rw [Chronicle.act, if_pos hcloses]
      exact .inr ⟨_, _, hbegun.state (by rwa [Chronicle.begun, Dispatcher.drain_status]), rfl⟩
    · rwa [act_of_not_closes hquiet hcloses]

/-! ### Passes are traced -/

/-- The pass that is held, if one is. -/
def heldPass? (c : Chronicle) : Option Pass := if c.state.running.isSome then c.passes.head? else none

theorem mem_heldPass? {p : Pass} : p ∈ c.heldPass? ↔ c.state.running ≠ none ∧ p ∈ c.passes.head? := by
  unfold heldPass?
  split
  · next hheld => simp [Option.isSome_iff_ne_none.1 hheld]
  · next hidle => simp [Option.not_isSome_iff_eq_none.1 hidle]

/-- A chronicle with every pass traced that is watched from its opening on.  If one of them is held, the
dispatcher follows on it. -/
structure Tracing (watched : Dispatcher → Prop) (c : Chronicle) : Prop where
  traced : ∀ p ∈ c.passes, watched p.opening → ∃ past served, p.Traced past served
  waits : ∀ p ∈ c.heldPass?, watched p.opening → p.standing.Follows c.state

variable {watched : Dispatcher → Prop}

theorem Tracing.primed (h : c.Tracing watched) (hheld : c.state.running ≠ none → c.passes ≠ [])
    (hquiet : c.state.Quiet) (hown : a.own = true ∨ ∀ p ∈ c.heldPass?, ¬watched p.opening) :
    (c.primed a).Tracing watched := by
  rcases continued_cases hheld a with ⟨r, p, rest, rfl, hr, hpasses, hcontinued, hprimed⟩ | ⟨ha, hsame⟩
  · obtain ⟨htraced, hrest⟩ := List.forall_mem_cons.1 (hpasses ▸ h.traced)
    have hp : p ∈ c.heldPass? := mem_heldPass?.2 ⟨by simp [hr], by rw [hpasses]; rfl⟩
    unfold Chronicle.primed
    rw [hcontinued, hprimed]
    refine ⟨List.forall_mem_cons.2 ⟨fun hwatched => ?_, hrest⟩, fun q hq _ => ?_⟩
    · obtain ⟨past, served, htraced⟩ := htraced hwatched
      exact htraced.resumed (h.waits p hp hwatched) hr
    · obtain rfl := Option.some.inj (mem_heldPass?.1 hq).2
      exact .refl _
  · unfold Chronicle.primed
    rw [hsame]
    refine ⟨h.traced, fun p hp hwatched => ?_⟩
    obtain ⟨hstill, hhead⟩ := mem_heldPass?.1 hp
    have hstill : c.state.running ≠ none := by rwa [← Dispatcher.primed_running hquiet.ready ha]
    have hp : p ∈ c.heldPass? := mem_heldPass?.2 ⟨hstill, hhead⟩
    have hown : a.own = true := hown.resolve_right fun hnone => hnone p hp hwatched
    exact (h.waits p hp hwatched).trans (Dispatcher.primed_follows hquiet.ready hown ha)

theorem Tracing.begun (h : c.Tracing watched) : c.begun.Tracing watched := by
  by_cases hready : c.state.ready = true
  · rw [begun_of_ready hready]
    refine ⟨List.forall_mem_cons.2 ⟨fun _ => Pass.beginning_traced c.state, h.traced⟩, fun p hp _ => ?_⟩
    obtain rfl := Option.some.inj (mem_heldPass?.1 hp).2
    rw [Pass.beginning_standing]
    dsimp only
    exact .refl _
  · rwa [begun_of_not_ready (by simpa using hready)]

theorem Tracing.act (h : c.Tracing watched) (hheld : c.state.running ≠ none → c.passes ≠ [])
    (hquiet : c.state.Quiet) (hown : a.own = true ∨ ∀ p ∈ c.heldPass?, ¬watched p.opening) :
    (c.act a).Tracing watched := by
  by_cases hclosed : c.state.status = .closed
  · have hidle := hquiet.act.closed (Dispatcher.act_closed hclosed a)
    rw [act_of_closed hquiet hclosed]
    exact ⟨h.traced, fun p hp => absurd hidle (mem_heldPass?.1 hp).1⟩
  · have hbegun := (h.primed hheld hquiet hown).begun
    by_cases hcloses : c.state.closes a
    · have hidle := (Dispatcher.act_closes hquiet.ready hcloses).running
      exact ⟨hbegun.traced, fun p hp => absurd hidle (mem_heldPass?.1 hp).1⟩
    · rwa [act_of_not_closes hquiet hcloses]

/-! ### One pass follows on the other -/

/-- A pass that is over, and another one that begins where it ended. -/
def Precedes (p q : Pass) : Prop := p.standing.running = none ∧ p.standing.Follows q.opening

/-- A chronicle with every pass traced, in which each pass follows on the one before. -/
structure Linked (log : List Host.Call) (c : Chronicle) : Prop where
  traced : ∀ p ∈ c.passes, ∃ past served, p.Traced past served
  chain : c.passes.IsChain fun q p => Precedes p q
  /-- Nothing is recorded before the first pass. -/
  first : ∀ p ∈ c.passes.getLast?, p.opening.site.registered = ∅
  bare : c.state.status ≠ .closed → c.passes = [] → c.state.site.registered = ∅
  /-- The dispatcher follows on its last pass. -/
  head : c.state.status ≠ .closed → ∀ p ∈ c.passes.head?, p.standing.Follows c.state
  farewell : c.state.status ≠ .closed → c.farewell = []
  log : c.state.site.host.calls = log ++ c.asked.map Ask.call ++ Site.waitingCalls c.state.left

theorem Linked.tracing (h : c.Linked log) (hopen : c.state.status ≠ .closed) :
    c.Tracing fun _ => True :=
  ⟨fun p hp _ => h.traced p hp, fun p hp _ => h.head hopen p (mem_heldPass?.1 hp).2⟩

theorem Linked.primed (h : c.Linked log) (hheld : c.state.running ≠ none → c.passes ≠ [])
    (hquiet : c.state.Quiet) (hopen : c.state.status ≠ .closed) (hown : a.own = true) :
    (c.primed a).Linked log := by
  rcases continued_cases hheld a with ⟨r, p, rest, rfl, hr, hpasses, hcontinued, hprimed⟩ | ⟨ha, hsame⟩
  · have htraced := ((h.tracing hopen).primed hheld hquiet (.inl hown)).traced
    have hchain := h.chain
    rw [hpasses] at hchain
    unfold Chronicle.primed at htraced ⊢
    rw [hcontinued, hprimed] at htraced ⊢
    have hfirst := h.first
    rw [hpasses] at hfirst
    refine ⟨fun q hq => htraced q hq trivial, ?_, ?_, fun _ hnone => absurd hnone (List.cons_ne_nil _ _), ?_,
      fun _ => h.farewell hopen, ?_⟩
    · -- Where the pass began has not changed.
      cases rest with
      | nil => exact .singleton _
      | cons q more =>
          rw [List.isChain_cons_cons] at hchain ⊢
          exact hchain
    · cases rest with
      | nil => simpa [Pass.resumed] using hfirst
      | cons q more => simpa using hfirst
    · intro _ q hq
      obtain rfl := Option.some.inj hq
      exact .refl _
    · have hlog := h.log
      rw [Dispatcher.left_of_held hr] at hlog
      have hresumed := Dispatcher.resume_log hlog
      show (c.state.resume r).site.host.calls = _
      rw [hresumed]
      simp [asked, hpasses, h.farewell hopen, Pass.resumed]
  · have hfollows := Dispatcher.primed_follows hquiet.ready hown ha
    unfold Chronicle.primed
    rw [hsame]
    refine ⟨h.traced, h.chain, h.first, ?_, ?_, fun _ => h.farewell hopen, ?_⟩
    · intro _ hnone
      exact hfollows.rests.registered.trans (h.bare hopen hnone)
    · intro _ p hp
      exact (h.head hopen p hp).trans hfollows
    · dsimp only
      rw [hfollows.calls, hfollows.left, h.log]
      rfl

theorem Linked.begun (h : c.Linked log) (hopen : c.state.status ≠ .closed) :
    c.begun.Linked log := by
  by_cases hready : c.state.ready = true
  · have hidle := Dispatcher.running_of_ready hready
    rw [begun_of_ready hready]
    refine ⟨List.forall_mem_cons.2 ⟨Pass.beginning_traced c.state, h.traced⟩, ?_, ?_,
      fun _ hnone => absurd hnone (List.cons_ne_nil _ _), ?_, fun _ => h.farewell hopen, ?_⟩
    · refine List.isChain_cons.2 ⟨fun p hp => ?_, h.chain⟩
      have hfollows := h.head hopen p hp
      refine ⟨?_, ?_⟩
      · rw [← hfollows.running]
        exact hidle
      · rwa [Pass.beginning_opening]
    · cases hpasses : c.passes with
      | nil =>
          intro p hp
          obtain rfl : Pass.beginning c.state = p := Option.some.inj hp
          rw [Pass.beginning_opening]
          exact h.bare hopen hpasses
      | cons q more =>
          have hfirst := h.first
          rw [hpasses] at hfirst
          simpa using hfirst
    · intro _ p hp
      obtain rfl := Option.some.inj hp
      rw [Pass.beginning_standing]
      dsimp only
      exact .refl _
    · dsimp only
      rw [Dispatcher.startPass_log, h.log, Dispatcher.left_of_idle hidle]
      simp [asked, h.farewell hopen, Pass.beginning, Site.waitingCalls]
  · rwa [begun_of_not_ready (by simpa using hready)]

theorem Linked.act (h : c.Linked log) (hheld : c.state.running ≠ none → c.passes ≠ [])
    (hquiet : c.state.Quiet) (hown : a.own = true) : (c.act a).Linked log := by
  by_cases hclosed : c.state.status = .closed
  · have hidle := hquiet.closed hclosed
    have hfollows := Dispatcher.primed_follows (a := a) hquiet.ready hown fun _ => hidle
    rw [act_of_closed hquiet hclosed]
    have hafter := Dispatcher.act_closed hclosed a
    refine ⟨h.traced, h.chain, h.first, fun hopen => absurd hafter hopen, fun hopen => absurd hafter hopen,
      fun hopen => absurd hafter hopen, ?_⟩
    dsimp only
    rw [hquiet.act_of_closed hclosed, hfollows.calls, hfollows.left, h.log]
    rfl
  · have hprimed := hquiet.primed_open (a := a) hclosed
    have hbegun := (h.primed hheld hquiet hclosed hown).begun hprimed
    by_cases hcloses : c.state.closes a
    · have hdone := Dispatcher.act_closes hquiet.ready hcloses
      have hafter := hcloses.2
      refine ⟨hbegun.traced, hbegun.chain, hbegun.first, fun hopen => absurd hafter hopen,
        fun hopen => absurd hafter hopen, fun hopen => absurd hafter hopen, ?_⟩
      have hleft : (c.primed a).begun.state.left = [] := Dispatcher.left_of_idle hdone.idle
      have hover : (c.act a).state.left = [] := Dispatcher.left_of_idle hdone.running
      have hcalls : (c.act a).state.site.host.calls = (c.primed a).begun.state.site.host.calls ++
          (c.primed a).begun.state.closeAsks.map Ask.call := hdone.calls
      have hasked : (c.act a).asked = (c.primed a).begun.asked ++ (c.primed a).begun.state.closeAsks := by
        have hfarewell : (c.primed a).begun.farewell = [] := h.farewell hclosed
        simp [asked, Chronicle.act, hcloses, hfarewell]
      rw [hcalls, hbegun.log, hasked, hleft, hover]
      simp [Site.waitingCalls]
    · rwa [act_of_not_closes hquiet hcloses]

/-- An action begins a pass, or goes on with the one that is held, or leaves the passes as they are. -/
theorem passes_act {P : Pass → Prop} (hbegins : ∀ d, P (.beginning d))
    (hresumes : ∀ p d r, P p → p.standing.Follows d → d.running = some r → P (p.resumed d r))
    (hlinked : c.Linked log) (hheld : c.state.running ≠ none → c.passes ≠ []) (hquiet : c.state.Quiet)
    (h : ∀ p ∈ c.passes, P p) : ∀ p ∈ (c.act a).passes, P p := by
  have hcontinued : ∀ p ∈ (c.primed a).passes, P p := by
    show ∀ p ∈ c.continued a, P p
    rcases continued_cases hheld a with ⟨r, p, rest, -, hr, hpasses, hcontinued, -⟩ | ⟨-, hsame⟩
    · have hopen : c.state.status ≠ .closed := fun hclosed => by simp [hquiet.closed hclosed] at hr
      have hfollows := hlinked.head hopen p (by rw [hpasses]; rfl)
      rw [hpasses, List.forall_mem_cons] at h
      rw [hcontinued]
      exact List.forall_mem_cons.2 ⟨hresumes p c.state r h.1 hfollows hr, h.2⟩
    · rwa [hsame]
  show ∀ p ∈ (c.primed a).begun.passes, P p
  cases hready : (c.primed a).state.ready with
  | true =>
      rw [begun_of_ready hready]
      exact List.forall_mem_cons.2 ⟨hbegins _, hcontinued⟩
  | false => rwa [begun_of_not_ready hready]

end Chronicle

namespace History

variable {settings : Settings} {content : Payload} (h : History settings content)

/-- What holds of a chronicle at the start and is preserved by every action of a history holds of the chronicle
of the history. -/
theorem chronicle_of_act {P : Chronicle → Prop} (hstart : P { state := h.start.state })
    (hact : ∀ c, P c → ∀ a ∈ h.actions, P (c.act a)) : P h.chronicle :=
  List.foldlRecOn h.actions Chronicle.act hstart hact

theorem start_reached (shared : Prop) : h.start.state.Quiet ∧
    ({ state := h.start.state } : Chronicle).Reached shared h.start := by
  refine ⟨⟨rfl, fun _ => rfl⟩, fun hheld => absurd rfl hheld, fun _ => .refl, ?_, ?_, .inl rfl⟩
  · simp
  · simp

theorem chronicle_reached {shared : Prop} (hown : ∀ a ∈ h.actions, a.own = true ∨ shared) :
    h.chronicle.state.Quiet ∧ h.chronicle.Reached shared h.start := by
  apply h.chronicle_of_act (P := fun c => c.state.Quiet ∧ c.Reached shared h.start)
  · exact h.start_reached shared
  · rintro c ⟨hquiet, hreached⟩ a ha
    exact ⟨hquiet.act, hreached.act hquiet (hown a ha)⟩

/-- Where the host is left to the dispatcher, the chronicle is linked all along, so that this may be used to show
what every action preserves. -/
theorem chronicle_of_linked {P : Chronicle → Prop} (hown : ∀ a ∈ h.actions, a.own = true)
    (hstart : P { state := h.start.state })
    (hact : ∀ c, c.state.Quiet → c.Reached False h.start → c.Linked h.host.calls → P c →
      ∀ a ∈ h.actions, P (c.act a)) : h.chronicle.Linked h.host.calls ∧ P h.chronicle := by
  have hkept : (h.chronicle.state.Quiet ∧ h.chronicle.Reached False h.start) ∧
      h.chronicle.Linked h.host.calls ∧ P h.chronicle := by
    apply h.chronicle_of_act (P := fun c =>
      (c.state.Quiet ∧ c.Reached False h.start) ∧ c.Linked h.host.calls ∧ P c)
    · refine ⟨h.start_reached False, ⟨by simp, .nil, by simp, fun _ _ => rfl, by simp, fun _ => rfl, ?_⟩, hstart⟩
      simp [Chronicle.asked, Dispatcher.left, start, Dispatcher.new, Site.waitingCalls]
    · rintro c ⟨⟨hquiet, hreached⟩, hlinked, hc⟩ a ha
      have hacted := hact c hquiet hreached hlinked hc a ha
      have ha := hown a ha
      exact ⟨⟨hquiet.act, hreached.act hquiet (.inl ha)⟩, hlinked.act hreached.held hquiet ha, hacted⟩
  exact hkept.2

theorem chronicle_linked (hown : ∀ a ∈ h.actions, a.own = true) : h.chronicle.Linked h.host.calls :=
  (h.chronicle_of_linked (P := fun _ => True) hown trivial fun _ _ _ _ _ _ _ => trivial).1

/-- What holds of every pass that begins, and is preserved where a pass that is held goes on, holds of every pass
of a history in which the host is left to the dispatcher. -/
theorem passes_of_steps {P : Pass → Prop} (hdriven : h.Driven) (hbegins : ∀ d, P (.beginning d))
    (hresumes : ∀ p d r, P p → p.standing.Follows d → d.running = some r → P (p.resumed d r)) :
    ∀ p ∈ h.passes, P p := by
  have hkept := h.chronicle_of_linked (P := fun c => ∀ p ∈ c.passes, P p) hdriven.2 (by simp)
    fun c hquiet hreached hlinked hc _ _ =>
      Chronicle.passes_act hbegins hresumes hlinked hreached.held hquiet hc
  exact fun p hp => hkept.2 p (List.mem_reverse.1 hp)

/-- The calls that the host has seen are those of the passes, those by which the dispatcher was closed, and
the one that waits, if a pass is held. -/
theorem calls_eq (hdriven : h.Driven) : h.final.state.site.host.calls =
    h.host.calls ++ h.asked.map Ask.call ++ Site.waitingCalls h.final.state.left := by
  have hlog := (h.chronicle_linked hdriven.2).log
  rwa [h.chronicle_state] at hlog

end History

end RouteBinding
