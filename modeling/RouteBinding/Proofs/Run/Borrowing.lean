import RouteBinding.Proofs.Component.Loan
import RouteBinding.Proofs.Run.Asked
import RouteBinding.Proofs.Run.Counting

/-!
# What passes acquire

Consumers use the sources of content beside a dispatcher: they build factories, acquire payloads and drop guards,
between one action and the next.  A pass uses them too, and the only action that does is one during which a pass
begins (`Dispatcher.Quiet.act_pool`): it tries out the content of its contest, in order, and keeps no guard.  So
the actions of a dispatcher and what consumers do are one run of acquisitions and drops (`Market.run_loans`), in
which every factory stays balanced at every point, and what a pass acquires is what is valid, meant for the host
and not left out for its name (`Market.run_settled`).
-/

namespace RouteBinding

open Property

/-- What is tried out is the content that is valid, meant for the host and not left out for its name. -/
theorem Intake.mem_probed {i : Intake} (h : i.WellFormed) {c : Content} : c ∈ i.contest.probed ↔
    (c ∈ i.roster.handlers ∨ c ∈ i.roster.interceptors) ∧ c.provider.isValid = true ∧
      c.provider.appliesTo i.host = true ∧ ¬i.contenders.LosesName c.provider := by
  have hhandlers := i.mem_contest_content h (k := .handler) (c := c)
  have hinterceptors := i.mem_contest_content h (k := .interceptor) (c := c)
  simp only [Provider.fits, Bool.and_eq_true, and_assoc] at hhandlers hinterceptors
  rw [Contest.probed, List.mem_append, or_comm]
  exact (or_congr hhandlers hinterceptors).trans or_and_right.symm

/-- Nothing is tried out twice. -/
theorem Intake.nodup_probed {i : Intake} (h : i.WellFormed) : (i.contest.probed.map Content.id).Nodup := by
  have hunique := (i.contest_within.trans (i.contenders_within.trans i.fit_within)).unique h.unique_entrants
  have hsplit : i.contest.roster.providers.map Provider.id = i.contest.roster.groups.map Group.id ++
      (i.contest.roster.handlers.map Content.id ++ i.contest.roster.interceptors.map Content.id) := by
    simp only [Roster.providers, List.map_append, List.map_map, List.append_assoc]
    rfl
  rw [hsplit] at hunique
  rw [Contest.probed, List.map_append]
  exact List.perm_append_comm.nodup_iff.1 (List.nodup_append.1 hunique).2.1

section

variable [Route.Routing]

namespace Dispatcher

variable {d e : Dispatcher} {a : Action}

/-- The content that is tried out during an action: that of the contest of the pass that begins, if one does. -/
def tried (d : Dispatcher) (a : Action) : List Content :=
  if (d.primed a).ready then (d.primed a).reading.contest.probed else []

theorem GaveUp.pool (h : d.GaveUp e) : e.pool = d.pool := by
  obtain ⟨_, _, _, _, rfl⟩ := h
  rfl

/-- While a pass is held, an action that does not release it uses no source. -/
theorem act_pool_of_held (hheld : d.running ≠ none) (ha : a ≠ .release) (hsupply : ∀ pool, a ≠ .supply pool) :
    (d.act a).pool = d.pool := by
  have hevent : ∀ c, d.registry.change a = some c → (d.act a).pool = d.pool := by
    intro c hc
    rw [act_event hc]
    split
    · next hopen =>
      rw [changed_held hheld hopen]
      rfl
    · rfl
  cases a with
  | upsert kind payload props => exact hevent _ rfl
  | removeDeclared kind props => exact hevent _ rfl
  | remove id => exact hevent _ rfl
  | trigger => exact hevent _ rfl
  | endBatch =>
      show d.endBatch.pool = d.pool
      unfold endBatch
      split
      · rfl
      · rw [drain_of_held (by exact hheld)]
  | close =>
      show d.close.2.pool = d.pool
      unfold close
      split
      · exact (expireAll_gaveUp _ hheld).pool
      · next hdone =>
        have hclosed : d.status = .closed := by simpa [Option.isSome_iff_ne_none.2 hheld] using hdone
        rw [closeOnce_of_closed hclosed]
  | closeLater =>
      show d.closeLater.pool = d.pool
      unfold closeLater
      split
      · rfl
      · next hdone =>
        have hclosed : d.status = .closed := by simpa [Option.isSome_iff_ne_none.2 hheld] using hdone
        rw [closeOnce_of_closed hclosed]
  | expireClose => exact (expireClose_gaveUp hheld).pool
  | release => exact absurd rfl ha
  | supply pool => exact absurd rfl (hsupply pool)
  | openBatch | holdNext | holdNone | tell | interfere => rfl

/-- Before a pass may begin, an action uses no source. -/
theorem primed_pool (hsupply : ∀ pool, a ≠ .supply pool) : (d.primed a).pool = d.pool := by
  by_cases hrelease : a = .release
  · subst hrelease
    unfold primed
    cases d.running with
    | none => rfl
    | some r => exact resume_pool r
  by_cases hclosing : a = .close ∨ a = .closeLater
  · rw [primed_closing hclosing]
    split
    · rfl
    · next hcloses =>
      by_cases hidle : d.running = none
      · have hdone := closeOnce_of_closed (closed_of_not_closes hclosing hidle hcloses)
        rcases hclosing with rfl | rfl
        · show d.close.2.pool = d.pool
          simp [close, hidle, hdone]
        · show d.closeLater.pool = d.pool
          simp [closeLater, hidle, hdone]
      · exact act_pool_of_held hidle hrelease hsupply
  · have hheld := act_pool_of_held (d := { d with running := some ⟨[], []⟩ }) (by simp) hrelease hsupply
    cases a with
    | release => exact absurd rfl hrelease
    | close => exact absurd (.inl rfl) hclosing
    | closeLater => exact absurd (.inr rfl) hclosing
    | _ => exact hheld

/-- A pass that begins tries out the content of its contest. -/
theorem drain_pool (d : Dispatcher) : d.drain.pool =
    (d.pool.probeAll (if d.ready then d.reading.contest.probed else [])).2 := by
  rw [drain_eq]
  split
  · rw [startPass_eq, goOn_pool]
    rfl
  · rfl

/-- All that an action does with the sources of content is to try out that of the pass that begins. -/
theorem Quiet.act_pool (h : d.Quiet) (hsupply : ∀ pool, a ≠ .supply pool) :
    (d.act a).pool = (d.pool.probeAll (d.tried a)).2 := by
  have hdrained : (d.primed a).drain.pool = (d.pool.probeAll (d.tried a)).2 := by
    rw [drain_pool, primed_pool hsupply]
    rfl
  by_cases hcloses : d.closes a
  · obtain ⟨-, waiting, closings, hact⟩ := act_closeNow h.ready hcloses
    rw [hact]
    exact hdrained
  · rwa [act_eq_drain h.ready h.closed hcloses]

end Dispatcher

/-! ### Which passes there are -/

/-- An action adds a pass to those of a history if one begins, and leaves what the others have read. -/
theorem Chronicle.act_readings {c : Chronicle} (h : c.state.running ≠ none → c.passes ≠ []) (a : Action) :
    (c.act a).passes.map Pass.reading =
      (if (c.state.primed a).ready then [(c.state.primed a).reading] else []) ++ c.passes.map Pass.reading := by
  have hcontinued : (c.continued a).map Pass.reading = c.passes.map Pass.reading := by
    rcases continued_cases h a with ⟨r, p, rest, -, -, hpasses, hresumed, -⟩ | ⟨-, hsame⟩
    · rw [hresumed, hpasses]
      rfl
    · rw [hsame]
  show (if (c.state.primed a).ready then .beginning (c.state.primed a) :: c.continued a
    else c.continued a).map Pass.reading = _
  split
  · rw [List.map_cons, hcontinued]
    rfl
  · exact hcontinued

namespace History

variable {settings : Settings} {content : Payload} (h : History settings content)

theorem extend_chronicle (a : Action) : (h.extend [a]).chronicle = h.chronicle.act a :=
  List.foldl_append

/-- The passes of a history that goes on with an action. -/
theorem extend_readings (a : Action) : (h.extend [a]).passes.map Pass.reading = h.passes.map Pass.reading ++
    if (h.final.state.primed a).ready then [(h.final.state.primed a).reading] else [] := by
  have hreached : h.chronicle.Reached True h.start := (h.chronicle_reached fun _ _ => .inr trivial).2
  have hacted := Chronicle.act_readings hreached.held a
  rw [h.chronicle_state] at hacted
  rw [passes, passes, List.map_reverse, List.map_reverse, extend_chronicle, hacted, List.reverse_append]
  split <;> rfl

/-- Wherever a pass begins, it reads registered providers, each under its own identity. -/
theorem primed_wellFormed {a : Action} (hready : (h.final.state.primed a).ready = true) :
    (h.final.state.primed a).intake.WellFormed := by
  have hread : (h.final.state.primed a).reading ∈ (h.extend [a]).passes.map Pass.reading := by
    rw [extend_readings, if_pos hready]
    simp
  obtain ⟨p, hp, hreading⟩ := List.mem_map.1 hread
  have htaken := ((h.extend [a]).standing_at hp).1
  rw [hreading] at htaken
  exact htaken.wellFormed

end History

/-! ### A dispatcher among other consumers -/

/-- A dispatcher with what happened to it, and the guards that consumers hold beside it. -/
structure Market (settings : Settings) (content : Payload) where
  history : History settings content
  held : List Guard := []

namespace Market

variable {settings : Settings} {content : Payload}

inductive Step where
  /-- A consumer uses the sources of content. -/
  | loan (move : Loans.Move)
  | act (a : Action)

/-- Whether a step uses the sources of content as programs do: none puts other sources in their place. -/
def Step.Fair : Step → Prop
  | .act (.supply _) => False
  | _ => True

/-- The sources of content and the guards that are held. -/
def loans (m : Market settings content) : Loans := ⟨m.history.final.state.pool, m.held⟩

def step (m : Market settings content) : Step → Market settings content
  | .loan move =>
    let loans := m.loans.move move
    ⟨m.history.extend [.supply loans.pool], loans.held⟩
  | .act a => { m with history := m.history.extend [a] }

def run (m : Market settings content) (steps : List Step) : Market settings content := steps.foldl step m

/-- The content that an action tries out. -/
def tried (m : Market settings content) (a : Action) : List Content := m.history.final.state.tried a

/-- What a step does with the sources of content. -/
def moves (m : Market settings content) : Step → List Loans.Move
  | .loan move => [move]
  | .act a => Loans.trial m.held.length ((m.tried a).map fun c => c.provider.payload)

/-- What some steps do with the sources of content. -/
def trace : Market settings content → List Step → List Loans.Move
  | _, [] => []
  | m, s :: rest => m.moves s ++ (m.step s).trace rest

/-- What an action acquires: the payload of what is tried out, each once, and nothing else. -/
structure Tries (m : Market settings content) (a : Action) : Prop where
  /-- The action begins a pass of the history exactly where it is ready to. -/
  passes : (m.step (.act a)).history.passes.map Pass.reading = m.history.passes.map Pass.reading ++
    if (m.history.final.state.primed a).ready then [(m.history.final.state.primed a).reading] else []
  /-- Where no pass begins, nothing is tried out. -/
  idle : (m.history.final.state.primed a).ready = false → m.tried a = []
  /-- Where a pass begins, it tries the handlers and interceptors that are valid, meant for the host and have not
  lost their name, whether or not a group selects them. -/
  content : (m.history.final.state.primed a).ready = true → ∀ c, c ∈ m.tried a ↔
    (c ∈ (m.history.final.state.primed a).intake.roster.handlers ∨
      c ∈ (m.history.final.state.primed a).intake.roster.interceptors) ∧
    c.provider.isValid = true ∧
    c.provider.appliesTo (m.history.final.state.primed a).intake.host = true ∧
    ¬(m.history.final.state.primed a).intake.contenders.LosesName c.provider
  once : ((m.tried a).map Content.id).Nodup
  /-- No guard is held for it afterwards. -/
  returned : m.loans.run (m.moves (.act a)) = ⟨(m.step (.act a)).loans.pool, m.held⟩
  /-- A factory is asked once for each of those that it makes, so one that makes none is left alone. -/
  factories : ∀ i, (m.step (.act a)).loans.pool.factories[i]? = m.loans.pool.factories[i]?.map
    (Factory.attempt^[(m.tried a).countP fun c => c.provider.payload == .made i])

/-- Whatever is done with the sources of content is accounted for. -/
structure Settled (start : Market settings content) (steps : List Step) : Prop where
  /-- What the steps leave of the sources and the guards is what their acquisitions and drops leave. -/
  exact : (start.run steps).loans = start.loans.run (start.trace steps)
  /-- At every point, also in the middle of a pass, a factory has handed out what it got back and what is held. -/
  balanced : ∀ before after, start.trace steps = before ++ after →
    ∀ i f, (start.loans.run before).pool.factories[i]? = some f →
      f.acquired = f.released + (start.loans.run before).heldOf i
  tries : ∀ before a after, steps = before ++ .act a :: after → (start.run before).Tries a

variable {m : Market settings content} {steps : List Step}

theorem step_act (m : Market settings content) (a : Action) :
    (m.step (.act a)).loans = ⟨(m.history.final.state.act a).pool, m.held⟩ := by
  show (⟨(m.history.extend [a]).final.state.pool, m.held⟩ : Loans) = _
  rw [History.extend_state]
  rfl

/-- A step leaves what its acquisitions and drops leave. -/
theorem step_loans (m : Market settings content) {s : Step} (hfair : s.Fair) :
    (m.step s).loans = m.loans.run (m.moves s) := by
  cases s with
  | loan move =>
      show (⟨(m.history.extend [.supply (m.loans.move move).pool]).final.state.pool,
        (m.loans.move move).held⟩ : Loans) = _
      rw [History.extend_state]
      rfl
  | act a =>
      have hsupply : ∀ pool, a ≠ .supply pool := by
        rintro pool rfl
        exact hfair
      have htrial := m.loans.run_trial (m.tried a)
      rw [step_act, m.history.final_quiet.1.act_pool hsupply]
      exact htrial.symm

/-- Some steps leave what their acquisitions and drops leave, one after the other. -/
theorem run_loans (m : Market settings content) (hfair : ∀ s ∈ steps, s.Fair) :
    (m.run steps).loans = m.loans.run (m.trace steps) := by
  induction steps generalizing m with
  | nil => rfl
  | cons s rest ih =>
      have hstep := m.step_loans (hfair s (by simp))
      have hrest := ih (m.step s) fun s hs => hfair s (by simp [hs])
      rw [trace, Loans.run_append, ← hstep]
      exact hrest

theorem tries (m : Market settings content) {a : Action} (hfair : (Step.act a).Fair) : m.Tries a where
  passes := m.history.extend_readings a
  idle := by
    intro hready
    simp [tried, Dispatcher.tried, hready]
  content := by
    intro hready c
    rw [tried, Dispatcher.tried, if_pos hready]
    exact Intake.mem_probed (m.history.primed_wellFormed hready)
  once := by
    rw [tried, Dispatcher.tried]
    split
    · next hready => exact Intake.nodup_probed (m.history.primed_wellFormed hready)
    · exact .nil
  returned := by
    rw [← m.step_loans hfair, step_act]
  factories := by
    intro i
    have htrial := m.loans.run_trial (m.tried a)
    rw [m.step_loans hfair, moves, show m.held.length = m.loans.held.length from rfl, htrial]
    exact Pool.probeAll_factories ..

/-- Whatever consumers acquire and drop beside a dispatcher, and whatever its passes decide, each factory has
handed out what it got back and what is held of it, and passes try out what takes part once and hold nothing. -/
theorem run_settled (host : Host.Recording) (pool : Pool) (steps : List Step)
    (hunused : ∀ f ∈ pool.factories, f.acquired = 0 ∧ f.released = 0) (hfair : ∀ s ∈ steps, s.Fair) :
    Settled (⟨⟨host, pool, []⟩, []⟩ : Market settings content) steps where
  exact := run_loans _ hfair
  balanced := by
    intro before after _ i f hf
    have hstart := Loans.Balanced.unused hunused
    exact (hstart.run before).account i f hf
  tries := by
    rintro before a after rfl
    exact tries _ (hfair _ (by simp))

end Market

end

namespace Market

/-- Sources that are ready, broken and not ready at first. -/
def bazaar : Market {} (.made 0) where
  history :=
    { host := {}
      pool :=
        { factories :=
            [⟨.ready (.ofList [.requestFilter]), 0, 0⟩, ⟨.broken, 0, 0⟩, ⟨.warming 1 .none, 0, 0⟩] }
      actions := [] }

/-- The first source is shared by the groups, a handler and a consumer that keeps a guard, while a pass tries out
content that is refused, is no extension, or is selected by no group. -/
def bargaining : List Market.Step :=
  let group : Map := .ofList [(Key.routeGroup, .flag true), (Key.path, .text "/a")]
  let handler : Map := .ofList [(Key.routeHandler, .flag true), (Key.select, .text "(path=/b)")]
  let interceptor : Map := .ofList [(Key.routeInterceptor, .flag true), (Key.select, .text "(path=/a)")]
  [.loan (.acquire (.made 0)), .act (.upsert .group (.made 0) group), .act .openBatch,
    .act (.upsert .handler (.made 0) handler), .act (.upsert .interceptor (.made 1) interceptor),
    .act (.upsert .interceptor (.made 2) interceptor), .act .endBatch, .loan (.build (.ready .none)),
    .loan (.acquire (.made 3)), .loan (.drop 0), .act .trigger, .act .close]

theorem bargaining_settled : (∀ f ∈ bazaar.history.pool.factories, f.acquired = 0 ∧ f.released = 0) ∧
    (∀ s ∈ bargaining, s.Fair) ∧ Settled bazaar bargaining ∧
    (bazaar.run bargaining).history.passes.length = 3 ∧
    (bazaar.run bargaining).loans.pool.factories.map (fun f => (f.acquired, f.released)) =
      [(3, 3), (0, 0), (1, 1), (1, 0)] ∧
    (bazaar.run bargaining).held.map Guard.factory = [some 3] := by
  have hunused : ∀ f ∈ bazaar.history.pool.factories, f.acquired = 0 ∧ f.released = 0 := by
    simp [bazaar]
  have hfair : ∀ s ∈ bargaining, s.Fair := by
    simp [bargaining, Step.Fair]
  exact ⟨hunused, hfair, run_settled {} bazaar.history.pool bargaining hunused hfair, by decide +kernel,
    by decide +kernel, by decide +kernel⟩

end Market

end RouteBinding
