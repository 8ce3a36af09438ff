import RouteBinding.Proofs.Pass.Accounting
import RouteBinding.Proofs.Run.Archive
import RouteBinding.Route.Served

/-!
# How far a pass has come

A pass brings the groups that it planned to the host one by one, and a group that the host serves under the
same fingerprint needs no call.  As long as none of its calls has failed, the groups it is past are
registered as planned and nothing is registered that it did not plan (`Site.Serves`, `Site.advance_serves`),
whatever calls had failed in the passes before.  So a dispatcher always stands at some point of what its
last pass read (`Dispatcher.At`, `Tracked.steady_move`), and between passes it shows what that pass has
found out: every live provider is accounted for exactly once (`Reading.accounted_once`).
-/

namespace RouteBinding

open Property

/-- Content that is not probed counts as broken. -/
theorem Pool.probeAll_unprobed {p : Pool} {l : List Content} {id : ServiceId}
    (h : id ∉ l.map Content.id) : (p.probeAll l).1 id = .error .broken := by
  induction l generalizing p with
  | nil => rfl
  | cons c rest ih =>
      rw [List.map_cons, List.mem_cons, not_or] at h
      show (if id = c.id then _ else ((p.probe c).2.probeAll rest).1 id) = _
      rw [if_neg h.1, ih h.2]

/-- A reading as a pass makes it. -/
structure Reading.Taken (own : Option Group) (r : Reading) : Prop where
  implicit : r.intake.implicit = own
  wellFormed : r.intake.WellFormed
  /-- Only the content of the contest was probed. -/
  unprobed : ∀ id, id ∉ r.contest.probed.map Content.id → r.outcomes id = .error .broken

namespace History

variable {settings : Settings} {content : Payload}

/-- The implicit default group of a new dispatcher. -/
def implicit (settings : Settings) (content : Payload) : Option Group :=
  if settings.implicitDefault then some (.implicitDefault settings.defaultPath content) else none

theorem implicit_eq : ∀ g ∈ implicit settings content, ∃ path content, g = .implicitDefault path content := by
  unfold implicit
  intro g hg
  split at hg
  · exact ⟨_, _, (Option.some.inj hg).symm⟩
  · cases hg

end History

section

variable [Route.Routing]

namespace Site

/-- Some groups are registered as planned, and nothing is registered that is not planned. -/
structure Serves (s : Site) (plan done : List Group) : Prop where
  /-- The groups are registered. -/
  done : ∀ g ∈ done, s.registered.get? g.id = some g.settled
  /-- Nothing else than the plan is. -/
  only : ∀ id, id ∉ plan.map Group.id → s.registered.get? id = none

variable {s t : Site} {plan done rest : List Group} {g : Group}

theorem Serves.still (h : s.Serves plan done) (hregistered : t.registered = s.registered) :
    t.Serves plan done := by
  refine ⟨?_, ?_⟩ <;> rw [hregistered]
  · exact h.done
  · exact h.only

/-- A group that is registered as planned is done. -/
theorem Serves.known (h : s.Serves plan done) (hknown : s.registered.get? g.id = some g.settled) :
    s.Serves plan (done ++ [g]) := by
  refine ⟨?_, h.only⟩
  intro g' hg'
  rcases List.mem_append.1 hg' with hdone | hlast
  · exact h.done g' hdone
  · rw [List.mem_singleton.1 hlast]
    exact hknown

/-- So is a group that is brought to the host, and it takes the place of no other. -/
theorem Serves.served (h : s.Serves plan done) (hnodup : (plan.map Group.id).Nodup)
    (hplan : plan = done ++ g :: rest) {m : Host.Mounted} (k : s.Served t g m) :
    t.Serves plan (done ++ [g]) := by
  rw [hplan, List.map_append, List.map_cons] at hnodup
  have hapart := (List.nodup_append.1 hnodup).2.2
  refine ⟨?_, ?_⟩
  · intro g' hg'
    rw [k.registered, Table.get?_insert]
    rcases List.mem_append.1 hg' with hdone | hlast
    · have hne : g'.id ≠ g.id := hapart _ (List.mem_map_of_mem hdone) _ (List.mem_cons_self ..)
      rw [if_neg hne]
      exact h.done g' hdone
    · rw [List.mem_singleton.1 hlast, if_pos rfl]
  · intro id hid
    -- The group is planned, and this identity is not.
    have hne : id ≠ g.id := by
      rintro rfl
      refine hid (List.mem_map_of_mem ?_)
      rw [hplan]
      exact List.mem_append_right _ (List.mem_cons_self ..)
    rw [k.registered, Table.get?_insert, if_neg hne]
    exact h.only id hid

/-! ### Taking groups from the host -/

/-- Where no call fails, an identity that is unregistered is registered no more. -/
theorem unregister_clears {id : ServiceId} (h : (s.unregister id).report.failedCalls = 0) :
    s.report.failedCalls = 0 ∧ ∀ j, (s.unregister id).registered.get? j =
      if j = id then none else s.registered.get? j := by
  cases hknown : s.registered.get? id with
  | none =>
      rw [unregister_absent hknown] at h ⊢
      refine ⟨h, fun j => ?_⟩
      by_cases hj : j = id
      · rw [if_pos hj, hj, hknown]
      · rw [if_neg hj]
  | some g =>
      -- A call that fails would be counted.
      rcases unregister_known hknown with hfailed | hdone
      · rw [hfailed.failedCalls] at h
        cases h
      · refine ⟨hdone.failedCalls ▸ h, fun j => ?_⟩
        rw [hdone.registered, Table.get?_erase]

theorem unregisterEach_clears {ids : List ServiceId}
    (h : (s.unregisterEach ids).report.failedCalls = 0) :
    s.report.failedCalls = 0 ∧ ∀ j, (s.unregisterEach ids).registered.get? j =
      if j ∈ ids then none else s.registered.get? j := by
  induction ids generalizing s with
  | nil => exact ⟨h, fun j => rfl⟩
  | cons id rest ih =>
      obtain ⟨hfirst, hrest⟩ := ih h
      obtain ⟨hbefore, hid⟩ := unregister_clears hfirst
      refine ⟨hbefore, fun j => ?_⟩
      have hstep : (s.unregisterEach (id :: rest)).registered.get? j = _ := hrest j
      rw [hstep, hid]
      by_cases hj : j = id
      · simp [hj]
      · simp [hj]

/-! ### Bringing groups to the host -/

/-- A group for which the host need not be asked is registered as planned. -/
theorem known_of_operationFor {A : Archive} {bound : Nat} (hop : s.operationFor g = none)
    (hg : A.Holds bound g) (hremembers : A.Remembers bound s) :
    s.registered.get? g.id = some g.settled := by
  unfold operationFor at hop
  cases hknown : s.registered.get? g.id with
  | none =>
      rw [hknown] at hop
      dsimp only at hop
      split at hop <;> cases hop
  | some known =>
      rw [hknown] at hop
      dsimp only at hop
      obtain ⟨hholds, hsettled⟩ := hremembers g.id known hknown
      -- Only an equal fingerprint leaves nothing to ask, and then the two are one group.
      by_cases hfingerprint : known.fingerprint = g.fingerprint
      · rw [← hsettled, hholds.settled_eq hg hfingerprint]
      · rw [if_neg hfingerprint] at hop
        cases hop

/-- Bringing groups to the host gets past some of them.  Where no call fails they are done. -/
theorem advance_serves {A : Archive} {bound : Nat} {todo : List Group} (hplan : plan = done ++ todo)
    (hnodup : (plan.map Group.id).Nodup) (htodo : ∀ g ∈ todo, A.Holds bound g)
    (hremembers : A.Remembers bound s) :
    ∃ more, plan = (done ++ more) ++ (s.advance todo).2 ∧
      ((s.advance todo).1.report.failedCalls = 0 → s.report.failedCalls = 0 ∧
        (s.Serves plan done → (s.advance todo).1.Serves plan (done ++ more))) := by
  -- The groups that are done stand in front of those that are left.
  induction todo generalizing s done with
  | nil =>
      refine ⟨[], ?_, ?_⟩
      · rw [List.append_nil, hplan]
        rfl
      · rw [List.append_nil]
        exact fun h => ⟨h, fun hserves => hserves⟩
  | cons g rest ih =>
      have hnext : plan = (done ++ [g]) ++ rest := by rw [hplan, List.append_assoc]; rfl
      have hg : A.Holds bound g := htodo g (List.mem_cons_self ..)
      have hrest : ∀ g ∈ rest, A.Holds bound g := fun g' hg' => htodo g' (List.mem_cons_of_mem g hg')
      rw [advance_cons]
      cases hop : s.operationFor g with
      | none =>
          have hknown := known_of_operationFor hop hg hremembers
          obtain ⟨more, hleft, hdone⟩ := ih hnext hrest hremembers
          refine ⟨g :: more, ?_, fun hnone => ?_⟩
          · rw [hleft]
            simp only [List.append_assoc, List.cons_append, List.nil_append]
          · obtain ⟨hbefore, hafter⟩ := hdone hnone
            refine ⟨hbefore, fun hserves => ?_⟩
            have hserved := hafter (hserves.known hknown)
            rwa [List.append_assoc] at hserved
      | some op =>
          dsimp only
          by_cases hholds : (s.announce op g.told).host.holds op g = true
          · rw [if_pos hholds]
            -- The call has to wait, and its group is the first of those that are left.
            refine ⟨[], ?_, fun hnone => ⟨hnone, fun hserves => ?_⟩⟩
            · rw [List.append_nil, hplan]
            · rw [List.append_nil]
              exact hserves.still rfl
          · rw [if_neg hholds]
            have hcall : Call [g] (s.announce op g.told) ((s.announce op g.told).settle op g) :=
              settle_call _ (operationFor_ne hop) (List.mem_cons_self ..)
            have hannounced : A.Remembers bound (s.announce op g.told) := hremembers
            have hsettled := hannounced.call (by simpa using hg) hcall
            obtain ⟨more, hleft, hdone⟩ := ih hnext hrest hsettled
            refine ⟨g :: more, ?_, fun hnone => ?_⟩
            · rw [hleft]
              simp only [List.append_assoc, List.cons_append, List.nil_append]
            · obtain ⟨hbefore, hafter⟩ := hdone hnone
              -- A call that fails would be counted until the pass ends.
              rcases settle_cases (s.announce op g.told) (operationFor_ne hop) g with hfailed | ⟨m, hserved⟩
              · rw [hfailed.failedCalls] at hbefore
                cases hbefore
              · refine ⟨hserved.failedCalls ▸ hbefore, fun hserves => ?_⟩
                have hstill : (s.announce op g.told).Serves plan done := hserves.still rfl
                have hthen := hafter (hstill.served hnodup hplan hserved)
                rwa [List.append_assoc] at hthen

end Site

namespace Dispatcher

variable {d : Dispatcher} {r : Reading}

/-- A dispatcher stands at some point of a pass: the pass is over and has published what it found, or it is
held with some of the groups behind it. -/
structure At (d : Dispatcher) (r : Reading) : Prop where
  /-- The default group is the one that was chosen. -/
  default : d.default = r.decision.default
  /-- A pass that is over has published its failures, and all is done unless a call failed. -/
  ended : d.running = none → d.failures = r.snapshot ∧
    (d.site.report.failedCalls = 0 → d.site.Serves r.plan r.plan)
  /-- A pass that is held will publish its failures, and what it is past is done unless a call failed. -/
  held : ∀ run, d.running = some run → run.failures = r.failures ∧ ∃ done, r.plan = done ++ run.left ∧
    (d.site.report.failedCalls = 0 → d.site.Serves r.plan done)

/-- Where a dispatcher stands is told by what it has published, what is held and what is registered. -/
theorem At.congr {e : Dispatcher} (h : d.At r) (hdefault : e.default = d.default)
    (hfailures : e.failures = d.failures) (hrunning : e.running = d.running)
    (hregistered : e.site.registered = d.site.registered)
    (hfailedCalls : e.site.report.failedCalls = d.site.report.failedCalls) : e.At r := by
  refine ⟨hdefault.trans h.default, ?_, ?_⟩
  · rw [hrunning, hfailures, hfailedCalls]
    intro hidle
    exact ⟨(h.ended hidle).1, fun hnone => ((h.ended hidle).2 hnone).still hregistered⟩
  · rw [hrunning, hfailedCalls]
    intro run hheld
    obtain ⟨hsame, done, hplan, hserves⟩ := h.held run hheld
    exact ⟨hsame, done, hplan, fun hnone => (hserves hnone).still hregistered⟩

theorem retracted_clears (h : d.retracted.report.failedCalls = 0) (id : ServiceId) :
    d.retracted.registered.get? id = if id ∈ d.removedIds then none else d.site.registered.get? id :=
  (Site.unregisterEach_clears h).2 id

/-- Once the groups that were removed or are no longer to be served have left the host, nothing is
registered that is not planned. -/
theorem cleared_serves (h : (d.cleared r).report.failedCalls = 0) :
    (d.cleared r).Serves r.plan [] := by
  unfold cleared at h ⊢
  dsimp only at h ⊢
  obtain ⟨hretracted, hstale⟩ := Site.unregisterEach_clears h
  have hremoved := retracted_clears hretracted
  refine ⟨?_, ?_⟩
  · intro g hg
    cases hg
  · intro id hid
    rw [hstale]
    by_cases hknown : id ∈ d.retracted.registered.keys
    · -- It is neither planned nor removed, so it is stale.
      have hkept : id ∉ d.removedIds := by
        intro hmem
        obtain ⟨g, hg⟩ := Table.mem_keys.1 hknown
        rw [hremoved, if_pos hmem] at hg
        cases hg
      rw [if_pos]
      refine List.mem_filter.2 ⟨hknown, ?_⟩
      simpa [hid] using hkept
    · split
      · rfl
      · show d.retracted.registered.get? id = none
        refine Option.eq_none_iff_forall_ne_some.2 fun g hg => hknown (Table.mem_keys.2 ⟨g, hg⟩)

/-- A pass that ends has published what it was to publish. -/
theorem finishPass_at (hdefault : d.default = r.decision.default)
    (hserves : d.site.report.failedCalls = 0 → d.site.Serves r.plan r.plan) :
    (d.finishPass r.failures).At r := by
  generalize hfailures : r.failures = failures
  refine ⟨hdefault, fun _ => ⟨?_, fun hnone => (hserves hnone).still rfl⟩, ?_⟩
  · rw [Reading.snapshot, hfailures]
    rfl
  · intro run hnone
    cases hnone

/-- A pass goes on from where it stands. -/
theorem goOn_at {A : Archive} {done left : List Group} (hcovers : A.Covers d)
    (hnodup : (r.plan.map Group.id).Nodup) (hdefault : d.default = r.decision.default)
    (hplan : r.plan = done ++ left) (hleft : ∀ g ∈ left, A.Holds d.registry.nextRevision g)
    (hserves : d.site.report.failedCalls = 0 → d.site.Serves r.plan done) :
    (d.goOn ⟨left, r.failures⟩).At r := by
  obtain ⟨more, hmore, hdone⟩ := Site.advance_serves hplan hnodup hleft hcovers.registered
  have hpast : (d.site.advance left).1.report.failedCalls = 0 →
      (d.site.advance left).1.Serves r.plan (done ++ more) := by
    intro hnone
    obtain ⟨hbefore, hafter⟩ := hdone hnone
    exact hafter (hserves hbefore)
  unfold goOn
  dsimp only
  split
  · next hempty =>
    rw [List.isEmpty_iff.1 hempty, List.append_nil] at hmore
    rw [← hmore] at hpast
    exact finishPass_at hdefault hpast
  · refine ⟨hdefault, ?_, ?_⟩
    · intro hnone
      cases hnone
    · intro run hheld
      obtain rfl := Option.some.inj hheld
      exact ⟨rfl, done ++ more, hmore, hpast⟩

theorem startPass_at {A : Archive} (hcovers : A.Covers d) (hread : d.reading.intake.WellFormed) :
    d.startPass.At d.reading := by
  have hnodup := Reading.nodup_plan hread
  have hplan := hcovers.plan
  rw [← decided_nextRevision] at hplan
  rw [startPass_eq]
  refine goOn_at hcovers.decided hnodup d.decided_default (List.nil_append _).symm hplan ?_
  rw [decided_site]
  exact cleared_serves

theorem resume_at {A : Archive} {run : Running} (h : d.At r) (hcovers : A.Covers d)
    (hread : r.intake.WellFormed) (hheld : d.running = some run) : (d.resume run).At r := by
  obtain ⟨hfailures, done, hplan, hserves⟩ := h.held run hheld
  cases hleft : run.left with
  | nil =>
      rw [hleft, List.append_nil] at hplan
      rw [← hplan] at hserves
      rw [resume_nil hleft, hfailures]
      exact finishPass_at h.default hserves
  | cons g rest =>
      have hunheld := hcovers.unheld hheld hleft
      have hnodup := Reading.nodup_plan hread
      have hrest : ∀ g' ∈ rest, A.Holds d.registry.nextRevision g' := by
        intro g' hg'
        exact hcovers.left run hheld g' (hleft ▸ List.mem_cons_of_mem g hg')
      rw [hleft] at hplan
      -- The call that waited is made first, and brings one group more behind the pass.
      have hnext : r.plan = (done ++ [g]) ++ rest := by rw [hplan, List.append_assoc]; rfl
      rw [resume_cons hleft, hfailures]
      refine goOn_at hunheld hnodup h.default hnext hrest fun hnone => ?_
      have hop : Host.Operation.register ≠ .unregister := by decide
      rcases Site.settle_cases d.site hop g with hfailed | ⟨m, hserved⟩
      · have hone : (d.unheld g).site.report.failedCalls = _ := hfailed.failedCalls
        rw [hone] at hnone
        cases hnone
      · have hbefore : d.site.report.failedCalls = 0 := hserved.failedCalls ▸ hnone
        exact (hserves hbefore).served hnodup hplan hserved

end Dispatcher

/-- A tracked dispatcher as its moves leave it: its registry is sound, an archive has all that it knows, and
it stands at some point of what its last pass read. -/
structure Tracked.Steady (own : Option Group) (t : Tracked) : Prop where
  implicit : t.state.implicit = own
  sound : t.state.registry.Sound
  covered : ∃ A : Archive, A.Covers t.state
  /-- A pass that is held has read something. -/
  begun : t.last = none → t.state.running = none
  /-- The dispatcher stands at some point of the last pass. -/
  reached : ∀ r ∈ t.last, r.Taken own ∧ t.state.At r

namespace Tracked

variable {own : Option Group} {shared : Prop} {t u : Tracked}

/-- Every move of a tracked dispatcher leaves it so. -/
theorem steady_move (hown : ∀ g ∈ own, ∃ path content, g = .implicitDefault path content)
    (h : t.Steady own) (hmove : Move shared t u) : u.Steady own := by
  have hcovered := Archive.covers_move h.covered hmove
  cases hmove with
  | aside k =>
      refine ⟨k.implicit.trans h.implicit, k.registry ▸ h.sound, hcovered, ?_, ?_⟩
      · intro hnone
        exact k.running.trans (h.begun hnone)
      · intro r hr
        obtain ⟨htaken, hat⟩ := h.reached r hr
        have hfailedCalls := congrArg Report.failedCalls k.report
        exact ⟨htaken, hat.congr k.default k.failures k.running k.registered hfailedCalls⟩
  | registers d last kind payload props =>
      refine ⟨h.implicit, h.sound.upsert kind payload props, hcovered, h.begun, ?_⟩
      intro r hr
      obtain ⟨htaken, hat⟩ := h.reached r hr
      exact ⟨htaken, hat.congr rfl rfl rfl rfl rfl⟩
  | removes d last kind id =>
      refine ⟨h.implicit, h.sound.remove kind id, hcovered, h.begun, ?_⟩
      intro r hr
      obtain ⟨htaken, hat⟩ := h.reached r hr
      exact ⟨htaken, hat.congr rfl rfl rfl rfl rfl⟩
  | begins d last hidle =>
      obtain ⟨A, hcovers⟩ := h.covered
      dsimp only at hcovered
      have himplicit : d.implicit = own := h.implicit
      -- The pass reads a registry as its operations leave it.
      have hformed : d.reading.intake.WellFormed :=
        ⟨h.sound.live_wellFormed, fun g hg => hown g (himplicit ▸ hg)⟩
      refine ⟨?_, ?_, ?_, ?_, ?_⟩
      · dsimp only
        rw [Dispatcher.startPass_implicit]
        exact himplicit
      · dsimp only
        rw [Dispatcher.startPass_registry]
        exact h.sound.drain
      · dsimp only
        exact hcovered
      · intro hnone
        cases hnone
      · intro r hr
        obtain rfl := Option.some.inj hr
        dsimp only
        have htaken : d.reading.Taken own := ⟨himplicit, hformed, fun _ => Pool.probeAll_unprobed⟩
        exact ⟨htaken, Dispatcher.startPass_at hcovers hformed⟩
  | resumes d last run hheld =>
      obtain ⟨A, hcovers⟩ := h.covered
      dsimp only at hcovered hcovers
      refine ⟨?_, ?_, ?_, ?_, ?_⟩
      · dsimp only
        rw [Dispatcher.resume_implicit]
        exact h.implicit
      · dsimp only
        rw [Dispatcher.resume_registry]
        exact h.sound
      · dsimp only
        exact hcovered
      · intro hnone
        -- A pass that is held has begun, so something was read.
        have hidle : d.running = none := h.begun hnone
        rw [hheld] at hidle
        cases hidle
      · intro r hr
        obtain ⟨htaken, hat⟩ := h.reached r hr
        dsimp only at hat ⊢
        exact ⟨htaken, Dispatcher.resume_at hat hcovers htaken.wellFormed hheld⟩
  | interferes d last mounted hshared =>
      refine ⟨h.implicit, h.sound, hcovered, h.begun, ?_⟩
      intro r hr
      obtain ⟨htaken, hat⟩ := h.reached r hr
      exact ⟨htaken, hat.congr rfl rfl rfl rfl rfl⟩

end Tracked

namespace History

variable {settings : Settings} {content : Payload}

theorem start_steady (h : History settings content) : h.start.Steady (implicit settings content) := by
  -- At the start only the implicit default group is known.
  let A : Archive :=
    ⟨fun _ => ((implicit settings content).getD default).bare, fun _ => default⟩
  have hcovers : A.Covers h.start.state := by
    refine ⟨?_, ?_, ?_, ?_, ?_⟩
    · intro g hg
      cases hg
    · intro k c hc
      cases k <;> cases hc
    · intro g hg
      have hg : implicit settings content = some g := hg
      obtain ⟨path, payload, rfl⟩ := implicit_eq g hg
      refine ⟨Nat.one_pos, ?_, ?_⟩
      · show ((implicit settings content).getD default).bare = _
        rw [hg]
        rfl
      · intro c hc
        cases hc
    · intro id g hg
      cases hg
    · intro r hr
      cases hr
  refine ⟨rfl, Registry.empty_sound, ⟨A, hcovers⟩, fun _ => rfl, ?_⟩
  intro r hr
  cases hr

/-- A dispatcher stays steady along every chain of moves. -/
theorem steady_of_moves (h : History settings content) {shared : Prop} {t : Tracked}
    (hmoves : Moves shared h.start t) : t.Steady (implicit settings content) :=
  hmoves.preserve (fun _ _ => Tracked.steady_move implicit_eq) h.start_steady

theorem steady (h : History settings content) (hopen : h.final.state.status ≠ .closed) :
    h.final.Steady (implicit settings content) :=
  final_of_moves hopen h.start_steady fun _ _ => Tracked.steady_move implicit_eq

/-- Between passes a dispatcher shows the failures that the last pass has found. -/
theorem failures_eq (h : History settings content) {r : Reading} (hopen : h.final.state.status ≠ .closed)
    (hidle : h.final.state.running = none) (hlast : h.final.last = some r) :
    h.final.state.failures = r.snapshot :=
  (((h.steady hopen).reached r hlast).2.ended hidle).1

end History

/-- Every live provider is accounted for exactly once, nothing else is reported, and this is what a
dispatcher shows whose last pass is over and has read this. -/
theorem Reading.accounted_once {r : Reading} (h : r.intake.WellFormed) :
    (∀ p ∈ r.intake.roster.providers, ∃! fate, r.Fares p fate) ∧
      (∀ f ∈ r.snapshot.toList, f.id ≠ ServiceId.implicitDefault ∧
        ∃ p ∈ r.intake.roster.providers, ∃ reason, f = p.failed reason) ∧
      ∀ (settings : Settings) (content : Payload) (p : History settings content),
        p.final.state.status ≠ .closed → p.final.state.running = none → p.final.last = some r →
          p.final.state.failures = r.snapshot := by
  refine ⟨?_, ?_, ?_⟩
  · intro p hp
    exact provider_fate h hp
  · intro f hf
    exact live_of_published h hf
  · intro settings content p hopen hidle hlast
    exact p.failures_eq hopen hidle hlast

end

/-- A group, an interceptor for it and a handler that requires this interceptor are registered, and an
interceptor that requires what nothing offers. -/
def History.mixed : History {} (.shared 0 .plain) where
  host := {}
  pool := {}
  actions :=
    let filter (c : Contract) : Payload := .shared 1 (.marker (.ofList [c]))
    let select : String × Value := (Key.select, .text "(path=/api)")
    [.upsert .group (.shared 0 .plain) (.ofList [(Key.routeGroup, .flag true), (Key.path, .text "/api")]),
      .upsert .interceptor (filter .requestFilter)
        (.ofList [(Key.routeInterceptor, .flag true), select, ("scheme", .text "basic")]),
      .upsert .handler (.shared 2 .plain)
        (.ofList [(Key.routeHandler, .flag true), select, (Key.requires, .text "(scheme=basic)")]),
      .upsert .interceptor (filter .writer)
        (.ofList [(Key.routeInterceptor, .flag true), select, (Key.requires, .text "(scheme=digest)")])]

/-- There one interceptor is reported, and the other providers are placed. -/
theorem Reading.mixed_accounted_once : ∃ r : Reading, r.intake.WellFormed ∧
    History.mixed.final.last = some r ∧ r.intake.roster.providers.map Provider.id = [1, 3, 2, 4] ∧
      (∀ p ∈ r.intake.roster.providers, ∃! fate, r.Fares p fate) ∧
      History.mixed.final.state.failures = r.snapshot ∧
      History.mixed.final.state.failures =
        ⟨[], [], [⟨4, ".generated.interceptor.4", .interceptor, .extensionsUnavailable⟩]⟩ := by
  obtain ⟨hopen, hidle, hread, hids, hshown⟩ : History.mixed.final.state.status ≠ .closed ∧
      History.mixed.final.state.running = none ∧ History.mixed.final.last.isSome = true ∧
      (History.mixed.final.last.getD default).intake.roster.providers.map Provider.id = [1, 3, 2, 4] ∧
      History.mixed.final.state.failures =
        ⟨[], [], [⟨4, ".generated.interceptor.4", .interceptor, .extensionsUnavailable⟩]⟩ := by
    decide +kernel
  obtain ⟨r, hlast⟩ := Option.isSome_iff_exists.1 hread
  rw [hlast, Option.getD_some] at hids
  have hformed : r.intake.WellFormed := ((History.mixed.steady hopen).reached r hlast).1.wellFormed
  obtain ⟨hfates, -, hpublished⟩ := accounted_once hformed
  exact ⟨r, hformed, hlast, hids, hfates, hpublished _ _ History.mixed hopen hidle hlast, hshown⟩

end RouteBinding
