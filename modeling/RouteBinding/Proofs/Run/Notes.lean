import RouteBinding.Proofs.Run.Chronicle

/-!
# What is noted is not read

A dispatcher notes what happens, and never reads what it has noted.  So two dispatchers that differ only in
their notices do the same (`Dispatcher.Like.resume`, `Dispatcher.Like.drain`).
-/

namespace RouteBinding

variable [Route.Routing]

namespace Site

/-- Two sites that differ only in what is noted. -/
def Like (s t : Site) : Prop := ∃ notices, t = { s with notices }

variable {s t : Site}

namespace Like

theorem refl (s : Site) : s.Like s := ⟨s.notices, rfl⟩

theorem symm (h : s.Like t) : t.Like s := by
  obtain ⟨l, rfl⟩ := h
  exact ⟨s.notices, rfl⟩

theorem trans {u : Site} (h : s.Like t) (k : t.Like u) : s.Like u := by
  obtain ⟨l, rfl⟩ := h
  obtain ⟨m, rfl⟩ := k
  exact ⟨m, rfl⟩

theorem note (h : s.Like t) (notices notices' : List Notice) : (s.note notices).Like (t.note notices') := by
  obtain ⟨l, rfl⟩ := h
  exact ⟨_, rfl⟩

theorem perform (h : s.Like t) (op : Host.Operation) (g : Group) :
    (t.perform op g).1 = (s.perform op g).1 ∧ (s.perform op g).2.Like (t.perform op g).2 := by
  obtain ⟨l, rfl⟩ := h
  unfold Site.perform
  dsimp only
  cases s.host.perform op g with
  | mk result host => cases result <;> exact ⟨rfl, _, rfl⟩

theorem announce (h : s.Like t) (op : Host.Operation) (g : Group) :
    (s.announce op g).Like (t.announce op g) := by
  obtain ⟨l, rfl⟩ := h
  exact ⟨l, rfl⟩

theorem unregister (h : s.Like t) (id : ServiceId) : (s.unregister id).Like (t.unregister id) := by
  have hregistered : t.registered.get? id = s.registered.get? id := by
    obtain ⟨l, rfl⟩ := h
    rfl
  unfold Site.unregister
  rw [hregistered]
  cases s.registered.get? id with
  | none => exact h
  | some g =>
      obtain ⟨hresult, hperformed⟩ := (h.announce .unregister g).perform .unregister g
      dsimp only
      cases hs : (s.announce .unregister g).perform .unregister g with
      | mk done s' =>
          cases ht : (t.announce .unregister g).perform .unregister g with
          | mk done' t' =>
              rw [hs, ht] at hresult hperformed
              obtain ⟨l, rfl⟩ := hperformed
              obtain rfl : done' = done := hresult
              cases done' <;> exact ⟨l, rfl⟩

theorem unregisterEach (h : s.Like t) (ids : List ServiceId) :
    (s.unregisterEach ids).Like (t.unregisterEach ids) := by
  induction ids generalizing s t with
  | nil => exact h
  | cons id rest ih => exact ih (h.unregister id)

theorem settle (h : s.Like t) (op : Host.Operation) (g : Group) : (s.settle op g).Like (t.settle op g) := by
  obtain ⟨hresult, hperformed⟩ := h.perform op { g with changed := true }
  unfold Site.settle
  cases hs : s.perform op { g with changed := true } with
  | mk done s' =>
      cases ht : t.perform op { g with changed := true } with
      | mk done' t' =>
          rw [hs, ht] at hresult hperformed
          obtain ⟨l, rfl⟩ := hperformed
          obtain rfl : done' = done := hresult
          cases done' <;> exact ⟨l, rfl⟩

theorem advance (h : s.Like t) (groups : List Group) :
    (t.advance groups).2 = (s.advance groups).2 ∧ (s.advance groups).1.Like (t.advance groups).1 := by
  induction groups generalizing s t with
  | nil => exact ⟨rfl, h⟩
  | cons g rest ih =>
      have hop : t.operationFor g = s.operationFor g := by
        obtain ⟨l, rfl⟩ := h
        rfl
      rw [advance_cons, advance_cons, hop]
      cases s.operationFor g with
      | none => exact ih h
      | some op =>
          have hannounced := h.announce op g.told
          have hholds : (t.announce op g.told).host.holds op g = (s.announce op g.told).host.holds op g := by
            obtain ⟨l, hl⟩ := hannounced
            rw [hl]
          dsimp only
          rw [hholds]
          split
          · obtain ⟨l, rfl⟩ := h
            exact ⟨rfl, l, rfl⟩
          · exact ih (hannounced.settle op g)

end Like

/-! ### Where nothing waits -/

theorem perform_gated (s : Site) (op : Host.Operation) (g : Group) :
    (s.perform op g).2.host.gated = s.host.gated := by
  unfold perform Host.Recording.perform
  cases s.host.outcome op g <;> rfl

theorem unregister_gated (s : Site) (id : ServiceId) : (s.unregister id).host.gated = s.host.gated := by
  unfold unregister
  cases s.registered.get? id with
  | none => rfl
  | some g =>
      have hperformed := perform_gated (s.announce .unregister g) .unregister g
      dsimp only
      cases hresult : (s.announce .unregister g).perform .unregister g with
      | mk done s' =>
          rw [hresult] at hperformed
          cases done <;> exact hperformed

theorem unregisterEach_gated (s : Site) (ids : List ServiceId) :
    (s.unregisterEach ids).host.gated = s.host.gated := by
  induction ids generalizing s with
  | nil => rfl
  | cons id rest ih => exact (ih _).trans (unregister_gated s id)

theorem settle_gated (s : Site) (op : Host.Operation) (g : Group) :
    (s.settle op g).host.gated = s.host.gated := by
  have hperformed := perform_gated s op { g with changed := true }
  unfold settle
  cases hresult : s.perform op { g with changed := true } with
  | mk done s' =>
      rw [hresult] at hperformed
      cases done <;> exact hperformed

/-- Where no registration waits, all groups are brought to the host; where one has, the next one does not
wait. -/
theorem advance_gated (s : Site) (groups : List Group) :
    (s.host.gated = false → (s.advance groups).2 = [] ∧ (s.advance groups).1.host.gated = false) ∧
      ((s.advance groups).2 ≠ [] → (s.advance groups).1.host.gated = false) := by
  induction groups generalizing s with
  | nil => exact ⟨fun h => ⟨rfl, h⟩, fun h => absurd rfl h⟩
  | cons g rest ih =>
      rw [advance_cons]
      cases s.operationFor g with
      | none => exact ih s
      | some op =>
          dsimp only
          by_cases hholds : (s.announce op g.told).host.holds op g = true
          · rw [if_pos hholds]
            have hgated : s.host.gated = true := by
              simp only [Host.Recording.holds, Bool.and_eq_true] at hholds
              exact hholds.1.1
            exact ⟨fun h => by simp [hgated] at h, fun _ => rfl⟩
          · rw [if_neg hholds]
            have hrest := ih ((s.announce op g.told).settle op g)
            rw [settle_gated] at hrest
            exact hrest

end Site

namespace Dispatcher

/-- Two dispatchers that differ only in what they have noted. -/
def Like (d e : Dispatcher) : Prop := ∃ site, d.site.Like site ∧ e = { d with site }

variable {d e f : Dispatcher}

namespace Like

theorem refl (d : Dispatcher) : d.Like d := ⟨d.site, .refl d.site, rfl⟩

theorem symm (h : d.Like e) : e.Like d := by
  obtain ⟨s, hs, rfl⟩ := h
  exact ⟨d.site, hs.symm, rfl⟩

theorem trans (h : d.Like e) (k : e.Like f) : d.Like f := by
  obtain ⟨s, hs, rfl⟩ := h
  obtain ⟨t, ht, rfl⟩ := k
  exact ⟨t, hs.trans ht, rfl⟩

theorem note (d : Dispatcher) (notices : List Notice) : d.Like (d.note notices) :=
  ⟨d.site.note notices, ⟨_, rfl⟩, rfl⟩

theorem finishPass (h : d.Like e) (failures : List FailedProvider) :
    (d.finishPass failures).Like (e.finishPass failures) := by
  obtain ⟨_, ⟨l, rfl⟩, rfl⟩ := h
  exact ⟨_, ⟨_, rfl⟩, rfl⟩

theorem goOn (h : d.Like e) (r : Running) : (d.goOn r).Like (e.goOn r) := by
  obtain ⟨s, hs, rfl⟩ := h
  obtain ⟨hleft, hsite⟩ := hs.advance r.left
  unfold Dispatcher.goOn
  dsimp only
  rw [hleft]
  split
  · exact finishPass ⟨_, hsite, rfl⟩ r.failures
  · exact ⟨_, hsite, rfl⟩

theorem retracted (h : d.Like e) : d.retracted.Like e.retracted := by
  obtain ⟨s, ⟨l, rfl⟩, rfl⟩ := h
  have hstarted : d.started.Like ({ d with site := { d.site with notices := l } } : Dispatcher).started :=
    ⟨_, rfl⟩
  exact (hstarted.unregisterEach d.removedIds).note _ _

theorem surveyed (h : d.Like e) (r : Reading) : (d.surveyed r).Like (e.surveyed r) := by
  unfold Dispatcher.surveyed
  exact h.retracted.note _ _

theorem cleared (h : d.Like e) (r : Reading) : (d.cleared r).Like (e.cleared r) := by
  have hsurveyed := h.surveyed r
  have hremoved : e.removedIds = d.removedIds := by
    obtain ⟨s, -, rfl⟩ := h
    rfl
  have hstale : e.staleIds r = d.staleIds r := by
    unfold staleIds
    rw [hremoved]
    obtain ⟨l, hl⟩ := hsurveyed
    rw [hl]
    rfl
  rw [cleared_eq, cleared_eq, hstale]
  exact hsurveyed.unregisterEach _

theorem decided (h : d.Like e) : d.decided.Like e.decided := by
  have hsite := h.cleared d.reading
  obtain ⟨s, ⟨l, rfl⟩, rfl⟩ := h
  have hprobe : ({ d with site := { d.site with notices := l } } : Dispatcher).probe = d.probe := rfl
  have hreading : ({ d with site := { d.site with notices := l } } : Dispatcher).reading = d.reading := by
    unfold reading
    rw [hprobe]
    rfl
  unfold Dispatcher.decided
  rw [hprobe, hreading]
  generalize d.reading.decision.default = chosen
  exact ⟨_, hsite, rfl⟩

theorem startPass (h : d.Like e) : d.startPass.Like e.startPass := by
  have hreading : e.reading = d.reading := by
    obtain ⟨s, ⟨l, rfl⟩, rfl⟩ := h
    rfl
  rw [startPass_eq, startPass_eq, hreading]
  exact h.decided.goOn _

theorem registry (h : d.Like e) : e.registry = d.registry := by
  obtain ⟨s, -, rfl⟩ := h
  rfl

theorem status (h : d.Like e) : e.status = d.status := by
  obtain ⟨s, -, rfl⟩ := h
  rfl

theorem begun (h : d.Like e) : e.begun = d.begun := by
  obtain ⟨s, -, rfl⟩ := h
  rfl

theorem ready (h : d.Like e) : e.ready = d.ready := by
  obtain ⟨s, -, rfl⟩ := h
  rfl

theorem drain (h : d.Like e) : d.drain.Like e.drain := by
  rw [drain_eq, drain_eq, h.ready]
  split
  · exact h.startPass
  · exact h

theorem resume (h : d.Like e) (r : Running) : (d.resume r).Like (e.resume r) := by
  cases hleft : r.left with
  | nil =>
      rw [resume_nil hleft, resume_nil hleft]
      exact h.finishPass r.failures
  | cons g rest =>
      rw [resume_cons hleft, resume_cons hleft]
      obtain ⟨s, hs, rfl⟩ := h
      exact goOn ⟨_, hs.settle .register g, rfl⟩ _

end Like

/-! ### Where no registration waits -/

theorem goOn_ungated (hgated : d.site.host.gated = false) (r : Running) :
    (d.goOn r).running = none ∧ (d.goOn r).passes = d.passes + 1 ∧
      (d.goOn r).site.host.gated = false := by
  obtain ⟨hleft, hstill⟩ := (Site.advance_gated d.site r.left).1 hgated
  unfold goOn
  dsimp only
  rw [hleft]
  exact ⟨rfl, rfl, hstill⟩

theorem startPass_ungated (hgated : d.site.host.gated = false) :
    d.startPass.running = none ∧ d.startPass.passes = d.passes + 1 ∧
      d.startPass.site.host.gated = false := by
  have hcleared : d.decided.site.host.gated = false := by
    rw [decided_site, cleared_eq, Site.unregisterEach_gated]
    exact (Site.unregisterEach_gated d.started d.removedIds).trans hgated
  rw [startPass_eq]
  exact goOn_ungated hcleared ⟨d.reading.plan, d.reading.failures⟩

theorem resume_ungated (hgated : d.site.host.gated = false) (r : Running) :
    (d.resume r).running = none ∧ (d.resume r).passes = d.passes + 1 ∧
      (d.resume r).site.host.gated = false := by
  cases hleft : r.left with
  | nil =>
      rw [resume_nil hleft]
      exact ⟨rfl, rfl, hgated⟩
  | cons g rest =>
      rw [resume_cons hleft]
      exact goOn_ungated ((Site.settle_gated d.site .register g).trans hgated) _

/-- Where a pass is held, the next registration does not wait. -/
theorem goOn_gated {r : Running} (hheld : (d.goOn r).running ≠ none) :
    (d.goOn r).site.host.gated = false := by
  have hadvanced := (Site.advance_gated d.site r.left).2
  unfold goOn at hheld ⊢
  dsimp only at hheld ⊢
  split at hheld
  · exact absurd rfl hheld
  · next hleft =>
    rw [if_neg hleft]
    exact hadvanced fun hnil => hleft (by rw [hnil]; rfl)

end Dispatcher

end RouteBinding
