import RouteBinding.Proofs.Run.Chronicle
import RouteBinding.Proofs.Run.Progress

/-!
# What a pass asks for

A pass first unregisters the registered groups that were removed and those that it does not want
(`Dispatcher.mem_clearAsks`, `Dispatcher.exists_clearAsk`), and then asks for what each group that it wants
is due, given what is recorded of it at that moment (`Pass.Traced.about_wanted`).
-/

namespace RouteBinding

variable [Route.Routing]

namespace Dispatcher

variable {d : Dispatcher} {r : Reading} {k : Ask} {g : Group} {id : ServiceId}

theorem started_rests (d : Dispatcher) : d.site.Rests d.started := ⟨rfl, rfl⟩

theorem surveyed_rests (d : Dispatcher) (r : Reading) :
    (d.started.unregisterEach d.removedIds).Rests (d.surveyed r) := ⟨rfl, rfl⟩

theorem started_inStep (hs : d.site.InStep) : d.started.InStep := hs.rests d.started_rests

theorem removed_trail (hs : d.site.InStep) (r : Reading) :
    Site.Trail d.site (d.started.unregisterAsks d.removedIds) (d.surveyed r) := by
  have hremoved := Site.unregisterEach_trail (started_inStep hs) d.removedIds
  have hrested := (Site.Trail.rests d.started_rests hremoved).append (.rests (d.surveyed_rests r) (.refl _))
  rwa [List.append_nil] at hrested

theorem surveyed_inStep (hs : d.site.InStep) (r : Reading) : (d.surveyed r).InStep :=
  ((removed_trail hs r).inStep hs).1

theorem cleared_trail (hs : d.site.InStep) (r : Reading) :
    Site.Trail d.site (d.clearAsks r) (d.cleared r) :=
  (removed_trail hs r).append (Site.unregisterEach_trail (surveyed_inStep hs r) (d.staleIds r))

theorem cleared_inStep (hs : d.site.InStep) (r : Reading) : (d.cleared r).InStep :=
  ((cleared_trail hs r).inStep hs).1

/-- What is registered once the removed groups have left was registered before. -/
theorem registered_of_surveyed (hs : d.site.InStep) (h : (d.surveyed r).registered.get? id = some g) :
    d.site.registered.get? id = some g :=
  Site.registered_of_unregisterEach (s := d.started) d.removedIds (started_inStep hs) h

theorem registered_of_cleared (hs : d.site.InStep) (h : (d.cleared r).registered.get? id = some g) :
    d.site.registered.get? id = some g :=
  registered_of_surveyed hs (Site.registered_of_unregisterEach _ (surveyed_inStep hs r) h)

theorem mem_staleIds : id ∈ d.staleIds r ↔ ((d.surveyed r).registered.get? id).isSome = true ∧
    id ∉ r.plan.map Group.id ∧ id ∉ d.removedIds := by
  simp [staleIds, Site.stale, Table.mem_keys, Option.isSome_iff_exists]

/-- A pass unregisters what is registered under the identities that were removed or are not wanted. -/
theorem mem_clearAsks (hs : d.site.InStep) (hk : k ∈ d.clearAsks r) : k.op = .unregister ∧
    k.known = some k.group ∧ d.site.registered.get? k.id = some k.group ∧
      (k.id ∈ d.removedIds ∨ k.id ∉ r.plan.map Group.id) := by
  rcases List.mem_append.1 hk with hremoved | hstale
  · obtain ⟨hop, hid, hknown, hstart⟩ := Site.mem_unregisterAsks (started_inStep hs) hremoved
    exact ⟨hop, hknown, hstart, .inl hid⟩
  · obtain ⟨hop, hid, hknown, hstart⟩ := Site.mem_unregisterAsks (surveyed_inStep hs r) hstale
    exact ⟨hop, hknown, registered_of_surveyed hs hstart, .inr (mem_staleIds.1 hid).2.1⟩

/-- None of them is left out. -/
theorem exists_clearAsk (hs : d.site.InStep) (hknown : d.site.registered.get? id = some g)
    (hid : id ∈ d.removedIds ∨ id ∉ r.plan.map Group.id) : asksAbout id (d.clearAsks r) ≠ [] := by
  unfold clearAsks
  rw [asksAbout_append]
  by_cases hremoved : id ∈ d.removedIds
  · have hfirst := Site.exists_unregisterAsk (started_inStep hs) hremoved hknown
    simp [hfirst]
  · -- It is still registered when the other groups have left, so it is stale.
    have hsame : (d.surveyed r).registered.get? id = some g :=
      (Site.unregisterEach_other d.removedIds (started_inStep hs) hremoved).trans hknown
    have hstale : id ∈ d.staleIds r :=
      mem_staleIds.2 ⟨by simp [hsame], hid.resolve_left hremoved, hremoved⟩
    have hthen := Site.exists_unregisterAsk (surveyed_inStep hs r) hstale hsame
    simp [hthen]

/-- A group that is wanted is left alone, unless it was removed and is registered. -/
theorem clearAsks_other (hs : d.site.InStep) (hplan : id ∈ r.plan.map Group.id)
    (hkept : id ∈ d.removedIds → d.site.registered.get? id = none) : asksAbout id (d.clearAsks r) = [] ∧
      (d.cleared r).registered.get? id = d.site.registered.get? id := by
  refine ⟨asksAbout_eq_nil.2 ?_, ?_⟩
  · rintro k hk rfl
    obtain ⟨-, -, hknown, hid⟩ := mem_clearAsks hs hk
    have hremoved := hid.resolve_right fun h => h hplan
    rw [hkept hremoved] at hknown
    cases hknown
  · cases hknown : d.site.registered.get? id with
    | none =>
        refine Option.eq_none_iff_forall_ne_some.2 fun g hg => ?_
        rw [registered_of_cleared hs hg] at hknown
        cases hknown
    | some g =>
        have hremoved : id ∉ d.removedIds := fun h => by simp [hkept h] at hknown
        have hstale : id ∉ d.staleIds r := fun h => (mem_staleIds.1 h).2.1 hplan
        rw [cleared_eq, Site.unregisterEach_other _ (surveyed_inStep hs r) hstale]
        exact (Site.unregisterEach_other _ (started_inStep hs) hremoved).trans hknown

end Dispatcher

namespace Pass.Traced

variable {p : Pass} {past : List Group} {served : List Ask} {k : Ask} {g : Group}

/-- The asks of a pass lead from where it began to where it stands. -/
theorem trail (h : p.Traced past served) (hs : p.opening.site.InStep) :
    Site.Trail p.opening.site p.asked p.standing.site := by
  have hserving := h.serving
  rw [Dispatcher.decided_site] at hserving
  rw [h.asked]
  exact (Dispatcher.cleared_trail hs p.reading).append hserving.trail

theorem decided_inStep (hs : p.opening.site.InStep) : p.opening.decided.site.InStep := by
  rw [Dispatcher.decided_site]
  exact Dispatcher.cleared_inStep hs _

theorem nodup_past (h : p.Traced past served) (hnodup : (p.wanted.map Group.id).Nodup) :
    (past.map Group.id).Nodup := by
  rw [h.wanted, List.map_append] at hnodup
  exact (List.nodup_append.1 hnodup).1

/-- The groups that a pass has not reached yet are others than those that it is past. -/
theorem not_mem_past (h : p.Traced past served) (hnodup : (p.wanted.map Group.id).Nodup)
    (hg : g ∈ p.standing.left) : g.id ∉ past.map Group.id := by
  rw [h.wanted, List.map_append] at hnodup
  exact fun hpast => (List.nodup_append.1 hnodup).2.2 _ hpast _ (List.mem_map_of_mem hg) rfl

theorem mem_past_iff (h : p.Traced past served) (hnodup : (p.wanted.map Group.id).Nodup)
    (hg : g ∈ p.wanted) : g ∈ past ↔ g ∉ p.standing.left := by
  refine ⟨fun hpast hleft => h.not_mem_past hnodup hleft (List.mem_map_of_mem hpast), fun hleft => ?_⟩
  rw [h.wanted] at hg
  exact (List.mem_append.1 hg).resolve_right hleft

/-- A group that is wanted is asked for what it is due, once its turn has come, unless it was removed and is
registered. -/
theorem about_wanted (h : p.Traced past served) (hs : p.opening.site.InStep)
    (hnodup : (p.wanted.map Group.id).Nodup) (hg : g ∈ p.wanted)
    (hkept : g.id ∈ p.removed → p.opening.site.registered.get? g.id = none) :
    (asksAbout g.id p.asked).map Ask.op =
      if g ∈ p.standing.left then [] else (g.due (p.opening.site.registered.get? g.id)).toList := by
  obtain ⟨hclear, hsame⟩ := Dispatcher.clearAsks_other hs (List.mem_map_of_mem hg) hkept
  rw [h.asked, asksAbout_append]
  have hclear : asksAbout g.id (p.opening.clearAsks p.reading) = [] := hclear
  rw [hclear, List.nil_append]
  by_cases hleft : g ∈ p.standing.left
  · rw [if_pos hleft, h.serving.about_absent (h.not_mem_past hnodup hleft)]
    rfl
  · have hpast := (h.mem_past_iff hnodup hg).2 hleft
    rw [if_neg hleft, h.serving.about_planned (decided_inStep hs) (h.nodup_past hnodup) hpast,
      Dispatcher.decided_site]
    exact congrArg (fun known => (g.due known).toList) hsame

end Pass.Traced

namespace History

variable {settings : Settings} {content : Payload} (h : History settings content) {p : Pass}

/-- What a pass of a history has read, and where it has come. -/
theorem standing_at (hp : p ∈ h.passes) : p.reading.Taken (implicit settings content) ∧
    p.standing.At p.reading ∧ p.standing.Published := by
  have hreached : h.chronicle.Reached True h.start := (h.chronicle_reached fun _ _ => .inr trivial).2
  have hmoves := hreached.standings p (List.mem_reverse.1 hp)
  obtain ⟨htaken, hat⟩ := (h.steady_of_moves hmoves).reached p.reading rfl
  have hpublished : p.standing.Published :=
    hmoves.preserve (P := fun t => t.state.Published) (fun _ _ => Dispatcher.published_move) fun _ => rfl
  exact ⟨htaken, hat, hpublished⟩

/-- What a pass of a history finds. -/
theorem opening_steady (hdriven : h.Driven) (hp : p ∈ h.passes) : p.opening.site.InStep ∧
    (∃ A : Archive, A.Covers p.opening) ∧ (p.wanted.map Group.id).Nodup ∧
      ∃ past served, p.Traced past served := by
  have hmem := hp
  have hp : p ∈ h.chronicle.passes := List.mem_reverse.1 hp
  have hreached : h.chronicle.Reached False h.start :=
    (h.chronicle_reached fun a ha => .inl (hdriven.2 a ha)).2
  obtain ⟨-, last, hmoves⟩ := hreached.openings p hp
  have hsteady := h.steady_of_moves hmoves
  exact ⟨h.inStep_of_moves hdriven hmoves, hsteady.covered,
    Reading.nodup_plan (h.standing_at hmem).1.wellFormed, (h.chronicle_linked hdriven.2).traced p hp⟩

end History

end RouteBinding
