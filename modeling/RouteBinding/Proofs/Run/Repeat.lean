import RouteBinding.Proofs.Run.Justified
import RouteBinding.Proofs.Run.Renewal

/-!
# Repeating a pass

A pass that reads what the pass before it has read only tries again what has failed.  For each identity both
sides follow from the last call that the first pass has made about it: what this call has left tells what the
next pass will ask for (`Pass.Traced.next_eq`), and a pass before which nothing was removed asks for just that
(`Pass.Traced.about_unremoved`).  So the second pass makes one call of the same kind where that call failed,
and no other (`History.repeat_retries`).
-/

namespace RouteBinding

open Host

theorem Group.due_ne {g : Group} {known : Option Group} {op : Operation} (h : g.due known = some op) :
    op ≠ .unregister := by
  unfold Group.due at h
  rintro rfl
  split at h
  · split at h <;> cases h
  · cases h

section

variable [Route.Routing]

/-- What is to be asked for an identity, given a plan and what is recorded of it. -/
def nextOperations (plan : List Group) (id : ServiceId) (known : Option Group) : List Operation :=
  match plan.find? fun g => g.id == id with
  | some g => (g.due known).toList
  | none => if known.isSome then [.unregister] else []

/-- What has to be tried again after some calls: the last one, if it failed. -/
def retries (l : List Ask) : List Operation :=
  match l.getLast? with
  | some k => if k.failed then [k.op] else []
  | none => []

namespace Site

variable {s : Site} {id : ServiceId}

theorem length_asksAbout (l : List Ask) : (asksAbout id l).length = (l.map Ask.id).count id := by
  rw [asksAbout, List.count, List.countP_map, List.countP_eq_length_filter]
  rfl

/-- Each registered identity is asked for once, where all that are listed differ. -/
theorem unregisterAsks_about {ids : List ServiceId} (hs : s.InStep) (hnodup : ids.Nodup) (hid : id ∈ ids)
    (hknown : (s.registered.get? id).isSome = true) :
    (asksAbout id (s.unregisterAsks ids)).map Ask.op = [.unregister] := by
  have hops : ∀ k ∈ asksAbout id (s.unregisterAsks ids), k.op = .unregister := fun k hk =>
    (mem_unregisterAsks hs (mem_asksAbout.1 hk).1).1
  have hone : (asksAbout id (s.unregisterAsks ids)).length = 1 := by
    rw [length_asksAbout, unregisterAsks_ids hs hnodup]
    exact List.count_eq_one_of_mem (hnodup.filter _) (List.mem_filter.2 ⟨hid, hknown⟩)
  obtain ⟨k, hk⟩ := List.length_eq_one_iff.1 hone
  rw [hk] at hops ⊢
  simp [hops]

end Site

namespace Pass.Traced

variable {p : Pass} {past : List Group} {served : List Ask} {k : Ask} {g : Group} {id : ServiceId}

/-- A pass that is over is past all the groups that it wanted. -/
theorem past_eq (h : p.Traced past served) (hover : p.standing.running = none) : past = p.wanted := by
  have hleft : p.standing.left = [] := Dispatcher.left_of_idle hover
  rw [h.wanted, hleft, List.append_nil]

/-- A group that is not wanted is not brought to the host. -/
theorem about_unwanted (h : p.Traced past served) (hid : id ∉ p.wanted.map Group.id) :
    asksAbout id served = [] := by
  refine h.serving.about_absent fun hpast => hid ?_
  rw [h.wanted, List.map_append]
  exact List.mem_append_left _ hpast

theorem nodup_staleIds (d : Dispatcher) (r : Reading) : (d.staleIds r).Nodup :=
  ((Table.pairwise_keys _).imp fun hlt => Nat.ne_of_lt hlt).filter _

/-- Where nothing was removed, a pass asks for what is to be asked for. -/
theorem about_unremoved (h : p.Traced past served) (hs : p.opening.site.InStep)
    (hnodup : (p.wanted.map Group.id).Nodup) (hover : p.standing.running = none)
    (hremoved : p.removed = []) (id : ServiceId) : (asksAbout id p.asked).map Ask.op =
      nextOperations p.wanted id (p.opening.site.registered.get? id) := by
  unfold nextOperations
  cases hfind : p.wanted.find? fun g => g.id == id with
  | some g =>
      have hg := List.mem_of_find?_eq_some hfind
      obtain rfl : g.id = id := by simpa using List.find?_some hfind
      have hleft : p.standing.left = [] := Dispatcher.left_of_idle hover
      rw [h.about_wanted hs hnodup hg (by simp [hremoved]), hleft, if_neg List.not_mem_nil]
  | none =>
      have hid : id ∉ p.wanted.map Group.id := by
        intro hmem
        obtain ⟨g, hg, rfl⟩ := List.mem_map.1 hmem
        simpa using List.find?_eq_none.1 hfind g hg
      rw [h.asked, asksAbout_append, h.about_unwanted hid, List.append_nil]
      cases hknown : p.opening.site.registered.get? id with
      | none =>
          have hnone : asksAbout id (p.opening.clearAsks p.reading) = [] := by
            refine asksAbout_eq_nil.2 ?_
            rintro k hk rfl
            have hsome := (Dispatcher.mem_clearAsks hs hk).2.2.1
            rw [hknown] at hsome
            cases hsome
          rw [hnone]
          rfl
      | some old =>
          -- Nothing was removed, so the host is as it was when the stale groups leave it.
          have hremoved : p.opening.removedIds = [] := hremoved
          have hsame : (p.opening.surveyed p.reading).registered.get? id = some old := by
            refine Eq.trans ?_ hknown
            exact Site.unregisterEach_other _ (Dispatcher.started_inStep hs) (by simp [hremoved])
          have hstale : id ∈ p.opening.staleIds p.reading :=
            Dispatcher.mem_staleIds.2 ⟨by simp [hsame], hid, by simp [hremoved]⟩
          have hclear : p.opening.clearAsks p.reading =
              (p.opening.surveyed p.reading).unregisterAsks (p.opening.staleIds p.reading) := by
            rw [Dispatcher.clearAsks, hremoved]
            rfl
          rw [hclear, Site.unregisterAsks_about (Dispatcher.surveyed_inStep hs _) (nodup_staleIds _ _)
            hstale (by simp [hsame])]
          rfl

/-- What is recorded of an identity when a pass has cleared the host is what its last call about it left. -/
theorem cleared_record (hs : p.opening.site.InStep) (id : ServiceId) :
    p.opening.decided.site.registered.get? id =
      match (asksAbout id (p.opening.clearAsks p.reading)).getLast? with
      | none => p.opening.site.registered.get? id
      | some k => k.leaves := by
  rw [Dispatcher.decided_site]
  exact (Dispatcher.cleared_trail hs p.reading).record id

/-- A wanted group that was registered again differs from what was recorded of it. -/
theorem due_of_removed (hread : p.reading.intake.WellFormed) (hrenewed : p.opening.Renewed) {old : Group}
    (hg : g ∈ p.wanted) (hremoved : g.id ∈ p.removed)
    (hold : p.opening.site.registered.get? g.id = some old) : g.due (some old) = some .reload := by
  obtain ⟨g₀, hserved, rfl⟩ := p.reading.mem_plan_iff.1 hg
  have hentrant := Reading.contest_within.groups.subset (p.reading.mem_served_iff.1 hserved).1
  rcases List.mem_append.1 hentrant with hlive | himplicit
  · have hlater : old.provider.revision < g₀.provider.revision :=
      hrenewed.later _ hremoved g₀ hlive rfl old (.inl hold)
    have hne : old.fingerprint ≠ (p.reading.formed g₀).fingerprint := by
      intro heq
      have hsame : old.provider.revision = g₀.provider.revision := congrArg Fingerprint.revision heq
      omega
    simp [Group.due, hne]
  · -- The implicit default group is never removed.
    have hid := hread.implicit_id (Option.mem_toList.1 himplicit)
    exact absurd hid (hrenewed.nonzero _ hremoved)

/-- What a pass leaves recorded of a group that it wants calls for what its last call about it has not done. -/
theorem next_of_wanted (h : p.Traced past served) (hs : p.opening.site.InStep)
    (hread : p.reading.intake.WellFormed) (hover : p.standing.running = none)
    (hrenewed : p.opening.Renewed) (hg : g ∈ p.wanted) :
    (g.due (p.standing.site.registered.get? g.id)).toList = retries (asksAbout g.id p.asked) := by
  have hnodup : (p.wanted.map Group.id).Nodup := Reading.nodup_plan hread
  have hpast : g ∈ past := h.past_eq hover ▸ hg
  have hops := h.serving.about_planned (decided_inStep hs) (h.nodup_past hnodup) hpast
  have hrecord := h.serving.trail.record g.id
  rw [h.asked, asksAbout_append]
  cases hserved : asksAbout g.id served with
  | nil =>
      -- It was not due anything once the host was cleared.
      rw [hserved] at hops hrecord
      have hnone : g.due (p.opening.decided.site.registered.get? g.id) = none := by
        simpa using hops.symm
      have hrecord : p.standing.site.registered.get? g.id =
          p.opening.decided.site.registered.get? g.id := hrecord
      rw [hrecord, hnone, List.append_nil]
      have hcleared := cleared_record hs g.id
      unfold retries
      cases hlast : (asksAbout g.id (p.opening.clearAsks p.reading)).getLast? with
      | none => rfl
      | some c =>
          rw [hlast] at hcleared
          obtain ⟨hc, hid⟩ := mem_asksAbout.1 (List.mem_of_getLast? hlast)
          obtain ⟨-, hknown, hbefore, hreason⟩ := Dispatcher.mem_clearAsks hs hc
          cases hfailed : c.failed with
          | false => simp [hfailed]
          | true =>
              -- It could not be unregistered, so it would be due to be reloaded.
              have hleaves : c.leaves = some c.group := by simp [Ask.leaves, hfailed, hknown]
              rw [hid] at hbefore hreason
              have hremoved := hreason.resolve_right fun hnot => hnot (List.mem_map_of_mem hg)
              have hdue := due_of_removed hread hrenewed hg hremoved hbefore
              have hcleared : p.opening.decided.site.registered.get? g.id = c.leaves := hcleared
              rw [hcleared, hleaves, hdue] at hnone
              cases hnone
  | cons k more =>
      rw [hserved] at hops hrecord
      obtain ⟨hdue, rfl⟩ : g.due (p.opening.decided.site.registered.get? g.id) = some k.op ∧ more = [] := by
        cases hdue : g.due (p.opening.decided.site.registered.get? g.id) with
        | none => simp [hdue] at hops
        | some op =>
            rw [hdue] at hops
            obtain ⟨hop, hmore⟩ := List.cons.inj hops
            exact ⟨congrArg some hop.symm, List.map_eq_nil_iff.1 hmore⟩
      have hk : k ∈ served := (mem_asksAbout.1 (hserved ▸ List.mem_cons_self ..)).1
      have hid : k.id = g.id := (mem_asksAbout.1 (hserved ▸ List.mem_cons_self ..)).2
      have hrecord : p.standing.site.registered.get? g.id = k.leaves := hrecord
      have hretries : retries (asksAbout g.id (p.opening.clearAsks p.reading) ++ [k]) =
          if k.failed then [k.op] else [] := by
        simp [retries]
      rw [hrecord, hretries]
      cases hfailed : k.failed with
      | true =>
          have hleaves : k.leaves = p.opening.decided.site.registered.get? g.id := by
            rw [Ask.leaves, hfailed, if_pos rfl, h.serving.known (h.nodup_past hnodup) hk, hid]
          rw [hleaves, hdue]
          rfl
      | false =>
          obtain ⟨g', hg', hgroup, hop⟩ := h.serving.due (decided_inStep hs) hk
          have hsame : g' = g := by
            refine List.inj_on_of_nodup_map (h.nodup_past hnodup) hg' hpast ?_
            rw [← hid, Ask.id, hgroup]
            rfl
          have hleaves : k.leaves = some g.settled := by
            have hne := Group.due_ne hop
            rw [Ask.leaves, hfailed, if_neg Bool.false_ne_true, Ask.applied, hgroup, hsame]
            cases hkop : k.op with
            | unregister => exact absurd hkop hne
            | register => rfl
            | reload => rfl
          have hfingerprint : g.settled.fingerprint = g.fingerprint := rfl
          rw [hleaves]
          simp [Group.due, hfingerprint]

/-- So it is for an identity that a pass does not want. -/
theorem next_of_unwanted (h : p.Traced past served) (hs : p.opening.site.InStep)
    (hid : id ∉ p.wanted.map Group.id) :
    (if (p.standing.site.registered.get? id).isSome then [Operation.unregister] else []) =
      retries (asksAbout id p.asked) := by
  have hserved := h.about_unwanted hid
  have hrecord := h.serving.trail.record id
  rw [hserved] at hrecord
  have hrecord : p.standing.site.registered.get? id = p.opening.decided.site.registered.get? id := hrecord
  have hcleared := cleared_record hs id
  rw [hrecord, h.asked, asksAbout_append, hserved, List.append_nil]
  unfold retries
  cases hlast : (asksAbout id (p.opening.clearAsks p.reading)).getLast? with
  | none =>
      -- What was recorded would have been unregistered.
      rw [hlast] at hcleared
      have hnone : p.opening.site.registered.get? id = none := by
        refine Option.eq_none_iff_forall_ne_some.2 fun g hg => ?_
        exact Dispatcher.exists_clearAsk hs hg (.inr hid) (List.getLast?_eq_none_iff.1 hlast)
      rw [hcleared, hnone]
      rfl
  | some c =>
      rw [hlast] at hcleared
      obtain ⟨hc, -⟩ := mem_asksAbout.1 (List.mem_of_getLast? hlast)
      obtain ⟨hop, hknown, -, -⟩ := Dispatcher.mem_clearAsks hs hc
      rw [hcleared]
      cases hfailed : c.failed <;> simp [Ask.leaves, Ask.applied, hfailed, hknown, hop]

/-- What a pass leaves recorded calls for what its last calls have not done. -/
theorem next_eq (h : p.Traced past served) (hs : p.opening.site.InStep)
    (hread : p.reading.intake.WellFormed) (hover : p.standing.running = none)
    (hrenewed : p.opening.Renewed) (id : ServiceId) :
    nextOperations p.wanted id (p.standing.site.registered.get? id) = retries (asksAbout id p.asked) := by
  unfold nextOperations
  cases hfind : p.wanted.find? fun g => g.id == id with
  | some g =>
      have hg := List.mem_of_find?_eq_some hfind
      obtain rfl : g.id = id := by simpa using List.find?_some hfind
      exact h.next_of_wanted hs hread hover hrenewed hg
  | none =>
      refine h.next_of_unwanted hs fun hmem => ?_
      obtain ⟨g, hg, rfl⟩ := List.mem_map.1 hmem
      simpa using List.find?_eq_none.1 hfind g hg

end Pass.Traced

/-- A pass finds the registry as the pass before has left it, and the host with the same properties; the content
that is probed is acquired with the same outcome. -/
structure Pass.Repeats (p q : Pass) : Prop where
  registry : q.opening.registry = p.opening.registry.drain.2
  properties : q.opening.intake.host = p.opening.intake.host
  outcomes : ∀ c ∈ p.reading.contest.probed, q.reading.outcomes c.id = p.reading.outcomes c.id

instance (p q : Pass) : Decidable (p.Repeats q) :=
  decidable_of_iff (q.opening.registry = p.opening.registry.drain.2 ∧
      q.opening.intake.host = p.opening.intake.host ∧
      ∀ c ∈ p.reading.contest.probed, q.reading.outcomes c.id = p.reading.outcomes c.id)
    ⟨fun h => ⟨h.1, h.2.1, h.2.2⟩, fun h => ⟨h.registry, h.properties, h.outcomes⟩⟩

namespace Pass.Repeats

variable {p q : Pass} {own : Option Group}

/-- Then it reads the same. -/
theorem reading_eq (h : p.Repeats q) (hp : p.reading.Taken own) (hq : q.reading.Taken own) :
    q.reading = p.reading := by
  have hintake : q.reading.intake = p.reading.intake := by
    have hroster : q.reading.intake.roster = p.reading.intake.roster := by
      show q.opening.registry.live = p.opening.registry.live
      rw [h.registry]
      rfl
    have hhost : q.reading.intake.host = p.reading.intake.host := h.properties
    have himplicit := hq.implicit.trans hp.implicit.symm
    cases hqi : q.reading.intake
    cases hpi : p.reading.intake
    simp_all
  have hcontest : q.reading.contest = p.reading.contest := by
    rw [Reading.contest, Reading.contest, hintake]
  have houtcomes : q.reading.outcomes = p.reading.outcomes := by
    funext id
    by_cases hid : id ∈ p.reading.contest.probed.map Content.id
    · obtain ⟨c, hc, rfl⟩ := List.mem_map.1 hid
      exact h.outcomes c hc
    · rw [hp.unprobed id hid, hq.unprobed id (by rwa [hcontest])]
  cases hqr : q.reading
  cases hpr : p.reading
  simp_all

theorem removed_eq (h : p.Repeats q) : q.removed = [] := by
  rw [Pass.removed, Dispatcher.removedIds, h.registry]
  rfl

end Pass.Repeats

namespace History

variable {settings : Settings} {content : Payload} (h : History settings content) {p q : Pass}

theorem renewed_of_pass (hp : p ∈ h.passes) : p.opening.Renewed := by
  have hreached : h.chronicle.Reached True h.start := (h.chronicle_reached fun _ _ => .inr trivial).2
  obtain ⟨-, last, hmoves⟩ := hreached.openings p (List.mem_reverse.1 hp)
  exact h.renewed_of_moves hmoves

/-- Of two passes, one after the other, of which the second reads what the first has read, the second makes one
call for each group for which the last call of the first has failed, and of the same kind, and no other call;
it publishes the same failures and keeps the default group.  If no call of the first has failed, it makes no
call at all and leaves the active groups and the host as they were. -/
theorem repeat_retries (hdriven : h.Driven) (hnext : [p, q] <:+: h.passes)
    (hover : q.standing.running = none) (hrepeats : p.Repeats q) :
    (∀ id, (asksAbout id q.asked).map Ask.op = retries (asksAbout id p.asked)) ∧
      q.standing.failures = p.standing.failures ∧ q.standing.default = p.standing.default ∧
      ((∀ k ∈ p.asked, k.failed = false) →
        q.asked = [] ∧ q.standing.active = p.standing.active ∧
          q.standing.site.host = q.opening.site.host) := by
  have hp : p ∈ h.passes := hnext.subset (by simp)
  have hq : q ∈ h.passes := hnext.subset (by simp)
  obtain ⟨hptaken, hpat, hppublished⟩ := h.standing_at hp
  obtain ⟨hqtaken, hqat, hqpublished⟩ := h.standing_at hq
  obtain ⟨hps, -, -, past, served, hptraced⟩ := h.opening_steady hdriven hp
  obtain ⟨hqs, -, hqnodup, past', served', hqtraced⟩ := h.opening_steady hdriven hq
  have hreading := hrepeats.reading_eq hptaken hqtaken
  have hwanted : q.wanted = p.wanted := congrArg Reading.plan hreading
  -- The second pass begins where the first one has ended.
  obtain ⟨hpover, hfollows⟩ : Chronicle.Precedes p q := by
    have hchain : h.passes.IsChain Chronicle.Precedes :=
      List.isChain_reverse.2 (h.chronicle_linked hdriven.2).chain
    have hpair : [p, q].IsChain Chronicle.Precedes := List.IsChain.infix hchain hnext
    exact List.isChain_pair.1 hpair
  have hrenewed : p.opening.Renewed := h.renewed_of_pass hp
  have hretries : ∀ id, (asksAbout id q.asked).map Ask.op = retries (asksAbout id p.asked) := by
    intro id
    rw [hqtraced.about_unremoved hqs hqnodup hover hrepeats.removed_eq id, hwanted,
      hfollows.rests.registered]
    exact hptraced.next_eq hps hptaken.wellFormed hpover hrenewed id
  refine ⟨hretries, ?_, ?_, fun hnone => ?_⟩
  · rw [(hqat.ended hover).1, (hpat.ended hpover).1, hreading]
  · rw [hqat.default, hpat.default, hreading]
  · have hasked : q.asked = [] := by
      refine List.eq_nil_iff_forall_not_mem.2 fun k hk => ?_
      have hops := hretries k.id
      have hmem : k ∈ asksAbout k.id q.asked := mem_asksAbout.2 ⟨hk, rfl⟩
      have hnil : retries (asksAbout k.id p.asked) = [] := by
        unfold retries
        cases hlast : (asksAbout k.id p.asked).getLast? with
        | none => rfl
        | some c =>
            have hc := (mem_asksAbout.1 (List.mem_of_getLast? hlast)).1
            simp [hnone c hc]
      rw [hnil, List.map_eq_nil_iff] at hops
      rw [hops] at hmem
      cases hmem
    have htrail := hqtraced.trail hqs
    rw [hasked] at htrail
    have hregistered : q.standing.site.registered = p.standing.site.registered := by
      rw [← hfollows.rests.registered]
      exact Table.ext_get? fun id => htrail.recorded_eq id
    refine ⟨hasked, ?_, hqtraced.untouched hasked (Dispatcher.left_of_idle hover)⟩
    rw [hqpublished hover, hppublished hpover, hregistered]

end History

end

namespace History

/-- The second pass of a history in which a call fails, and the third one, which tries it again. -/
theorem eventful_repeat_retries : ∃ p q : Pass, [p, q] <:+: eventful.passes ∧
    q.standing.running = none ∧ p.Repeats q ∧
      p.asked.map (fun k => (k.op, k.id, k.failed)) = [(.reload, 3, true)] ∧
      q.asked.map (fun k => (k.op, k.id, k.failed)) = [(.reload, 3, false)] ∧
      (∀ id, (asksAbout id q.asked).map Ask.op = retries (asksAbout id p.asked)) ∧
      q.standing.failures = p.standing.failures := by
  have hnext : ∀ l : List Pass, 3 ≤ l.length → [l.getD 1 default, l.getD 2 default] <:+: l := by
    rintro (_ | ⟨a, _ | ⟨b, _ | ⟨c, rest⟩⟩⟩) h
    · simp at h
    · simp at h
    · simp at h
    · exact ⟨[a], rest, rfl⟩
  have hnext := hnext eventful.passes (by decide +kernel)
  have hdriven : eventful.Driven := ⟨rfl, by decide +kernel⟩
  obtain ⟨hover, hrepeats, hfirst, hsecond⟩ :
      (eventful.passes.getD 2 default).standing.running = none ∧
        (eventful.passes.getD 1 default).Repeats (eventful.passes.getD 2 default) ∧
        (eventful.passes.getD 1 default).asked.map (fun k => (k.op, k.id, k.failed)) =
          [(.reload, 3, true)] ∧
        (eventful.passes.getD 2 default).asked.map (fun k => (k.op, k.id, k.failed)) =
          [(.reload, 3, false)] := by
    decide +kernel
  obtain ⟨hretries, hfailures, -, -⟩ := repeat_retries eventful hdriven hnext hover hrepeats
  exact ⟨_, _, hnext, hover, hrepeats, hfirst, hsecond, hretries, hfailures⟩

end History

end RouteBinding
