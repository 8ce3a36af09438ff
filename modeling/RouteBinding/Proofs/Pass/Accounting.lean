import RouteBinding.Proofs.Pass.Attachment
import RouteBinding.Proofs.Pass.Stages

/-!
# Every live provider is accounted for

A provider that fits the host is placed exactly if there is no reason to leave it out
(`Reading.places_group_iff`, `Reading.places_content_iff`).  So every live provider is meant for other
hosts, or reported once, or placed, and only one of these (`Reading.provider_fate`), and nothing else is
reported (`Reading.live_of_published`).
-/

namespace RouteBinding

open Finding

namespace Snapshot

/-- The failures of a kind. -/
def ofKind (s : Snapshot) : Kind → List FailedProvider
  | .group => s.groups
  | .handler => s.handlers
  | .interceptor => s.interceptors

/-- A failure is published among those of its kind. -/
theorem mem_ofKind {l : List FailedProvider} {f : FailedProvider} (hf : f ∈ l) :
    f ∈ (ofFailures l).ofKind f.kind := by
  have hmem : f ∈ l.filter fun g => g.kind == f.kind := List.mem_filter.2 ⟨hf, by simp⟩
  cases hkind : f.kind <;> rw [hkind] at hmem <;> exact (Sorted.mem_ofList _).2 hmem

end Snapshot

/-- What can become of a live provider in a pass. -/
inductive Fate where
  /-- It is meant for other hosts. -/
  | elsewhere
  /-- It is left out and reported. -/
  | reported
  /-- It is served, or attached to a group that is served. -/
  | placed
  deriving DecidableEq

namespace Reading

/-- A provider is valid but meant for other hosts. -/
def Elsewhere (r : Reading) (p : Provider) : Prop :=
  p.isValid = true ∧ p.appliesTo r.intake.host = false

/-- A provider is a planned group or attached to one. -/
def Places (r : Reading) (p : Provider) : Prop :=
  (∃ g ∈ r.plan, g.provider = p) ∨ ∃ g ∈ r.plan, ∃ c ∈ g.attached, c.provider = p

def entries (r : Reading) (p : Provider) : List FailedProvider :=
  r.snapshot.toList.filter fun f => f.id == p.id

/-- What each fate means: a provider that is reported is so once, and among the failures of its kind. -/
def Fares (r : Reading) (p : Provider) : Fate → Prop
  | .elsewhere => r.Elsewhere p ∧ r.entries p = [] ∧ ¬r.Places p
  | .reported => ¬r.Elsewhere p ∧
      (∃ reason, r.entries p = [p.failed reason] ∧ p.failed reason ∈ r.snapshot.ofKind p.kind) ∧
      ¬r.Places p
  | .placed => ¬r.Elsewhere p ∧ r.entries p = [] ∧ r.Places p

variable {r : Reading}

section Placement

variable (h : r.intake.WellFormed)
include h

/-- A live group that fits the host is served exactly if there is no reason to leave it out. -/
theorem mem_served_iff_reason {g : Group} (hg : g ∈ r.intake.roster.groups) :
    g ∈ r.served ↔ g.provider.appliesTo r.intake.host = true ∧ r.groupReason g = none := by
  have hfits := fits_of_contender h hg
  rw [Provider.fits, Provider.isValid] at hfits
  rw [mem_served_iff, mem_contest_groups_iff h]
  unfold groupReason
  constructor
  · rintro ⟨⟨hin, hlost⟩, hsatisfied, hallowed⟩
    have hboth := Bool.and_eq_true_iff.1 (hfits hin)
    have hvalid : g.provider.failure = none := Option.isNone_iff_eq_none.1 hboth.1
    refine ⟨hboth.2, ?_⟩
    simp [hvalid, hboth.2, hin, hlost, hsatisfied, hallowed]
  · rintro ⟨happlies, hreason⟩
    rw [happlies] at hreason
    cases hfailure : g.provider.failure with
    | some reason => simp [hfailure] at hreason
    | none =>
        by_cases hin : g ∈ r.intake.contenders.groups
        · by_cases hlost : g.provider ∈ r.intake.contenders.duplicates
          · simp [hfailure, hin, hlost] at hreason
          · by_cases hsatisfied : r.satisfies g = true
            · by_cases hallowed : allowedBeside r.decision.default g = true
              · exact ⟨⟨hin, hlost⟩, hsatisfied, hallowed⟩
              · simp [hfailure, hin, hlost, hsatisfied, hallowed] at hreason
            · simp [hfailure, hin, hlost, hsatisfied] at hreason
        · simp [hfailure, hin] at hreason

omit h in
theorem mem_holding_iff {k : Kind} {id : ServiceId} :
    id ∈ r.holding k ↔ ∃ g ∈ r.served, ∃ c ∈ r.staying k g, c.id = id := by
  rw [holding_eq]
  simp only [List.mem_flatMap, List.mem_map]

omit h in
/-- Content that stays attached was on offer. -/
theorem staying_subset (k : Kind) (g : Group) :
    r.staying k g ⊆ Contest.choose r.outcomes (r.contest.roster.content k) g := by
  cases k with
  | handler => exact List.filter_sublist.subset
  | group => exact (settle_sublist _).subset
  | interceptor => exact (settle_sublist _).subset

/-- Content is held exactly if it fits the host and there is no reason to leave it out. -/
theorem mem_holding_iff_reason {x : Content} (hx : x ∈ r.intake.roster.content x.kind)
    (hk : x.kind ≠ .group) : x.id ∈ r.holding x.kind ↔
      x.provider.appliesTo r.intake.host = true ∧ r.contentReason x = none := by
  unfold contentReason usageReason
  constructor
  · intro hheld
    obtain ⟨g, hg, c, hc, hid⟩ := mem_holding_iff.1 hheld
    obtain ⟨hcontest, husable, hselects⟩ := mem_choose_iff.1 (staying_subset x.kind g hc)
    -- Identities are unique, so the content that is held is this one.
    have hcx : c = x := contest_content_eq h hk hx (live_of_contest hcontest) hid
    rw [hcx] at hcontest husable hselects
    obtain ⟨-, hfits, hlost⟩ := (mem_contest_content_iff h).1 hcontest
    obtain ⟨hvalid, happlies⟩ := fits_iff.1 hfits
    have hfailure : x.provider.failure = none := Option.isNone_iff_eq_none.1 hvalid
    have hoffer : (r.offering x.kind).any x.selects = true := by
      refine List.any_eq_true.2 ⟨g, ?_, hselects⟩
      cases x.kind with
      | handler => exact hg
      | group => exact (r.mem_served_iff.1 hg).1
      | interceptor => exact (r.mem_served_iff.1 hg).1
    refine ⟨happlies, ?_⟩
    obtain ⟨contracts, hok, hadvertises⟩ := usable_iff.1 husable
    have hcontracts : (x.kind == .interceptor && contracts.isEmpty) = false := by
      by_cases hkind : x.kind = .interceptor
      · simp [hadvertises hkind]
      · simp [hkind]
    simp [hfailure, happlies, hlost, hok, hcontracts, hoffer, hheld]
  · rintro ⟨happlies, hreason⟩
    -- Content that is not held is either detached somewhere or taken by no group.
    by_contra hheld
    rw [happlies] at hreason
    cases hfailure : x.provider.failure with
    | some reason => simp [hfailure] at hreason
    | none =>
        by_cases hlost : x.provider ∈ r.intake.contenders.duplicates
        · simp [hfailure, hlost] at hreason
        · cases hok : r.outcomes x.id with
          | error e => simp [hfailure, hlost, hok] at hreason
          | ok contracts =>
              by_cases hcontracts : (x.kind == .interceptor && contracts.isEmpty) = true
              · simp [hfailure, hlost, hok, hcontracts] at hreason
              · by_cases hoffer : (r.offering x.kind).any x.selects = true
                · by_cases hdetached : x.id ∈ r.detaching x.kind
                  · simp [hfailure, hlost, hok, hcontracts, hoffer, hheld, hdetached] at hreason
                  · simp [hfailure, hlost, hok, hcontracts, hoffer, hheld, hdetached] at hreason
                · simp [hfailure, hlost, hok, hcontracts, hoffer] at hreason

omit h in
theorem mem_attached_formed {g : Group} {c : Content} :
    c ∈ (r.formed g).attached ↔ c ∈ r.kept g ∨ c ∈ r.manned g := List.mem_append

/-- A live group is placed exactly if it is served. -/
theorem places_group_iff {g : Group} (hg : g ∈ r.intake.roster.groups) :
    r.Places g.provider ↔ g ∈ r.served := by
  have hkind : g.provider.kind = .group := h.roster.groupKind g hg
  constructor
  · rintro (⟨g', hg', heq⟩ | ⟨g', hg', c, hc, heq⟩)
    · obtain ⟨g₀, hserved, rfl⟩ := r.mem_plan_iff.1 hg'
      have hentrant := contest_within.groups.subset (r.mem_served_iff.1 hserved).1
      have hsame : g₀ = g := entrant_eq_of_id h hentrant (r.intake.roster_within.groups.subset hg)
        (congrArg Provider.id heq)
      rwa [← hsame]
    · obtain ⟨g₀, -, rfl⟩ := r.mem_plan_iff.1 hg'
      rcases mem_attached_formed.1 hc with hkept | hmanned
      · have hother : c.kind = .interceptor := h.roster.interceptorKind c ((kept_sublist g₀).subset hkept)
        rw [Content.kind, heq, hkind] at hother
        cases hother
      · have hother : c.kind = .handler := h.roster.handlerKind c ((manned_sublist g₀).subset hmanned)
        rw [Content.kind, heq, hkind] at hother
        cases hother
  · intro hserved
    exact .inl ⟨r.formed g, r.mem_plan_iff.2 ⟨g, hserved, rfl⟩, rfl⟩

/-- Live content is placed exactly if some served group holds it. -/
theorem places_content_iff {x : Content} (hx : x ∈ r.intake.roster.content x.kind)
    (hk : x.kind ≠ .group) : r.Places x.provider ↔ x.id ∈ r.holding x.kind := by
  rw [mem_holding_iff]
  constructor
  · rintro (⟨g', hg', heq⟩ | ⟨g', hg', c, hc, heq⟩)
    · obtain ⟨g₀, hserved, rfl⟩ := r.mem_plan_iff.1 hg'
      have hother := entrant_kind h (contest_within.groups.subset (r.mem_served_iff.1 hserved).1)
      have heq : g₀.provider = x.provider := heq
      rw [heq] at hother
      exact absurd hother hk
    · obtain ⟨g₀, hserved, rfl⟩ := r.mem_plan_iff.1 hg'
      refine ⟨g₀, hserved, c, ?_, congrArg Provider.id heq⟩
      have hkind : x.kind = c.kind := (congrArg Provider.kind heq).symm
      rcases mem_attached_formed.1 hc with hkept | hmanned
      · rw [hkind, h.roster.interceptorKind c ((kept_sublist g₀).subset hkept)]
        exact hkept
      · rw [hkind, h.roster.handlerKind c ((manned_sublist g₀).subset hmanned)]
        exact hmanned
  · rintro ⟨g, hserved, c, hc, hid⟩
    have hcontest := (mem_choose_iff.1 (staying_subset x.kind g hc)).1
    have hcx : c = x := contest_content_eq h hk hx (live_of_contest hcontest) hid
    refine .inr ⟨r.formed g, r.mem_plan_iff.2 ⟨g, hserved, rfl⟩, c, ?_, congrArg Content.provider hcx⟩
    rw [mem_attached_formed]
    cases hkind : x.kind with
    | handler => exact .inr (by rwa [hkind] at hc)
    | group => exact absurd hkind hk
    | interceptor => exact .inl (by rwa [hkind] at hc)

end Placement

section OnlyLive

variable (h : r.intake.WellFormed)
include h

omit h in
theorem mem_excluded {α : Type} {l : List α} {who : α → Provider} {why : α → Reason} {f : FailedProvider}
    (hf : f ∈ (l.map fun x => excluded (who x) (why x)).filterMap failure?) :
    ∃ x ∈ l, f = (who x).failed (why x) := by
  obtain ⟨finding, hfinding, hfailure⟩ := List.mem_filterMap.1 hf
  obtain ⟨x, hx, rfl⟩ := List.mem_map.1 hfinding
  exact ⟨x, hx, (Option.some.inj hfailure).symm⟩

/-- A group with requirements that are not met is a live one: the implicit default group has none. -/
theorem live_of_unmet {g : Group} (hg : g ∈ r.contest.roster.groups) (hunmet : r.satisfies g = false) :
    g ∈ r.intake.roster.groups := by
  rcases List.mem_append.1 (contest_within.groups.subset hg) with hlive | himplicit
  · exact hlive
  · obtain ⟨path, content, rfl⟩ := h.implicit g (Option.mem_toList.1 himplicit)
    rw [satisfies, requirementsMet, Group.implicitDefault_requires] at hunmet
    cases hunmet

/-- A provider that loses its name is a live one: the implicit default group has a name of its own. -/
theorem live_of_duplicate {p : Provider} (hp : p ∈ r.intake.contenders.duplicates) :
    p ∈ r.intake.roster.providers := by
  have hwithin := r.intake.contenders_within.trans r.intake.fit_within
  obtain ⟨hmem, hdeclared, -⟩ := (Roster.mem_duplicates_iff h.unique_contenders).1 hp
  rcases Roster.mem_providers.1 (hwithin.providers.subset hmem) with
    ⟨g, hg, rfl⟩ | ⟨c, hc, rfl⟩ | ⟨c, hc, rfl⟩
  · rcases List.mem_append.1 hg with hlive | himplicit
    · exact Roster.group_mem_providers hlive
    · obtain ⟨path, content, rfl⟩ := h.implicit g (Option.mem_toList.1 himplicit)
      rw [Group.implicitDefault_generated] at hdeclared
      cases hdeclared
  · exact Roster.content_mem_providers (k := .handler) hc
  · exact Roster.content_mem_providers (k := .interceptor) hc

omit h in
theorem live_of_misfit {f : FailedProvider} (hf : f ∈ r.misfitStage.filterMap failure?) :
    ∃ p ∈ r.intake.roster.providers, ∃ reason, f = p.failed reason := by
  obtain ⟨finding, hfinding, hfailure⟩ := List.mem_filterMap.1 hf
  obtain ⟨p, hp, hmisfit⟩ := List.mem_filterMap.1 hfinding
  refine ⟨p, hp, ?_⟩
  rw [Provider.misfit] at hmisfit
  cases hreason : p.failure with
  | some reason =>
      simp only [hreason, Option.some.injEq] at hmisfit
      rw [← hmisfit, failure?_excluded, Option.some.injEq] at hfailure
      exact ⟨reason, hfailure.symm⟩
  | none =>
      by_cases happlies : p.appliesTo r.intake.host = true
      · simp [hreason, happlies] at hmisfit
      · -- Being meant for other hosts is found out, but it is no failure.
        simp only [hreason, happlies] at hmisfit
        cases hmisfit
        cases hfailure

/-- A group that is reported for its path is a live one: the implicit default group gives way silently. -/
theorem live_of_shadowed {f : FailedProvider} (hf : f ∈ r.pathStage.filterMap failure?) :
    ∃ p ∈ r.intake.roster.providers, ∃ reason, f = p.failed reason := by
  obtain ⟨finding, hfinding, hfailure⟩ := List.mem_filterMap.1 hf
  obtain ⟨g, hg, rfl⟩ := List.mem_map.1 hfinding
  rw [Intake.pathFinding] at hfailure
  by_cases himplicit : g.isImplicit = true
  · rw [if_pos himplicit] at hfailure
    cases hfailure
  · rw [if_neg himplicit, failure?_excluded, Option.some.injEq] at hfailure
    rw [h.isImplicit_iff (shadowed_within.subset hg), not_not] at himplicit
    exact ⟨g.provider, Roster.group_mem_providers himplicit, _, hfailure.symm⟩

/-- Only live providers are reported, each under its own identity, name and kind. -/
theorem live_of_failure {f : FailedProvider} (hf : f ∈ r.failures) :
    ∃ p ∈ r.intake.roster.providers, ∃ reason, f = p.failed reason := by
  rw [failures, findings_eq] at hf
  simp only [List.filterMap_append, List.mem_append, or_assoc] at hf
  have hattach : ∀ k, f ∈ (r.attachStage k).filterMap failure? →
      ∃ p ∈ r.intake.roster.providers, ∃ reason, f = p.failed reason := by
    intro k hf
    rw [attachStage, List.filterMap_flatMap, List.mem_flatMap] at hf
    obtain ⟨x, hx, hf⟩ := hf
    exact ⟨x.provider, Roster.content_mem_providers (live_of_contest hx), failed_of_attachFindings hf⟩
  have horphan : ∀ k, f ∈ (r.orphanStage k).filterMap failure? →
      ∃ p ∈ r.intake.roster.providers, ∃ reason, f = p.failed reason := by
    intro k hf
    obtain ⟨x, hx, rfl⟩ := mem_excluded hf
    have hcontest := (List.mem_filter.1 (List.mem_filter.1 hx).1).1
    exact ⟨x.provider, Roster.content_mem_providers (live_of_contest hcontest), _, rfl⟩
  -- One case for each stage, in the order of `findings_eq`.
  rcases hf with hf | hf | hf | hf | hf | hf | hf | hf | hf | hf
  · exact live_of_misfit hf
  · exact live_of_shadowed h hf
  · obtain ⟨p, hp, rfl⟩ := mem_excluded hf
    exact ⟨p, live_of_duplicate h hp, _, rfl⟩
  · exact hattach _ hf
  · obtain ⟨g, hg, rfl⟩ := mem_excluded hf
    have hmem := List.mem_filter.1 hg
    have hlive := live_of_unmet h hmem.1 (by simpa using hmem.2)
    exact ⟨g.provider, Roster.group_mem_providers hlive, _, rfl⟩
  · obtain ⟨g, hg, rfl⟩ := mem_excluded hf
    have hmem := List.mem_filter.1 hg
    simp only [Bool.and_eq_true, Bool.not_eq_true'] at hmem
    have hexplicit : ¬g.isImplicit = true := by simp [hmem.2.1.2]
    rw [h.isImplicit_iff (contest_within.groups.subset hmem.1), not_not] at hexplicit
    exact ⟨g.provider, Roster.group_mem_providers hexplicit, _, rfl⟩
  · cases hf
  · exact horphan _ hf
  · exact hattach _ hf
  · exact horphan _ hf

end OnlyLive

/-- What is published about a provider is what was found out about it, in some order. -/
theorem entries_perm (p : Provider) : (r.entries p).Perm (about p.id r.findings) :=
  (Snapshot.toList_ofFailures_perm r.failures).filter _

/-- A provider that is reported for its one reason if there is one, and is placed exactly if it fits the
host and there is none, has one fate. -/
theorem existsUnique_fate {p : Provider} {reason : Option Reason}
    (habout : about p.id r.findings = reason.toList.map p.failed)
    (hplaces : r.Places p ↔ p.appliesTo r.intake.host = true ∧ reason = none)
    (hinvalid : p.isValid = false → reason ≠ none)
    (helsewhere : r.Elsewhere p → reason = none) : ∃! fate, r.Fares p fate := by
  have hperm := entries_perm (r := r) p
  rw [habout] at hperm
  cases hreason : reason with
  | some why =>
      rw [hreason] at hperm hplaces helsewhere
      have hnot : ¬r.Elsewhere p := fun helse => by cases helsewhere helse
      have hunplaced : ¬r.Places p := fun hplaced => by cases (hplaces.1 hplaced).2
      have hentries : r.entries p = [p.failed why] := List.perm_singleton.1 hperm
      -- The one entry is among those of its kind.
      have hfound : p.failed why ∈ r.failures := by
        have hmem : p.failed why ∈ about p.id r.findings := by
          rw [habout, hreason]
          exact List.mem_singleton.2 rfl
        exact (List.mem_filter.1 hmem).1
      refine ⟨.reported, ⟨hnot, ⟨why, hentries, Snapshot.mem_ofKind hfound⟩, hunplaced⟩, ?_⟩
      intro fate hfate
      cases fate with
      | elsewhere => exact absurd hfate.1 hnot
      | reported => rfl
      | placed => exact absurd hfate.2.2 hunplaced
  | none =>
      rw [hreason] at hperm hplaces hinvalid
      have hentries : r.entries p = [] := List.perm_nil.1 hperm
      have hvalid : p.isValid = true := by
        by_contra hfalse
        exact hinvalid (by simpa using hfalse) rfl
      by_cases happlies : p.appliesTo r.intake.host = true
      · have hplaced : r.Places p := hplaces.2 ⟨happlies, rfl⟩
        have hnot : ¬r.Elsewhere p := fun helse => by cases happlies.symm.trans helse.2
        refine ⟨.placed, ⟨hnot, hentries, hplaced⟩, ?_⟩
        intro fate hfate
        cases fate with
        | elsewhere => exact absurd hfate.1 hnot
        | reported => exact absurd hplaced hfate.2.2
        | placed => rfl
      · have hunplaced : ¬r.Places p := fun hplaced => happlies (hplaces.1 hplaced).1
        have helse : r.Elsewhere p := ⟨hvalid, by simpa using happlies⟩
        refine ⟨.elsewhere, ⟨helse, hentries, hunplaced⟩, ?_⟩
        intro fate hfate
        cases fate with
        | elsewhere => rfl
        | reported => exact absurd helse hfate.1
        | placed => exact absurd helse hfate.1

/-- A live group has one fate. -/
theorem group_fate (h : r.intake.WellFormed) {g : Group} (hg : g ∈ r.intake.roster.groups) :
    ∃! fate, r.Fares g.provider fate := by
  refine existsUnique_fate (about_group h hg) ?_ ?_ ?_
  · rw [places_group_iff h hg, mem_served_iff_reason h hg]
  · intro hinvalid
    unfold groupReason
    rw [Provider.isValid] at hinvalid
    cases hfailure : g.provider.failure with
    | some reason => simp
    | none => simp [hfailure] at hinvalid
  · rintro ⟨hvalid, happlies⟩
    unfold groupReason
    rw [Provider.isValid, Option.isNone_iff_eq_none] at hvalid
    simp [hvalid, happlies]

/-- Live content has one fate. -/
theorem content_fate (h : r.intake.WellFormed) {x : Content} (hk : x.kind ≠ .group)
    (hx : x ∈ r.intake.roster.content x.kind) : ∃! fate, r.Fares x.provider fate := by
  refine existsUnique_fate (about_content h hk hx) ?_ ?_ ?_
  · rw [places_content_iff h hx hk, mem_holding_iff_reason h hx hk]
  · intro hinvalid
    unfold contentReason
    rw [Provider.isValid] at hinvalid
    cases hfailure : x.provider.failure with
    | some reason => simp
    | none => simp [hfailure] at hinvalid
  · rintro ⟨hvalid, happlies⟩
    unfold contentReason
    rw [Provider.isValid, Option.isNone_iff_eq_none] at hvalid
    simp [hvalid, happlies]

/-- A live provider has one fate. -/
theorem provider_fate (h : r.intake.WellFormed) {p : Provider} (hp : p ∈ r.intake.roster.providers) :
    ∃! fate, r.Fares p fate := by
  rcases Roster.mem_providers.1 hp with ⟨g, hg, rfl⟩ | ⟨x, hx, rfl⟩ | ⟨x, hx, rfl⟩
  · exact group_fate h hg
  · have hkind : x.kind = .handler := h.roster.handlerKind x hx
    exact content_fate h (by rw [hkind]; decide) (by rw [hkind]; exact hx)
  · have hkind : x.kind = .interceptor := h.roster.interceptorKind x hx
    exact content_fate h (by rw [hkind]; decide) (by rw [hkind]; exact hx)

/-- Nothing but live providers is published; in particular the implicit default group is not. -/
theorem live_of_published (h : r.intake.WellFormed) {f : FailedProvider} (hf : f ∈ r.snapshot.toList) :
    f.id ≠ ServiceId.implicitDefault ∧ ∃ p ∈ r.intake.roster.providers, ∃ reason, f = p.failed reason := by
  have hfound : f ∈ r.failures := (Snapshot.toList_ofFailures_perm r.failures).mem_iff.1 hf
  obtain ⟨p, hp, reason, rfl⟩ := live_of_failure h hfound
  exact ⟨h.roster.nonzero p hp, p, hp, reason, rfl⟩

end Reading

end RouteBinding
