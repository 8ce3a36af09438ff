import RouteBinding.Proofs.Conflict.Path
import RouteBinding.Proofs.Run.Progress

/-!
# The default group

Of the groups that declare themselves default a pass serves one.  A group is a rival for this if nothing but
another rival can keep it out of service (`Reading.Rival`, `Reading.rival_iff`).  The first rival by
precedence is the default group, and the others are reported as shadowed; where there is no rival it is the
implicit default group, unless a registered group has its path (`Reading.default_substituted`).
-/

namespace RouteBinding

open Property

/-! ### The first of some groups -/

theorem bestGroup_eq_none {l : List Group} : bestGroup l = none ↔ l = [] := by
  cases l with
  | nil => exact ⟨fun _ => rfl, fun _ => rfl⟩
  | cons g rest =>
      refine ⟨fun h => ?_, fun h => by cases h⟩
      rw [bestGroup] at h
      split at h
      · cases h
      · split at h <;> cases h

/-- The first of some groups by precedence is one of them, and none of them precedes it. -/
theorem bestGroup_notAfter {l : List Group} {g : Group} (h : bestGroup l = some g) :
    g ∈ l ∧ ∀ g' ∈ l, g.provider.notAfter g'.provider = true := by
  have hself : ∀ g : Group, g.provider.notAfter g.provider = true := by
    intro g
    simpa [Provider.notAfter] using Provider.precedes_irrefl g.provider
  induction l generalizing g with
  | nil => cases h
  | cons x rest ih =>
      rw [bestGroup] at h
      cases hrest : bestGroup rest with
      | none =>
          rw [hrest] at h
          obtain rfl := Option.some.inj h
          rw [bestGroup_eq_none.1 hrest]
          simp [hself]
      | some y =>
          rw [hrest] at h
          obtain ⟨hy, hfirst⟩ := ih hrest
          dsimp only at h
          by_cases hprecedes : y.provider.precedes x.provider = true
          · rw [if_pos hprecedes] at h
            obtain rfl := Option.some.inj h
            refine ⟨List.mem_cons_of_mem _ hy, List.forall_mem_cons.2 ⟨?_, hfirst⟩⟩
            simpa [Provider.notAfter] using Provider.precedes_asymm hprecedes
          · rw [if_neg hprecedes] at h
            obtain rfl := Option.some.inj h
            have hbefore : x.provider.notAfter y.provider = true := by
              simpa [Provider.notAfter] using hprecedes
            refine ⟨List.mem_cons_self .., List.forall_mem_cons.2 ⟨hself x, fun g' hg' => ?_⟩⟩
            exact Provider.notAfter_trans _ _ _ hbefore (hfirst g' hg')

/-! ### Who has its path -/

namespace Intake

variable {i : Intake} {g : Group}

theorem explicit_of_live (h : i.WellFormed) (hg : g ∈ i.roster.groups) : g.isImplicit = false := by
  have himplicit := (h.isImplicit_iff (i.roster_within.groups.subset hg)).not.2 (not_not_intro hg)
  simpa using himplicit

theorem mem_fit_groups : g ∈ i.fit.groups ↔
    (g ∈ i.roster.groups ∧ g.provider.fits i.host = true) ∨ g ∈ i.implicit := by
  rw [fit, List.mem_append, List.mem_filter, Option.mem_toList, Option.mem_def]

theorem mem_contenders_groups (h : i.WellFormed) : g ∈ i.contenders.groups ↔
    g ∈ i.fit.groups ∧ ∀ g' ∈ i.fit.groups, g'.path = g.path → ¬g'.Outranks g :=
  mem_kept_iff (h.unique_groups.sublist (i.fit_within.groups.map _))

/-- A live group that fits the host has its path unless another such group with this path precedes it. -/
theorem mem_contenders_iff_of_live (h : i.WellFormed) (hg : g ∈ i.roster.groups) :
    g ∈ i.contenders.groups ↔ g.provider.fits i.host = true ∧
      ∀ g' ∈ i.roster.groups, g'.provider.fits i.host = true → g'.path = g.path →
        ¬g'.provider.precedes g.provider = true := by
  have hexplicit := explicit_of_live h hg
  simp only [mem_contenders_groups h, Group.outranks_registered_iff hexplicit, mem_fit_groups]
  constructor
  · rintro ⟨hfit, hfirst⟩
    have hlive : g ∉ i.implicit := by
      intro himplicit
      have hid := h.implicit_id himplicit
      rw [Group.isImplicit, hid] at hexplicit
      cases hexplicit
    refine ⟨(hfit.resolve_right hlive).2, fun g' hg' hfits hpath hprecedes => ?_⟩
    exact hfirst g' (.inl ⟨hg', hfits⟩) hpath ⟨explicit_of_live h hg', hprecedes⟩
  · rintro ⟨hfits, hfirst⟩
    refine ⟨.inl ⟨hg, hfits⟩, ?_⟩
    rintro g' (⟨hg', hfits'⟩ | himplicit) hpath ⟨hregistered, hprecedes⟩
    · exact hfirst g' hg' hfits' hpath hprecedes
    · rw [Group.isImplicit, h.implicit_id himplicit] at hregistered
      cases hregistered

/-- The implicit default group has its path unless a live group that fits the host has it. -/
theorem mem_contenders_iff_of_implicit (h : i.WellFormed) (hg : g ∈ i.implicit) :
    g ∈ i.contenders.groups ↔
      ∀ g' ∈ i.roster.groups, g'.provider.fits i.host = true → g'.path ≠ g.path := by
  have himplicit : g.isImplicit = true := by
    rw [Group.isImplicit, h.implicit_id hg]
    rfl
  simp only [mem_contenders_groups h, mem_fit_groups]
  constructor
  · rintro ⟨-, hfirst⟩ g' hg' hfits hpath
    exact hfirst g' (.inl ⟨hg', hfits⟩) hpath (Group.outranks_implicit (explicit_of_live h hg') himplicit)
  · intro hfree
    refine ⟨.inr hg, ?_⟩
    rintro g' (⟨hg', hfits⟩ | hsame) hpath hranks
    · exact hfree g' hg' hfits hpath
    · obtain rfl : g' = g := Option.some.inj (hsame.symm.trans hg)
      exact g'.outranks_irrefl hranks

end Intake

/-! ### Rivals -/

namespace Reading

/-- A live group that declares itself default, and that nothing but another such group can keep out of
service. -/
structure Rival (r : Reading) (g : Group) : Prop where
  live : g ∈ r.intake.roster.groups
  declares : g.isDefault = true
  /-- Nothing is wrong with it. -/
  valid : g.provider.isValid = true
  /-- It is meant for the host. -/
  target : g.provider.appliesTo r.intake.host = true
  /-- No group that fits the host and has its path precedes it. -/
  keepsPath : ∀ g' ∈ r.intake.roster.groups, g'.provider.fits r.intake.host = true → g'.path = g.path →
    ¬g'.provider.precedes g.provider = true
  /-- It does not lose its name. -/
  keepsName : ¬r.intake.contenders.LosesName g.provider
  /-- What it requires is matched by the interceptors that stay attached to it, by itself or by the host. -/
  met : ∀ f ∈ g.provider.requires, Matched r.intake.host g (r.kept g) f

/-- A rival that precedes all others. -/
structure Foremost (r : Reading) (g : Group) : Prop extends r.Rival g where
  first : ∀ g', r.Rival g' → g' ≠ g → g.provider.precedes g'.provider = true

/-- There is an implicit default group, and no live group that fits the host has its path. -/
def Unclaimed (r : Reading) : Prop := ∃ g ∈ r.intake.implicit,
  ∀ g' ∈ r.intake.roster.groups, g'.provider.fits r.intake.host = true → g'.path ≠ g.path

/-- Which group is the default, and what becomes of the others. -/
structure DefaultSubstituted (r : Reading) : Prop where
  /-- Where there are rivals, the foremost of them is the default group. -/
  explicit : (∃ g, r.Rival g) → ∃ g, r.Foremost g ∧ r.decision.default = some g.id
  /-- Where there is none, it is the implicit default group, if that has its path. -/
  implicit : (∀ g, ¬r.Rival g) → r.Unclaimed → r.decision.default = some ServiceId.implicitDefault
  none : (∀ g, ¬r.Rival g) → ¬r.Unclaimed → r.decision.default = none
  /-- The default group is planned. -/
  planned : ∀ id, r.decision.default = some id → ∃ g ∈ r.plan, g.id = id ∧ g.isDefault = true
  /-- No other group that declares itself default is. -/
  sole : ∀ g ∈ r.plan, g.isDefault = true → r.decision.default = some g.id
  /-- The other rivals are reported as shadowed, and not placed. -/
  shadowed : ∀ g, r.Rival g → r.decision.default ≠ some g.id →
    r.entries g.provider = [g.provider.failed .shadowed] ∧ ¬r.Places g.provider
  /-- Content that selects no groups is attached to the default group, if to any. -/
  unselective : ∀ c : Content, c.select = Option.none → ∀ g ∈ r.plan, c ∈ g.attached →
    r.decision.default = some g.id ∧ ∀ g' ∈ r.plan, c ∈ g'.attached → g' = g

variable {r : Reading} {g : Group}

section Rivals

variable (h : r.intake.WellFormed)
include h

/-- No interceptor has the identity of a live group. -/
theorem id_ne_of_interceptor {c : Content} (hc : c ∈ r.intake.roster.interceptors)
    (hg : g ∈ r.intake.roster.groups) : c.id ≠ g.id := by
  intro hid
  have heq : c.provider = g.provider := Roster.eq_of_id h.roster.unique
    (Roster.content_mem_providers (k := .interceptor) hc) (Roster.group_mem_providers hg) hid
  have hkind := h.roster.interceptorKind c hc
  rw [Content.kind, heq, h.roster.groupKind g hg] at hkind
  cases hkind

/-- The requirements of a live group are met where each is matched. -/
theorem satisfies_iff (hg : g ∈ r.intake.roster.groups) : r.satisfies g = true ↔
    ∀ f ∈ g.provider.requires, Matched r.intake.host g (r.kept g) f := by
  have hothers : ((r.kept g).filter fun y => y.id ≠ g.provider.id) = r.kept g := by
    refine List.filter_eq_self.2 fun y hy => decide_eq_true ?_
    exact id_ne_of_interceptor h ((kept_sublist g).subset hy) hg
  rw [satisfies, requirementsMet_iff_matched, hothers]

/-- A rival is a live group of the contest that declares itself default and whose requirements are met. -/
theorem rival_iff : r.Rival g ↔ g ∈ r.intake.roster.groups ∧ g.isDefault = true ∧
    g ∈ r.contest.roster.groups ∧ r.satisfies g = true := by
  constructor
  · intro k
    refine ⟨k.live, k.declares, (Intake.mem_contest_groups h).2 ⟨?_, k.keepsName⟩,
      (satisfies_iff h k.live).2 k.met⟩
    exact (Intake.mem_contenders_iff_of_live h k.live).2 ⟨fits_iff.2 ⟨k.valid, k.target⟩, k.keepsPath⟩
  · rintro ⟨hlive, hdefault, hcontest, hsatisfied⟩
    obtain ⟨hcontender, hname⟩ := (Intake.mem_contest_groups h).1 hcontest
    obtain ⟨hfits, hpath⟩ := (Intake.mem_contenders_iff_of_live h hlive).1 hcontender
    obtain ⟨hvalid, htarget⟩ := fits_iff.1 hfits
    exact ⟨hlive, hdefault, hvalid, htarget, hpath, hname, (satisfies_iff h hlive).1 hsatisfied⟩

/-- The groups among which the default group is chosen are the rivals. -/
theorem mem_candidates_iff : g ∈ (r.contest.roster.groups.filter r.satisfies).filter
    (fun g => g.isDefault && !g.isImplicit) ↔ r.Rival g := by
  rw [rival_iff h]
  simp only [List.mem_filter, Bool.and_eq_true, Bool.not_eq_true']
  constructor
  · rintro ⟨⟨hcontest, hsatisfied⟩, hdefault, hexplicit⟩
    have hlive := h.isImplicit_iff (contest_within.groups.subset hcontest)
    rw [hexplicit] at hlive
    exact ⟨Decidable.byContradiction fun hnot => by simpa using hlive.2 hnot, hdefault, hcontest, hsatisfied⟩
  · rintro ⟨hlive, hdefault, hcontest, hsatisfied⟩
    exact ⟨⟨hcontest, hsatisfied⟩, hdefault, Intake.explicit_of_live h hlive⟩

/-- An implicit default group that has its path takes part in the contest to its end. -/
theorem implicit_mem_iff (hg : g ∈ r.intake.implicit) :
    g ∈ r.contest.roster.groups.filter r.satisfies ↔
      ∀ g' ∈ r.intake.roster.groups, g'.provider.fits r.intake.host = true → g'.path ≠ g.path := by
  rw [← Intake.mem_contenders_iff_of_implicit h hg, List.mem_filter, contest, Intake.mem_contest_groups h]
  obtain ⟨path, content, rfl⟩ := h.implicit g hg
  -- It has a generated name, which nobody can take from it, and requires nothing.
  have hname : ¬r.intake.contenders.LosesName (Group.implicitDefault path content).provider := by
    rintro ⟨hdeclared, -⟩
    rw [Group.implicitDefault_generated] at hdeclared
    cases hdeclared
  have hsatisfied : r.satisfies (.implicitDefault path content) = true := by
    rw [satisfies, requirementsMet, Group.implicitDefault_requires]
    rfl
  simp [hname, hsatisfied]

/-- Where there are rivals, the foremost of them is the default group. -/
theorem default_of_rival (hrival : r.Rival g) :
    ∃ g, r.Foremost g ∧ r.decision.default = some g.id := by
  cases hbest : bestGroup ((r.contest.roster.groups.filter r.satisfies).filter
      fun g => g.isDefault && !g.isImplicit) with
  | none =>
      have hmem := (mem_candidates_iff h).2 hrival
      rw [bestGroup_eq_none.1 hbest] at hmem
      cases hmem
  | some g =>
      obtain ⟨hg, hfirst⟩ := bestGroup_notAfter hbest
      have hg := (mem_candidates_iff h).1 hg
      refine ⟨g, ⟨hg, fun g' hg' hne => ?_⟩, ?_⟩
      · refine Provider.precedes_of_notAfter (fun hid => hne ?_) (hfirst g' ((mem_candidates_iff h).2 hg'))
        have hwithin := r.intake.roster_within.groups
        exact (entrant_eq_of_id h (hwithin.subset hg.live) (hwithin.subset hg'.live) hid).symm
      · rw [decision_default, defaultOf, hbest]

/-- Where there is none, the implicit default group is, if it takes part in the contest to its end. -/
theorem default_of_no_rival (hnone : ∀ g, ¬r.Rival g) : r.decision.default =
    ((r.contest.roster.groups.filter r.satisfies).find? Group.isImplicit).map Group.id := by
  have hempty : (r.contest.roster.groups.filter r.satisfies).filter
      (fun g => g.isDefault && !g.isImplicit) = [] :=
    List.eq_nil_iff_forall_not_mem.2 fun g hg => hnone g ((mem_candidates_iff h).1 hg)
  rw [decision_default, defaultOf, hempty, bestGroup]

/-- The default group takes part in the contest to its end, and declares itself default. -/
theorem default_mem {id : ServiceId} (hdefault : r.decision.default = some id) :
    ∃ g ∈ r.contest.roster.groups, r.satisfies g = true ∧ g.isDefault = true ∧ g.id = id := by
  rw [decision_default, defaultOf] at hdefault
  cases hbest : bestGroup ((r.contest.roster.groups.filter r.satisfies).filter
      fun g => g.isDefault && !g.isImplicit) with
  | some g =>
      rw [hbest] at hdefault
      obtain ⟨hlive, hdeclares, hcontest, hsatisfied⟩ :=
        (rival_iff h).1 ((mem_candidates_iff h).1 (bestGroup_notAfter hbest).1)
      exact ⟨g, hcontest, hsatisfied, hdeclares, Option.some.inj hdefault⟩
  | none =>
      rw [hbest] at hdefault
      obtain ⟨g, hfound, hid⟩ := Option.map_eq_some_iff.1 hdefault
      obtain ⟨hcontest, hsatisfied⟩ := List.mem_filter.1 (List.mem_of_find?_eq_some hfound)
      -- Every implicit default group declares itself default.
      have hentrant := contest_within.groups.subset hcontest
      have hnot := (h.isImplicit_iff hentrant).1 (List.find?_some hfound)
      obtain ⟨path, content, rfl⟩ :=
        h.implicit g (Option.mem_toList.1 ((List.mem_append.1 hentrant).resolve_left hnot))
      exact ⟨_, hcontest, hsatisfied, rfl, hid⟩

omit h in
/-- A planned group that declares itself default is the default group. -/
theorem default_of_planned (hg : g ∈ r.plan) (hdefault : g.isDefault = true) :
    r.decision.default = some g.id := by
  obtain ⟨g₀, hserved, rfl⟩ := r.mem_plan_iff.1 hg
  have hallowed := (r.mem_served_iff.1 hserved).2.2
  have hdefault : g₀.isDefault = true := hdefault
  rw [allowedBeside, hdefault, Bool.not_true, Bool.false_or] at hallowed
  exact beq_iff_eq.1 hallowed

/-- The default group is planned. -/
theorem planned_of_default {id : ServiceId} (hdefault : r.decision.default = some id) :
    ∃ g ∈ r.plan, g.id = id ∧ g.isDefault = true := by
  obtain ⟨g, hcontest, hsatisfied, hdeclares, rfl⟩ := default_mem h hdefault
  have hallowed : allowedBeside r.decision.default g = true := by simp [allowedBeside, hdefault]
  exact ⟨r.formed g, r.mem_plan_iff.2 ⟨g, r.mem_served_iff.2 ⟨hcontest, hsatisfied, hallowed⟩, rfl⟩, rfl,
    hdeclares⟩

/-- A rival that is not the default group is left out because it is shadowed. -/
theorem shadowed_of_rival (hrival : r.Rival g) (hother : r.decision.default ≠ some g.id) :
    r.groupReason g = some .shadowed := by
  obtain ⟨hlive, hdeclares, hcontest, hsatisfied⟩ := (rival_iff h).1 hrival
  obtain ⟨hcontender, hname⟩ := (mem_contest_groups_iff h).1 hcontest
  have hvalid : g.provider.failure = none := Option.isNone_iff_eq_none.1 hrival.valid
  have hspare : allowedBeside r.decision.default g = false := by simp [allowedBeside, hdeclares, hother]
  simp [groupReason, hvalid, hrival.target, hcontender, hname, hsatisfied, hspare]

omit h in
/-- Content without a filter is attached to default groups only. -/
theorem isDefault_of_unselective {c : Content} (hselect : c.select = none) (hg : g ∈ r.plan)
    (hc : c ∈ g.attached) : g.isDefault = true := by
  obtain ⟨g₀, -, rfl⟩ := r.mem_plan_iff.1 hg
  have hselects : c.selects g₀ = true := by
    rcases mem_attached_formed.1 hc with hkept | hmanned
    · exact (mem_choose_iff.1 ((settle_sublist _).subset hkept)).2.2
    · exact (mem_choose_iff.1 (List.mem_filter.1 hmanned).1).2.2
  rw [Content.selects, hselect, Bool.and_eq_true] at hselects
  exact hselects.2

/-- The default group is chosen as it should be. -/
theorem defaultSubstituted : r.DefaultSubstituted where
  explicit := fun ⟨_, hrival⟩ => default_of_rival h hrival
  implicit := by
    rintro hnone ⟨g, hg, hfree⟩
    have hmem := (implicit_mem_iff h hg).2 hfree
    have hid := h.implicit_id hg
    rw [default_of_no_rival h hnone]
    cases hfound : (r.contest.roster.groups.filter r.satisfies).find? Group.isImplicit with
    | none =>
        have hnot := List.find?_eq_none.1 hfound g hmem
        rw [Group.isImplicit, hid] at hnot
        exact absurd rfl hnot
    | some g' =>
        have himplicit : g'.isImplicit = true := List.find?_some hfound
        exact congrArg some (beq_iff_eq.1 himplicit)
  none := by
    intro hnone hclaimed
    rw [default_of_no_rival h hnone, Option.map_eq_none_iff, List.find?_eq_none]
    intro g hmem himplicit
    have hentrant := contest_within.groups.subset (List.mem_filter.1 hmem).1
    have hnot := (h.isImplicit_iff hentrant).1 himplicit
    have hg := Option.mem_toList.1 ((List.mem_append.1 hentrant).resolve_left hnot)
    exact hclaimed ⟨g, hg, (implicit_mem_iff h hg).1 hmem⟩
  planned := fun _ hdefault => planned_of_default h hdefault
  sole := fun _ hg hdefault => default_of_planned hg hdefault
  shadowed := by
    intro g hrival hother
    have hreason := shadowed_of_rival h hrival hother
    have hentries := (entries_perm (r := r) g.provider).trans (.of_eq (about_group h hrival.live))
    rw [hreason] at hentries
    refine ⟨List.perm_singleton.1 hentries, fun hplaced => ?_⟩
    have hserved := (mem_served_iff_reason h hrival.live).1 ((places_group_iff h hrival.live).1 hplaced)
    rw [hreason] at hserved
    cases hserved.2
  unselective := by
    intro c hselect g hg hc
    have hdefault := default_of_planned hg (isDefault_of_unselective hselect hg hc)
    refine ⟨hdefault, fun g' hg' hc' => ?_⟩
    have hother := default_of_planned hg' (isDefault_of_unselective hselect hg' hc')
    -- Both are the default group.
    exact List.inj_on_of_nodup_map (nodup_plan h) hg' hg (Option.some.inj (hother.symm.trans hdefault))

end Rivals

end Reading

namespace History

/-- Four groups declare themselves default, of which two have one rank and one requires what nothing offers,
and an interceptor and a handler select no groups; all are registered in one batch. -/
def rivalry : History {} (.shared 0 .plain) where
  host := {}
  pool := {}
  actions :=
    let group (path : String) (rank : Nat) (more : List (String × Value)) : Map :=
      .ofList ([(Key.routeGroup, .flag true), (Key.path, .text path), (Key.default, .flag true),
        (Key.rank, .ofNat rank)] ++ more)
    [.openBatch, .upsert .group (.shared 1 .plain) (group "/a" 0 []),
      .upsert .group (.shared 2 .plain) (group "/b" 5 []),
      .upsert .group (.shared 3 .plain) (group "/c" 5 []),
      .upsert .group (.shared 4 .plain) (group "/d" 9 [(Key.requires, .text "(scheme=digest)")]),
      .upsert .interceptor (.shared 5 (.marker (.ofList [.requestFilter])))
        (.ofList [(Key.routeInterceptor, .flag true)]),
      .upsert .handler (.shared 6 .plain) (.ofList [(Key.routeHandler, .flag true)]), .endBatch]

end History

/-- What a pass reads tells which group is the default: the foremost rival, else the implicit default group if
that has its path.  This is the default group of a dispatcher whose last pass has read it.  When this pass is
over, its failures are published, and where none of its calls has failed no other group that declares itself
default is registered. -/
theorem Reading.default_substituted [Route.Routing] {r : Reading} (h : r.intake.WellFormed) : r.DefaultSubstituted ∧
    ∀ (settings : Settings) (content : Payload) (p : History settings content),
      p.final.state.status ≠ .closed → p.final.last = some r →
        p.final.state.default = r.decision.default ∧
          (p.final.state.running = none → p.final.state.failures = r.snapshot ∧
            (p.final.state.lastReport.failedCalls = 0 → ∀ g ∈ p.final.state.site.registered.values,
              g.isDefault = true → p.final.state.default = some g.id)) := by
  have hsubstituted := defaultSubstituted h
  refine ⟨hsubstituted, fun settings content p hopen hlast => ?_⟩
  have hat := ((p.steady hopen).reached r hlast).2
  refine ⟨hat.default, fun hidle => ⟨(hat.ended hidle).1, fun hnone g hg hdefault => ?_⟩⟩
  have hserves := (hat.ended hidle).2 hnone
  obtain ⟨id, hg⟩ := Table.mem_values.1 hg
  -- Only planned groups are registered.
  have hid : id ∈ r.plan.map Group.id := by
    refine Decidable.byContradiction fun hnot => ?_
    rw [hserves.only id hnot] at hg
    cases hg
  obtain ⟨g', hplanned, rfl⟩ := List.mem_map.1 hid
  rw [hserves.done g' hplanned] at hg
  obtain rfl := Option.some.inj hg
  rw [hat.default]
  exact hsubstituted.sole g' hplanned hdefault

/-- In the history above the first of the two groups with the higher rank is the default, and the content is
attached to it. -/
theorem Reading.rivalry_default_substituted : ∃ r : Reading, r.intake.WellFormed ∧
    History.rivalry.final.last = some r ∧ r.DefaultSubstituted ∧
      History.rivalry.final.state.default = r.decision.default ∧
      History.rivalry.final.state.default = some 2 ∧
      History.rivalry.final.state.active.map (fun a => (a.id, a.interceptors.length, a.handlers.length)) =
        [(2, 1, 1)] ∧
      History.rivalry.final.state.failures = r.snapshot ∧
      History.rivalry.final.state.failures.groups.map (fun f => (f.id, f.reason)) =
        [(1, .shadowed), (3, .shadowed), (4, .extensionsUnavailable)] := by
  obtain ⟨hopen, hidle, hread, hdefault, hactive, hshown⟩ : History.rivalry.final.state.status ≠ .closed ∧
      History.rivalry.final.state.running = none ∧ History.rivalry.final.last.isSome = true ∧
      History.rivalry.final.state.default = some 2 ∧
      History.rivalry.final.state.active.map (fun a => (a.id, a.interceptors.length, a.handlers.length)) =
        [(2, 1, 1)] ∧
      History.rivalry.final.state.failures.groups.map (fun f => (f.id, f.reason)) =
        [(1, .shadowed), (3, .shadowed), (4, .extensionsUnavailable)] := by
    decide +kernel
  obtain ⟨r, hlast⟩ := Option.isSome_iff_exists.1 hread
  have hformed : r.intake.WellFormed := ((History.rivalry.steady hopen).reached r hlast).1.wellFormed
  obtain ⟨hsubstituted, hruns⟩ := default_substituted hformed
  obtain ⟨hsame, hover⟩ := hruns _ _ History.rivalry hopen hlast
  exact ⟨r, hformed, hlast, hsubstituted, hsame, hdefault, hactive, (hover hidle).1, hshown⟩

end RouteBinding
