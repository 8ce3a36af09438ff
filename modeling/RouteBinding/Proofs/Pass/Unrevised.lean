import RouteBinding.Proofs.Pass.Stages

/-!
# A pass does not look at revisions

Revisions tell the host's side of a pass what has changed; what a pass decides does not depend on them. 
With every revision erased, the pass finds the same failures and the same default group, and it plans the
same groups but for their revisions (`Reading.unrevised_failures`, `Reading.unrevised_default`,
`Reading.unrevised_plan`).
-/

namespace RouteBinding

open Property

def Provider.unrevised (p : Provider) : Provider := { p with revision := 0 }

def Content.unrevised (c : Content) : Content := { c with provider := c.provider.unrevised }

/-- A group without its revision and those of its content. -/
def Group.unrevised (g : Group) : Group :=
  { g with provider := g.provider.unrevised, attached := g.attached.map Content.unrevised }

def Roster.unrevised (r : Roster) : Roster :=
  ⟨r.groups.map Group.unrevised, r.handlers.map Content.unrevised, r.interceptors.map Content.unrevised⟩

def Intake.unrevised (i : Intake) : Intake :=
  { i with roster := i.roster.unrevised, implicit := i.implicit.map Group.unrevised }

/-- What a pass has read, without revisions. -/
def Reading.unrevised (r : Reading) : Reading := { r with intake := r.intake.unrevised }

/-- Something that a pass finds out, without revisions. -/
def Finding.unrevised : Finding → Finding
  | .elsewhere p => .elsewhere p.unrevised
  | .implicitShadowed path => .implicitShadowed path
  | .unavailable p e => .unavailable p.unrevised e
  | .attached p n => .attached p.unrevised n
  | .excluded p r => .excluded p.unrevised r
  | .chosen d => .chosen d

theorem Finding.unrevised_failure? (f : Finding) : f.unrevised.failure? = f.failure? := by
  cases f <;> rfl

/-! ### Conflicts -/

namespace Roster

theorem unrevised_providers (r : Roster) :
    r.unrevised.providers = r.providers.map Provider.unrevised := by
  simp only [providers, unrevised, List.map_append, List.map_map]
  rfl

theorem unrevised_named (r : Roster) : r.unrevised.named = r.named.map Provider.unrevised := by
  rw [named, unrevised_providers, List.filter_map]
  exact Sorted.ofList_map (f := Provider.unrevised) (fun _ _ => rfl) _

theorem unrevised_duplicates (r : Roster) :
    r.unrevised.duplicates = r.duplicates.map Provider.unrevised := by
  rw [duplicates, unrevised_named, firstClaims_map]
  rfl

theorem unrevised_any_sameAs (lost : List Provider) (p : Provider) :
    (lost.map Provider.unrevised).any p.unrevised.sameAs = lost.any p.sameAs := by
  rw [List.any_map]
  rfl

theorem unrevised_without (r : Roster) (lost : List Provider) :
    r.unrevised.without (lost.map Provider.unrevised) = (r.without lost).unrevised := by
  have hcontent : ∀ l : List Content,
      (l.map Content.unrevised).filter (fun c => !(lost.map Provider.unrevised).any c.provider.sameAs) =
        (l.filter fun c => !lost.any c.provider.sameAs).map Content.unrevised := by
    intro l
    rw [List.filter_map]
    refine congrArg _ (List.filter_congr fun c _ => ?_)
    exact congrArg _ (unrevised_any_sameAs lost c.provider)
  have hgroups : ∀ l : List Group,
      (l.map Group.unrevised).filter (fun g => !(lost.map Provider.unrevised).any g.provider.sameAs) =
        (l.filter fun g => !lost.any g.provider.sameAs).map Group.unrevised := by
    intro l
    rw [List.filter_map]
    refine congrArg _ (List.filter_congr fun g _ => ?_)
    exact congrArg _ (unrevised_any_sameAs lost g.provider)
  unfold without unrevised
  dsimp only
  rw [hgroups, hcontent, hcontent]

end Roster

theorem unrevised_shadowedPlaces (groups : List Group) :
    shadowedPlaces (groups.map Group.unrevised) = shadowedPlaces groups := by
  have hplaces : (groups.map Group.unrevised).zipIdx = groups.zipIdx.map (Prod.map Group.unrevised id) :=
    List.zipIdx_map
  have hsorted : byPathPrecedence (groups.map Group.unrevised) =
      (byPathPrecedence groups).map (Prod.map Group.unrevised id) := by
    rw [byPathPrecedence, hplaces]
    exact Sorted.ofList_map (f := Prod.map Group.unrevised id) (fun _ _ => rfl) _
  rw [shadowedPlaces, hsorted, firstClaims_map, List.map_map]
  rfl

theorem unrevised_resolvePaths (groups : List Group) : resolvePaths (groups.map Group.unrevised) =
    ((resolvePaths groups).1.map Group.unrevised, (resolvePaths groups).2.map Group.unrevised) := by
  have hplaces : (groups.map Group.unrevised).zipIdx = groups.zipIdx.map (Prod.map Group.unrevised id) :=
    List.zipIdx_map
  unfold resolvePaths
  dsimp only
  rw [unrevised_shadowedPlaces, hplaces, List.filter_map, List.filter_map]
  simp only [List.map_map]
  rfl

/-! ### The contest -/

namespace Intake

variable (i : Intake)

theorem unrevised_fit : i.unrevised.fit = i.fit.unrevised := by
  have hgroups : (i.roster.groups.map Group.unrevised).filter (fun g => g.provider.fits i.host) =
      (i.roster.groups.filter fun g => g.provider.fits i.host).map Group.unrevised := List.filter_map
  have hcontent : ∀ l : List Content,
      (l.map Content.unrevised).filter (fun c => c.provider.fits i.host) =
        (l.filter fun c => c.provider.fits i.host).map Content.unrevised := fun l => List.filter_map
  have himplicit : (i.implicit.map Group.unrevised).toList = i.implicit.toList.map Group.unrevised := by
    cases i.implicit <;> rfl
  unfold fit unrevised Roster.unrevised
  dsimp only
  rw [hgroups, hcontent, hcontent, himplicit, List.map_append]

theorem unrevised_contenders : i.unrevised.contenders = i.contenders.unrevised := by
  rw [contenders, contenders, unrevised_fit]
  unfold Roster.unrevised
  dsimp only
  rw [unrevised_resolvePaths]

theorem unrevised_contest_roster : i.unrevised.contest.roster = i.contest.roster.unrevised := by
  rw [contest_roster, contest_roster, unrevised_contenders, Roster.unrevised_duplicates,
    Roster.unrevised_without]

end Intake

/-! ### Attachment -/

theorem unrevised_requirementsMet (host : Map) (g : Group) (l : List Content) (p : Provider) :
    requirementsMet host g.unrevised (l.map Content.unrevised) p.unrevised =
      requirementsMet host g l p := by
  have hmet : ∀ f, requirementMet host g.unrevised (l.map Content.unrevised) p.id f =
      requirementMet host g l p.id f := by
    intro f
    rw [requirementMet, List.any_map]
    rfl
  show p.requires.all (requirementMet host g.unrevised (l.map Content.unrevised) p.id) = _
  rw [funext hmet]
  rfl

theorem unrevised_failing (host : Map) (g : Group) (l : List Content) :
    failing host g.unrevised (l.map Content.unrevised) = (failing host g l).map Content.unrevised := by
  rw [failing, List.filter_map]
  refine congrArg _ (List.filter_congr fun c _ => ?_)
  exact congrArg _ (unrevised_requirementsMet host g l c.provider)

/-- Detaching in rounds does not look at revisions. -/
theorem unrevised_settle (host : Map) (g : Group) (l : List Content) :
    settle host g.unrevised (l.map Content.unrevised) =
      ((settle host g l).1.map Content.unrevised, (settle host g l).2) := by
  fun_induction settle host g l with
  | case1 l hstable =>
      rw [settle, dif_pos]
      rw [unrevised_failing, hstable]
      rfl
  | case2 l hunstable ids kept detached hsettle ih =>
      -- The same interceptors fail in this round, and the same are left for the next.
      have hids : ((failing host g l).map Content.unrevised).map Content.id = ids := by
        rw [List.map_map]
        rfl
      have hrest : withoutIds ids (l.map Content.unrevised) =
          (withoutIds ids l).map Content.unrevised := List.filter_map
      rw [settle, dif_neg]
      · simp only [unrevised_failing, hids, hrest, ih, hsettle]
      · rw [unrevised_failing]
        simpa using hunstable

theorem unrevised_bestGroup (groups : List Group) :
    bestGroup (groups.map Group.unrevised) = (bestGroup groups).map Group.unrevised := by
  induction groups with
  | nil => rfl
  | cons g rest ih =>
      rw [List.map_cons, bestGroup, ih, bestGroup]
      cases bestGroup rest with
      | none => rfl
      | some b =>
          by_cases hprecedes : b.provider.precedes g.provider = true
          · have herased : b.unrevised.provider.precedes g.unrevised.provider = true := hprecedes
            simp only [Option.map_some, herased, hprecedes, if_true]
          · have herased : ¬b.unrevised.provider.precedes g.unrevised.provider = true := hprecedes
            simp only [Option.map_some, herased, hprecedes]
            rfl

theorem unrevised_defaultOf (groups : List Group) :
    defaultOf (groups.map Group.unrevised) = defaultOf groups := by
  have hfilter : (groups.map Group.unrevised).filter (fun g => g.isDefault && !g.isImplicit) =
      (groups.filter fun g => g.isDefault && !g.isImplicit).map Group.unrevised := List.filter_map
  rw [defaultOf, hfilter, unrevised_bestGroup, defaultOf, List.find?_map]
  cases bestGroup (groups.filter fun g => g.isDefault && !g.isImplicit) with
  | none =>
      show ((groups.find? Group.isImplicit).map Group.unrevised).map Group.id = _
      rw [Option.map_map]
      rfl
  | some g => rfl

namespace Reading

variable (r : Reading)

theorem unrevised_contest_roster : r.unrevised.contest.roster = r.contest.roster.unrevised :=
  r.intake.unrevised_contest_roster

theorem unrevised_content (roster : Roster) (k : Kind) :
    roster.unrevised.content k = (roster.content k).map Content.unrevised := by
  cases k <;> rfl

theorem unrevised_choose (l : List Content) (g : Group) :
    Contest.choose r.outcomes (l.map Content.unrevised) g.unrevised =
      (Contest.choose r.outcomes l g).map Content.unrevised := by
  rw [Contest.choose, List.filter_map]
  rfl

/-- What is attached at first and then detached round by round. -/
theorem unrevised_bound (g : Group) :
    settle r.unrevised.contest.host g.unrevised
        (Contest.choose r.unrevised.outcomes r.unrevised.contest.roster.interceptors g.unrevised) =
      ((r.kept g).map Content.unrevised,
        (settle r.contest.host g (Contest.choose r.outcomes r.contest.roster.interceptors g)).2) := by
  rw [unrevised_contest_roster]
  show settle r.contest.host g.unrevised
    (Contest.choose r.outcomes (r.contest.roster.interceptors.map Content.unrevised) g.unrevised) = _
  rw [unrevised_choose, unrevised_settle]
  rfl

theorem unrevised_kept (g : Group) :
    r.unrevised.kept g.unrevised = (r.kept g).map Content.unrevised := by
  rw [kept, unrevised_bound]

theorem unrevised_satisfies (g : Group) : r.unrevised.satisfies g.unrevised = r.satisfies g := by
  rw [satisfies, unrevised_kept]
  exact unrevised_requirementsMet r.contest.host g (r.kept g) g.provider

theorem unrevised_manned (g : Group) :
    r.unrevised.manned g.unrevised = (r.manned g).map Content.unrevised := by
  have hchosen : Contest.choose r.unrevised.outcomes r.unrevised.contest.roster.handlers g.unrevised =
      (Contest.choose r.outcomes r.contest.roster.handlers g).map Content.unrevised := by
    rw [unrevised_contest_roster]
    exact r.unrevised_choose r.contest.roster.handlers g
  rw [manned, hchosen, unrevised_kept, List.filter_map]
  refine congrArg _ (List.filter_congr fun c _ => ?_)
  exact unrevised_requirementsMet r.contest.host g (r.kept g) c.provider

theorem unrevised_formed (g : Group) : r.unrevised.formed g.unrevised = (r.formed g).unrevised := by
  rw [formed, unrevised_kept, unrevised_manned, ← List.map_append]
  rfl

theorem unrevised_groups :
    r.unrevised.contest.roster.groups = r.contest.roster.groups.map Group.unrevised := by
  rw [unrevised_contest_roster]
  rfl

/-- The default group does not depend on revisions. -/
theorem unrevised_default : r.unrevised.decision.default = r.decision.default := by
  rw [decision_default, decision_default, unrevised_groups, List.filter_map,
    ← unrevised_defaultOf (r.contest.roster.groups.filter r.satisfies)]
  refine congrArg defaultOf (congrArg _ (List.filter_congr fun g _ => ?_))
  exact r.unrevised_satisfies g

theorem unrevised_serves (g : Group) : r.unrevised.serves g.unrevised = r.serves g := by
  rw [serves, serves, unrevised_satisfies, unrevised_default]
  rfl

theorem unrevised_served : r.unrevised.served = r.served.map Group.unrevised := by
  rw [served, unrevised_groups, List.filter_map]
  exact congrArg _ (List.filter_congr fun g _ => r.unrevised_serves g)

/-- The same groups are planned but for their revisions. -/
theorem unrevised_plan : r.unrevised.plan = r.plan.map Group.unrevised := by
  -- Sorting looks at identities only.
  have hplaced : r.unrevised.decision.placed = r.decision.placed.map Group.unrevised := by
    rw [decision_placed, decision_placed, unrevised_served, List.map_map, List.map_map]
    exact List.map_congr_left fun g _ => r.unrevised_formed g
  rw [plan, hplaced]
  exact Sorted.ofList_map (f := Group.unrevised)
    (fun _ _ => rfl) _

/-! ### What is found out -/

theorem unrevised_misfit (host : Map) (p : Provider) :
    p.unrevised.misfit host = (p.misfit host).map Finding.unrevised := by
  have hfailure : p.unrevised.failure = p.failure := rfl
  have htarget : p.unrevised.appliesTo host = p.appliesTo host := rfl
  unfold Provider.misfit
  rw [hfailure, htarget]
  cases p.failure with
  | some reason => rfl
  | none =>
      by_cases happlies : p.appliesTo host = true
      · simp only [happlies, if_true]
        rfl
      · simp only [happlies]
        rfl

theorem unrevised_misfitStage : r.unrevised.misfitStage = r.misfitStage.map Finding.unrevised := by
  rw [misfitStage, show r.unrevised.intake.roster.providers = _ from Roster.unrevised_providers _,
    List.filterMap_map, misfitStage, List.map_filterMap]
  exact List.filterMap_congr fun p _ => unrevised_misfit r.intake.host p

theorem unrevised_pathStage : r.unrevised.pathStage = r.pathStage.map Finding.unrevised := by
  have hshadowed : (resolvePaths r.unrevised.intake.fit.groups).2 =
      (resolvePaths r.intake.fit.groups).2.map Group.unrevised := by
    rw [show r.unrevised.intake.fit = _ from Intake.unrevised_fit _]
    exact congrArg Prod.snd (unrevised_resolvePaths _)
  rw [pathStage, hshadowed, List.map_map, pathStage, List.map_map]
  refine List.map_congr_left fun g _ => ?_
  show Intake.pathFinding g.unrevised = (Intake.pathFinding g).unrevised
  unfold Intake.pathFinding
  by_cases himplicit : g.isImplicit = true
  · rw [if_pos himplicit, if_pos (show g.unrevised.isImplicit = true from himplicit)]
    rfl
  · rw [if_neg himplicit, if_neg (show ¬g.unrevised.isImplicit = true from himplicit)]
    rfl

theorem unrevised_nameStage : r.unrevised.nameStage = r.nameStage.map Finding.unrevised := by
  rw [nameStage, show r.unrevised.intake.contenders = _ from Intake.unrevised_contenders _,
    Roster.unrevised_duplicates, List.map_map, nameStage, List.map_map]
  rfl

theorem unrevised_offering (k : Kind) :
    r.unrevised.offering k = (r.offering k).map Group.unrevised := by
  cases k with
  | handler => exact r.unrevised_served
  | group => exact r.unrevised_groups
  | interceptor => exact r.unrevised_groups

theorem unrevised_attachFindings (groups : List Group) (c : Content) :
    attachFindings r.outcomes (groups.map Group.unrevised) c.unrevised =
      (attachFindings r.outcomes groups c).map Finding.unrevised := by
  have hid : c.unrevised.id = c.id := rfl
  unfold attachFindings
  rw [hid, List.any_map, List.countP_map]
  cases r.outcomes c.id with
  | error e => rfl
  | ok contracts =>
      dsimp only
      by_cases hempty : (c.kind == .interceptor && contracts.isEmpty) = true
      · have herased : (c.unrevised.kind == .interceptor && contracts.isEmpty) = true := hempty
        rw [if_pos hempty, if_pos herased]
        rfl
      · have herased : ¬(c.unrevised.kind == .interceptor && contracts.isEmpty) = true := hempty
        rw [if_neg hempty, if_neg herased]
        by_cases hany : groups.any c.selects = true
        · rw [if_pos hany, if_pos (show groups.any (c.unrevised.selects ∘ Group.unrevised) = true from hany)]
          rfl
        · rw [if_neg hany, if_neg (show ¬groups.any (c.unrevised.selects ∘ Group.unrevised) = true from hany)]
          rfl

theorem unrevised_attachStage (k : Kind) :
    r.unrevised.attachStage k = (r.attachStage k).map Finding.unrevised := by
  rw [attachStage, unrevised_contest_roster, unrevised_content, unrevised_offering, List.flatMap_map,
    attachStage, List.map_flatMap]
  exact List.flatMap_congr fun c _ => r.unrevised_attachFindings _ c

theorem unrevised_staying (k : Kind) (g : Group) :
    r.unrevised.staying k g.unrevised = (r.staying k g).map Content.unrevised := by
  cases k with
  | handler => exact r.unrevised_manned g
  | group => exact r.unrevised_kept g
  | interceptor => exact r.unrevised_kept g

theorem unrevised_holding (k : Kind) : r.unrevised.holding k = r.holding k := by
  rw [holding_eq, holding_eq, unrevised_served, List.flatMap_map]
  refine List.flatMap_congr fun g _ => ?_
  rw [unrevised_staying, List.map_map]
  rfl

theorem unrevised_unmanned (g : Group) :
    r.unrevised.unmanned g.unrevised = (r.unmanned g).map Content.unrevised := by
  have hchosen : Contest.choose r.unrevised.outcomes r.unrevised.contest.roster.handlers g.unrevised =
      (Contest.choose r.outcomes r.contest.roster.handlers g).map Content.unrevised := by
    rw [unrevised_contest_roster]
    exact r.unrevised_choose r.contest.roster.handlers g
  rw [unmanned, hchosen, unrevised_kept, List.filter_map]
  refine congrArg _ (List.filter_congr fun c _ => ?_)
  exact congrArg (!·) (unrevised_requirementsMet r.contest.host g (r.kept g) c.provider)

theorem unrevised_shed (g : Group) : r.unrevised.shed g.unrevised = r.shed g := by
  rw [shed, unrevised_bound]
  rfl

theorem unrevised_detaching (k : Kind) : r.unrevised.detaching k = r.detaching k := by
  have hinterceptors : r.unrevised.detaching .interceptor = r.detaching .interceptor := by
    rw [detaching_interceptors, detaching_interceptors, unrevised_groups, List.flatMap_map]
    exact List.flatMap_congr fun g _ => r.unrevised_shed g
  cases k with
  | handler =>
      rw [detaching_handlers, detaching_handlers, unrevised_served, List.flatMap_map]
      refine List.flatMap_congr fun g _ => ?_
      rw [unrevised_unmanned, List.map_map]
      rfl
  | group => exact hinterceptors
  | interceptor => exact hinterceptors

theorem unrevised_orphanStage (k : Kind) :
    r.unrevised.orphanStage k = (r.orphanStage k).map Finding.unrevised := by
  have hcontents : (r.unrevised.contest.roster.content k).filter
      (fun x => usable r.unrevised.outcomes x && (r.unrevised.offering k).any x.selects) =
        ((r.contest.roster.content k).filter
          fun x => usable r.outcomes x && (r.offering k).any x.selects).map Content.unrevised := by
    rw [unrevised_contest_roster, unrevised_content, unrevised_offering, List.filter_map]
    refine congrArg _ (List.filter_congr fun x _ => ?_)
    show (usable r.outcomes x && ((r.offering k).map Group.unrevised).any x.unrevised.selects) = _
    rw [List.any_map]
    rfl
  rw [orphanStage, orphanFindings, unrevised_holding, unrevised_detaching, hcontents, List.filter_map,
    List.map_map, orphanStage, orphanFindings, List.map_map]
  rfl

theorem unrevised_unmetStage : r.unrevised.unmetStage = r.unmetStage.map Finding.unrevised := by
  rw [unmetStage, unrevised_groups, List.filter_map, List.map_map, unmetStage, List.map_map]
  refine congrArg _ (List.filter_congr fun g _ => ?_)
  exact congrArg _ (r.unrevised_satisfies g)

theorem unrevised_spareStage : r.unrevised.spareStage = r.spareStage.map Finding.unrevised := by
  rw [spareStage, unrevised_groups, List.filter_map, List.map_map, spareStage, List.map_map]
  refine congrArg _ (List.filter_congr fun g _ => ?_)
  show (!allowedBeside r.unrevised.decision.default g.unrevised && !g.isImplicit &&
    r.unrevised.satisfies g.unrevised) = _
  rw [unrevised_satisfies, unrevised_default]
  rfl

/-- The same things are found out but for revisions. -/
theorem unrevised_findings : r.unrevised.findings = r.findings.map Finding.unrevised := by
  rw [findings_eq, findings_eq]
  simp only [unrevised_misfitStage, unrevised_pathStage, unrevised_nameStage, unrevised_attachStage,
    unrevised_unmetStage, unrevised_spareStage, unrevised_orphanStage, unrevised_default, List.map_append]
  rfl

/-- The failures do not depend on revisions. -/
theorem unrevised_failures : r.unrevised.failures = r.failures := by
  rw [failures, unrevised_findings, List.filterMap_map]
  exact List.filterMap_congr fun f _ => f.unrevised_failure?

end Reading

end RouteBinding
