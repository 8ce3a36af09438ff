import RouteBinding.Proofs.Pass.Findings

/-!
# The stages of a pass

A pass finds out things in stages: which providers do not fit, which groups lost their path, which providers
lost their name, and then what keeps the others out of service (`Reading.findings_eq`).  For every live
provider there is at most one reason for which a pass leaves it out, and the stages report this reason once
between them (`Reading.about_group`, `Reading.about_content`).
-/

namespace RouteBinding

open Finding

namespace Reading

variable (r : Reading)

/-- The groups that content of a kind is offered to: handlers to those that are served, interceptors to all
those of the contest. -/
def offering : Kind → List Group
  | .handler => r.served
  | _ => r.contest.roster.groups

/-- The content of a kind that stays attached to a group. -/
def staying : Kind → Group → List Content
  | .handler => r.manned
  | _ => r.kept

/-- The identities of the content of a kind that some served group holds. -/
def holding : Kind → List ServiceId
  | .handler => r.decision.staffed.flatMap fun s => s.handlers.map Content.id
  | _ => r.decision.served.flatMap fun b => b.check.kept.map Content.id

/-- The identities of the content of a kind that was detached from some group. -/
def detaching : Kind → List ServiceId
  | .handler => r.decision.staffed.flatMap fun s => s.detached.map Content.id
  | _ => r.decision.bound.flatMap fun b => b.check.detached

/-- What is found out about content of a kind where it is offered to groups. -/
def attachStage (k : Kind) : List Finding :=
  (r.contest.roster.content k).flatMap (attachFindings r.outcomes (r.offering k))

/-- What is found out about content of a kind that no group holds at the end. -/
def orphanStage (k : Kind) : List Finding :=
  orphanFindings (r.holding k) (r.detaching k)
    ((r.contest.roster.content k).filter fun x => usable r.outcomes x && (r.offering k).any x.selects)

/-- What is found out about groups with requirements that are not met. -/
def unmetStage : List Finding :=
  (r.contest.roster.groups.filter fun g => !r.satisfies g).map fun g =>
    .excluded g.provider .extensionsUnavailable

/-- What is found out about groups that would be a second default group. -/
def spareStage : List Finding :=
  (r.contest.roster.groups.filter fun g =>
    !allowedBeside r.decision.default g && !g.isImplicit && r.satisfies g).map fun g =>
    .excluded g.provider .shadowed

/-- What is found out about providers that do not fit. -/
def misfitStage : List Finding := r.intake.roster.providers.filterMap (Provider.misfit r.intake.host)

/-- What is found out about groups that lost their path. -/
def pathStage : List Finding := (resolvePaths r.intake.fit.groups).2.map Intake.pathFinding

/-- What is found out about providers that lost their name. -/
def nameStage : List Finding :=
  r.intake.contenders.duplicates.map fun p => .excluded p .duplicateName

theorem groupFindings_eq : Contest.groupFindings r.decision =
    r.unmetStage ++ r.spareStage ++ [.chosen r.decision.default] := by
  have hunmet : (r.decision.bound.filter fun b => !b.check.satisfied) =
      (r.contest.roster.groups.filter fun g => !r.satisfies g).map (r.contest.bind r.outcomes) := by
    rw [decision_bound, List.filter_map]
    rfl
  have hspare : (r.decision.satisfied.filter fun b =>
        !allowedBeside r.decision.default b.group && !b.group.isImplicit) =
        (r.contest.roster.groups.filter fun g =>
          !allowedBeside r.decision.default g && !g.isImplicit && r.satisfies g).map
          (r.contest.bind r.outcomes) := by
    rw [decision_satisfied, List.filter_map, List.filter_filter]
    rfl
  rw [Contest.groupFindings, hunmet, hspare, List.map_map, List.map_map]
  rfl

/-- A pass finds out things stage by stage. -/
theorem findings_eq : r.findings =
    r.misfitStage ++ r.pathStage ++ r.nameStage ++ r.attachStage .interceptor ++
      (r.unmetStage ++ r.spareStage ++ [.chosen r.decision.default]) ++ r.orphanStage .interceptor ++
      r.attachStage .handler ++ r.orphanStage .handler := by
  have hserved : r.offering .handler = r.decision.served.map Bound.group := r.served_groups.symm
  rw [← groupFindings_eq]
  simp only [attachStage, orphanStage, hserved]
  rfl

/-- Some served group holds the content that stays attached to it. -/
theorem holding_eq (k : Kind) :
    r.holding k = r.served.flatMap fun g => (r.staying k g).map Content.id := by
  have hkept : (r.decision.served.flatMap fun b => b.check.kept.map Content.id) =
      r.served.flatMap fun g => (r.kept g).map Content.id := by
    rw [decision_served, List.flatMap_map]
    rfl
  cases k with
  | handler =>
      show (r.decision.staffed.flatMap fun s => s.handlers.map Content.id) = _
      rw [decision_staffed, List.flatMap_map]
      simp only [staff_handlers]
      rfl
  | group => exact hkept
  | interceptor => exact hkept

theorem detaching_interceptors : r.detaching .interceptor = r.contest.roster.groups.flatMap r.shed := by
  show (r.decision.bound.flatMap fun b => b.check.detached) = _
  rw [decision_bound, List.flatMap_map]
  rfl

theorem detaching_handlers :
    r.detaching .handler = r.served.flatMap fun g => (r.unmanned g).map Content.id := by
  show (r.decision.staffed.flatMap fun s => s.detached.map Content.id) = _
  rw [decision_staffed, List.flatMap_map]
  simp only [staff_detached]

/-- Why content of the contest is left out, if it is. -/
def usageReason (x : Content) : Option Reason :=
  match r.outcomes x.id with
  | .error _ => some .notGettable
  | .ok contracts =>
    if x.kind == .interceptor && contracts.isEmpty then some .notAnExtension
    else if (r.offering x.kind).any x.selects then
      if (r.holding x.kind).contains x.id then none
      else if (r.detaching x.kind).contains x.id then some .extensionsUnavailable
      else some .applicationUnavailable
    else some .applicationUnavailable

/-- Why live content is left out, if it is. -/
def contentReason (x : Content) : Option Reason :=
  match x.provider.failure with
  | some reason => some reason
  | none =>
    if !x.provider.appliesTo r.intake.host then none
    else if x.provider ∈ r.intake.contenders.duplicates then some .duplicateName
    else r.usageReason x

/-- Why a live group is left out, if it is. -/
def groupReason (g : Group) : Option Reason :=
  match g.provider.failure with
  | some reason => some reason
  | none =>
    if !g.provider.appliesTo r.intake.host then none
    else if g ∉ r.intake.contenders.groups then some .shadowed
    else if g.provider ∈ r.intake.contenders.duplicates then some .duplicateName
    else if !r.satisfies g then some .extensionsUnavailable
    else if !allowedBeside r.decision.default g then some .shadowed
    else none

variable {r}

/-! ### What the stages report about one provider -/

theorem entrant_of_live {p : Provider} (hp : p ∈ r.intake.roster.providers) :
    p ∈ r.intake.entrants.providers :=
  r.intake.roster_within.providers.subset hp

theorem live_of_contest {k : Kind} {y : Content} (hy : y ∈ r.contest.roster.content k) :
    y ∈ r.intake.roster.content k := by
  have hentrant := (contest_within.content k).subset hy
  cases k <;> exact hentrant

section Stages

variable (h : r.intake.WellFormed)
include h

/-- Content of the contest that has the identity of a live provider is that provider, and of its kind. -/
theorem contest_content_id {k : Kind} (hk : k ≠ .group) {y : Content}
    (hy : y ∈ r.contest.roster.content k) {p : Provider} (hp : p ∈ r.intake.roster.providers)
    (hid : y.id = p.id) : y.provider = p ∧ p.kind = k := by
  have hlive := live_of_contest hy
  have heq : y.provider = p :=
    Roster.eq_of_id h.roster.unique (Roster.content_mem_providers hlive) hp hid
  exact ⟨heq, heq ▸ h.roster.contentKind hk y hlive⟩

theorem entrant_kind {g : Group} (hg : g ∈ r.intake.entrants.groups) : g.provider.kind = .group := by
  rcases List.mem_append.1 hg with hlive | himplicit
  · exact h.roster.groupKind g hlive
  · obtain ⟨path, content, rfl⟩ := h.implicit g (Option.mem_toList.1 himplicit)
    rfl

/-- A group that has the identity of a live provider is that provider, and this is a group. -/
theorem entrant_group_id {g : Group} (hg : g ∈ r.intake.entrants.groups) {p : Provider}
    (hp : p ∈ r.intake.roster.providers) (hid : g.id = p.id) : g.provider = p ∧ p.kind = .group := by
  have heq : g.provider = p :=
    Roster.eq_of_id h.unique_entrants (Roster.group_mem_providers hg) (entrant_of_live hp) hid
  exact ⟨heq, heq ▸ entrant_kind h hg⟩

theorem entrant_eq_of_id {g g' : Group} (hg : g ∈ r.intake.entrants.groups)
    (hg' : g' ∈ r.intake.entrants.groups) (hid : g.id = g'.id) : g = g' :=
  List.inj_on_of_nodup_map h.unique_groups hg hg' hid

theorem about_misfitStage {p : Provider} (hp : p ∈ r.intake.roster.providers) :
    about p.id r.misfitStage = p.failure.toList.map p.failed := by
  have hfailures : ∀ q : Provider, (q.misfit r.intake.host).toList.filterMap failure? =
      q.failure.toList.map q.failed := by
    intro q
    unfold Provider.misfit
    cases q.failure with
    | some reason => rfl
    | none =>
        by_cases happlies : q.appliesTo r.intake.host = true
        · rw [if_pos happlies]
          rfl
        · rw [if_neg happlies]
          rfl
  -- Each provider reports at most what is wrong with itself, and identities are unique.
  rw [misfitStage, List.filterMap_eq_flatMap_toList,
    about_flatMap_present (k := Provider.id) _ h.roster.unique hp, hfailures]
  intro q f hf
  rw [hfailures, List.mem_map] at hf
  obtain ⟨reason, -, rfl⟩ := hf
  rfl

theorem about_nameStage {p : Provider} (hp : p ∈ r.intake.roster.providers) :
    about p.id r.nameStage =
      if p ∈ r.intake.contenders.duplicates then [p.failed .duplicateName] else [] := by
  have hwithin := r.intake.contenders_within.trans r.intake.fit_within
  refine about_map (fun q f hf => excluded_id hf) (Roster.nodup_duplicates h.unique_contenders) ?_
  intro q hq hid
  have hmem := ((Roster.mem_duplicates_iff h.unique_contenders).1 hq).1
  exact Roster.eq_of_id h.unique_entrants (hwithin.providers.subset hmem) (entrant_of_live hp) hid

/-- A stage that looks at groups reports nothing about handlers and interceptors. -/
theorem about_groups_absent {finding : Group → Finding}
    (own : ∀ g, ∀ f ∈ (finding g).failure?, f.id = g.id) {l : List Group}
    (hl : l ⊆ r.intake.entrants.groups) {p : Provider} (hp : p ∈ r.intake.roster.providers)
    (hkind : p.kind ≠ .group) : about p.id (l.map finding) = [] := by
  refine about_map_absent own fun g hg hid => hkind ?_
  exact (entrant_group_id h (hl hg) hp hid).2

/-- A stage that looks at groups reports about a live group what it finds out about it. -/
theorem about_groups {finding : Group → Finding}
    (own : ∀ g, ∀ f ∈ (finding g).failure?, f.id = g.id) {l : List Group}
    (hl : l.Sublist r.intake.entrants.groups) {g : Group} (hg : g ∈ r.intake.roster.groups) :
    about g.id (l.map finding) = if g ∈ l then (finding g).failure?.toList else [] := by
  have hentrant := r.intake.roster_within.groups.subset hg
  refine about_map own (h.unique_groups.sublist (hl.map _)) fun y hy hid => ?_
  exact entrant_eq_of_id h (hl.subset hy) hentrant hid

omit h in
theorem own_excluded (reason : Reason) (g : Group) :
    ∀ f ∈ (excluded g.provider reason).failure?, f.id = g.id :=
  fun _ hf => excluded_id hf

omit h in
theorem own_pathFinding (g : Group) : ∀ f ∈ (Intake.pathFinding g).failure?, f.id = g.id := by
  unfold Intake.pathFinding
  by_cases himplicit : g.isImplicit = true
  · rw [if_pos himplicit]
    intro f hf
    cases hf
  · rw [if_neg himplicit]
    exact own_excluded .shadowed g

omit h in
theorem shadowed_within : (resolvePaths r.intake.fit.groups).2.Sublist r.intake.entrants.groups :=
  (shadowed_sublist _).trans r.intake.fit_within.groups

omit h in
theorem contest_filter_within (p : Group → Bool) :
    (r.contest.roster.groups.filter p).Sublist r.intake.entrants.groups :=
  List.filter_sublist.trans contest_within.groups

theorem not_implicit_of_live {g : Group} (hg : g ∈ r.intake.roster.groups) : ¬g.isImplicit = true := by
  rw [h.isImplicit_iff (r.intake.roster_within.groups.subset hg)]
  exact not_not_intro hg

theorem about_pathStage {g : Group} (hg : g ∈ r.intake.roster.groups) : about g.id r.pathStage =
    if g ∈ (resolvePaths r.intake.fit.groups).2 then [g.provider.failed .shadowed] else [] := by
  -- A live group is not the implicit one, so losing the path is a failure.
  have hfinding : (Intake.pathFinding g).failure? = some (g.provider.failed .shadowed) := by
    rw [Intake.pathFinding, if_neg (not_implicit_of_live h hg)]
    rfl
  rw [pathStage, about_groups h own_pathFinding shadowed_within hg, hfinding]
  rfl

theorem about_unmetStage {g : Group} (hg : g ∈ r.intake.roster.groups) : about g.id r.unmetStage =
    if g ∈ r.contest.roster.groups ∧ r.satisfies g = false then
      [g.provider.failed .extensionsUnavailable] else [] := by
  rw [unmetStage, about_groups h (own_excluded _) (contest_filter_within _) hg]
  simp only [List.mem_filter, Bool.not_eq_true']
  rfl

theorem about_spareStage {g : Group} (hg : g ∈ r.intake.roster.groups) : about g.id r.spareStage =
    if g ∈ r.contest.roster.groups ∧ allowedBeside r.decision.default g = false ∧
        r.satisfies g = true then
      [g.provider.failed .shadowed] else [] := by
  have himplicit : g.isImplicit = false := by simpa using not_implicit_of_live h hg
  rw [spareStage, about_groups h (own_excluded _) (contest_filter_within _) hg]
  simp only [List.mem_filter, himplicit, Bool.not_false, Bool.and_true, Bool.and_eq_true,
    Bool.not_eq_true']
  rfl

/-- The stages that look at groups report nothing about handlers and interceptors. -/
theorem about_group_stages_absent {p : Provider} (hp : p ∈ r.intake.roster.providers)
    (hkind : p.kind ≠ .group) :
    about p.id r.pathStage = [] ∧ about p.id r.unmetStage = [] ∧ about p.id r.spareStage = [] := by
  refine ⟨?_, ?_, ?_⟩
  · exact about_groups_absent h own_pathFinding shadowed_within.subset hp hkind
  · exact about_groups_absent h (own_excluded _) (contest_filter_within _).subset hp hkind
  · exact about_groups_absent h (own_excluded _) (contest_filter_within _).subset hp hkind

omit h in
theorem attachFindings_failures (outcomes : Outcomes) (groups : List Group) (x : Content) :
    (attachFindings outcomes groups x).filterMap failure? =
      match outcomes x.id with
      | .error _ => [x.provider.failed .notGettable]
      | .ok contracts =>
        if x.kind == .interceptor && contracts.isEmpty then [x.provider.failed .notAnExtension]
        else if groups.any x.selects then [] else [x.provider.failed .applicationUnavailable] := by
  unfold attachFindings
  cases outcomes x.id with
  | error e => rfl
  | ok contracts =>
      dsimp only
      split
      · rfl
      · split
        · rfl
        · rfl

omit h in
/-- Where content is offered to groups, nothing but this content is reported. -/
theorem failed_of_attachFindings {outcomes : Outcomes} {groups : List Group} {x : Content}
    {f : FailedProvider} (hf : f ∈ (attachFindings outcomes groups x).filterMap failure?) :
    ∃ reason, f = x.provider.failed reason := by
  rw [attachFindings_failures] at hf
  grind

omit h in
theorem own_attachFindings (outcomes : Outcomes) (groups : List Group) (x : Content) :
    ∀ f ∈ (attachFindings outcomes groups x).filterMap failure?, f.id = x.id := by
  intro f hf
  obtain ⟨reason, rfl⟩ := failed_of_attachFindings hf
  rfl

/-- The stages that look at content of a kind report nothing about providers of other kinds. -/
theorem about_content_stages_absent {k : Kind} (hk : k ≠ .group) {p : Provider}
    (hp : p ∈ r.intake.roster.providers) (hkind : p.kind ≠ k) :
    about p.id (r.attachStage k) = [] ∧ about p.id (r.orphanStage k) = [] := by
  -- An identity belongs to one kind.
  have habsent : ∀ y ∈ r.contest.roster.content k, y.id ≠ p.id := fun y hy hid =>
    hkind (contest_content_id h hk hy hp hid).2
  refine ⟨?_, ?_⟩
  · exact about_flatMap_absent (own_attachFindings _ _) habsent
  · refine about_map_absent (k := Content.id) (fun y f hf => excluded_id hf) fun y hy => ?_
    exact habsent y (List.mem_filter.1 (List.mem_filter.1 hy).1).1

/-- Where one provider has an identity, one piece of content has it. -/
theorem contest_content_eq {k : Kind} (hk : k ≠ .group) {x y : Content}
    (hx : x ∈ r.intake.roster.content k) (hy : y ∈ r.intake.roster.content k) (hid : y.id = x.id) :
    y = x := by
  have horder : (r.intake.roster.content k).Pairwise fun c d => c.id < d.id := by
    cases k with
    | group => exact absurd rfl hk
    | handler => exact h.roster.handlerOrder
    | interceptor => exact h.roster.interceptorOrder
  refine List.inj_on_of_nodup_map (List.pairwise_map.2 ?_) hy hx hid
  exact horder.imp fun hlt => Nat.ne_of_lt hlt

theorem nodup_contest_content (k : Kind) : ((r.contest.roster.content k).map Content.id).Nodup := by
  have horder : (r.intake.entrants.content k).Pairwise fun c d => c.id < d.id := by
    cases k with
    | group => exact h.roster.interceptorOrder
    | handler => exact h.roster.handlerOrder
    | interceptor => exact h.roster.interceptorOrder
  exact List.pairwise_map.2 ((horder.sublist (contest_within.content k)).imp fun hlt => Nat.ne_of_lt hlt)

theorem about_attachStage {x : Content} (hk : x.kind ≠ .group)
    (hx : x ∈ r.intake.roster.content x.kind) : about x.id (r.attachStage x.kind) =
      if x ∈ r.contest.roster.content x.kind then
        (attachFindings r.outcomes (r.offering x.kind) x).filterMap failure? else [] := by
  refine about_flatMap (own_attachFindings _ _) (nodup_contest_content h _) fun y hy hid => ?_
  exact contest_content_eq h hk hx (live_of_contest hy) hid

theorem about_orphanStage {x : Content} (hk : x.kind ≠ .group)
    (hx : x ∈ r.intake.roster.content x.kind) : about x.id (r.orphanStage x.kind) =
      if x ∈ r.contest.roster.content x.kind ∧
          (usable r.outcomes x = true ∧ (r.offering x.kind).any x.selects = true) ∧
          (r.holding x.kind).contains x.id = false then
        [x.provider.failed (if (r.detaching x.kind).contains x.id then .extensionsUnavailable
          else .applicationUnavailable)] else [] := by
  rw [orphanStage, orphanFindings, about_map (k := Content.id)]
  · simp only [List.mem_filter, Bool.and_eq_true, Bool.not_eq_true', and_assoc]
    rfl
  · intro y f hf
    exact excluded_id hf
  · have hsub : (List.filter (fun c => !(r.holding x.kind).contains c.id)
        (List.filter (fun c => usable r.outcomes c && (r.offering x.kind).any c.selects)
          (r.contest.roster.content x.kind))).Sublist (r.contest.roster.content x.kind) :=
      List.filter_sublist.trans List.filter_sublist
    exact (nodup_contest_content h _).sublist (hsub.map _)
  · intro y hy hid
    have hcontest := (List.mem_filter.1 (List.mem_filter.1 hy).1).1
    exact contest_content_eq h hk hx (live_of_contest hcontest) hid

/-- What is found out about content of the contest is why it is left out. -/
theorem about_usage {x : Content} (hk : x.kind ≠ .group) (hx : x ∈ r.contest.roster.content x.kind) :
    about x.id (r.attachStage x.kind) ++ about x.id (r.orphanStage x.kind) =
      (r.usageReason x).toList.map x.provider.failed := by
  rw [about_attachStage h hk (live_of_contest hx), about_orphanStage h hk (live_of_contest hx), if_pos hx,
    attachFindings_failures]
  unfold usageReason usable
  cases r.outcomes x.id with
  | error e => simp
  | ok contracts =>
      by_cases hempty : (x.kind == .interceptor && contracts.isEmpty) = true
      · simp [hempty]
      · by_cases hoffer : (r.offering x.kind).any x.selects = true
        · by_cases hheld : x.id ∈ r.holding x.kind
          · simp [hempty, hoffer, hheld]
          · by_cases hdetached : x.id ∈ r.detaching x.kind
            · simp [hempty, hoffer, hheld, hdetached, hx]
            · simp [hempty, hoffer, hheld, hdetached, hx]
        · simp [hempty, hoffer]

end Stages

section Reasons

variable (h : r.intake.WellFormed)
include h

theorem mem_fit_iff {g : Group} (hg : g ∈ r.intake.roster.groups) :
    g ∈ r.intake.fit.groups ↔ g.provider.fits r.intake.host = true := by
  constructor
  · intro hfit
    rcases List.mem_append.1 hfit with hfit | himplicit
    · exact (List.mem_filter.1 hfit).2
    · have hlive : (g.isImplicit : Prop) := by
        rw [Group.isImplicit, beq_iff_eq]
        exact h.implicit_id (Option.mem_toList.1 himplicit)
      exact absurd hlive (not_implicit_of_live h hg)
  · intro hfits
    exact List.mem_append_left _ (List.mem_filter.2 ⟨hg, hfits⟩)

theorem mem_shadowed_iff_of_live {g : Group} (hg : g ∈ r.intake.roster.groups) :
    g ∈ (resolvePaths r.intake.fit.groups).2 ↔
      g.provider.fits r.intake.host = true ∧ g ∉ r.intake.contenders.groups := by
  have hunique : (r.intake.fit.groups.map Group.id).Nodup :=
    h.unique_groups.sublist (r.intake.fit_within.groups.map _)
  rw [← mem_fit_iff h hg]
  constructor
  · intro hshadowed
    have hfit := (shadowed_sublist _).subset hshadowed
    exact ⟨hfit, (mem_shadowed_iff hunique hfit).1 hshadowed⟩
  · rintro ⟨hfit, hlost⟩
    exact (mem_shadowed_iff hunique hfit).2 hlost

theorem fits_of_contender {g : Group} (hg : g ∈ r.intake.roster.groups)
    (hcontender : g ∈ r.intake.contenders.groups) : g.provider.fits r.intake.host = true :=
  (mem_fit_iff h hg).1 (r.intake.contenders_within.groups.subset hcontender)

/-- A group that loses its name has its path. -/
theorem contender_of_duplicate {g : Group} (hg : g ∈ r.intake.roster.groups)
    (hlost : g.provider ∈ r.intake.contenders.duplicates) : g ∈ r.intake.contenders.groups := by
  have hwithin := r.intake.contenders_within.trans r.intake.fit_within
  have hmem := ((Roster.mem_duplicates_iff h.unique_contenders).1 hlost).1
  have hkind : g.provider.kind = .group := h.roster.groupKind g hg
  rcases Roster.mem_providers.1 hmem with ⟨g', hg', heq⟩ | ⟨c, hc, heq⟩ | ⟨c, hc, heq⟩
  · have hsame : g' = g := entrant_eq_of_id h (hwithin.groups.subset hg')
      (r.intake.roster_within.groups.subset hg) (congrArg Provider.id heq)
    rwa [← hsame]
  · have hhandler : c.kind = .handler := h.roster.handlerKind c (hwithin.handlers.subset hc)
    rw [Content.kind, heq, hkind] at hhandler
    cases hhandler
  · have hinterceptor : c.kind = .interceptor :=
      h.roster.interceptorKind c (hwithin.interceptors.subset hc)
    rw [Content.kind, heq, hkind] at hinterceptor
    cases hinterceptor

/-- A live provider that loses its name fits the host. -/
theorem fits_of_duplicate {p : Provider} (hp : p ∈ r.intake.roster.providers)
    (hlost : p ∈ r.intake.contenders.duplicates) : p.fits r.intake.host = true := by
  have hmem := ((Roster.mem_duplicates_iff h.unique_contenders).1 hlost).1
  rcases Roster.mem_providers.1 hmem with ⟨g, hg, rfl⟩ | ⟨c, hc, rfl⟩ | ⟨c, hc, rfl⟩
  · rcases List.mem_append.1 (r.intake.contenders_within.groups.subset hg) with hfit | himplicit
    · exact (List.mem_filter.1 hfit).2
    · exact absurd (h.implicit_id (Option.mem_toList.1 himplicit)) (h.roster.nonzero _ hp)
  · exact (Intake.mem_contenders_content (k := .handler).1 hc).2
  · exact (Intake.mem_contenders_content (k := .interceptor).1 hc).2

/-- Groups in the contest have their path and do not lose their name. -/
theorem mem_contest_groups_iff {g : Group} : g ∈ r.contest.roster.groups ↔
    g ∈ r.intake.contenders.groups ∧ g.provider ∉ r.intake.contenders.duplicates := by
  rw [contest, Intake.mem_contest_groups h]
  refine and_congr_right fun hg => not_congr ?_
  rw [Roster.mem_duplicates_iff h.unique_contenders, and_iff_right (Roster.group_mem_providers hg)]

/-- Content in the contest is live, fits the host and does not lose its name. -/
theorem mem_contest_content_iff {k : Kind} {x : Content} : x ∈ r.contest.roster.content k ↔
    x ∈ r.intake.roster.content k ∧ x.provider.fits r.intake.host = true ∧
      x.provider ∉ r.intake.contenders.duplicates := by
  rw [contest, Intake.mem_contest_content h, ← and_assoc, ← and_assoc, ← Intake.mem_contenders_content]
  refine and_congr_right fun hx => not_congr ?_
  rw [Roster.mem_duplicates_iff h.unique_contenders, and_iff_right (Roster.content_mem_providers hx)]

/-- What is found out about a live group is why it is left out. -/
theorem about_group {g : Group} (hg : g ∈ r.intake.roster.groups) :
    about g.id r.findings = (r.groupReason g).toList.map g.provider.failed := by
  have hp := Roster.group_mem_providers hg
  have hkind : g.provider.kind = .group := h.roster.groupKind g hg
  obtain ⟨hia, hio⟩ := about_content_stages_absent h (k := .interceptor) (by decide) hp (by simp [hkind])
  obtain ⟨hha, hho⟩ := about_content_stages_absent h (k := .handler) (by decide) hp (by simp [hkind])
  have hmisfit := about_misfitStage h hp
  have hname := about_nameStage h hp
  have hchosen : about g.provider.id [.chosen r.decision.default] = [] := rfl
  have hpath := about_pathStage h hg
  have hunmet := about_unmetStage h hg
  have hspare := about_spareStage h hg
  have hfits := fits_of_contender h hg
  rw [Group.id] at hpath hunmet hspare ⊢
  rw [findings_eq]
  simp only [about_append, hmisfit, hpath, hname, hia, hio, hunmet, hspare, hchosen, hha, hho,
    mem_shadowed_iff_of_live h hg, mem_contest_groups_iff h, List.append_nil]
  unfold groupReason
  have hdup := contender_of_duplicate h hg
  rw [Provider.fits, Provider.isValid] at hfits ⊢
  -- The stages in the order in which they can stop the group.
  cases hfailure : g.provider.failure with
  | some reason =>
      have hout : g ∉ r.intake.contenders.groups := fun hin => by simp [hfailure] at hfits; exact hfits hin
      have hnodup : g.provider ∉ r.intake.contenders.duplicates := fun hlost => hout (hdup hlost)
      simp [hout, hnodup]
  | none =>
      by_cases happlies : g.provider.appliesTo r.intake.host = true
      · by_cases hin : g ∈ r.intake.contenders.groups
        · by_cases hlost : g.provider ∈ r.intake.contenders.duplicates
          · simp [happlies, hin, hlost]
          · by_cases hsatisfied : r.satisfies g = true
            · by_cases hallowed : allowedBeside r.decision.default g = true
              · simp [happlies, hin, hlost, hsatisfied, hallowed]
              · simp [happlies, hin, hlost, hsatisfied, hallowed]
            · simp [happlies, hin, hlost, hsatisfied]
        · have hnodup : g.provider ∉ r.intake.contenders.duplicates := fun hlost => hin (hdup hlost)
          simp [happlies, hin, hnodup]
      · have hout : g ∉ r.intake.contenders.groups := by
          intro hin
          rw [hfailure] at hfits
          exact happlies (hfits hin)
        have hnodup : g.provider ∉ r.intake.contenders.duplicates := fun hlost => hout (hdup hlost)
        simp [happlies, hout, hnodup]

/-- Only the stages that look at all providers and those of its own kind look at content. -/
theorem about_content_stages {x : Content} (hk : x.kind ≠ .group)
    (hx : x ∈ r.intake.roster.content x.kind) : about x.id r.findings =
      about x.id r.misfitStage ++ about x.id r.nameStage ++
        (about x.id (r.attachStage x.kind) ++ about x.id (r.orphanStage x.kind)) := by
  have hp := Roster.content_mem_providers hx
  obtain ⟨hpath, hunmet, hspare⟩ := about_group_stages_absent h hp hk
  have hchosen : about x.provider.id [.chosen r.decision.default] = [] := rfl
  rw [findings_eq]
  cases hkind : x.kind with
  | group => exact absurd hkind hk
  | handler =>
      have hother : x.provider.kind ≠ .interceptor := fun heq => by cases hkind.symm.trans heq
      obtain ⟨hattach, horphan⟩ := about_content_stages_absent h (by decide) hp hother
      rw [Content.id]
      simp only [about_append, hpath, hunmet, hspare, hchosen, hattach, horphan, List.nil_append,
        List.append_assoc]
  | interceptor =>
      have hother : x.provider.kind ≠ .handler := fun heq => by cases hkind.symm.trans heq
      obtain ⟨hattach, horphan⟩ := about_content_stages_absent h (by decide) hp hother
      rw [Content.id]
      simp only [about_append, hpath, hunmet, hspare, hchosen, hattach, horphan, List.append_nil,
        List.nil_append, List.append_assoc]

/-- What is found out about live content is why it is left out. -/
theorem about_content {x : Content} (hk : x.kind ≠ .group) (hx : x ∈ r.intake.roster.content x.kind) :
    about x.id r.findings = (r.contentReason x).toList.map x.provider.failed := by
  have hp := Roster.content_mem_providers hx
  have hmisfit : about x.id r.misfitStage = _ := about_misfitStage h hp
  have hname : about x.id r.nameStage = _ := about_nameStage h hp
  have hcontest := mem_contest_content_iff h (k := x.kind) (x := x)
  have hdup := fits_of_duplicate h hp
  rw [Provider.fits, Provider.isValid] at hcontest hdup
  -- Content that is not in the contest is not looked at later.
  have hout : x ∉ r.contest.roster.content x.kind →
      about x.id (r.attachStage x.kind) ++ about x.id (r.orphanStage x.kind) = [] := by
    intro hout
    rw [about_attachStage h hk hx, about_orphanStage h hk hx, if_neg hout, if_neg fun hand => hout hand.1]
    rfl
  -- Content that does not fit takes no part in what follows.
  have hmisfits : x.provider.failure.isNone = false ∨ x.provider.appliesTo r.intake.host = false →
      x.provider ∉ r.intake.contenders.duplicates ∧ x ∉ r.contest.roster.content x.kind := by
    intro hmisfit
    have hnot : ¬(x.provider.failure.isNone && x.provider.appliesTo r.intake.host) = true := by
      rcases hmisfit with hfalse | hfalse <;> simp [hfalse]
    exact ⟨fun hlost => hnot (hdup hlost), fun hin => hnot (hcontest.1 hin).2.1⟩
  rw [about_content_stages h hk hx, hmisfit, hname]
  unfold contentReason
  -- The stages in the order in which they can stop the content.
  cases hfailure : x.provider.failure with
  | some reason =>
      obtain ⟨hnodup, hnot⟩ := hmisfits (.inl (by rw [hfailure]; rfl))
      rw [hout hnot, if_neg hnodup]
      simp
  | none =>
      by_cases happlies : x.provider.appliesTo r.intake.host = true
      · by_cases hlost : x.provider ∈ r.intake.contenders.duplicates
        · rw [hout (fun hin => (hcontest.1 hin).2.2 hlost)]
          simp [happlies, hlost]
        · have hin : x ∈ r.contest.roster.content x.kind := by
            rw [hcontest, hfailure, happlies]
            exact ⟨hx, rfl, hlost⟩
          rw [about_usage h hk hin]
          simp [happlies, hlost]
      · obtain ⟨hnodup, hnot⟩ := hmisfits (.inr (by simpa using happlies))
        rw [hout hnot, if_neg hnodup]
        simp [happlies]

end Reasons

end Reading

end RouteBinding
