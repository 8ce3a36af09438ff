import RouteBinding.Proofs.Pass.Roster
import RouteBinding.Proofs.Requirement.Settled

/-!
# Planned groups

The groups that a pass decides to serve are those of the contest whose requirements are met by what stays
attached to them and that are not a second default group.  Each of them is planned with the interceptors and
the handlers that stay attached to it (`Reading.mem_plan_iff`).
-/

namespace RouteBinding.Reading

variable (r : Reading)

/-- The interceptors that stay attached to a group. -/
def kept (g : Group) : List Content :=
  (settle r.contest.host g (Contest.choose r.outcomes r.contest.roster.interceptors g)).1

/-- The handlers that stay attached to a group. -/
def manned (g : Group) : List Content :=
  (Contest.choose r.outcomes r.contest.roster.handlers g).filter fun c =>
    requirementsMet r.contest.host g (r.kept g) c.provider

/-- The handlers that do not find what they require in a group. -/
def unmanned (g : Group) : List Content :=
  (Contest.choose r.outcomes r.contest.roster.handlers g).filter fun c =>
    !requirementsMet r.contest.host g (r.kept g) c.provider

/-- The interceptors that are detached from a group, round by round. -/
def shed (g : Group) : List ServiceId :=
  (settle r.contest.host g (Contest.choose r.outcomes r.contest.roster.interceptors g)).2

/-- A group with all that stays attached to it. -/
def formed (g : Group) : Group := { g with attached := r.kept g ++ r.manned g }

/-- Whether the requirements of a group are met. -/
def satisfies (g : Group) : Bool := requirementsMet r.contest.host g (r.kept g) g.provider

/-- Whether a group of the contest is served. -/
def serves (g : Group) : Bool := r.satisfies g && allowedBeside r.decision.default g

/-- The groups of the contest that are served. -/
def served : List Group := r.contest.roster.groups.filter r.serves

theorem decision_bound : r.decision.bound = r.contest.roster.groups.map (r.contest.bind r.outcomes) :=
  rfl

theorem decision_satisfied : r.decision.satisfied =
    (r.contest.roster.groups.filter r.satisfies).map (r.contest.bind r.outcomes) := by
  rw [Decision.satisfied, decision_bound, List.filter_map]
  rfl

theorem decision_default :
    r.decision.default = defaultOf (r.contest.roster.groups.filter r.satisfies) := by
  have hgroups : r.decision.satisfied.map Bound.group = r.contest.roster.groups.filter r.satisfies := by
    rw [decision_satisfied, List.map_map]
    exact List.map_id _
  rw [← hgroups]
  rfl

theorem decision_served : r.decision.served = r.served.map (r.contest.bind r.outcomes) := by
  have hserved : r.decision.served =
      r.decision.satisfied.filter fun b => allowedBeside r.decision.default b.group := by
    show (List.map (r.contest.staff r.outcomes) _).map Staffed.bound = _
    rw [List.map_map]
    exact List.map_id _
  rw [hserved, decision_satisfied, List.filter_map, List.filter_filter, served]
  congr 1
  refine List.filter_congr fun g _ => ?_
  rw [serves, Bool.and_comm]
  rfl

theorem served_groups : r.decision.served.map Bound.group = r.served := by
  rw [decision_served, List.map_map]
  exact List.map_id _

theorem decision_staffed : r.decision.staffed =
    r.served.map fun g => r.contest.staff r.outcomes (r.contest.bind r.outcomes g) := by
  have hstaffed : r.decision.staffed = r.decision.served.map (r.contest.staff r.outcomes) := by
    show List.map _ _ = List.map _ (List.map _ (List.map _ _))
    rw [List.map_map, List.map_map]
    rfl
  rw [hstaffed, decision_served, List.map_map]
  rfl

theorem staff_handlers (g : Group) :
    (r.contest.staff r.outcomes (r.contest.bind r.outcomes g)).handlers = r.manned g := by
  show (List.partition _ _).1 = _
  rw [List.partition_eq_filter_filter]
  rfl

theorem staff_detached (g : Group) :
    (r.contest.staff r.outcomes (r.contest.bind r.outcomes g)).detached = r.unmanned g := by
  show (List.partition _ _).2 = _
  rw [List.partition_eq_filter_filter]
  rfl

theorem decision_placed : r.decision.placed = r.served.map r.formed := by
  rw [Decision.placed, decision_staffed, List.map_map]
  refine List.map_congr_left fun g _ => ?_
  show ({ g with attached := r.kept g ++ _ } : Group) = _
  rw [staff_handlers]
  rfl

/-- A group is planned exactly if it is one of those served, with all that stays attached to it. -/
theorem mem_plan_iff {g : Group} : g ∈ r.plan ↔ ∃ g₀ ∈ r.served, r.formed g₀ = g := by
  rw [plan, Sorted.mem_ofList, decision_placed, List.mem_map]

theorem mem_served_iff {g : Group} : g ∈ r.served ↔
    g ∈ r.contest.roster.groups ∧ r.satisfies g = true ∧ allowedBeside r.decision.default g = true := by
  rw [served, List.mem_filter, serves, Bool.and_eq_true]

variable {r}

theorem contest_within : r.contest.roster.Within r.intake.entrants :=
  (r.intake.contest_within.trans r.intake.contenders_within).trans r.intake.fit_within

/-- No group is planned twice. -/
theorem nodup_plan (h : r.intake.WellFormed) : (r.plan.map Group.id).Nodup := by
  have hids : r.decision.placed.map Group.id = r.served.map Group.id := by
    rw [decision_placed, List.map_map]
    rfl
  have hsub : r.served.Sublist r.intake.entrants.groups :=
    List.filter_sublist.trans r.contest_within.groups
  have hserved : (r.served.map Group.id).Nodup := h.unique_groups.sublist (hsub.map _)
  rw [← hids] at hserved
  exact ((Sorted.ofList_perm _ _).map Group.id).nodup_iff.2 hserved

theorem kept_sublist (g : Group) : (r.kept g).Sublist r.intake.roster.interceptors :=
  ((settle_sublist _).trans List.filter_sublist).trans r.contest_within.interceptors

theorem manned_sublist (g : Group) : (r.manned g).Sublist r.intake.roster.handlers :=
  (List.filter_sublist.trans List.filter_sublist).trans r.contest_within.handlers

/-- The interceptors of a group as it is planned are those that stay. -/
theorem formed_interceptors (h : r.intake.WellFormed) (g : Group) :
    (r.formed g).interceptors = r.kept g := by
  have hkept : (r.kept g).filter (fun c => c.kind == .interceptor) = r.kept g := by
    refine List.filter_eq_self.2 fun c hc => ?_
    rw [beq_iff_eq]
    exact h.roster.interceptorKind c ((kept_sublist g).subset hc)
  have hmanned : (r.manned g).filter (fun c => c.kind == .interceptor) = [] := by
    refine List.filter_eq_nil_iff.2 fun c hc => ?_
    have hkind : c.kind = .handler := h.roster.handlerKind c ((manned_sublist g).subset hc)
    rw [hkind]
    decide
  show (r.kept g ++ r.manned g).filter _ = _
  rw [List.filter_append, hkept, hmanned, List.append_nil]

/-- The handlers of a group as it is planned are those that stay. -/
theorem formed_handlers (h : r.intake.WellFormed) (g : Group) :
    (r.formed g).handlers = r.manned g := by
  have hkept : (r.kept g).filter (fun c => c.kind == .handler) = [] := by
    refine List.filter_eq_nil_iff.2 fun c hc => ?_
    have hkind : c.kind = .interceptor := h.roster.interceptorKind c ((kept_sublist g).subset hc)
    rw [hkind]
    decide
  have hmanned : (r.manned g).filter (fun c => c.kind == .handler) = r.manned g := by
    refine List.filter_eq_self.2 fun c hc => ?_
    rw [beq_iff_eq]
    exact h.roster.handlerKind c ((manned_sublist g).subset hc)
  show (r.kept g ++ r.manned g).filter _ = _
  rw [List.filter_append, hkept, hmanned, List.nil_append]

end RouteBinding.Reading
