import RouteBinding.Proofs.Requirement.Settled

/-!
# The interceptors that stay are the most that can

Some interceptors support themselves if each of their requirements is matched by another one of them, by the
group or by the host (`SelfSupporting`); two that require each other do, one that requires itself does not.
Detaching in rounds keeps the greatest such list among the sublists of the interceptors: no round detaches a
member of one (`SelfSupporting.sublist_round`), and what is left at the end is one.  So what stays does not
depend on the order in which the interceptors are listed (`checkGroup_keepsMost`).
-/

namespace RouteBinding

open Property

/-- Every requirement of every interceptor of a list is matched by another interceptor of the list, by the
group or by the host. -/
def SelfSupporting (host : Map) (g : Group) (l : List Content) : Prop :=
  ∀ x ∈ l, ∀ f ∈ x.provider.requires,
    (∃ y ∈ l, y ≠ x ∧ f.accepts y.provider.properties = true) ∨
      f.accepts g.selection = true ∨ f.accepts host = true

/-- A number of rounds detaches interceptors until a last one finds nothing to detach: what is kept of a list,
and the identities that are detached, round by round. -/
inductive Rounds (host : Map) (g : Group) :
    Nat → List Content → List Content → List ServiceId → Prop
  /-- Nothing is left to detach. -/
  | last {l : List Content} (h : failing host g l = []) : Rounds host g 1 l l []
  /-- The interceptors with unmet requirements are detached together, and a round on the others follows. -/
  | detach {n : Nat} {l kept : List Content} {detached : List ServiceId} (h : failing host g l ≠ [])
      (rest : Rounds host g n (withoutIds ((failing host g l).map Content.id) l) kept detached) :
      Rounds host g (n + 1) l kept (sortedIds ((failing host g l).map Content.id) ++ detached)

/-- What the check of a group makes of its interceptors. -/
structure GroupCheck.KeepsMost (host : Map) (g : Group) (l : List Content) (c : GroupCheck) : Prop where
  /-- It takes at most one round more than there are interceptors. -/
  rounds : ∃ n ≤ l.length + 1, Rounds host g n l c.kept c.detached
  /-- The interceptors that are kept keep their order. -/
  order : c.kept.Sublist l
  selfSupporting : SelfSupporting host g c.kept
  /-- They are all that can be kept. -/
  greatest : ∀ s, s.Sublist l → SelfSupporting host g s → s.Sublist c.kept
  /-- Every other interceptor is listed as detached, once. -/
  detached : (c.kept.map Content.id ++ c.detached).Perm (l.map Content.id)
  /-- In another order the same interceptors are kept. -/
  anyOrder : ∀ m, m.Perm l → (checkGroup host g m).kept.Perm c.kept

variable {host : Map} {g : Group}

/-- Where identities are unique, a list supports itself exactly if no member of it fails. -/
theorem selfSupporting_iff {l : List Content} (unique : (l.map Content.id).Nodup) :
    SelfSupporting host g l ↔ ∀ x ∈ l, requirementsMet host g l x.provider = true := by
  simp only [SelfSupporting, requirementsMet_iff, requirementMet_iff]
  refine forall₂_congr fun x hx => forall₂_congr fun f _ => or_congr_left ?_
  refine exists_congr fun y => and_congr_right fun hy => and_congr_left' ?_
  exact ⟨fun hne hid => hne (List.inj_on_of_nodup_map unique hy hx hid), fun hne hyx => hne (hyx ▸ rfl)⟩

/-- A list that supports itself does so in any order. -/
theorem SelfSupporting.congr {l m : List Content} (hsupport : SelfSupporting host g l)
    (h : ∀ x, x ∈ m ↔ x ∈ l) : SelfSupporting host g m := by
  intro x hx f hf
  refine (hsupport x ((h x).1 hx) f hf).imp_left ?_
  rintro ⟨y, hy, hmet⟩
  exact ⟨y, (h y).2 hy, hmet⟩

/-- No round detaches a member of a list that supports itself. -/
theorem SelfSupporting.sublist_round {s l : List Content} (hsupport : SelfSupporting host g s)
    (hsub : s.Sublist l) (unique : (l.map Content.id).Nodup) :
    s.Sublist (withoutIds ((failing host g l).map Content.id) l) := by
  have hmet := (selfSupporting_iff (unique.sublist (hsub.map _))).1 hsupport
  have hstays : s.filter (fun x => requirementsMet host g l x.provider) = s :=
    List.filter_eq_self.2 fun x hx => requirementsMet_mono hsub.subset (hmet x hx)
  rw [withoutIds_failing unique, ← hstays]
  exact hsub.filter _

/-- A list that supports itself stays as a whole. -/
theorem SelfSupporting.sublist_settle {s l : List Content} (hsupport : SelfSupporting host g s)
    (hsub : s.Sublist l) (unique : (l.map Content.id).Nodup) : s.Sublist (settle host g l).1 := by
  fun_induction settle host g l with
  | case1 l h => exact hsub
  | case2 l h ids kept detached hsettle ih =>
      rw [hsettle] at ih
      exact ih (hsupport.sublist_round hsub unique) (nodup_withoutIds unique ids)

/-- What stays supports itself. -/
theorem selfSupporting_settle {l : List Content} (unique : (l.map Content.id).Nodup) :
    SelfSupporting host g (settle host g l).1 := by
  have hunique : ((settle host g l).1.map Content.id).Nodup := unique.sublist ((settle_sublist l).map _)
  exact (selfSupporting_iff hunique).2 fun x hx => requirementsMet_of_mem_settle hx

/-- What stays of a list stays of it in any other order: there it is, in that order, a sublist that supports
itself. -/
theorem settle_subset {l m : List Content} (uniquel : (l.map Content.id).Nodup)
    (uniquem : (m.map Content.id).Nodup) (hperm : m.Perm l) : (settle host g m).1 ⊆ (settle host g l).1 := by
  intro x hx
  have hmem : ∀ y, y ∈ l.filter (fun y => decide (y ∈ (settle host g m).1)) ↔ y ∈ (settle host g m).1 := by
    intro y
    rw [List.mem_filter, decide_eq_true_eq]
    exact and_iff_right_of_imp fun hy => hperm.subset ((settle_sublist m).subset hy)
  have hsupport : SelfSupporting host g (l.filter fun y => decide (y ∈ (settle host g m).1)) :=
    (selfSupporting_settle uniquem).congr hmem
  exact (hsupport.sublist_settle List.filter_sublist uniquel).subset ((hmem x).2 hx)

theorem nodup_settle {l : List Content} (unique : (l.map Content.id).Nodup) :
    (settle host g l).1.Nodup :=
  (List.Nodup.of_map _ unique).sublist (settle_sublist l)

/-- What stays is the same in any order. -/
theorem settle_perm {l m : List Content} (unique : (l.map Content.id).Nodup) (hperm : m.Perm l) :
    (settle host g m).1.Perm (settle host g l).1 := by
  have uniquem : (m.map Content.id).Nodup := (hperm.map _).nodup_iff.2 unique
  rw [List.perm_ext_iff_of_nodup (nodup_settle uniquem) (nodup_settle unique)]
  intro x
  constructor
  · exact fun hx => settle_subset unique uniquem hperm hx
  · exact fun hx => settle_subset uniquem unique hperm.symm hx

/-- Detaching ends after at most one round more than there are interceptors. -/
theorem settle_rounds (l : List Content) :
    ∃ n ≤ l.length + 1, Rounds host g n l (settle host g l).1 (settle host g l).2 := by
  fun_induction settle host g l with
  | case1 l h => exact ⟨1, by omega, .last h⟩
  | case2 l h ids kept detached hsettle ih =>
      rw [hsettle] at ih
      obtain ⟨n, hn, hrounds⟩ := ih
      have hless : (withoutIds ids l).length < l.length := length_withoutIds_failing_lt h
      exact ⟨n + 1, by omega, .detach h hrounds⟩

/-! ### What is detached -/

theorem eraseDups_of_nodup {α : Type} [BEq α] [LawfulBEq α] {l : List α} (h : l.Nodup) : l.eraseDups = l := by
  induction l with
  | nil => rfl
  | cons a rest ih =>
      obtain ⟨ha, hrest⟩ := List.nodup_cons.1 h
      have hothers : rest.filter (fun b => !b == a) = rest := by
        refine List.filter_eq_self.2 fun b hb => ?_
        simpa using fun hba : b = a => ha (hba ▸ hb)
      rw [List.eraseDups_cons, hothers, ih hrest]

theorem sortedIds_perm {ids : List ServiceId} (h : ids.Nodup) : (sortedIds ids).Perm ids := by
  have hsorted := Sorted.ofList_perm (fun a b : ServiceId => decide (a ≤ b)) ids
  rw [sortedIds, eraseDups_of_nodup (hsorted.nodup_iff.2 h)]
  exact hsorted

/-- Every interceptor stays or is detached in one round. -/
theorem settle_accounts {l : List Content} (unique : (l.map Content.id).Nodup) :
    ((settle host g l).1.map Content.id ++ (settle host g l).2).Perm (l.map Content.id) := by
  fun_induction settle host g l with
  | case1 l h => simp
  | case2 l h ids kept detached hsettle ih =>
      rw [hsettle] at ih
      have hround : (sortedIds ids).Perm ids :=
        sortedIds_perm (unique.sublist (List.filter_sublist.map _))
      have hsplit : (ids ++ (withoutIds ids l).map Content.id).Perm (l.map Content.id) := by
        rw [withoutIds_failing unique, ← List.map_append]
        have hparts := List.filter_append_perm (fun x => requirementsMet host g l x.provider) l
        exact (List.perm_append_comm.trans hparts).map _
      calc List.Perm (kept.map Content.id ++ (sortedIds ids ++ detached))
            (sortedIds ids ++ (kept.map Content.id ++ detached)) := List.perm_append_comm_assoc _ _ _
        List.Perm _ (ids ++ (withoutIds ids l).map Content.id) :=
          hround.append (ih (nodup_withoutIds unique ids))
        List.Perm _ (l.map Content.id) := hsplit

/-- What stays is what finds its requirements met by what stays. -/
theorem mem_settle_iff {l : List Content} (unique : (l.map Content.id).Nodup) {x : Content} :
    x ∈ (settle host g l).1 ↔ x ∈ l ∧ requirementsMet host g (settle host g l).1 x.provider = true := by
  constructor
  · exact fun hx => ⟨(settle_sublist l).subset hx, requirementsMet_of_mem_settle hx⟩
  · rintro ⟨hx, hmet⟩
    by_contra hdetached
    exact not_requirementsMet_of_detached unique hx hdetached hmet

/-- What is detached is what does not find its requirements met by what stays. -/
theorem mem_detached_iff {l : List Content} (unique : (l.map Content.id).Nodup) {id : ServiceId} :
    id ∈ (settle host g l).2 ↔
      ∃ x ∈ l, ¬requirementsMet host g (settle host g l).1 x.provider = true ∧ x.id = id := by
  have haccounts := @settle_accounts host g l unique
  have hapart := List.disjoint_of_nodup_append (haccounts.nodup_iff.2 unique)
  constructor
  · intro hid
    obtain ⟨x, hx, rfl⟩ := List.mem_map.1 (haccounts.subset (List.mem_append_right _ hid))
    refine ⟨x, hx, fun hmet => ?_, rfl⟩
    exact hapart (List.mem_map_of_mem ((mem_settle_iff unique).2 ⟨hx, hmet⟩)) hid
  · rintro ⟨x, hx, hunmet, rfl⟩
    refine (List.mem_append.1 (haccounts.symm.subset (List.mem_map_of_mem hx))).resolve_left fun hkept => ?_
    obtain ⟨y, hy, hid⟩ := List.mem_map.1 hkept
    obtain rfl : y = x := List.inj_on_of_nodup_map unique ((settle_sublist l).subset hy) hx hid
    exact hunmet (requirementsMet_of_mem_settle hy)

/-- Of interceptors with different identities the check of a group keeps the greatest list that supports
itself. -/
theorem checkGroup_keepsMost {l : List Content} (unique : (l.map Content.id).Nodup) :
    (checkGroup host g l).KeepsMost host g l where
  rounds := settle_rounds l
  order := settle_sublist l
  selfSupporting := selfSupporting_settle unique
  greatest _ hsub hsupport := hsupport.sublist_settle hsub unique
  detached := settle_accounts unique
  anyOrder _ hperm := settle_perm unique hperm

/-- Two interceptors that require each other, one that requires itself, one that requires that one, and one
without a name that requires something without a name. -/
def tangled : List Content :=
  let interceptor (id : ServiceId) (props : List (String × Value)) : Content :=
    .ofProperties .interceptor id 0 (.shared 1 .plain) (.ofList ((Key.routeInterceptor, .flag true) :: props))
  [interceptor 4 [(Key.name, .text "audit"), (Key.requires, .text "(name=trace)")],
    interceptor 1 [(Key.name, .text "auth"), (Key.requires, .text "(name=session)")],
    interceptor 3 [(Key.name, .text "trace"), (Key.requires, .text "(name=trace)")],
    interceptor 2 [(Key.name, .text "session"), (Key.requires, .text "(name=auth)")],
    interceptor 5 [(Key.requires, .text "(!(name=*))")]]

/-- The group that they are attached to. -/
def tangledGroup : Group :=
  .ofProperties 9 0 (.shared 0 .plain) (.ofList [(Key.routeGroup, .flag true), (Key.path, .text "/api")])

/-- The host that they run on. -/
def tangledHost : Map := .ofList [(Key.name, .text "edge")]

/-- Those that require each other stay, those that only they themselves would serve go in the first round, and
the one that requires one of these goes in the second. -/
theorem tangled_keepsMost : (tangled.map Content.id).Nodup ∧
    (checkGroup tangledHost tangledGroup tangled).kept.map Content.id = [1, 2] ∧
      (checkGroup tangledHost tangledGroup tangled).detached = [3, 5, 4] ∧
        (checkGroup tangledHost tangledGroup tangled).KeepsMost tangledHost tangledGroup tangled :=
  ⟨by decide +kernel, by decide +kernel, by decide +kernel, checkGroup_keepsMost (by decide +kernel)⟩

end RouteBinding
