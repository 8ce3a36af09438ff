import RouteBinding.Proofs.Conflict.Path
import RouteBinding.Proofs.Pass.Accounting
import RouteBinding.Proofs.Registry.Ledger
import Mathlib.Data.List.Perm.Basic

/-!
# Providers that take no part

A provider that is invalid, or meant for other hosts, or a group that lost its path, or content that lost its
name, is out before anything is assigned (`Intake.Excludes`).  It does not hold on to what it lost: whoever
comes after it in a conflict also comes after the one that it lost to, so without it the same providers keep
their paths and names (`Intake.contest_dropping`).  A pass that does not see it therefore acquires the same
content on trial, decides the same, and reports the same but for this provider (`Reading.spared`).  The
argument runs over the stages before the assignment only, since the assignment reads the contest alone.
-/

namespace RouteBinding

open Finding

/-- Sublists of a list without repeats are equal if they have the same items. -/
theorem eq_of_sublist_of_mem_iff {α : Type} {l l₁ l₂ : List α} (nodup : l.Nodup) (h₁ : l₁.Sublist l)
    (h₂ : l₂.Sublist l) (h : ∀ a, a ∈ l₁ ↔ a ∈ l₂) : l₁ = l₂ :=
  (List.Nodup.perm_iff_eq_of_sublist nodup h₁ h₂).1
    ((List.perm_ext_iff_of_nodup (nodup.sublist h₁) (nodup.sublist h₂)).2 h)

namespace Roster

/-- The roster without what has an identity. -/
def dropping (r : Roster) (id : ServiceId) : Roster :=
  ⟨r.groups.filter fun g => g.id != id, r.handlers.filter fun c => c.id != id,
    r.interceptors.filter fun c => c.id != id⟩

variable {r : Roster} {id : ServiceId}

theorem dropping_within (r : Roster) (id : ServiceId) : (r.dropping id).Within r :=
  ⟨List.filter_sublist, List.filter_sublist, List.filter_sublist⟩

theorem dropping_providers (r : Roster) (id : ServiceId) :
    (r.dropping id).providers = r.providers.filter fun p => p.id != id := by
  rw [providers, providers, List.filter_append, List.filter_append, List.filter_map, List.filter_map,
    List.filter_map]
  rfl

theorem mem_dropping_providers {p : Provider} :
    p ∈ (r.dropping id).providers ↔ p ∈ r.providers ∧ p.id ≠ id := by
  rw [dropping_providers, List.mem_filter, bne_iff_ne]

theorem mem_dropping_content {k : Kind} {c : Content} :
    c ∈ (r.dropping id).content k ↔ c ∈ r.content k ∧ c.id ≠ id := by
  rw [← bne_iff_ne]
  cases k with
  | handler => exact List.mem_filter
  | group => exact List.mem_filter
  | interceptor => exact List.mem_filter

theorem WellFormed.dropping (h : r.WellFormed) (id : ServiceId) : (r.dropping id).WellFormed where
  groupKind := fun g hg => h.groupKind g (r.dropping_within id |>.groups.subset hg)
  handlerKind := fun c hc => h.handlerKind c (r.dropping_within id |>.handlers.subset hc)
  interceptorKind := fun c hc => h.interceptorKind c (r.dropping_within id |>.interceptors.subset hc)
  groupOrder := h.groupOrder.sublist List.filter_sublist
  handlerOrder := h.handlerOrder.sublist List.filter_sublist
  interceptorOrder := h.interceptorOrder.sublist List.filter_sublist
  unique := (r.dropping_within id).unique h.unique
  nonzero := fun p hp => h.nonzero p (mem_dropping_providers.1 hp).1

end Roster

/-! ### The contest without an excluded provider -/

namespace Intake

/-- The intake without what has an identity. -/
def dropping (i : Intake) (id : ServiceId) : Intake := { i with roster := i.roster.dropping id }

/-- A live provider is out before anything is assigned. -/
inductive Excludes (i : Intake) : Provider → Prop
  | invalid {p : Provider} (live : p ∈ i.roster.providers) (invalid : p.isValid = false) : i.Excludes p
  | elsewhere {p : Provider} (live : p ∈ i.roster.providers) (elsewhere : p.appliesTo i.host = false) :
      i.Excludes p
  /-- A group has lost its path to one that precedes it. -/
  | shadowed {g g' : Group} (live : g ∈ i.roster.groups) (rival : g' ∈ i.roster.groups)
      (fits : g'.provider.fits i.host = true) (path : g'.path = g.path)
      (precedes : g'.provider.precedes g.provider = true) : i.Excludes g.provider
  /-- A handler or an interceptor has lost its name to a provider that still has its path. -/
  | duplicate {c : Content} (live : c ∈ i.roster.handlers ∨ c ∈ i.roster.interceptors)
      (lost : i.contenders.LosesName c.provider) : i.Excludes c.provider

/-- Nothing with an identity gets far: no group with it has its path, and whatever else has it loses its
name. -/
structure Sidelined (i : Intake) (id : ServiceId) : Prop where
  pathless : ∀ g ∈ i.contenders.groups, g.id ≠ id
  nameless : ∀ p ∈ i.contenders.providers, p.id = id → i.contenders.LosesName p

variable {i : Intake} {id : ServiceId}

theorem WellFormed.dropping (h : i.WellFormed) (id : ServiceId) : (i.dropping id).WellFormed :=
  ⟨h.roster.dropping id, h.implicit⟩

theorem WellFormed.unique_fit (h : i.WellFormed) : (i.fit.groups.map Group.id).Nodup :=
  h.unique_groups.sublist (i.fit_within.groups.map _)

theorem dropping_entrants (i : Intake) (id : ServiceId) : (i.dropping id).entrants.Within i.entrants :=
  ⟨List.filter_sublist.append (.refl _), List.filter_sublist, List.filter_sublist⟩

/-- The implicit default group has no identity of a live provider, so it is not dropped. -/
theorem dropping_fit_groups (h : i.WellFormed) (hid : id ≠ ServiceId.implicitDefault) :
    (i.dropping id).fit.groups = i.fit.groups.filter fun g => g.id != id := by
  have himplicit : (i.implicit.toList.filter fun g => g.id != id) = i.implicit.toList := by
    refine List.filter_eq_self.2 fun g hg => ?_
    rw [h.implicit_id (Option.mem_toList.1 hg), bne_iff_ne]
    exact hid.symm
  have hcomm : ((i.roster.groups.filter fun g => g.id != id).filter fun g => g.provider.fits i.host) =
      (i.roster.groups.filter fun g => g.provider.fits i.host).filter fun g => g.id != id := by
    rw [List.filter_filter, List.filter_filter]
    exact List.filter_congr fun g _ => Bool.and_comm _ _
  show ((i.roster.groups.filter fun g => g.id != id).filter fun g => g.provider.fits i.host) ++
    i.implicit.toList = _
  rw [hcomm, fit, List.filter_append, himplicit]

section Paths

variable {groups : List Group} {g : Group}

/-- Without an item that lost its path the same groups keep theirs. -/
theorem mem_kept_filter_iff (unique : (groups.map Group.id).Nodup)
    (lost : ∀ g ∈ (resolvePaths groups).1, g.id ≠ id) :
    g ∈ (resolvePaths (groups.filter fun g => g.id != id)).1 ↔ g ∈ (resolvePaths groups).1 := by
  have huniqueFilter : ((groups.filter fun g => g.id != id).map Group.id).Nodup :=
    unique.sublist (List.filter_sublist.map _)
  have hmem : ∀ g, g ∈ groups.filter (fun g => g.id != id) ↔ g ∈ groups ∧ g.id ≠ id := fun g => by
    rw [List.mem_filter, bne_iff_ne]
  rw [mem_kept_iff huniqueFilter, mem_kept_iff unique, hmem]
  constructor
  · rintro ⟨⟨hg, hne⟩, hfirst⟩
    refine ⟨hg, fun g' hg' hpath hranks => ?_⟩
    by_cases hid : g'.id = id
    · -- The rival itself has lost the path, to a group that stays.
      have hnot : g' ∉ (resolvePaths groups).1 := fun hkept => lost g' hkept hid
      rw [mem_kept_iff unique, not_and] at hnot
      obtain ⟨g'', hg'', hpath', hranks'⟩ : ∃ g'' ∈ groups, g''.path = g'.path ∧ g''.Outranks g' := by
        by_contra hnone
        exact hnot hg' fun g'' hg'' hpath' hranks' => hnone ⟨g'', hg'', hpath', hranks'⟩
      have hother : g''.id ≠ id := by
        intro hsame
        have heq : g'' = g' := List.inj_on_of_nodup_map unique hg'' hg' (hsame.trans hid.symm)
        rw [heq] at hranks'
        exact g'.outranks_irrefl hranks'
      exact hfirst g'' ((hmem g'').2 ⟨hg'', hother⟩) (hpath'.trans hpath)
        (Group.outranks_trans hranks' hranks)
    · exact hfirst g' ((hmem g').2 ⟨hg', hid⟩) hpath hranks
  · rintro ⟨hg, hfirst⟩
    have hkept := (mem_kept_iff unique).2 ⟨hg, hfirst⟩
    exact ⟨⟨hg, lost g hkept⟩, fun g' hg' => hfirst g' ((hmem g').1 hg').1⟩

/-- Without an item that lost its path the groups that lost theirs are the others. -/
theorem shadowed_filter (unique : (groups.map Group.id).Nodup)
    (lost : ∀ g ∈ (resolvePaths groups).1, g.id ≠ id) :
    (resolvePaths (groups.filter fun g => g.id != id)).2 =
      (resolvePaths groups).2.filter fun g => g.id != id := by
  have huniqueFilter : ((groups.filter fun g => g.id != id).map Group.id).Nodup :=
    unique.sublist (List.filter_sublist.map _)
  refine eq_of_sublist_of_mem_iff (List.Nodup.of_map _ unique)
    ((shadowed_sublist _).trans List.filter_sublist) (List.filter_sublist.trans (shadowed_sublist _))
    fun g => ?_
  have hkept := mem_kept_filter_iff (g := g) unique lost
  rw [List.mem_filter]
  constructor
  · intro hshadowed
    have hmem := (shadowed_sublist _).subset hshadowed
    obtain ⟨hg, hne⟩ := List.mem_filter.1 hmem
    rw [mem_shadowed_iff huniqueFilter hmem, hkept] at hshadowed
    exact ⟨(mem_shadowed_iff unique hg).2 hshadowed, hne⟩
  · rintro ⟨hshadowed, hne⟩
    have hg := (shadowed_sublist _).subset hshadowed
    rw [mem_shadowed_iff unique hg, ← hkept] at hshadowed
    exact (mem_shadowed_iff huniqueFilter (List.mem_filter.2 ⟨hg, hne⟩)).2 hshadowed

end Paths

section Contenders

variable (h : i.WellFormed) (hid : id ≠ ServiceId.implicitDefault) (out : i.Sidelined id)
include h hid out

theorem mem_dropping_contenders_groups {g : Group} :
    g ∈ (i.dropping id).contenders.groups ↔ g ∈ i.contenders.groups := by
  rw [contenders, dropping_fit_groups h hid]
  exact mem_kept_filter_iff h.unique_fit out.pathless

theorem mem_dropping_contenders {p : Provider} :
    p ∈ (i.dropping id).contenders.providers ↔ p ∈ i.contenders.providers ∧ p.id ≠ id := by
  have hcontent : ∀ k, (∃ c ∈ (i.dropping id).contenders.content k, c.provider = p) ↔
      (∃ c ∈ i.contenders.content k, c.provider = p) ∧ p.id ≠ id := by
    intro k
    constructor
    · rintro ⟨c, hc, rfl⟩
      obtain ⟨hlive, hfits⟩ := mem_contenders_content.1 hc
      obtain ⟨hlive, hne⟩ := Roster.mem_dropping_content.1 hlive
      exact ⟨⟨c, mem_contenders_content.2 ⟨hlive, hfits⟩, rfl⟩, hne⟩
    · rintro ⟨⟨c, hc, rfl⟩, hne⟩
      obtain ⟨hlive, hfits⟩ := mem_contenders_content.1 hc
      exact ⟨c, mem_contenders_content.2 ⟨Roster.mem_dropping_content.2 ⟨hlive, hne⟩, hfits⟩, rfl⟩
  have hgroups : (∃ g ∈ (i.dropping id).contenders.groups, g.provider = p) ↔
      (∃ g ∈ i.contenders.groups, g.provider = p) ∧ p.id ≠ id := by
    constructor
    · rintro ⟨g, hg, rfl⟩
      have hg := (mem_dropping_contenders_groups h hid out).1 hg
      exact ⟨⟨g, hg, rfl⟩, out.pathless g hg⟩
    · rintro ⟨⟨g, hg, rfl⟩, -⟩
      exact ⟨g, (mem_dropping_contenders_groups h hid out).2 hg, rfl⟩
  rw [Roster.mem_providers, Roster.mem_providers, or_and_right, or_and_right]
  exact or_congr hgroups (or_congr (hcontent .handler) (hcontent .interceptor))

/-- Without a provider that loses its name the same other providers lose theirs. -/
theorem dropping_losesName_iff {p : Provider} :
    (i.dropping id).contenders.LosesName p ↔ i.contenders.LosesName p := by
  constructor
  · rintro ⟨hdeclared, q, hq, hrival⟩
    exact ⟨hdeclared, q, ((mem_dropping_contenders h hid out).1 hq).1, hrival⟩
  · rintro ⟨hdeclared, q, hq, hqdeclared, hname, hprecedes⟩
    by_cases hqid : q.id = id
    · -- The rival itself has lost the name, to a provider that stays.
      obtain ⟨-, q', hq', hdeclared', hname', hprecedes'⟩ := out.nameless q hq hqid
      have hother : q'.id ≠ id := by
        intro hsame
        have heq : q' = q := Roster.eq_of_id h.unique_contenders hq' hq (hsame.trans hqid.symm)
        rw [heq] at hprecedes'
        exact q.precedes_irrefl hprecedes'
      exact ⟨hdeclared, q', (mem_dropping_contenders h hid out).2 ⟨hq', hother⟩, hdeclared',
        hname'.trans hname, Provider.precedes_trans hprecedes' hprecedes⟩
    · exact ⟨hdeclared, q, (mem_dropping_contenders h hid out).2 ⟨hq, hqid⟩, hqdeclared, hname, hprecedes⟩

/-- Without what is sidelined the same providers have their path and their name. -/
theorem contest_dropping : (i.dropping id).contest.roster = i.contest.roster := by
  have hdropping := h.dropping id
  have hwithin : (i.dropping id).contest.roster.Within i.entrants :=
    ((contest_within _).trans ((contenders_within _).trans (fit_within _))).trans (i.dropping_entrants id)
  have hwithin' : i.contest.roster.Within i.entrants :=
    (contest_within _).trans ((contenders_within _).trans (fit_within _))
  have hgroups : (i.dropping id).contest.roster.groups = i.contest.roster.groups := by
    refine eq_of_sublist_of_mem_iff (List.Nodup.of_map _ h.unique_groups) hwithin.groups hwithin'.groups
      fun g => ?_
    rw [mem_contest_groups hdropping, mem_contest_groups h, mem_dropping_contenders_groups h hid out]
    exact and_congr_right fun _ => not_congr (dropping_losesName_iff h hid out)
  have hcontent : ∀ {k} {c : Content}, c ∈ (i.dropping id).contest.roster.content k ↔
      c ∈ i.contest.roster.content k := by
    intro k c
    rw [mem_contest_content hdropping, mem_contest_content h]
    show c ∈ (i.roster.dropping id).content k ∧ c.provider.fits i.host = true ∧ _ ↔ _
    rw [Roster.mem_dropping_content, dropping_losesName_iff h hid out]
    constructor
    · rintro ⟨⟨hlive, -⟩, hkeeps⟩
      exact ⟨hlive, hkeeps⟩
    · rintro ⟨hlive, hfits, hkeeps⟩
      refine ⟨⟨hlive, fun heq => hkeeps (out.nameless c.provider ?_ heq)⟩, hfits, hkeeps⟩
      exact Roster.content_mem_providers (mem_contenders_content.2 ⟨hlive, hfits⟩)
  have hnodup : ∀ {l : List Content}, l.Pairwise (fun c d => c.id < d.id) → l.Nodup := fun hl =>
    List.Nodup.of_map Content.id (List.pairwise_map.2 (hl.imp fun hlt => Nat.ne_of_lt hlt))
  have hhandlers : (i.dropping id).contest.roster.handlers = i.contest.roster.handlers :=
    eq_of_sublist_of_mem_iff (hnodup h.roster.handlerOrder) hwithin.handlers hwithin'.handlers
      fun _ => hcontent (k := .handler)
  have hinterceptors : (i.dropping id).contest.roster.interceptors = i.contest.roster.interceptors :=
    eq_of_sublist_of_mem_iff (hnodup h.roster.interceptorOrder) hwithin.interceptors hwithin'.interceptors
      fun _ => hcontent (k := .interceptor)
  calc (i.dropping id).contest.roster
      = ⟨(i.dropping id).contest.roster.groups, (i.dropping id).contest.roster.handlers,
          (i.dropping id).contest.roster.interceptors⟩ := rfl
    _ = i.contest.roster := by rw [hgroups, hhandlers, hinterceptors]

/-- Without a provider that loses its name those that lose theirs are the others, in the same order. -/
theorem duplicates_dropping : (i.dropping id).contenders.duplicates =
    i.contenders.duplicates.filter fun p => p.id != id := by
  have hunique := (h.dropping id).unique_contenders
  have hordered : ∀ {r : Roster}, (r.providers.map Provider.id).Nodup →
      r.duplicates.Pairwise fun p q => p.precedes q = true := fun hr =>
    (Roster.pairwise_named hr).sublist (late_sublist _ _)
  have hmem : ∀ p, p ∈ (i.dropping id).contenders.duplicates ↔
      p ∈ i.contenders.duplicates.filter fun p => p.id != id := by
    intro p
    rw [List.mem_filter, bne_iff_ne, Roster.mem_duplicates_iff hunique,
      Roster.mem_duplicates_iff h.unique_contenders, mem_dropping_contenders h hid out,
      dropping_losesName_iff h hid out, and_right_comm]
  have hperm := (List.perm_ext_iff_of_nodup (List.Nodup.of_map _ (Roster.nodup_duplicates hunique))
    ((List.Nodup.of_map _ (Roster.nodup_duplicates h.unique_contenders)).filter _)).2 hmem
  refine hperm.eq_of_pairwise (fun p q _ _ hpq hqp => absurd hqp (Provider.precedes_asymm hpq))
    (hordered hunique) ?_
  exact (hordered h.unique_contenders).sublist List.filter_sublist

end Contenders

/-! ### Who is excluded -/

/-- What fits the host and has the identity of a live provider is that provider. -/
theorem eq_of_fit (h : i.WellFormed) {p q : Provider} (hp : p ∈ i.roster.providers)
    (hq : q ∈ i.contenders.providers) (heq : q.id = p.id) : q = p ∧ p.fits i.host = true := by
  have hwithin := i.contenders_within.trans i.fit_within
  have hsame : q = p := Roster.eq_of_id h.unique_entrants (hwithin.providers.subset hq)
    (i.roster_within.providers.subset hp) heq
  refine ⟨hsame, ?_⟩
  rw [← hsame]
  rcases Roster.mem_providers.1 (i.contenders_within.providers.subset hq) with
    ⟨g, hg, rfl⟩ | ⟨c, hc, rfl⟩ | ⟨c, hc, rfl⟩
  · rcases List.mem_append.1 hg with hfit | himplicit
    · exact (List.mem_filter.1 hfit).2
    · -- The implicit default group has the identity of no live provider.
      have hzero : g.provider.id = _ := h.implicit_id (Option.mem_toList.1 himplicit)
      exact absurd (heq.symm.trans hzero) (h.roster.nonzero p hp)
  · exact (List.mem_filter.1 hc).2
  · exact (List.mem_filter.1 hc).2

theorem Excludes.live {p : Provider} (hp : i.Excludes p) : p ∈ i.roster.providers := by
  cases hp with
  | invalid live _ => exact live
  | elsewhere live _ => exact live
  | shadowed live => exact Roster.group_mem_providers live
  | duplicate live =>
      rcases live with live | live
      · exact Roster.content_mem_providers (k := .handler) live
      · exact Roster.content_mem_providers (k := .interceptor) live

/-- What does not fit the host is no contender. -/
theorem sidelined_of_misfit (h : i.WellFormed) {p : Provider} (hp : p ∈ i.roster.providers)
    (hmisfit : p.fits i.host = false) : i.Sidelined p.id := by
  have hnone : ∀ q ∈ i.contenders.providers, q.id ≠ p.id := by
    intro q hq heq
    rw [(eq_of_fit h hp hq heq).2] at hmisfit
    cases hmisfit
  exact ⟨fun g hg => hnone _ (Roster.group_mem_providers hg), fun q hq heq => absurd heq (hnone q hq)⟩

/-- An excluded provider is sidelined. -/
theorem Excludes.sidelined (h : i.WellFormed) {p : Provider} (hp : i.Excludes p) : i.Sidelined p.id := by
  have hlive := hp.live
  have hwithin := i.contenders_within.trans i.fit_within
  cases hp with
  | invalid _ invalid =>
      refine sidelined_of_misfit h hlive ?_
      rw [Provider.fits, invalid, Bool.false_and]
  | elsewhere _ elsewhere =>
      refine sidelined_of_misfit h hlive ?_
      rw [Provider.fits, elsewhere, Bool.and_false]
  | @shadowed g g' live rival fits path precedes =>
      have hnone : ∀ q ∈ i.contenders.providers, q.id ≠ g.provider.id := by
        intro q hq heq
        obtain ⟨rfl, -⟩ := eq_of_fit h hlive hq heq
        -- Only a group has this identity, and the group does not keep its path.
        rcases Roster.mem_providers.1 hq with ⟨y, hy, hsame⟩ | ⟨c, hc, hsame⟩ | ⟨c, hc, hsame⟩
        · have hy' : y = g := List.inj_on_of_nodup_map h.unique_groups (hwithin.groups.subset hy)
            (i.roster_within.groups.subset live) (congrArg Provider.id hsame)
          obtain ⟨-, hfirst⟩ := (mem_kept_iff h.unique_fit).1 hy
          rw [hy'] at hfirst
          refine hfirst g' (List.mem_append_left _ (List.mem_filter.2 ⟨rival, fits⟩)) path ?_
          have hregistered : ∀ {x}, x ∈ i.roster.groups → x.isImplicit = false := by
            intro x hx
            refine Bool.eq_false_iff.2 fun himplicit => ?_
            exact (h.isImplicit_iff (i.roster_within.groups.subset hx)).1 himplicit hx
          exact (Group.outranks_registered_iff (hregistered live)).2 ⟨hregistered rival, precedes⟩
        · have hkind := h.roster.groupKind g live
          rw [← hsame] at hkind
          cases hkind.symm.trans (h.roster.handlerKind c (hwithin.handlers.subset hc))
        · have hkind := h.roster.groupKind g live
          rw [← hsame] at hkind
          cases hkind.symm.trans (h.roster.interceptorKind c (hwithin.interceptors.subset hc))
      exact ⟨fun x hx => hnone _ (Roster.group_mem_providers hx), fun q hq heq => absurd heq (hnone q hq)⟩
  | @duplicate c live lost =>
      have hkind : c.provider.kind ≠ .group := by
        rcases live with live | live
        · have hhandler : c.provider.kind = _ := h.roster.handlerKind c live
          rw [hhandler]
          decide
        · have hinterceptor : c.provider.kind = _ := h.roster.interceptorKind c live
          rw [hinterceptor]
          decide
      refine ⟨fun g hg heq => ?_, fun q hq heq => ?_⟩
      · obtain ⟨hsame, -⟩ := eq_of_fit h hlive (Roster.group_mem_providers hg) heq
        rcases List.mem_append.1 (hwithin.groups.subset hg) with hregistered | himplicit
        · rw [← hsame] at hkind
          exact hkind (h.roster.groupKind g hregistered)
        · have hzero : g.provider.id = _ := h.implicit_id (Option.mem_toList.1 himplicit)
          rw [hsame] at hzero
          exact h.roster.nonzero _ hlive hzero
      · rwa [(eq_of_fit h hlive hq heq).1]

end Intake

/-! ### What is found out without an excluded provider -/

namespace Finding

/-- The failures among findings that are not about an identity. -/
def besides (id : ServiceId) (l : List Finding) : List FailedProvider :=
  (l.filterMap failure?).filter fun f => f.id != id

theorem besides_append (id : ServiceId) (l m : List Finding) :
    besides id (l ++ m) = besides id l ++ besides id m := by
  rw [besides, List.filterMap_append, List.filter_append]
  rfl

section Stage

variable {α : Type} {k : α → ServiceId}

/-- A stage that does not look at the items of an identity reports the same besides. -/
theorem besides_flatMap_filter {stage : α → List Finding}
    (own : ∀ x, ∀ f ∈ (stage x).filterMap failure?, f.id = k x) (id : ServiceId) (l : List α) :
    besides id ((l.filter fun x => k x != id).flatMap stage) = besides id (l.flatMap stage) := by
  induction l with
  | nil => rfl
  | cons x rest ih =>
      rw [List.filter_cons, List.flatMap_cons, besides_append, ← ih]
      by_cases hx : k x = id
      · have hnone : besides id (stage x) = [] := by
          refine List.filter_eq_nil_iff.2 fun f hf => ?_
          rw [own x f hf, hx, bne_self_eq_false]
          exact Bool.false_ne_true
        rw [hnone, if_neg (by rw [hx, bne_self_eq_false]; exact Bool.false_ne_true), List.nil_append]
      · rw [if_pos (bne_iff_ne.2 hx), List.flatMap_cons, besides_append]

/-- The case in which each item has one finding. -/
theorem besides_map_filter {finding : α → Finding} (own : ∀ x, ∀ f ∈ (finding x).failure?, f.id = k x)
    (id : ServiceId) (l : List α) :
    besides id ((l.filter fun x => k x != id).map finding) = besides id (l.map finding) := by
  rw [List.map_eq_flatMap, List.map_eq_flatMap]
  refine besides_flatMap_filter (fun x f hf => ?_) id l
  obtain ⟨y, hy, hf⟩ := List.mem_filterMap.1 hf
  rw [List.mem_singleton.1 hy] at hf
  exact own x f hf

end Stage

theorem own_misfit (host : Property.Map) (p : Provider) :
    ∀ f ∈ (p.misfit host).toList.filterMap failure?, f.id = p.id := by
  unfold Provider.misfit
  intro f hf
  cases hfailure : p.failure with
  | some reason =>
      rw [hfailure] at hf
      obtain rfl := List.mem_singleton.1 hf
      rfl
  | none =>
      rw [hfailure] at hf
      dsimp only at hf
      split at hf <;> cases hf

end Finding

/-- Without an excluded provider the conflicts are settled with the same failures of others. -/
theorem Intake.besides_dropping {i : Intake} {id : ServiceId} (h : i.WellFormed)
    (hid : id ≠ ServiceId.implicitDefault) (out : i.Sidelined id) :
    besides id (i.dropping id).contest.findings = besides id i.contest.findings := by
  have hmisfit : besides id ((i.dropping id).roster.providers.filterMap (Provider.misfit i.host)) =
      besides id (i.roster.providers.filterMap (Provider.misfit i.host)) := by
    rw [dropping, Roster.dropping_providers, List.filterMap_eq_flatMap_toList,
      List.filterMap_eq_flatMap_toList]
    exact besides_flatMap_filter (own_misfit i.host) id _
  have hpath : besides id ((resolvePaths (i.dropping id).fit.groups).2.map pathFinding) =
      besides id ((resolvePaths i.fit.groups).2.map pathFinding) := by
    rw [dropping_fit_groups h hid, shadowed_filter h.unique_fit out.pathless]
    exact besides_map_filter Reading.own_pathFinding id _
  have hname : besides id ((i.dropping id).contenders.duplicates.map fun p => .excluded p .duplicateName) =
      besides id (i.contenders.duplicates.map fun p => .excluded p .duplicateName) := by
    rw [duplicates_dropping h hid out]
    exact besides_map_filter (k := Provider.id) (fun p f hf => excluded_id hf) id _
  show besides id (_ ++ _ ++ _) = besides id (_ ++ _ ++ _)
  rw [besides_append, besides_append, besides_append, besides_append]
  exact congr (congrArg _ (congr (congrArg _ hmisfit) hpath)) hname

namespace Contest

/-- The contest without what was found out on the way to it, which is all that an assignment reads. -/
def bare (c : Contest) : Contest := { c with findings := [] }

theorem allFindings_eq (c : Contest) (outcomes : Outcomes) (d : Decision) :
    c.allFindings outcomes d = c.findings ++ c.bare.allFindings outcomes d := by
  simp only [allFindings, List.append_assoc]
  rfl

end Contest

/-- The snapshot without the failures of an identity. -/
def Snapshot.without (s : Snapshot) (id : ServiceId) : Snapshot :=
  ⟨s.groups.filter fun f => f.id != id, s.handlers.filter fun f => f.id != id,
    s.interceptors.filter fun f => f.id != id⟩

/-- Leaving out failures before they are put in order leaves them out of the snapshot. -/
theorem Snapshot.ofFailures_filter (l : List FailedProvider) (id : ServiceId) :
    ofFailures (l.filter fun f => f.id != id) = (ofFailures l).without id := by
  have hkind : ∀ k : Kind, byId ((l.filter fun f => f.id != id).filter fun f => f.kind == k) =
      (byId (l.filter fun f => f.kind == k)).filter fun f => f.id != id := by
    intro k
    show Sorted.ofList _ _ = (Sorted.ofList _ _).filter _
    rw [← Sorted.ofList_filter, List.filter_filter, List.filter_filter]
    · exact congrArg _ (List.filter_congr fun f _ => Bool.and_comm _ _)
    · intro a b c hab hbc
      rw [decide_eq_true_eq] at hab hbc ⊢
      exact Nat.le_trans hab hbc
    · intro a b
      rw [Bool.or_eq_true, decide_eq_true_eq, decide_eq_true_eq]
      exact Nat.le_total a.id b.id
  rw [ofFailures, ofLists, hkind, hkind, hkind]
  rfl

namespace Reading

/-- The reading of a pass that does not see what has an identity. -/
def dropping (r : Reading) (id : ServiceId) : Reading := { r with intake := r.intake.dropping id }

/-- Without what has an identity a pass does the same, and reports the same but for this identity. -/
structure Spares (r : Reading) (id : ServiceId) : Prop where
  plan : (r.dropping id).plan = r.plan
  default : (r.dropping id).decision.default = r.decision.default
  failures : (r.dropping id).failures = r.failures.filter fun f => f.id != id
  snapshot : (r.dropping id).snapshot = r.snapshot.without id
  /-- The same content is acquired on trial, in the same order. -/
  probed : (r.dropping id).contest.probed = r.contest.probed

variable {r : Reading} {id : ServiceId}

/-- What is sidelined is spared. -/
theorem spares_of_sidelined (h : r.intake.WellFormed) (hid : id ≠ ServiceId.implicitDefault)
    (out : r.intake.Sidelined id) : r.Spares id := by
  have hbare : (r.dropping id).contest.bare = r.contest.bare := by
    have hroster : (r.dropping id).contest.roster = r.contest.roster :=
      Intake.contest_dropping h hid out
    show (⟨r.intake.host, (r.dropping id).contest.roster, []⟩ : Contest) =
      ⟨r.intake.host, r.contest.roster, []⟩
    rw [hroster]
  have hdecision : (r.dropping id).decision = r.decision := by
    show (r.dropping id).contest.bare.decide r.outcomes = r.contest.bare.decide r.outcomes
    rw [hbare]
  have hprobed : (r.dropping id).contest.probed = r.contest.probed := by
    show (r.dropping id).contest.bare.probed = r.contest.bare.probed
    rw [hbare]
  have hfailures : (r.dropping id).failures = r.failures.filter fun f => f.id != id := by
    -- Nothing is reported about an identity that no live provider has.
    have hothers : besides id (r.dropping id).findings = (r.dropping id).failures := by
      refine List.filter_eq_self.2 fun f hf => bne_iff_ne.2 ?_
      obtain ⟨p, hp, reason, rfl⟩ := live_of_failure (r := r.dropping id) (h.dropping id) hf
      exact (Roster.mem_dropping_providers.1 hp).2
    rw [← hothers]
    show besides id _ = besides id r.findings
    rw [findings, findings, Contest.allFindings_eq, r.contest.allFindings_eq, besides_append, besides_append,
      hbare, hdecision]
    exact congrArg (· ++ _) (Intake.besides_dropping h hid out)
  refine ⟨?_, congrArg Decision.default hdecision, hfailures, ?_, hprobed⟩
  · rw [plan, plan, hdecision]
  · rw [snapshot, hfailures]
    exact Snapshot.ofFailures_filter r.failures id

end Reading

/-! ### Removing an excluded provider -/

namespace Registry

variable {r : Registry}

/-- Where every value knows its key, forgetting a key drops the values that know it. -/
theorem values_erase {α : Type} {t : Table ServiceId α} {f : α → ServiceId}
    (h : ∀ k a, t.get? k = some a → f a = k) (id : ServiceId) :
    (t.erase id).values = t.values.filter fun a => f a != id := by
  show (t.entries.filter fun e => decide (e.1 ≠ id)).map Prod.snd = (t.entries.map Prod.snd).filter _
  rw [List.filter_map]
  refine congrArg _ (List.filter_congr fun e he => ?_)
  have hkey : f e.2 = e.1 := h e.1 e.2 ((Table.mem_entries_iff t e.1 e.2).1 he)
  rw [Function.comp_apply, hkey, Bool.eq_iff_iff, decide_eq_true_iff, bne_iff_ne]

/-- A live provider has a record under its identity. -/
theorem Sound.held_of_live (h : r.Sound) {p : Provider} (hp : p ∈ r.live.providers) :
    (r.recordOf p.kind p.id).isSome := by
  rcases Roster.mem_providers.1 hp with ⟨g, hg, rfl⟩ | ⟨c, hc, rfl⟩ | ⟨c, hc, rfl⟩
  · obtain ⟨id, hget⟩ := Table.mem_values.1 hg
    obtain ⟨-, revision, payload, props, -, -, rfl⟩ := h.groups id g hget
    show ((r.groups.get? id).map _).isSome = true
    rw [hget]
    rfl
  · obtain ⟨id, hget⟩ := Table.mem_values.1 hc
    obtain ⟨-, revision, payload, props, -, -, rfl⟩ := h.handlers id c hget
    show ((r.handlers.get? id).map _).isSome = true
    rw [hget]
    rfl
  · obtain ⟨id, hget⟩ := Table.mem_values.1 hc
    obtain ⟨-, revision, payload, props, -, -, rfl⟩ := h.interceptors id c hget
    show ((r.interceptors.get? id).map _).isSome = true
    rw [hget]
    rfl

/-- The removal of a live provider drops it from the live providers. -/
theorem Kept.live_remove (h : r.Kept) {p : Provider} (hp : p ∈ r.live.providers) :
    (r.remove p.kind p.id).2.live = r.live.dropping p.id := by
  have hheld := h.held_of_live hp
  -- No other kind has a record under the identity, so it leaves all three tables.
  have hrecord : ∀ k j, (r.remove p.kind p.id).2.recordOf k j =
      if j = p.id then none else r.recordOf k j := by
    intro k j
    rw [h.recordOf_remove]
    by_cases hj : j = p.id
    · rw [if_pos hj]
      split
      · rfl
      · next hother =>
        rw [hj]
        exact Option.not_isSome_iff_eq_none.1 fun hk => hother ⟨h.kind_unique hheld hk, hj⟩
    · rw [if_neg hj, if_neg fun hboth => hj hboth.2]
  have htable : ∀ {α : Type} {t u : Table ServiceId α} {f : α → Entry}, Function.Injective f →
      (∀ j, (u.get? j).map f = if j = p.id then none else (t.get? j).map f) → u = t.erase p.id := by
    intro α t u f hf heq
    refine Table.ext_get? fun j => Option.map_injective hf ?_
    rw [heq, Table.get?_erase]
    split <;> rfl
  have hgroups : (r.remove p.kind p.id).2.groups = r.groups.erase p.id :=
    htable (fun _ _ => Entry.group.inj) (hrecord .group)
  have hhandlers : (r.remove p.kind p.id).2.handlers = r.handlers.erase p.id :=
    htable (fun _ _ => Entry.content.inj) (hrecord .handler)
  have hinterceptors : (r.remove p.kind p.id).2.interceptors = r.interceptors.erase p.id :=
    htable (fun _ _ => Entry.content.inj) (hrecord .interceptor)
  have hkey : ∀ {α : Type} {k : Kind} {make : ServiceId → Nat → Payload → Property.Map → α}
      {t : Table ServiceId α} (f : α → ServiceId), Made r.owners r.nextRevision k make t →
      (∀ id revision payload props, f (make id revision payload props) = id) →
      ∀ j a, t.get? j = some a → f a = j := by
    intro α k make t f hmade hown j a ha
    obtain ⟨-, revision, payload, props, -, -, rfl⟩ := hmade j a ha
    exact hown j revision payload props
  rw [live, hgroups, hhandlers, hinterceptors,
    values_erase (hkey Group.id h.groups fun _ _ _ _ => rfl),
    values_erase (hkey Content.id h.handlers fun _ _ _ _ => rfl),
    values_erase (hkey Content.id h.interceptors fun _ _ _ _ => rfl)]
  rfl

end Registry

/-- A provider that is excluded is spared.  Removing it from the registry of a dispatcher whose next pass would
exclude it gives a pass that reads just this, and what comes of acquiring content is no different. -/
theorem Reading.excluded_spared [Route.Routing] {r : Reading} (h : r.intake.WellFormed) {p : Provider}
    (hp : r.intake.Excludes p) : r.Spares p.id ∧
      ∀ d : Dispatcher, d.registry.Kept → d.reading = r →
        Dispatcher.reading { d with registry := (d.registry.remove p.kind p.id).2 } = r.dropping p.id := by
  have hspares := spares_of_sidelined h (h.roster.nonzero p hp.live) (hp.sidelined h)
  refine ⟨hspares, ?_⟩
  rintro d hkept rfl
  have hintake : Dispatcher.intake { d with registry := (d.registry.remove p.kind p.id).2 } =
      d.intake.dropping p.id :=
    congrArg (fun roster => (⟨roster, _, _⟩ : Intake)) (hkept.live_remove hp.live)
  have hprobed : (d.intake.dropping p.id).contest.probed = d.intake.contest.probed := hspares.probed
  rw [Dispatcher.reading, Dispatcher.probe, hintake, hprobed]
  rfl

/-- The providers of a dispatcher: a group; one with its path and a lower rank; one without a path; and two
handlers, of which one is meant for other hosts and one has the name of the first group. -/
def Dispatcher.bystanders : Dispatcher :=
  let provider (key : String) (more : List (String × Property.Value)) : Property.Map :=
    .ofList ((key, .flag true) :: more)
  { Dispatcher.new {} {} (.shared 0 .plain) {} with
    registry := Registry.empty.run
      [.upsert .group (.shared 1 .plain)
          (provider Property.Key.routeGroup
            [(Property.Key.path, .text "/a"), (Property.Key.name, .text "api"),
              (Property.Key.rank, .number 5)]),
        .upsert .group (.shared 1 .plain)
          (provider Property.Key.routeGroup [(Property.Key.path, .text "/a")]),
        .upsert .group (.shared 1 .plain) (provider Property.Key.routeGroup []),
        .upsert .handler (.shared 1 .plain)
          (provider Property.Key.routeHandler [(Property.Key.target, .text "(os=linux)")]),
        .upsert .handler (.shared 1 .plain)
          (provider Property.Key.routeHandler [(Property.Key.name, .text "api")])] }

/-- All but the first group are spared, each for a reason of its own. -/
theorem Reading.bystanders_spared :
    Dispatcher.bystanders.reading.failures.map (fun f => (f.id, f.reason)) =
        [(3, .invalid), (2, .shadowed), (5, .duplicateName)] ∧
      Dispatcher.bystanders.reading.plan.map Group.id = [0, 1] ∧
      ∀ id ∈ [2, 3, 4, 5], ∃ p, p.id = id ∧ Dispatcher.bystanders.reading.intake.Excludes p ∧
        Dispatcher.bystanders.reading.Spares p.id ∧
        Dispatcher.reading { Dispatcher.bystanders with
          registry := (Dispatcher.bystanders.registry.remove p.kind p.id).2 } =
            Dispatcher.bystanders.reading.dropping p.id := by
  have hkept : Dispatcher.bystanders.registry.Kept := Registry.Kept.empty.run _
  have hformed : Dispatcher.bystanders.reading.intake.WellFormed :=
    ⟨hkept.live_wellFormed, fun g hg => ⟨_, _, (Option.some.inj hg).symm⟩⟩
  have hspared : ∀ p, Dispatcher.bystanders.reading.intake.Excludes p →
      Dispatcher.bystanders.reading.Spares p.id ∧ Dispatcher.reading { Dispatcher.bystanders with
        registry := (Dispatcher.bystanders.registry.remove p.kind p.id).2 } =
          Dispatcher.bystanders.reading.dropping p.id := by
    intro p hp
    obtain ⟨hspares, hremoved⟩ := Reading.excluded_spared hformed hp
    exact ⟨hspares, hremoved _ hkept rfl⟩
  refine ⟨by decide +kernel, by decide +kernel, ?_⟩
  obtain ⟨g, hg, g', hg', hid, hfits, hpath, hprecedes⟩ :
      ∃ g ∈ Dispatcher.bystanders.reading.intake.roster.groups,
        ∃ g' ∈ Dispatcher.bystanders.reading.intake.roster.groups, g.provider.id = 2 ∧
          g'.provider.fits Dispatcher.bystanders.reading.intake.host = true ∧ g'.path = g.path ∧
          g'.provider.precedes g.provider = true := by decide +kernel
  obtain ⟨p, hp, hpid, hinvalid⟩ : ∃ p ∈ Dispatcher.bystanders.reading.intake.roster.providers, p.id = 3 ∧
      p.isValid = false := by decide +kernel
  obtain ⟨q, hq, hqid, helsewhere⟩ : ∃ q ∈ Dispatcher.bystanders.reading.intake.roster.providers, q.id = 4 ∧
      q.appliesTo Dispatcher.bystanders.reading.intake.host = false := by decide +kernel
  obtain ⟨c, hc, hcid, hlost⟩ : ∃ c ∈ Dispatcher.bystanders.reading.intake.roster.handlers,
      c.provider.id = 5 ∧ c.provider.generated = false ∧
        ∃ q ∈ Dispatcher.bystanders.reading.intake.contenders.providers, q.generated = false ∧
          q.name = c.provider.name ∧ q.precedes c.provider = true := by decide +kernel
  have hshadowed : Dispatcher.bystanders.reading.intake.Excludes g.provider :=
    .shadowed hg hg' hfits hpath hprecedes
  have hduplicate : Dispatcher.bystanders.reading.intake.Excludes c.provider := .duplicate (.inl hc) hlost
  intro id hmem
  rcases List.mem_cons.1 hmem with rfl | hmem
  · exact ⟨_, hid, hshadowed, hspared _ hshadowed⟩
  · rcases List.mem_cons.1 hmem with rfl | hmem
    · exact ⟨p, hpid, .invalid hp hinvalid, hspared p (.invalid hp hinvalid)⟩
    · rcases List.mem_cons.1 hmem with rfl | hmem
      · exact ⟨q, hqid, .elsewhere hq helsewhere, hspared q (.elsewhere hq helsewhere)⟩
      · rw [List.mem_singleton.1 hmem]
        exact ⟨_, hcid, hduplicate, hspared _ hduplicate⟩

end RouteBinding
