import RouteBinding.Pass.Assignment
import RouteBinding.Proofs.Conflict.Claim

/-!
# Rosters of live providers

A registry lists providers of three kinds in the order of their identities, and no identity twice
(`Roster.WellFormed`).  An identity then tells a provider from all others (`WellFormed.eq_of_id`), and the
providers that take part in a contest to its end are those that fit the host, keep their path and do not lose
their name (`Intake.mem_contest_groups`, `Intake.mem_contest_content`).
-/

namespace RouteBinding

open Property

/-- A roster as a registry lists it. -/
structure Roster.WellFormed (r : Roster) : Prop where
  groupKind : ∀ g ∈ r.groups, g.provider.kind = .group
  handlerKind : ∀ c ∈ r.handlers, c.kind = .handler
  interceptorKind : ∀ c ∈ r.interceptors, c.kind = .interceptor
  groupOrder : r.groups.Pairwise fun g h => g.id < h.id
  handlerOrder : r.handlers.Pairwise fun c d => c.id < d.id
  interceptorOrder : r.interceptors.Pairwise fun c d => c.id < d.id
  unique : (r.providers.map Provider.id).Nodup
  /-- No provider has the identity of the implicit default group. -/
  nonzero : ∀ p ∈ r.providers, p.id ≠ ServiceId.implicitDefault

/-- An intake as a dispatcher makes it: a roster of a registry, and the implicit default group if there is
one. -/
structure Intake.WellFormed (i : Intake) : Prop where
  roster : i.roster.WellFormed
  implicit : ∀ g ∈ i.implicit, ∃ path content, g = .implicitDefault path content

namespace Group

variable {path : String} {content : Payload}

theorem implicitDefault_id : (implicitDefault path content).id = ServiceId.implicitDefault := rfl

theorem implicitDefault_requires : (implicitDefault path content).provider.requires = [] := by
  have hnone : implicitProperties.get? Key.requires = none := by decide +kernel
  show (declaredRequires implicitProperties).valueOr [] = []
  rw [declaredRequires, hnone]
  rfl

theorem implicitDefault_generated : (implicitDefault path content).provider.generated = true := by
  show (implicitProperties.text? Property.Key.name).isNone = true
  decide +kernel

end Group

namespace Roster

/-- The handlers of a roster; its interceptors for every other kind. -/
def content (r : Roster) : Kind → List Content
  | .handler => r.handlers
  | _ => r.interceptors

/-- The content of a kind is of that kind. -/
theorem WellFormed.contentKind {r : Roster} (h : r.WellFormed) {k : Kind} (hk : k ≠ .group) :
    ∀ c ∈ r.content k, c.kind = k := by
  cases k with
  | group => exact absurd rfl hk
  | handler => exact h.handlerKind
  | interceptor => exact h.interceptorKind

/-- One roster lists no more than another, kind by kind and in the same order. -/
structure Within (r s : Roster) : Prop where
  groups : r.groups.Sublist s.groups
  handlers : r.handlers.Sublist s.handlers
  interceptors : r.interceptors.Sublist s.interceptors

theorem Within.trans {r s t : Roster} (h : r.Within s) (k : s.Within t) : r.Within t :=
  ⟨h.groups.trans k.groups, h.handlers.trans k.handlers, h.interceptors.trans k.interceptors⟩

theorem Within.providers {r s : Roster} (h : r.Within s) : r.providers.Sublist s.providers :=
  ((h.groups.map _).append (h.handlers.map _)).append (h.interceptors.map _)

theorem Within.unique {r s : Roster} (h : r.Within s) (unique : (s.providers.map Provider.id).Nodup) :
    (r.providers.map Provider.id).Nodup :=
  unique.sublist (h.providers.map _)

theorem Within.content {r s : Roster} (h : r.Within s) (k : Kind) :
    (r.content k).Sublist (s.content k) := by
  cases k with
  | handler => exact h.handlers
  | group => exact h.interceptors
  | interceptor => exact h.interceptors

theorem mem_providers {r : Roster} {p : Provider} : p ∈ r.providers ↔
    (∃ g ∈ r.groups, g.provider = p) ∨ (∃ c ∈ r.handlers, c.provider = p) ∨
      ∃ c ∈ r.interceptors, c.provider = p := by
  simp [providers]

theorem group_mem_providers {r : Roster} {g : Group} (hg : g ∈ r.groups) : g.provider ∈ r.providers :=
  mem_providers.2 (.inl ⟨g, hg, rfl⟩)

theorem content_mem_providers {r : Roster} {k : Kind} {c : Content} (hc : c ∈ r.content k) :
    c.provider ∈ r.providers := by
  cases k with
  | handler => exact mem_providers.2 (.inr (.inl ⟨c, hc, rfl⟩))
  | group => exact mem_providers.2 (.inr (.inr ⟨c, hc, rfl⟩))
  | interceptor => exact mem_providers.2 (.inr (.inr ⟨c, hc, rfl⟩))

/-- Providers with one identity are one provider. -/
theorem eq_of_id {r : Roster} (unique : (r.providers.map Provider.id).Nodup) {p q : Provider}
    (hp : p ∈ r.providers) (hq : q ∈ r.providers) (h : p.id = q.id) : p = q :=
  List.inj_on_of_nodup_map unique hp hq h

theorem without_within (r : Roster) (lost : List Provider) : (r.without lost).Within r :=
  ⟨List.filter_sublist, List.filter_sublist, List.filter_sublist⟩

theorem without_providers (r : Roster) (lost : List Provider) :
    (r.without lost).providers = r.providers.filter fun p => !lost.any p.sameAs := by
  simp [without, providers, List.filter_append, List.filter_map, Function.comp_def]

theorem mem_without_providers {r : Roster} {lost : List Provider} {p : Provider} :
    p ∈ (r.without lost).providers ↔ p ∈ r.providers ∧ (!lost.any p.sameAs) = true := by
  rw [without_providers, List.mem_filter]

/-- Where identities are unique, what is left without the duplicates are those that do not lose their
name. -/
theorem keeps_iff {r : Roster} (unique : (r.providers.map Provider.id).Nodup) {p : Provider}
    (hp : p ∈ r.providers) : (!r.duplicates.any p.sameAs) = true ↔ ¬r.LosesName p := by
  have hany : r.duplicates.any p.sameAs = true ↔ r.LosesName p := by
    rw [List.any_eq_true]
    constructor
    · rintro ⟨q, hq, hsame⟩
      obtain ⟨hqr, hlose⟩ := (mem_duplicates_iff unique).1 hq
      rwa [eq_of_id unique hp hqr (Provider.sameAs_iff.1 hsame).1]
    · intro hlose
      exact ⟨p, (mem_duplicates_iff unique).2 ⟨hp, hlose⟩, Provider.sameAs_iff.2 ⟨rfl, rfl⟩⟩
  rw [← hany]
  simp

end Roster

namespace Intake

variable {i : Intake}

/-- The live providers with the implicit default group. -/
def entrants (i : Intake) : Roster := { i.roster with groups := i.roster.groups ++ i.implicit.toList }

/-- The providers that fit the host, of which those that lost their path are gone. -/
def contenders (i : Intake) : Roster := { i.fit with groups := (resolvePaths i.fit.groups).1 }

theorem contest_roster (i : Intake) :
    i.contest.roster = i.contenders.without i.contenders.duplicates := rfl

theorem fit_within (i : Intake) : i.fit.Within i.entrants :=
  ⟨List.filter_sublist.append (.refl _), List.filter_sublist, List.filter_sublist⟩

theorem contenders_within (i : Intake) : i.contenders.Within i.fit :=
  ⟨kept_sublist _, .refl _, .refl _⟩

theorem contest_within (i : Intake) : i.contest.roster.Within i.contenders :=
  Roster.without_within _ _

theorem roster_within (i : Intake) : i.roster.Within i.entrants :=
  ⟨List.sublist_append_left _ _, .refl _, .refl _⟩

namespace WellFormed

variable (h : i.WellFormed)
include h

theorem implicit_id {g : Group} (hg : g ∈ i.implicit) : g.id = ServiceId.implicitDefault := by
  obtain ⟨path, content, rfl⟩ := h.implicit g hg
  exact Group.implicitDefault_id

/-- A group with the identity of the implicit default group is that group. -/
theorem isImplicit_iff {g : Group} (hg : g ∈ i.entrants.groups) :
    g.isImplicit = true ↔ g ∉ i.roster.groups := by
  rw [Group.isImplicit, beq_iff_eq]
  rcases List.mem_append.1 hg with hlive | himplicit
  · have hp : g.provider ∈ i.roster.providers := Roster.group_mem_providers hlive
    exact ⟨fun hid => absurd hid (h.roster.nonzero _ hp), fun hnot => absurd hlive hnot⟩
  · have hid := h.implicit_id (Option.mem_toList.1 himplicit)
    refine ⟨fun _ hlive => ?_, fun _ => hid⟩
    exact h.roster.nonzero _ (Roster.group_mem_providers hlive) hid

/-- No identity occurs twice, that of the implicit default group included. -/
theorem unique_entrants : (i.entrants.providers.map Provider.id).Nodup := by
  have hunique := h.roster.unique
  cases himplicit : i.implicit with
  | none => simpa [entrants, himplicit, Roster.providers] using hunique
  | some g =>
      have hid : g.provider.id = ServiceId.implicitDefault := h.implicit_id (by simp [himplicit])
      have hfresh : g.provider.id ∉ i.roster.providers.map Provider.id := by
        intro hmem
        obtain ⟨p, hp, hpid⟩ := List.mem_map.1 hmem
        exact h.roster.nonzero p hp (hpid.trans hid)
      -- The implicit default group stands behind the live ones; in front its freshness is enough.
      have hperm : i.entrants.providers.Perm (g.provider :: i.roster.providers) := by
        simp only [entrants, himplicit, Roster.providers, Option.toList_some, List.map_append,
          List.map_cons, List.map_nil, List.append_assoc, List.cons_append, List.nil_append]
        exact List.perm_middle
      rw [(hperm.map Provider.id).nodup_iff, List.map_cons, List.nodup_cons]
      exact ⟨hfresh, hunique⟩

theorem unique_contenders : (i.contenders.providers.map Provider.id).Nodup :=
  (i.contenders_within.trans i.fit_within).unique h.unique_entrants

theorem unique_groups : (i.entrants.groups.map Group.id).Nodup := by
  have hsub : (i.entrants.groups.map Group.id).Sublist (i.entrants.providers.map Provider.id) := by
    rw [Roster.providers, List.append_assoc, List.map_append, List.map_map]
    exact List.sublist_append_left _ _
  exact h.unique_entrants.sublist hsub

end WellFormed

/-- The groups in a contest are the contenders that do not lose their name. -/
theorem mem_contest_groups (h : i.WellFormed) {g : Group} : g ∈ i.contest.roster.groups ↔
    g ∈ i.contenders.groups ∧ ¬i.contenders.LosesName g.provider := by
  rw [contest_roster, Roster.without, List.mem_filter]
  refine and_congr_right fun hg => ?_
  exact Roster.keeps_iff h.unique_contenders (Roster.group_mem_providers hg)

theorem mem_contenders_content {k : Kind} {c : Content} : c ∈ i.contenders.content k ↔
    c ∈ i.roster.content k ∧ c.provider.fits i.host = true := by
  cases k with
  | handler => exact List.mem_filter
  | group => exact List.mem_filter
  | interceptor => exact List.mem_filter

theorem mem_without_content {r : Roster} {lost : List Provider} {k : Kind} {c : Content} :
    c ∈ (r.without lost).content k ↔
      c ∈ r.content k ∧ (!lost.any c.provider.sameAs) = true := by
  cases k with
  | handler => exact List.mem_filter
  | group => exact List.mem_filter
  | interceptor => exact List.mem_filter

/-- The content in a contest is the live content that fits the host and does not lose its name. -/
theorem mem_contest_content (h : i.WellFormed) {k : Kind} {c : Content} :
    c ∈ i.contest.roster.content k ↔
      c ∈ i.roster.content k ∧ c.provider.fits i.host = true ∧
        ¬i.contenders.LosesName c.provider := by
  rw [contest_roster, mem_without_content, ← and_assoc, ← mem_contenders_content]
  refine and_congr_right fun hc => ?_
  exact Roster.keeps_iff h.unique_contenders (Roster.content_mem_providers hc)

end Intake

end RouteBinding
