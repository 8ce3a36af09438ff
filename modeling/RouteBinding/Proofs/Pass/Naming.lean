import RouteBinding.Proofs.Conflict.Name
import RouteBinding.Proofs.Pass.Plan

/-!
# Paths and names are given out once

Only declared names are compared with each other, yet no two providers that a pass places have one name
(`Reading.eq_of_name`).  A name that is declared by a valid provider does not begin as generated ones do
(`Provider.Made.declared_not_reserved`), a generated name tells the kind and the identity
(`generatedName_inj`), and the name of the implicit default group is not among either.  Paths are settled
before names, and a group that keeps its path keeps it against every other group (`Reading.nodup_paths`).
-/

namespace RouteBinding

open Property

/-! ### Generated names -/

/-- A generated name tells the identity of its provider. -/
theorem generatedName_inj {k k' : Kind} {id id' : ServiceId} (h : generatedName k id = generatedName k' id') :
    id = id' := by
  have hlist := congrArg String.toList h
  simp only [generatedName, String.toList_append] at hlist
  by_cases hk : k = k'
  · subst hk
    have hdigits := congrArg (fun l => Nat.ofDigitChars 10 l 0) (List.append_cancel_left hlist)
    simpa [Nat.toString_eq_ofList_toDigits] using hdigits
  · -- The labels of the kinds differ in their first letters.
    cases k <;> cases k' <;> first | exact absurd rfl hk | simp [Kind.label] at hlist

/-- The word with which every generated name begins. -/
theorem generatedName_head (k : Kind) (id : ServiceId) : (generatedName k id).toList.head? = some '.' := by
  simp [generatedName, String.toList_append]

theorem generatedName_ne_implicit (k : Kind) (id : ServiceId) : generatedName k id ≠ Group.implicitName := by
  intro h
  have hlist := congrArg String.toList h
  simp [generatedName, Group.implicitName, String.toList_append] at hlist

theorem isReserved_of_head {name : String} (h : name.toList.head? = some '.') : isReserved name = true := by
  unfold isReserved reservedLeads
  cases hname : name.toList with
  | nil => simp [hname] at h
  | cons c rest =>
      obtain rfl : c = '.' := by simpa [hname] using h
      simp

/-- A name that a valid provider declares is not reserved. -/
theorem Provider.declared_not_reserved {kind : Kind} {id : ServiceId} {revision : Nat} {payload : Payload}
    {props : Map} {more : List Reason}
    (hvalid : (Provider.ofProperties kind id revision payload props more).isValid = true)
    (hdeclared : (Provider.ofProperties kind id revision payload props more).generated = false) :
    isReserved (Provider.ofProperties kind id revision payload props more).name = false := by
  have hfaults : Provider.faults kind props ++ more = [] := by
    simpa [isValid, ofProperties] using hvalid
  have hname : nameFaults props = [] := by
    have hfaults := (List.append_eq_nil_iff.1 hfaults).1
    exact (List.append_eq_nil_iff.1 hfaults).2
  unfold nameFaults at hname
  unfold ofProperties at hdeclared ⊢
  dsimp only at hdeclared ⊢
  cases htext : props.text? Key.name with
  | none => simp [htext] at hdeclared
  | some name =>
      rw [htext] at hname
      simp at hname
      simpa using hname.2

/-! ### Who may be placed -/

/-- An intake of registered providers, and of the implicit default group if there is one, in which no identity
occurs twice. -/
structure Intake.Registered (i : Intake) : Prop where
  groups : ∀ g ∈ i.roster.groups, ∃ id revision payload props, g = .ofProperties id revision payload props
  handlers : ∀ c ∈ i.roster.handlers, ∃ id revision payload props,
    c = .ofProperties .handler id revision payload props
  interceptors : ∀ c ∈ i.roster.interceptors, ∃ id revision payload props,
    c = .ofProperties .interceptor id revision payload props
  implicit : ∀ g ∈ i.implicit, ∃ path content, g = .implicitDefault path content
  unique : (i.entrants.providers.map Provider.id).Nodup

/-- How a provider that may be placed has come by its name. -/
inductive Provider.Named (p : Provider) : Prop where
  /-- It declares the name. -/
  | declared (h : p.generated = false) (hname : isReserved p.name = false)
  | generated (kind : Kind) (hname : p.name = generatedName kind p.id)
  /-- It is the implicit default group. -/
  | implicit (hid : p.id = ServiceId.implicitDefault) (hname : p.name = Group.implicitName)

namespace Provider

theorem named_ofProperties {kind : Kind} {id : ServiceId} {revision : Nat} {payload : Payload} {props : Map}
    {more : List Reason}
    (hvalid : (Provider.ofProperties kind id revision payload props more).isValid = true) :
    (Provider.ofProperties kind id revision payload props more).Named := by
  cases hgenerated : (Provider.ofProperties kind id revision payload props more).generated with
  | false => exact .declared hgenerated (declared_not_reserved hvalid hgenerated)
  | true =>
      have hnone : props.text? Key.name = none := by simpa [ofProperties] using hgenerated
      refine .generated kind ?_
      simp [ofProperties, hnone]

end Provider

namespace Intake.Registered

variable {i : Intake} {p q : Provider}

theorem unique_contenders (h : i.Registered) : (i.contenders.providers.map Provider.id).Nodup :=
  (i.contenders_within.trans i.fit_within).unique h.unique

/-- A provider that fits is named as it should be. -/
theorem named (h : i.Registered) (hp : p ∈ i.fit.providers) : p.Named := by
  have hfits : ∀ {q : Provider}, q.fits i.host = true → q.isValid = true := fun hq =>
    (Bool.and_eq_true_iff.1 hq).1
  rcases Roster.mem_providers.1 hp with ⟨g, hg, rfl⟩ | ⟨c, hc, rfl⟩ | ⟨c, hc, rfl⟩
  · rcases List.mem_append.1 hg with hg | hg
    · obtain ⟨hlive, hfit⟩ := List.mem_filter.1 hg
      obtain ⟨id, revision, payload, props, rfl⟩ := h.groups g hlive
      exact Provider.named_ofProperties (hfits hfit)
    · obtain ⟨path, content, rfl⟩ := h.implicit g (Option.mem_toList.1 hg)
      exact .implicit rfl rfl
  · obtain ⟨hlive, hfit⟩ := List.mem_filter.1 hc
    obtain ⟨id, revision, payload, props, rfl⟩ := h.handlers c hlive
    exact Provider.named_ofProperties (hfits hfit)
  · obtain ⟨hlive, hfit⟩ := List.mem_filter.1 hc
    obtain ⟨id, revision, payload, props, rfl⟩ := h.interceptors c hlive
    exact Provider.named_ofProperties (hfits hfit)

/-- In a contest no two providers have one name. -/
theorem eq_of_name (h : i.Registered) (hp : p ∈ i.contest.roster.providers)
    (hq : q ∈ i.contest.roster.providers) (hname : p.name = q.name) : p = q := by
  have hunique := h.unique_contenders
  rw [Intake.contest_roster, Roster.mem_without_providers] at hp hq
  have hpkept := (Roster.keeps_iff_holdsName hunique hp.1).1 hp.2
  have hqkept := (Roster.keeps_iff_holdsName hunique hq.1).1 hq.2
  have hpnamed := h.named (i.contenders_within.providers.subset hp.1)
  have hqnamed := h.named (i.contenders_within.providers.subset hq.1)
  refine Roster.eq_of_id hunique hp.1 hq.1 ?_
  -- A declared name is not one of those that nobody may declare.
  have hdot : ∀ {p q : Provider}, isReserved p.name = false → p.name = q.name →
      q.name.toList.head? ≠ some '.' := by
    intro p q hfree hsame hhead
    rw [hsame, isReserved_of_head hhead] at hfree
    cases hfree
  have himplicit : Group.implicitName.toList.head? = some '.' := by decide
  cases hpnamed with
  | declared hpdeclared hpfree =>
      cases hqnamed with
      | declared hqdeclared hqfree =>
          -- The one that precedes the other would take the name from it.
          exact congrArg Provider.id
            (Roster.eq_of_holdsName hp.1 hq.1 hpkept hqkept hpdeclared hqdeclared hname)
      | generated kind hqname =>
          exact absurd (hqname ▸ generatedName_head kind q.id) (hdot hpfree hname)
      | implicit hid hqname => exact absurd (hqname ▸ himplicit) (hdot hpfree hname)
  | generated kind hpname =>
      cases hqnamed with
      | declared hqdeclared hqfree =>
          exact absurd (hpname ▸ generatedName_head kind p.id) (hdot hqfree hname.symm)
      | generated kind' hqname =>
          rw [hpname, hqname] at hname
          exact generatedName_inj hname
      | implicit hid hqname =>
          rw [hpname, hqname] at hname
          exact absurd hname (generatedName_ne_implicit kind p.id)
  | implicit hid hpname =>
      cases hqnamed with
      | declared hqdeclared hqfree => exact absurd (hpname ▸ himplicit) (hdot hqfree hname.symm)
      | generated kind hqname =>
          rw [hpname, hqname] at hname
          exact absurd hname.symm (generatedName_ne_implicit kind q.id)
      | implicit hid' hqname => rw [hid, hid']

end Intake.Registered

/-- A group with the providers that are attached to it. -/
def Group.cast (g : Group) : List Provider := g.provider :: g.attached.map Content.provider

namespace Reading

variable {r : Reading}

/-- The providers that a pass places, once for each place. -/
def placed (r : Reading) : List Provider := r.plan.flatMap Group.cast

/-- They all have their path and their name. -/
theorem placed_subset : r.placed ⊆ r.contest.roster.providers := by
  intro p hp
  obtain ⟨g, hg, hp⟩ := List.mem_flatMap.1 hp
  obtain ⟨g₀, hserved, rfl⟩ := r.mem_plan_iff.1 hg
  rcases List.mem_cons.1 hp with rfl | hattached
  · exact Roster.group_mem_providers (g := g₀) (r.mem_served_iff.1 hserved).1
  · obtain ⟨c, hc, rfl⟩ := List.mem_map.1 hattached
    rcases List.mem_append.1 hc with hkept | hmanned
    · have hsub : (r.kept g₀).Sublist r.contest.roster.interceptors :=
        (settle_sublist _).trans List.filter_sublist
      exact Roster.content_mem_providers (k := .interceptor) (hsub.subset hkept)
    · have hsub : (r.manned g₀).Sublist r.contest.roster.handlers :=
        List.filter_sublist.trans List.filter_sublist
      exact Roster.content_mem_providers (k := .handler) (hsub.subset hmanned)

/-- No two providers that a pass places have one name. -/
theorem eq_of_name (h : r.intake.Registered) : ∀ p ∈ r.placed, ∀ q ∈ r.placed, p.name = q.name → p = q :=
  fun _ hp _ hq => h.eq_of_name (placed_subset hp) (placed_subset hq)

/-- No two groups that a pass decides to serve have one path. -/
theorem nodup_paths (r : Reading) : (r.plan.map Group.path).Nodup := by
  have hpaths : r.decision.placed.map Group.path = r.served.map Group.path := by
    rw [decision_placed, List.map_map]
    rfl
  have hsub : r.served.Sublist (resolvePaths r.intake.fit.groups).1 :=
    List.filter_sublist.trans r.intake.contest_within.groups
  have hserved : (r.served.map Group.path).Nodup :=
    (nodup_kept_paths r.intake.fit.groups).sublist (hsub.map _)
  rw [← hpaths] at hserved
  exact ((Sorted.ofList_perm _ _).map Group.path).nodup_iff.2 hserved

end Reading

end RouteBinding
