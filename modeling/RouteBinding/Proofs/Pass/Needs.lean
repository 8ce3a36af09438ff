import RouteBinding.Proofs.Pass.Attachment

/-!
# What a group requires for itself

The requirements of a group are meant to be met by others: each by an interceptor that is attached to it or by
the host (`Offered`).  The check of a group holds it to this with one exception: a requirement that the
properties of the group match is met as well (`SelfMet`); and an interceptor does not count if it has the
identity of the group, which no registered one has (`NamesakeMet`).  `GroupCheck.WeighsOwn` says that there are
no other exceptions.  What a planned group requires is offered to it exactly if it meets none of it alone
(`own_needs_weighed`); a group that requires its own path is planned although nothing offers this
(`selfish_unruled`).
-/

namespace RouteBinding

open Property

/-- Whether a filter is matched by one of some interceptors or by the host. -/
def Offered (host : Map) (interceptors : List Content) (f : Filter) : Prop :=
  (∃ y ∈ interceptors, f.accepts y.provider.properties = true) ∨ f.accepts host = true

instance (host : Map) (interceptors : List Content) (f : Filter) : Decidable (Offered host interceptors f) :=
  inferInstanceAs (Decidable (_ ∨ _))

/-- Whether a filter is matched by a group and by nothing else. -/
def SelfMet (host : Map) (g : Group) (interceptors : List Content) (f : Filter) : Prop :=
  f.accepts g.selection = true ∧ ¬Offered host interceptors f

instance (host : Map) (g : Group) (interceptors : List Content) (f : Filter) :
    Decidable (SelfMet host g interceptors f) :=
  inferInstanceAs (Decidable (_ ∧ _))

/-- Whether a filter is matched by nothing but interceptors that have the identity of a group. -/
def NamesakeMet (host : Map) (g : Group) (interceptors : List Content) (f : Filter) : Prop :=
  Offered host interceptors f ∧
    ¬(Offered host (interceptors.filter fun y => y.id ≠ g.id) f ∨ f.accepts g.selection = true)

/-- What the check of a group says about the requirements of the group itself. -/
structure GroupCheck.WeighsOwn (host : Map) (g : Group) (c : GroupCheck) : Prop where
  /-- They are met exactly if each is matched by an interceptor that stays and has another identity, by the host
  or by the group. -/
  satisfied_iff : c.satisfied = true ↔ ∀ f ∈ g.provider.requires,
    Offered host (c.kept.filter fun y => y.id ≠ g.id) f ∨ f.accepts g.selection = true
  /-- They are met exactly if each is offered by the interceptors that stay or by the host, unless they are met
  and one of them by the group alone, or all are offered and one of them by a namesake alone. -/
  ruled_iff : (c.satisfied = true ↔ ∀ f ∈ g.provider.requires, Offered host c.kept f) ↔
    ¬(c.satisfied = true ∧ ∃ f ∈ g.provider.requires, SelfMet host g c.kept f) ∧
      ¬((∀ f ∈ g.provider.requires, Offered host c.kept f) ∧
        ∃ f ∈ g.provider.requires, NamesakeMet host g c.kept f)

variable {host : Map} {g : Group} {l : List Content} {f : Filter}

theorem Offered.mono {m : List Content} (hsub : l ⊆ m) (h : Offered host l f) : Offered host m f := by
  refine h.imp_left ?_
  rintro ⟨y, hy, hmet⟩
  exact ⟨y, hsub hy, hmet⟩

theorem requirementMet_iff_offered {requester : ServiceId} : requirementMet host g l requester f = true ↔
    Offered host (l.filter fun y => y.id ≠ requester) f ∨ f.accepts g.selection = true := by
  rw [requirementMet_iff_matched, Matched, Offered, or_assoc, or_comm (a := f.accepts host = true)]

theorem checkGroup_satisfied_iff : (checkGroup host g l).satisfied = true ↔ ∀ f ∈ g.provider.requires,
    Offered host ((checkGroup host g l).kept.filter fun y => y.id ≠ g.id) f ∨ f.accepts g.selection = true :=
  requirementsMet_iff.trans (forall₂_congr fun _ _ => requirementMet_iff_offered)

/-- A check weighs what a group requires like what interceptors require, so that the group itself counts. -/
theorem checkGroup_weighsOwn (host : Map) (g : Group) (l : List Content) :
    (checkGroup host g l).WeighsOwn host g where
  satisfied_iff := checkGroup_satisfied_iff
  ruled_iff := by
    rw [checkGroup_satisfied_iff]
    constructor
    · refine fun hrule => ⟨?_, ?_⟩
      · rintro ⟨hsatisfied, f, hf, -, hnot⟩
        exact hnot (hrule.1 hsatisfied f hf)
      · rintro ⟨hoffered, f, hf, -, hnot⟩
        exact hnot (hrule.2 hoffered f hf)
    · rintro ⟨halone, hnamesake⟩
      constructor
      · intro hsatisfied f hf
        by_contra hnot
        -- What no interceptor and no host matches is matched by the group, and by it alone.
        have hself : f.accepts g.selection = true := (hsatisfied f hf).resolve_left fun hothers =>
          hnot (hothers.mono (List.filter_subset_self _))
        exact halone ⟨hsatisfied, f, hf, hself, hnot⟩
      · intro hoffered f hf
        by_contra hnot
        exact hnamesake ⟨hoffered, f, hf, hoffered f hf, hnot⟩

/-- Every requirement of a planned group is matched by an interceptor that is attached to it, by the host or
by the group itself. -/
theorem Reading.offered_of_planned {r : Reading} (h : r.intake.WellFormed) (hg : g ∈ r.plan) :
    ∀ f ∈ g.provider.requires, Offered r.intake.host g.interceptors f ∨ f.accepts g.selection = true := by
  obtain ⟨g₀, hserved, rfl⟩ := r.mem_plan_iff.1 hg
  have hsatisfied : requirementsMet r.intake.host g₀ (r.kept g₀) g₀.provider = true :=
    (r.mem_served_iff.1 hserved).2.1
  rw [formed_interceptors h g₀]
  intro f hf
  refine (requirementMet_iff_offered.1 (requirementsMet_iff.1 hsatisfied f hf)).imp_left ?_
  exact Offered.mono (List.filter_subset_self _)

/-- A check weighs what a group requires with the group itself among those that can meet it; and what a planned
group requires is offered to it exactly if it meets no requirement alone. -/
theorem own_needs_weighed (host : Map) (g : Group) (l : List Content) :
    (checkGroup host g l).WeighsOwn host g ∧
      ∀ r : Reading, r.intake.WellFormed → g ∈ r.plan →
        ((∀ f ∈ g.provider.requires, Offered r.intake.host g.interceptors f) ↔
          ∀ f ∈ g.provider.requires, ¬SelfMet r.intake.host g g.interceptors f) := by
  refine ⟨checkGroup_weighsOwn host g l, fun r h hg => forall₂_congr fun f hf => ?_⟩
  constructor
  · exact fun hoffered halone => halone.2 hoffered
  · intro halone
    by_contra hnot
    exact halone ⟨(r.offered_of_planned h hg f hf).resolve_left hnot, hnot⟩

/-- A registry with a group that requires what an interceptor offers and a group that requires its own path. -/
def needyRegistry : Registry :=
  let group (path requires : String) : Map := .ofList
    [(Key.routeGroup, .flag true), (Key.path, .text path), (Key.requires, .text requires)]
  let r := (Registry.empty.upsert .group (.shared 0 .plain) (group "/api" "(scheme=basic)")).2
  let r := (r.upsert .interceptor (.shared 1 (.marker (.ofList [.requestFilter])))
    (.ofList [(Key.routeInterceptor, .flag true), (Key.select, .text "(path=/api)"),
      ("scheme", .text "basic")])).2
  (r.upsert .group (.shared 0 .plain) (group "/own" "(path=/own)")).2

/-- A dispatcher with this registry and an implicit default group. -/
def needyDispatcher : Dispatcher :=
  { Dispatcher.new {} {} (.shared 0 .plain) {} with registry := needyRegistry }

theorem needy_wellFormed : needyDispatcher.reading.intake.WellFormed where
  roster :=
    { groupKind := by decide +kernel
      handlerKind := by decide +kernel
      interceptorKind := by decide +kernel
      groupOrder := by decide +kernel
      handlerOrder := by decide +kernel
      interceptorOrder := by decide +kernel
      unique := by decide +kernel
      nonzero := by decide +kernel }
  implicit := by
    intro g hg
    exact ⟨"/", .shared 0 .plain, (Option.some.inj hg).symm⟩

/-- There the first group is planned, and all that it requires is offered to it. -/
theorem needy_own_weighed : needyDispatcher.reading.intake.WellFormed ∧
    (∃ g ∈ needyDispatcher.reading.plan, g.id = 1 ∧ g.provider.requires ≠ [] ∧
      ∀ f ∈ g.provider.requires, Offered needyDispatcher.reading.intake.host g.interceptors f) ∧
    ∀ g ∈ needyDispatcher.reading.plan,
      ((∀ f ∈ g.provider.requires, Offered needyDispatcher.reading.intake.host g.interceptors f) ↔
        ∀ f ∈ g.provider.requires, ¬SelfMet needyDispatcher.reading.intake.host g g.interceptors f) :=
  ⟨needy_wellFormed, by decide +kernel,
    fun g hg => (own_needs_weighed ∅ g []).2 needyDispatcher.reading needy_wellFormed hg⟩

/-- A group that requires its own path. -/
def selfish : Group := .ofProperties 1 0 (.shared 0 .plain)
  (.ofList [(Key.routeGroup, .flag true), (Key.path, .text "/api"), (Key.requires, .text "(path=/api)")])

/-- Its requirement is met although nothing offers it, and a pass plans such a group. -/
theorem selfish_unruled : ¬((checkGroup ∅ selfish []).satisfied = true ↔
      ∀ f ∈ selfish.provider.requires, Offered ∅ (checkGroup ∅ selfish []).kept f) ∧
    ∃ g ∈ needyDispatcher.reading.plan, ∃ f ∈ g.provider.requires,
      ¬Offered needyDispatcher.reading.intake.host g.interceptors f := by
  decide +kernel

end RouteBinding
