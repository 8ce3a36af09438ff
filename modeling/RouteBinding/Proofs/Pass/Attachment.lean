import RouteBinding.Dispatcher.Basic
import RouteBinding.Route.Served
import RouteBinding.Proofs.Pass.Plan

/-!
# What is attached to a planned group

Content is eligible if nothing but the groups can keep it out of service (`Reading.Eligible`).  A planned
group holds the eligible interceptors that select it, as far as what they require is matched in the group,
and exactly the eligible handlers that select it and find what they require (`Reading.attached_properly`).
-/

namespace RouteBinding

open Property

/-- Whether a filter is matched by one of some interceptors, by a group or by the host. -/
def Matched (host : Map) (g : Group) (interceptors : List Content) (f : Filter) : Prop :=
  (∃ y ∈ interceptors, f.accepts y.provider.properties = true) ∨ f.accepts g.selection = true ∨
    f.accepts host = true

theorem requirementMet_iff_matched {host : Map} {g : Group} {l : List Content} {requester : ServiceId}
    {f : Filter} : requirementMet host g l requester f = true ↔
      Matched host g (l.filter fun y => y.id ≠ requester) f := by
  rw [requirementMet_iff, Matched]
  refine or_congr_left ⟨?_, ?_⟩
  · rintro ⟨y, hy, hne, hmet⟩
    exact ⟨y, List.mem_filter.2 ⟨hy, decide_eq_true hne⟩, hmet⟩
  · rintro ⟨y, hy, hmet⟩
    have hmem := List.mem_filter.1 hy
    exact ⟨y, hmem.1, of_decide_eq_true hmem.2, hmet⟩

theorem usable_iff {outcomes : Outcomes} {c : Content} : usable outcomes c = true ↔
    ∃ contracts, outcomes c.id = .ok contracts ∧
      (c.kind = .interceptor → contracts.isEmpty = false) := by
  unfold usable
  cases houtcome : outcomes c.id with
  | error e => simp
  | ok contracts =>
      have hkind : (c.kind == Kind.interceptor) = decide (c.kind = .interceptor) := rfl
      simp [hkind, imp_iff_not_or]

namespace Reading

/-- Content that nothing but the groups can keep out of service: it is valid and meant for the host, has its
name, can be acquired, and advertises a contract if it is an interceptor. -/
structure Eligible (r : Reading) (c : Content) : Prop where
  /-- Nothing is wrong with it. -/
  valid : c.provider.isValid = true
  /-- It is meant for the host. -/
  target : c.provider.appliesTo r.intake.host = true
  /-- It does not lose its name. -/
  keepsName : ¬r.intake.contenders.LosesName c.provider
  /-- It can be acquired, and an interceptor advertises a contract. -/
  acquired : ∃ contracts, r.outcomes c.id = .ok contracts ∧
    (c.kind = .interceptor → contracts.isEmpty = false)

/-- A group holds what it should hold, as one that a pass serves. -/
structure ProperlyAttached (r : Reading) (g : Group) : Prop where
  /-- Interceptors and handlers are attached, in this order, and nothing else. -/
  attached : g.attached = g.interceptors ++ g.handlers
  /-- The interceptors stand in the order of their identities, each once. -/
  interceptorOrder : g.interceptors.Pairwise fun x y => x.id < y.id
  /-- Every attached interceptor is a live and eligible one that selects the group. -/
  interceptorSound : ∀ x ∈ g.interceptors,
    x ∈ r.intake.roster.interceptors ∧ r.Eligible x ∧ x.selects g = true
  /-- What an attached interceptor requires is matched by another one, by the group or by the host. -/
  interceptorMatched : ∀ x ∈ g.interceptors, ∀ f ∈ x.provider.requires,
    Matched r.intake.host g (g.interceptors.filter fun y => y.id ≠ x.id) f
  /-- An eligible interceptor that selects the group and is not attached requires something that is matched by
  none of these. -/
  interceptorComplete : ∀ x ∈ r.intake.roster.interceptors, r.Eligible x → x.selects g = true →
    x ∉ g.interceptors → ∃ f ∈ x.provider.requires,
      ¬Matched r.intake.host g (g.interceptors.filter fun y => y.id ≠ x.id) f
  /-- The handlers stand in the order of their identities, each once. -/
  handlerOrder : g.handlers.Pairwise fun x y => x.id < y.id
  /-- The attached handlers are the live and eligible ones that select the group and find what they require.
  -/
  handlerIff : ∀ x, x ∈ g.handlers ↔ x ∈ r.intake.roster.handlers ∧ r.Eligible x ∧
    x.selects g = true ∧ ∀ f ∈ x.provider.requires, Matched r.intake.host g g.interceptors f
  /-- A legacy group has no handlers. -/
  legacy : g.isLegacy = true → g.handlers = []

variable {r : Reading}

theorem requirementsMet_iff_matched {g : Group} {l : List Content} {p : Provider} :
    requirementsMet r.contest.host g l p = true ↔
      ∀ f ∈ p.requires, Matched r.intake.host g (l.filter fun y => y.id ≠ p.id) f := by
  rw [requirementsMet_iff]
  exact forall₂_congr fun f _ => requirementMet_iff_matched

theorem fits_iff {host : Map} {p : Provider} :
    p.fits host = true ↔ p.isValid = true ∧ p.appliesTo host = true := by
  rw [Provider.fits, Bool.and_eq_true]

/-- Eligible content is the usable content of the contest. -/
theorem eligible_iff (h : r.intake.WellFormed) {k : Kind} {x : Content}
    (hx : x ∈ r.intake.roster.content k) :
    r.Eligible x ↔ x ∈ r.contest.roster.content k ∧ usable r.outcomes x = true := by
  rw [contest, Intake.mem_contest_content h, fits_iff, usable_iff]
  constructor
  · intro e
    exact ⟨⟨hx, ⟨e.valid, e.target⟩, e.keepsName⟩, e.acquired⟩
  · rintro ⟨⟨-, ⟨hvalid, htarget⟩, hname⟩, hacquired⟩
    exact ⟨hvalid, htarget, hname, hacquired⟩

theorem mem_choose_iff {outcomes : Outcomes} {contents : List Content} {g : Group} {x : Content} :
    x ∈ Contest.choose outcomes contents g ↔
      x ∈ contents ∧ usable outcomes x = true ∧ x.selects g = true := by
  rw [Contest.choose, List.mem_filter, Bool.and_eq_true]

/-- The content on offer for a group is the eligible one that selects it. -/
theorem mem_offered_iff (h : r.intake.WellFormed) {k : Kind} {g : Group} {x : Content} :
    x ∈ Contest.choose r.outcomes (r.contest.roster.content k) g ↔
      x ∈ r.intake.roster.content k ∧ r.Eligible x ∧ x.selects g = true := by
  rw [mem_choose_iff]
  constructor
  · rintro ⟨hx, husable, hselects⟩
    have hlive : x ∈ r.intake.roster.content k := (contest_within.content k).subset hx
    exact ⟨hlive, (eligible_iff h hlive).2 ⟨hx, husable⟩, hselects⟩
  · rintro ⟨hlive, heligible, hselects⟩
    obtain ⟨hx, husable⟩ := (eligible_iff h hlive).1 heligible
    exact ⟨hx, husable, hselects⟩

/-- An interceptor has another identity than a handler. -/
theorem id_ne_of_kinds (h : r.intake.WellFormed) {y x : Content}
    (hy : y ∈ r.intake.roster.interceptors) (hx : x ∈ r.intake.roster.handlers) : y.id ≠ x.id := by
  intro hid
  have heq : y.provider = x.provider := Roster.eq_of_id h.roster.unique
    (Roster.mem_providers.2 (.inr (.inr ⟨y, hy, rfl⟩)))
    (Roster.mem_providers.2 (.inr (.inl ⟨x, hx, rfl⟩))) hid
  have hykind := h.roster.interceptorKind y hy
  have hxkind := h.roster.handlerKind x hx
  rw [Content.kind, heq] at hykind
  rw [Content.kind, hykind] at hxkind
  cases hxkind

/-- The handlers that stay are the eligible ones that select the group and find what they require. -/
theorem mem_manned_iff (h : r.intake.WellFormed) {g : Group} {x : Content} :
    x ∈ r.manned g ↔ x ∈ r.intake.roster.handlers ∧ r.Eligible x ∧ x.selects g = true ∧
      ∀ f ∈ x.provider.requires, Matched r.intake.host g (r.kept g) f := by
  rw [manned, List.mem_filter, requirementsMet_iff_matched]
  constructor
  · rintro ⟨hoffered, hmatched⟩
    obtain ⟨hlive, heligible, hselects⟩ := (mem_offered_iff (k := .handler) h).1 hoffered
    refine ⟨hlive, heligible, hselects, fun f hf => ?_⟩
    refine (hmatched f hf).imp_left ?_
    rintro ⟨y, hy, hmet⟩
    exact ⟨y, (List.mem_filter.1 hy).1, hmet⟩
  · rintro ⟨hlive, heligible, hselects, hmatched⟩
    refine ⟨(mem_offered_iff (k := .handler) h).2 ⟨hlive, heligible, hselects⟩, fun f hf => ?_⟩
    refine (hmatched f hf).imp_left ?_
    rintro ⟨y, hy, hmet⟩
    -- A handler is no interceptor, so leaving itself out leaves out nothing.
    have hne := id_ne_of_kinds h ((kept_sublist g).subset hy) hlive
    exact ⟨y, List.mem_filter.2 ⟨hy, decide_eq_true hne⟩, hmet⟩

theorem selects_formed (g : Group) (x : Content) : x.selects (r.formed g) = x.selects g := rfl

/-- Attachment is sound and complete: what is attached to a planned group is what should be. -/
theorem attached_properly (h : r.intake.WellFormed) : ∀ g ∈ r.plan, r.ProperlyAttached g := by
  intro g hg
  obtain ⟨g₀, -, rfl⟩ := r.mem_plan_iff.1 hg
  have hinterceptors := formed_interceptors h g₀
  have hhandlers := formed_handlers h g₀
  have hunique : ((Contest.choose r.outcomes r.contest.roster.interceptors g₀).map Content.id).Nodup := by
    have hsub : (Contest.choose r.outcomes r.contest.roster.interceptors g₀).Sublist
        r.intake.roster.interceptors := List.filter_sublist.trans contest_within.interceptors
    refine List.Nodup.sublist (hsub.map _) (List.pairwise_map.2 ?_)
    exact h.roster.interceptorOrder.imp fun hlt => Nat.ne_of_lt hlt
  refine
    { attached := by rw [hinterceptors, hhandlers]; rfl
      interceptorOrder := ?_
      interceptorSound := ?_
      interceptorMatched := ?_
      interceptorComplete := ?_
      handlerOrder := ?_
      handlerIff := ?_
      legacy := ?_ }
  · rw [hinterceptors]
    exact h.roster.interceptorOrder.sublist (kept_sublist g₀)
  · intro x hx
    rw [hinterceptors] at hx
    rw [selects_formed]
    exact (mem_offered_iff (k := .interceptor) h).1 ((settle_sublist _).subset hx)
  · intro x hx
    rw [hinterceptors] at hx ⊢
    exact requirementsMet_iff_matched.1 (requirementsMet_of_mem_settle hx)
  · intro x hlive heligible hselects hx
    rw [hinterceptors] at hx ⊢
    have hoffered := (mem_offered_iff (k := .interceptor) h).2 ⟨hlive, heligible, hselects⟩
    -- It was detached in some round, so it lacks something in the end.
    have hunmet := not_requirementsMet_of_detached hunique hoffered hx
    rw [requirementsMet_iff_matched] at hunmet
    push Not at hunmet
    exact hunmet
  · rw [hhandlers]
    exact h.roster.handlerOrder.sublist (manned_sublist g₀)
  · intro x
    rw [hinterceptors, hhandlers, mem_manned_iff h]
    rfl
  · intro hlegacy
    rw [hhandlers]
    refine List.eq_nil_iff_forall_not_mem.2 fun x hx => ?_
    obtain ⟨hlive, -, hselects, -⟩ := (mem_manned_iff h).1 hx
    have hkind := h.roster.handlerKind x hlive
    have hlegacy : g₀.isLegacy = true := hlegacy
    rw [Content.selects, hlegacy, hkind] at hselects
    cases hselects

/-- A registry with a group, an interceptor that requires something of the host, a handler that requires this
interceptor, and an interceptor that requires what nothing offers. -/
def sampleRegistry : Registry :=
  let filter (c : Contract) : Payload := .shared 1 (.marker (.ofList [c]))
  let select : String × Value := (Key.select, .text "(path=/api)")
  let r := (Registry.empty.upsert .group (.shared 0 .plain)
    (.ofList [(Key.routeGroup, .flag true), (Key.path, .text "/api")])).2
  let r := (r.upsert .interceptor (filter .requestFilter)
    (.ofList [(Key.routeInterceptor, .flag true), select, (Key.requires, .text "(stage=test)"),
      ("scheme", .text "basic")])).2
  let r := (r.upsert .handler (.shared 2 .plain)
    (.ofList [(Key.routeHandler, .flag true), select, (Key.requires, .text "(scheme=basic)")])).2
  (r.upsert .interceptor (filter .writer)
    (.ofList [(Key.routeInterceptor, .flag true), select, (Key.requires, .text "(scheme=digest)")])).2

/-- A dispatcher with this registry and an implicit default group. -/
def sampleDispatcher : Dispatcher :=
  let host : Host.Recording := { memory := { properties := .ofList [("stage", .text "test")] } }
  { Dispatcher.new {} host (.shared 0 .plain) {} with registry := sampleRegistry }

theorem sample_wellFormed : sampleDispatcher.reading.intake.WellFormed where
  roster :=
    { groupKind := by decide +kernel
      handlerKind := by decide +kernel
      interceptorKind := by decide +kernel
      groupOrder := by decide +kernel
      handlerOrder := by decide +kernel
      interceptorOrder := by decide +kernel
      unique := by decide +kernel
      nonzero := by decide +kernel }
  implicit := by
    intro g hg
    exact ⟨"/", .shared 0 .plain, (Option.some.inj hg).symm⟩

/-- There the group is planned with the interceptor and the handler that find what they require. -/
theorem sample_attached_properly : sampleDispatcher.reading.intake.WellFormed ∧
    (∃ g ∈ sampleDispatcher.reading.plan, g.id = 1 ∧ g.attached.map Content.id = [2, 3]) ∧
      ∀ g ∈ sampleDispatcher.reading.plan, sampleDispatcher.reading.ProperlyAttached g :=
  ⟨sample_wellFormed, by decide +kernel, fun g hg => attached_properly sample_wellFormed g hg⟩

end Reading

end RouteBinding
