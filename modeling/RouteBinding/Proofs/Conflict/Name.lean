import RouteBinding.Proofs.Pass.Roster

/-!
# Names are awarded

Where identities are unique, a declared name is kept by the one provider, of whatever kind, that precedes all
others that declare it (`Roster.HoldsName`); generated names are kept by all.  The providers that lose their
name are returned in the order of precedence, the others stay in the order of their lists, and among these
nothing is in dispute (`Roster.resolveNames_awarded`).
-/

namespace RouteBinding.Roster

/-- A provider has its name: it is generated, or the provider precedes all others that declare it. -/
def HoldsName (r : Roster) (p : Provider) : Prop :=
  p.generated = true ∨
    ∀ q ∈ r.providers, q.generated = false → q.name = p.name → q ≠ p → p.precedes q = true

/-- Two rosters list the same providers of each kind, in whatever order. -/
structure Reordered (r s : Roster) : Prop where
  groups : r.groups.Perm s.groups
  handlers : r.handlers.Perm s.handlers
  interceptors : r.interceptors.Perm s.interceptors

/-- A roster is split by names into a roster of the providers that have their name and a list of the others. -/
structure NamesAwarded (r kept : Roster) (lost : List Provider) : Prop where
  /-- What is kept stays in its order. -/
  within : kept.Within r
  groups : ∀ g ∈ r.groups, g ∈ kept.groups ↔ r.HoldsName g.provider
  handlers : ∀ c ∈ r.handlers, c ∈ kept.handlers ↔ r.HoldsName c.provider
  interceptors : ∀ c ∈ r.interceptors, c ∈ kept.interceptors ↔ r.HoldsName c.provider
  /-- Of the providers that declare a name exactly one is kept. -/
  sole : ∀ p ∈ r.providers, p.generated = false →
    ∃! q, q ∈ kept.providers ∧ q.generated = false ∧ q.name = p.name
  /-- Every provider is kept or lost, and not both. -/
  split : (kept.providers ++ lost).Perm r.providers
  /-- The providers that are lost are listed in the order of precedence. -/
  lostOrder : lost.Pairwise fun p q => p.precedes q = true
  /-- In other orders the same providers are kept. -/
  anyOrder : ∀ s : Roster, s.Reordered r → s.resolveNames.1.Reordered kept
  /-- The providers that are kept keep their name once more. -/
  settled : kept.resolveNames = (kept, [])

variable {r s : Roster} {p q : Provider}

theorem Reordered.providers (h : r.Reordered s) : r.providers.Perm s.providers :=
  ((h.groups.map _).append (h.handlers.map _)).append (h.interceptors.map _)

theorem Reordered.losesName_iff (h : r.Reordered s) : r.LosesName p ↔ s.LosesName p := by
  simp only [LosesName, h.providers.mem_iff]

/-- Two providers that have one declared name are one. -/
theorem eq_of_holdsName (hp : p ∈ r.providers) (hq : q ∈ r.providers) (hpheld : r.HoldsName p)
    (hqheld : r.HoldsName q) (hpdeclared : p.generated = false) (hqdeclared : q.generated = false)
    (hname : p.name = q.name) : p = q := by
  have hpfirst := hpheld.resolve_left (by simp [hpdeclared])
  have hqfirst := hqheld.resolve_left (by simp [hqdeclared])
  by_contra hne
  exact Provider.precedes_asymm (hpfirst q hq hqdeclared hname.symm (Ne.symm hne))
    (hqfirst p hp hpdeclared hname hne)

section Unique

variable (unique : (r.providers.map Provider.id).Nodup)
include unique

/-- A provider has its name exactly if it does not lose it. -/
theorem holdsName_iff (hp : p ∈ r.providers) : r.HoldsName p ↔ ¬r.LosesName p := by
  constructor
  · rintro (hgenerated | hfirst) ⟨hdeclared, q, hq, hqdeclared, hname, hprecedes⟩
    · rw [hgenerated] at hdeclared
      cases hdeclared
    · have hne : q ≠ p := fun heq => p.precedes_irrefl (heq ▸ hprecedes)
      exact Provider.precedes_asymm hprecedes (hfirst q hq hqdeclared hname hne)
  · intro hkeeps
    cases hdeclared : p.generated with
    | true => exact .inl hdeclared
    | false =>
        refine .inr fun q hq hqdeclared hname hne => ?_
        have hid : p.id ≠ q.id := fun hid => hne (eq_of_id unique hp hq hid).symm
        refine (Provider.precedes_total hid).resolve_right fun hprecedes => ?_
        exact hkeeps ⟨hdeclared, q, hq, hqdeclared, hname, hprecedes⟩

theorem keeps_iff_holdsName (hp : p ∈ r.providers) :
    (!r.duplicates.any p.sameAs) = true ↔ r.HoldsName p :=
  (keeps_iff unique hp).trans (holdsName_iff unique hp).symm

/-- The providers that are kept are those that have their name. -/
theorem mem_kept_providers : p ∈ (r.without r.duplicates).providers ↔ p ∈ r.providers ∧ r.HoldsName p := by
  rw [mem_without_providers]
  exact and_congr_right (keeps_iff_holdsName unique)

/-- A declared name is held by some provider. -/
theorem exists_holder (hp : p ∈ r.providers) (hdeclared : p.generated = false) :
    ∃ q ∈ r.providers, r.HoldsName q ∧ q.generated = false ∧ q.name = p.name := by
  have hnodup : r.named.Nodup := List.Nodup.of_map _ (nodup_named unique)
  obtain ⟨q, hq, hname⟩ : ∃ q ∈ (firstClaims Provider.name r.named []).1, q.name = p.name :=
    (exists_first (mem_named.2 ⟨hp, hdeclared⟩) []).resolve_left List.not_mem_nil
  have hnamed : q ∈ r.named := (firstClaims_perm _ _).subset (List.mem_append_left _ hq)
  obtain ⟨hqr, hqdeclared⟩ := mem_named.1 hnamed
  -- The first provider with the name is not among the late ones, so it does not lose it.
  have hkeeps : ¬r.LosesName q := fun hloses =>
    not_mem_late_of_first hnodup hq ((mem_duplicates_iff unique).2 ⟨hqr, hloses⟩)
  exact ⟨q, hqr, (holdsName_iff unique hqr).2 hkeeps, hqdeclared, hname⟩

/-- The providers that are not kept are those that are returned. -/
theorem lost_perm : (r.providers.filter fun p => !!r.duplicates.any p.sameAs).Perm r.duplicates := by
  have hnodup : r.providers.Nodup := List.Nodup.of_map _ unique
  rw [List.perm_ext_iff_of_nodup (hnodup.filter _) (List.Nodup.of_map _ (nodup_duplicates unique))]
  intro p
  rw [List.mem_filter, mem_duplicates_iff unique]
  refine and_congr_right fun hp => ?_
  rw [Bool.not_eq_true', ← Bool.not_eq_true, keeps_iff unique hp, not_not]

/-- A roster in which no declared name occurs twice keeps all its providers. -/
theorem resolveNames_of_distinct
    (distinct : ∀ p ∈ r.providers, ∀ q ∈ r.providers, p.generated = false → q.generated = false →
      p.name = q.name → p = q) : r.resolveNames = (r, []) := by
  have hnames : (r.named.map Provider.name).Nodup := by
    refine List.Nodup.map_on (fun p hp q hq hname => ?_) ?_
    · obtain ⟨hp, hpdeclared⟩ := mem_named.1 hp
      obtain ⟨hq, hqdeclared⟩ := mem_named.1 hq
      exact distinct p hp q hq hpdeclared hqdeclared hname
    · exact List.Nodup.of_map _ (nodup_named unique)
  have hnone : r.duplicates = [] := by
    rw [duplicates, firstClaims_of_nodup hnames fun _ _ => List.not_mem_nil]
  simp [resolveNames, without, hnone]

/-- In other orders the same providers are kept. -/
theorem resolveNames_reordered (h : s.Reordered r) : s.resolveNames.1.Reordered r.resolveNames.1 := by
  have hperm := h.providers
  have uniques : (s.providers.map Provider.id).Nodup := (hperm.map _).nodup_iff.2 unique
  have hkeeps : ∀ p ∈ s.providers, (!s.duplicates.any p.sameAs) = (!r.duplicates.any p.sameAs) := by
    intro p hp
    rw [Bool.eq_iff_iff, keeps_iff uniques hp, keeps_iff unique (hperm.subset hp), h.losesName_iff]
  refine ⟨?_, ?_, ?_⟩
  · refine .trans (.of_eq (List.filter_congr fun g hg => ?_)) (h.groups.filter _)
    exact hkeeps _ (group_mem_providers hg)
  · refine .trans (.of_eq (List.filter_congr fun c hc => ?_)) (h.handlers.filter _)
    exact hkeeps _ (content_mem_providers (k := .handler) hc)
  · refine .trans (.of_eq (List.filter_congr fun c hc => ?_)) (h.interceptors.filter _)
    exact hkeeps _ (content_mem_providers (k := .interceptor) hc)

/-- Where identities are unique, every declared name goes to the provider that precedes all others that declare
it, across the kinds. -/
theorem resolveNames_awarded : r.NamesAwarded r.resolveNames.1 r.resolveNames.2 where
  within := without_within r _
  groups g hg := by
    rw [← keeps_iff_holdsName unique (group_mem_providers hg)]
    exact List.mem_filter.trans (and_iff_right hg)
  handlers c hc := by
    rw [← keeps_iff_holdsName unique (content_mem_providers (k := .handler) hc)]
    exact List.mem_filter.trans (and_iff_right hc)
  interceptors c hc := by
    rw [← keeps_iff_holdsName unique (content_mem_providers (k := .interceptor) hc)]
    exact List.mem_filter.trans (and_iff_right hc)
  sole p hp hdeclared := by
    obtain ⟨q, hq, hheld, hqdeclared, hname⟩ := exists_holder unique hp hdeclared
    refine ⟨q, ⟨(mem_kept_providers unique).2 ⟨hq, hheld⟩, hqdeclared, hname⟩, ?_⟩
    rintro q' ⟨hkept, hdeclared', hname'⟩
    obtain ⟨hq', hheld'⟩ := (mem_kept_providers unique).1 hkept
    exact eq_of_holdsName hq' hq hheld' hheld hdeclared' hqdeclared (hname'.trans hname.symm)
  split := by
    have hkept : r.resolveNames.1.providers = r.providers.filter fun p => !r.duplicates.any p.sameAs :=
      without_providers r _
    rw [hkept]
    exact ((lost_perm unique).symm.append_left _).trans (List.filter_append_perm _ _)
  lostOrder := (pairwise_named unique).sublist (late_sublist _ _)
  anyOrder _ h := resolveNames_reordered unique h
  settled := by
    refine resolveNames_of_distinct ((without_within r _).unique unique) ?_
    intro p hp q hq hpdeclared hqdeclared hname
    obtain ⟨hp, hpheld⟩ := (mem_kept_providers unique).1 hp
    obtain ⟨hq, hqheld⟩ := (mem_kept_providers unique).1 hq
    exact eq_of_holdsName hp hq hpheld hqheld hpdeclared hqdeclared hname

end Unique

/-- Two names that providers of different kinds declare, one of them in a tie of rank, and generated names. -/
def rivals : Roster :=
  let props (kind : Kind) (more : List (String × Property.Value)) : Property.Map :=
    .ofList ((kind.discriminator, .flag true) :: more)
  let group (id : ServiceId) (more : List (String × Property.Value)) : Group :=
    .ofProperties id 0 (.shared 1 .plain) (props .group ((Property.Key.path, .text "/a") :: more))
  let content (kind : Kind) (id : ServiceId) (more : List (String × Property.Value)) : Content :=
    .ofProperties kind id 0 (.shared 1 .plain) (props kind more)
  let named (name : String) (rank : Int64) : List (String × Property.Value) :=
    [(Property.Key.name, .text name), (Property.Key.rank, .number rank)]
  { groups := [group 4 (named "api" 1), group 1 (named "log" 0), group 7 []]
    handlers := [content .handler 6 (named "api" 1), content .handler 3 (named "api" 2), content .handler 8 []]
    interceptors := [content .interceptor 5 (named "log" 3), content .interceptor 2 (named "api" 2)] }

theorem rivals_awarded : (rivals.providers.map Provider.id).Nodup ∧
    rivals.resolveNames.1.providers.map Provider.id = [7, 8, 5, 2] ∧
    rivals.resolveNames.2.map Provider.id = [3, 4, 6, 1] ∧
    rivals.NamesAwarded rivals.resolveNames.1 rivals.resolveNames.2 :=
  ⟨by decide +kernel, by decide +kernel, by decide +kernel, resolveNames_awarded (by decide +kernel)⟩

end RouteBinding.Roster
