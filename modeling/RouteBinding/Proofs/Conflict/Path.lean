import RouteBinding.Proofs.Conflict.Claim

/-!
# Who keeps a path

Where identities are unique, the order in which paths are given out is a strict one
(`pairwise_byPathPrecedence`): registered groups stand in it by precedence, and the implicit default group
behind them.  So a group keeps its path exactly if no group with this path outranks it (`mem_kept_iff`).
-/

namespace RouteBinding

/-- Whether a group has the better claim on a path that both have: a registered group against the implicit
default group, else the one that precedes the other. -/
def Group.Outranks (g h : Group) : Prop :=
  if g.isImplicit = h.isImplicit then g.provider.precedes h.provider = true else h.isImplicit = true

namespace Group

variable {g h : Group}

theorem outranks_irrefl (g : Group) : ¬g.Outranks g := by
  unfold Outranks
  rw [if_pos rfl]
  exact Provider.precedes_irrefl _

theorem outranks_asymm (hgh : g.Outranks h) : ¬h.Outranks g := by
  unfold Outranks at hgh ⊢
  by_cases hsame : g.isImplicit = h.isImplicit
  · rw [if_pos hsame] at hgh
    rw [if_pos hsame.symm]
    exact Provider.precedes_asymm hgh
  · rw [if_neg hsame] at hgh
    rw [if_neg (Ne.symm hsame)]
    exact fun himplicit => hsame (himplicit.trans hgh.symm)

theorem outranks_trans {k : Group} (hgh : g.Outranks h) (hhk : h.Outranks k) : g.Outranks k := by
  unfold Outranks at hgh hhk ⊢
  by_cases hfirst : g.isImplicit = h.isImplicit
  · rw [if_pos hfirst] at hgh
    rw [hfirst]
    by_cases hsecond : h.isImplicit = k.isImplicit
    · rw [if_pos hsecond] at hhk ⊢
      exact Provider.precedes_trans hgh hhk
    · rwa [if_neg hsecond] at hhk ⊢
  · -- The implicit default group outranks nothing, so the second step is between implicit groups.
    rw [if_neg hfirst] at hgh
    by_cases hsecond : h.isImplicit = k.isImplicit
    · rw [← hsecond, if_neg hfirst]
      exact hgh
    · rw [if_neg hsecond] at hhk
      exact absurd (hgh.trans hhk.symm) hsecond

/-- Of two groups with different identities one outranks the other. -/
theorem outranks_total (hid : g.id ≠ h.id) : g.Outranks h ∨ h.Outranks g := by
  unfold Outranks
  by_cases hsame : g.isImplicit = h.isImplicit
  · rw [if_pos hsame, if_pos hsame.symm]
    exact Provider.precedes_total hid
  · rw [if_neg hsame, if_neg (Ne.symm hsame)]
    cases hg : g.isImplicit <;> cases hh : h.isImplicit <;> simp_all

/-- A registered group is outranked by the registered groups that precede it, and by no other. -/
theorem outranks_registered_iff (hh : h.isImplicit = false) :
    g.Outranks h ↔ g.isImplicit = false ∧ g.provider.precedes h.provider = true := by
  unfold Outranks
  rw [hh]
  split <;> simp_all

/-- The implicit default group is outranked by every registered group. -/
theorem outranks_implicit (hg : g.isImplicit = false) (hh : h.isImplicit = true) : g.Outranks h := by
  unfold Outranks
  rw [if_neg (by simp [hg, hh])]
  exact hh

end Group

namespace Placed

theorem notAfter_trans (a b c : Placed) (hab : a.notAfter b = true) (hbc : b.notAfter c = true) :
    a.notAfter c = true := by
  have htrans := Provider.notAfter_trans a.1.provider b.1.provider c.1.provider
  simp only [notAfter] at hab hbc ⊢
  cases ha : a.1.isImplicit <;> cases hb : b.1.isImplicit <;> cases hc : c.1.isImplicit <;> simp_all

theorem notAfter_total (a b : Placed) : (a.notAfter b || b.notAfter a) = true := by
  have htotal := Provider.notAfter_total a.1.provider b.1.provider
  simp only [notAfter]
  cases ha : a.1.isImplicit <;> cases hb : b.1.isImplicit <;> simp_all

/-- Of two groups with different identities one outranks the other. -/
theorem outranks_of_notAfter {a b : Placed} (hid : a.1.id ≠ b.1.id) (h : a.notAfter b = true) :
    a.1.Outranks b.1 := by
  unfold notAfter at h
  unfold Group.Outranks
  by_cases hsame : a.1.isImplicit = b.1.isImplicit
  · rw [if_pos (beq_iff_eq.2 hsame)] at h
    rw [if_pos hsame]
    exact Provider.precedes_of_notAfter hid h
  · rw [if_neg (by simpa using hsame)] at h
    rwa [if_neg hsame]

end Placed

section Paths

variable {groups : List Group} {g : Group}

theorem mem_byPathPrecedence {a : Placed} : a ∈ byPathPrecedence groups ↔ a ∈ groups.zipIdx :=
  Sorted.mem_ofList _

/-- Where identities are unique, paths are given out in a strict order. -/
theorem pairwise_byPathPrecedence (unique : (groups.map Group.id).Nodup) :
    (byPathPrecedence groups).Pairwise fun a b => a.1.Outranks b.1 := by
  have hsorted : (byPathPrecedence groups).Pairwise fun a b => a.notAfter b = true :=
    Sorted.pairwise_ofList Placed.notAfter_trans Placed.notAfter_total _
  have hids : ((byPathPrecedence groups).map fun a => a.1.id).Nodup :=
    (map_byPathPrecedence_perm Group.id groups).nodup_iff.2 unique
  exact (hsorted.and (List.pairwise_map.1 hids)).imp fun h => Placed.outranks_of_notAfter h.2 h.1

/-- A place is that of a group that comes late with its path exactly if an outranking group has the path. -/
theorem mem_shadowedPlaces_iff (unique : (groups.map Group.id).Nodup) {a : Placed} (ha : a ∈ groups.zipIdx) :
    a.2 ∈ shadowedPlaces groups ↔ ∃ g ∈ groups, g.Outranks a.1 ∧ g.path = a.1.path := by
  have hlate : ∀ b, b ∈ (firstClaims (fun c : Placed => c.1.path) (byPathPrecedence groups) []).2 ↔
      b ∈ byPathPrecedence groups ∧
        (b.1.path ∈ [] ∨ ∃ c ∈ byPathPrecedence groups, c.1.Outranks b.1 ∧ c.1.path = b.1.path) :=
    mem_late_iff (fun c => c.1.outranks_irrefl) (fun _ _ => Group.outranks_asymm)
      (pairwise_byPathPrecedence unique) []
  simp only [List.not_mem_nil, false_or, mem_byPathPrecedence] at hlate
  rw [shadowedPlaces, List.mem_map]
  constructor
  · rintro ⟨b, hb, hplace⟩
    obtain ⟨hmem, c, hc, hranks, hpath⟩ := (hlate b).1 hb
    -- A place belongs to one group.
    have hsame : b.1 = a.1 := by
      have hb := List.mk_mem_zipIdx_iff_getElem?.1 hmem
      have ha := List.mk_mem_zipIdx_iff_getElem?.1 ha
      rw [hplace, ha] at hb
      exact (Option.some.inj hb).symm
    rw [← hsame]
    exact ⟨c.1, List.fst_mem_of_mem_zipIdx hc, hranks, hpath⟩
  · rintro ⟨g, hg, hranks, hpath⟩
    obtain ⟨i, hi⟩ := List.mem_iff_getElem?.1 hg
    refine ⟨a, (hlate a).2 ⟨ha, (g, i), ?_, hranks, hpath⟩, rfl⟩
    exact List.mk_mem_zipIdx_iff_getElem?.2 hi

/-- Where identities are unique, a group keeps its path exactly if no group with this path outranks it. -/
theorem mem_kept_iff (unique : (groups.map Group.id).Nodup) :
    g ∈ (resolvePaths groups).1 ↔ g ∈ groups ∧ ∀ g' ∈ groups, g'.path = g.path → ¬g'.Outranks g := by
  simp only [resolvePaths, List.mem_map, List.mem_filter, Bool.not_eq_true', List.contains_eq_mem,
    decide_eq_false_iff_not]
  constructor
  · rintro ⟨a, ⟨ha, hkept⟩, rfl⟩
    refine ⟨List.fst_mem_of_mem_zipIdx ha, fun g' hg' hpath hranks => hkept ?_⟩
    exact (mem_shadowedPlaces_iff unique ha).2 ⟨g', hg', hranks, hpath⟩
  · rintro ⟨hg, hkept⟩
    obtain ⟨i, hi⟩ := List.mem_iff_getElem?.1 hg
    have ha : (g, i) ∈ groups.zipIdx := List.mk_mem_zipIdx_iff_getElem?.2 hi
    refine ⟨(g, i), ⟨ha, fun hlost => ?_⟩, rfl⟩
    obtain ⟨g', hg', hranks, hpath⟩ := (mem_shadowedPlaces_iff unique ha).1 hlost
    exact hkept g' hg' hpath hranks

end Paths

end RouteBinding
