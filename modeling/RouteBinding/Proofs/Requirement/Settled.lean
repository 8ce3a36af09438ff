import RouteBinding.Requirement
import Mathlib.Data.List.Nodup

/-!
# Interceptors that stay

Detaching goes on in rounds, each of which leaves the interceptors whose requirements are met
(`withoutIds_failing`), until these are all that are left (`requirementsMet_of_mem_settle`).  What is detached in
some round lacks a requirement among the interceptors of that round, and so also among the fewer ones that stay
(`not_requirementsMet_of_detached`).
-/

namespace RouteBinding

open Property

variable {host : Map} {g : Group}

theorem requirementMet_iff {l : List Content} {requester : ServiceId} {f : Filter} :
    requirementMet host g l requester f = true ↔
      (∃ y ∈ l, y.id ≠ requester ∧ f.accepts y.provider.properties = true) ∨
        f.accepts g.selection = true ∨ f.accepts host = true := by
  simp [requirementMet, or_assoc]

theorem requirementsMet_iff {l : List Content} {p : Provider} :
    requirementsMet host g l p = true ↔ ∀ f ∈ p.requires, requirementMet host g l p.id f = true := by
  simp [requirementsMet]

theorem requirementMet_mono {l m : List Content} (hsub : l ⊆ m) {requester : ServiceId} {f : Filter}
    (h : requirementMet host g l requester f = true) : requirementMet host g m requester f = true := by
  rw [requirementMet_iff] at h ⊢
  refine h.imp_left ?_
  rintro ⟨y, hy, hmet⟩
  exact ⟨y, hsub hy, hmet⟩

theorem requirementsMet_mono {l m : List Content} (hsub : l ⊆ m) {p : Provider}
    (h : requirementsMet host g l p = true) : requirementsMet host g m p = true := by
  rw [requirementsMet_iff] at h ⊢
  intro f hf
  exact requirementMet_mono hsub (h f hf)

/-- The interceptors that stay keep their order. -/
theorem settle_sublist (l : List Content) : (settle host g l).1.Sublist l := by
  fun_induction settle host g l with
  | case1 l h => exact .refl l
  | case2 l h ids kept detached hsettle ih =>
      rw [hsettle] at ih
      exact ih.trans List.filter_sublist

/-- No interceptor that stays lacks a requirement. -/
theorem requirementsMet_of_mem_settle {l : List Content} {x : Content}
    (hx : x ∈ (settle host g l).1) :
    requirementsMet host g (settle host g l).1 x.provider = true := by
  have hstable : failing host g (settle host g l).1 = [] := by
    fun_induction settle host g l with
    | case1 l h => exact h
    | case2 l h ids kept detached hsettle ih =>
        rw [hsettle] at ih
        exact ih hx
  simpa using (List.filter_eq_nil_iff.1 hstable) x hx

/-- Where identities are unique, a round leaves the interceptors whose requirements are met. -/
theorem withoutIds_failing {l : List Content} (unique : (l.map Content.id).Nodup) :
    withoutIds ((failing host g l).map Content.id) l =
      l.filter fun x => requirementsMet host g l x.provider := by
  refine List.filter_congr fun x hx => ?_
  have hfailing : x.id ∈ (failing host g l).map Content.id ↔ x ∈ failing host g l := by
    refine ⟨fun hid => ?_, List.mem_map_of_mem⟩
    obtain ⟨y, hy, hyx⟩ := List.mem_map.1 hid
    obtain rfl : y = x := List.inj_on_of_nodup_map unique (List.mem_filter.1 hy).1 hx hyx
    exact hy
  have hunmet : x ∈ failing host g l ↔ ¬requirementsMet host g l x.provider = true := by
    simp [failing, hx]
  rw [Bool.eq_iff_iff, List.contains_eq_mem, Bool.not_eq_true', decide_eq_false_iff_not, hfailing, hunmet,
    not_not]

theorem nodup_withoutIds {l : List Content} (unique : (l.map Content.id).Nodup) (ids : List ServiceId) :
    ((withoutIds ids l).map Content.id).Nodup :=
  unique.sublist (List.filter_sublist.map _)

/-- An interceptor that is detached has a requirement that those that stay do not meet. -/
theorem not_requirementsMet_of_detached {l : List Content} (unique : (l.map Content.id).Nodup)
    {x : Content} (hx : x ∈ l) (hdetached : x ∉ (settle host g l).1) :
    ¬requirementsMet host g (settle host g l).1 x.provider = true := by
  fun_induction settle host g l with
  | case1 l h => exact absurd hx hdetached
  | case2 l h ids kept detached hsettle ih =>
      have hkept : (settle host g (withoutIds ids l)).1.Sublist l :=
        (settle_sublist _).trans List.filter_sublist
      rw [hsettle] at ih hkept
      by_cases hround : requirementsMet host g l x.provider = true
      · -- It survives this round, so it is detached in a later one.
        refine ih (nodup_withoutIds unique ids) ?_ hdetached
        rw [withoutIds_failing unique]
        exact List.mem_filter.2 ⟨hx, hround⟩
      · -- What it lacks among all it lacks among the fewer that stay.
        exact fun hmet => hround (requirementsMet_mono hkept.subset hmet)

end RouteBinding
