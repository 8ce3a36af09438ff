import RouteBinding.Conflict.Name
import RouteBinding.Conflict.Path
import Mathlib.Data.List.Nodup

/-!
# Who keeps a claim

Walking claimants in order splits them into those that come first with their claim and those that come late
(`firstClaims_perm`).  The claims of those that come first differ (`nodup_first`) and are all the claims there
are (`exists_first`); and where the order is a strict one, an item comes late exactly if some item that stands
before it has its claim (`mem_late_iff`).  For names this says who loses a declared name
(`mem_duplicates_iff`); for paths, that every group is kept or shadowed, and not both (`mem_shadowed_iff`).
-/

namespace RouteBinding

section FirstClaims

variable {α κ : Type} [BEq κ] [LawfulBEq κ] {claim : α → κ}

omit [LawfulBEq κ] in
/-- Every item comes first or late. -/
theorem firstClaims_perm (l : List α) (taken : List κ) :
    ((firstClaims claim l taken).1 ++ (firstClaims claim l taken).2).Perm l := by
  induction l generalizing taken with
  | nil => exact .refl _
  | cons a rest ih =>
      simp only [firstClaims]
      split
      · exact List.perm_middle.trans ((ih taken).cons a)
      · exact (ih (claim a :: taken)).cons a

omit [LawfulBEq κ] in
/-- The items that come late keep their order. -/
theorem late_sublist (l : List α) (taken : List κ) : (firstClaims claim l taken).2.Sublist l := by
  induction l generalizing taken with
  | nil => exact .slnil
  | cons a rest ih =>
      simp only [firstClaims]
      split
      · exact (ih taken).cons_cons a
      · exact (ih (claim a :: taken)).cons a

omit [LawfulBEq κ] in
/-- Walking commutes with a map that keeps the claims. -/
theorem firstClaims_map {β : Type} {f : α → β} {claim : β → κ} (l : List α) (taken : List κ) :
    firstClaims claim (l.map f) taken =
      ((firstClaims (fun a => claim (f a)) l taken).1.map f,
        (firstClaims (fun a => claim (f a)) l taken).2.map f) := by
  induction l generalizing taken with
  | nil => rfl
  | cons a rest ih =>
      simp only [List.map_cons, firstClaims, ih]
      split <;> rfl

omit [LawfulBEq κ] in
/-- In a list without repeats no item comes first and late. -/
theorem not_mem_late_of_first {l : List α} (nodup : l.Nodup) {taken : List κ} {a : α}
    (ha : a ∈ (firstClaims claim l taken).1) : a ∉ (firstClaims claim l taken).2 := by
  have hsplit : ((firstClaims claim l taken).1 ++ (firstClaims claim l taken).2).Nodup :=
    (firstClaims_perm l taken).nodup_iff.2 nodup
  exact fun hlate => (List.nodup_append.1 hsplit).2.2 a ha a hlate rfl

/-- The items that come first have claims that differ, and that were not taken at the start. -/
theorem nodup_first (l : List α) (taken : List κ) : ((firstClaims claim l taken).1.map claim).Nodup ∧
    ∀ a ∈ (firstClaims claim l taken).1, claim a ∉ taken := by
  induction l generalizing taken with
  | nil => simp [firstClaims]
  | cons x rest ih =>
      simp only [firstClaims]
      split
      · exact ih taken
      · next htaken =>
        obtain ⟨hnodup, hfresh⟩ := ih (claim x :: taken)
        refine ⟨List.nodup_cons.2 ⟨fun hmem => ?_, hnodup⟩, List.forall_mem_cons.2 ⟨?_, fun a ha => ?_⟩⟩
        · obtain ⟨a, ha, heq⟩ := List.mem_map.1 hmem
          exact hfresh a ha (heq ▸ List.mem_cons_self ..)
        · simpa using htaken
        · exact fun hmem => hfresh a ha (List.mem_cons_of_mem _ hmem)

/-- Every claim of the list is that of an item that comes first, unless it was taken at the start. -/
theorem exists_first {l : List α} {a : α} (ha : a ∈ l) (taken : List κ) :
    claim a ∈ taken ∨ ∃ b ∈ (firstClaims claim l taken).1, claim b = claim a := by
  induction l generalizing taken with
  | nil => cases ha
  | cons x rest ih =>
      simp only [firstClaims]
      split
      · next htaken =>
        rcases List.mem_cons.1 ha with rfl | ha
        · exact .inl (by simpa using htaken)
        · exact ih ha taken
      · rcases List.mem_cons.1 ha with rfl | ha
        · exact .inr ⟨a, List.mem_cons_self .., rfl⟩
        · rcases ih ha (claim x :: taken) with htaken | ⟨b, hb, hba⟩
          · rcases List.mem_cons.1 htaken with hax | htaken
            · exact .inr ⟨x, List.mem_cons_self .., hax.symm⟩
            · exact .inl htaken
          · exact .inr ⟨b, List.mem_cons_of_mem _ hb, hba⟩

/-- Where no two items have one claim and none is taken at the start, all items come first. -/
theorem firstClaims_of_nodup {l : List α} (distinct : (l.map claim).Nodup) {taken : List κ}
    (free : ∀ a ∈ l, claim a ∉ taken) : firstClaims claim l taken = (l, []) := by
  induction l generalizing taken with
  | nil => rfl
  | cons x rest ih =>
      obtain ⟨hx, hrest⟩ := List.nodup_cons.1 distinct
      have hfree : ∀ a ∈ rest, claim a ∉ claim x :: taken := by
        intro a ha hmem
        rcases List.mem_cons.1 hmem with hax | htaken
        · exact hx (hax ▸ List.mem_map_of_mem ha)
        · exact free a (List.mem_cons_of_mem _ ha) htaken
      have htaken : ¬taken.contains (claim x) = true := by
        simpa using free x (List.mem_cons_self ..)
      rw [firstClaims, if_neg htaken, ih hrest hfree]

/-- In a list that is in a strict order, an item comes late exactly if its claim was taken at the start or is
that of an item before it. -/
theorem mem_late_iff {R : α → α → Prop} (irrefl : ∀ a, ¬R a a) (asymm : ∀ a b, R a b → ¬R b a)
    {l : List α} (ordered : l.Pairwise R) (taken : List κ) (a : α) :
    a ∈ (firstClaims claim l taken).2 ↔
      a ∈ l ∧ (claim a ∈ taken ∨ ∃ b ∈ l, R b a ∧ claim b = claim a) := by
  induction l generalizing taken with
  | nil => simp [firstClaims]
  | cons x rest ih =>
      have hx : ∀ y ∈ rest, R x y := (List.pairwise_cons.1 ordered).1
      have hrest := (List.pairwise_cons.1 ordered).2
      simp only [firstClaims]
      split
      · next htaken =>
        have htaken : claim x ∈ taken := by simpa using htaken
        simp only [List.mem_cons, ih hrest taken]
        constructor
        · rintro (rfl | ⟨ha, h | ⟨b, hb, hba⟩⟩)
          · exact ⟨.inl rfl, .inl htaken⟩
          · exact ⟨.inr ha, .inl h⟩
          · exact ⟨.inr ha, .inr ⟨b, .inr hb, hba⟩⟩
        · rintro ⟨rfl | ha, h⟩
          · exact .inl rfl
          · refine .inr ⟨ha, ?_⟩
            rcases h with h | ⟨b, rfl | hb, hba⟩
            · exact .inl h
            · exact .inl (hba.2 ▸ htaken)
            · exact .inr ⟨b, hb, hba⟩
      · next htaken =>
        have htaken : claim x ∉ taken := by simpa using htaken
        simp only [List.mem_cons, ih hrest (claim x :: taken)]
        constructor
        · rintro ⟨ha, (h | h) | ⟨b, hb, hba⟩⟩
          · exact ⟨.inr ha, .inr ⟨x, .inl rfl, hx a ha, h.symm⟩⟩
          · exact ⟨.inr ha, .inl h⟩
          · exact ⟨.inr ha, .inr ⟨b, .inr hb, hba⟩⟩
        · -- The head of the list is not late: nothing stands before it.
          rintro ⟨rfl | ha, h | ⟨b, rfl | hb, hba⟩⟩
          · exact absurd h htaken
          · exact absurd hba.1 (irrefl b)
          · exact absurd hba.1 (asymm a b (hx b hb))
          · exact ⟨ha, .inl (.inr h)⟩
          · exact ⟨ha, .inl (.inl hba.2.symm)⟩
          · exact ⟨ha, .inr ⟨b, hb, hba⟩⟩

end FirstClaims

namespace Provider

theorem precedes_iff {p q : Provider} :
    p.precedes q = true ↔ q.rank < p.rank ∨ (p.rank = q.rank ∧ p.id < q.id) := by
  simp [precedes]

theorem precedes_irrefl (p : Provider) : ¬p.precedes p = true := by
  rw [precedes_iff]
  grind

theorem precedes_asymm {p q : Provider} (h : p.precedes q = true) : ¬q.precedes p = true := by
  rw [precedes_iff] at h ⊢
  grind

theorem precedes_trans {p q r : Provider} (hpq : p.precedes q = true) (hqr : q.precedes r = true) :
    p.precedes r = true := by
  rw [precedes_iff] at hpq hqr ⊢
  grind

/-- Of two providers with different identities one precedes the other. -/
theorem precedes_total {p q : Provider} (hid : p.id ≠ q.id) :
    p.precedes q = true ∨ q.precedes p = true := by
  rw [precedes_iff, precedes_iff]
  grind

/-- Of two providers with different identities, the one that may stand before the other precedes it. -/
theorem precedes_of_notAfter {p q : Provider} (hid : p.id ≠ q.id) (h : p.notAfter q = true) :
    p.precedes q = true := by
  simp only [notAfter, Bool.not_eq_true', ← Bool.not_eq_true, precedes_iff] at h ⊢
  grind

theorem notAfter_trans (p q r : Provider) (hpq : p.notAfter q = true) (hqr : q.notAfter r = true) :
    p.notAfter r = true := by
  simp only [notAfter, Bool.not_eq_true', ← Bool.not_eq_true, precedes_iff] at hpq hqr ⊢
  grind

theorem notAfter_total (p q : Provider) : (p.notAfter q || q.notAfter p) = true := by
  simp only [notAfter, Bool.or_eq_true, Bool.not_eq_true', ← Bool.not_eq_true, precedes_iff]
  grind

theorem sameAs_iff {p q : Provider} : p.sameAs q = true ↔ p.id = q.id ∧ p.kind = q.kind := by
  simp [sameAs]

end Provider

namespace Roster

variable {r : Roster}

/-- A provider loses its declared name to one that declares the same name and precedes it. -/
def LosesName (r : Roster) (p : Provider) : Prop :=
  p.generated = false ∧
    ∃ q ∈ r.providers, q.generated = false ∧ q.name = p.name ∧ q.precedes p = true

theorem mem_named {p : Provider} : p ∈ r.named ↔ p ∈ r.providers ∧ p.generated = false := by
  simp [named, Sorted.mem_ofList]

theorem nodup_named (unique : (r.providers.map Provider.id).Nodup) : (r.named.map Provider.id).Nodup := by
  refine ((Sorted.ofList_perm _ _).map _).nodup_iff.2 ?_
  exact unique.sublist (List.filter_sublist.map _)

/-- Where identities are unique, the providers with a declared name stand in strict order of precedence. -/
theorem pairwise_named (unique : (r.providers.map Provider.id).Nodup) :
    r.named.Pairwise fun p q => p.precedes q = true := by
  have hsorted : r.named.Pairwise fun p q => p.notAfter q = true :=
    Sorted.pairwise_ofList Provider.notAfter_trans Provider.notAfter_total _
  have hne : r.named.Pairwise fun p q => p.id ≠ q.id := List.pairwise_map.1 (nodup_named unique)
  exact (hsorted.and hne).imp fun h => Provider.precedes_of_notAfter h.2 h.1

/-- Where identities are unique, the providers that are left out for their name are those that lose it. -/
theorem mem_duplicates_iff (unique : (r.providers.map Provider.id).Nodup) {p : Provider} :
    p ∈ r.duplicates ↔ p ∈ r.providers ∧ r.LosesName p := by
  rw [duplicates, mem_late_iff (R := fun p q => p.precedes q = true) Provider.precedes_irrefl
    (fun _ _ => Provider.precedes_asymm) (pairwise_named unique)]
  simp only [mem_named, List.not_mem_nil, false_or, LosesName]
  constructor
  · rintro ⟨⟨hp, hdecl⟩, q, ⟨hq, hqdecl⟩, hprec, hname⟩
    exact ⟨hp, hdecl, q, hq, hqdecl, hname, hprec⟩
  · rintro ⟨hp, hdecl, q, hq, hqdecl, hname, hprec⟩
    exact ⟨⟨hp, hdecl⟩, q, ⟨hq, hqdecl⟩, hprec, hname⟩

theorem nodup_duplicates (unique : (r.providers.map Provider.id).Nodup) :
    (r.duplicates.map Provider.id).Nodup :=
  (nodup_named unique).sublist ((late_sublist _ _).map _)

end Roster

/-- Every group is kept or shadowed. -/
theorem resolvePaths_perm (groups : List Group) :
    ((resolvePaths groups).1 ++ (resolvePaths groups).2).Perm groups := by
  have hsplit := List.filter_append_perm
    (fun a : Placed => !(shadowedPlaces groups).contains a.2) groups.zipIdx
  simpa [resolvePaths] using hsplit.map Prod.fst

/-- The groups that keep their path keep their order. -/
theorem kept_sublist (groups : List Group) : (resolvePaths groups).1.Sublist groups := by
  simpa [resolvePaths] using (List.filter_sublist (l := groups.zipIdx)
    (p := fun a => !(shadowedPlaces groups).contains a.2)).map Prod.fst

/-- The shadowed groups keep their order. -/
theorem shadowed_sublist (groups : List Group) : (resolvePaths groups).2.Sublist groups := by
  simpa [resolvePaths] using (List.filter_sublist (l := groups.zipIdx)
    (p := fun a => (shadowedPlaces groups).contains a.2)).map Prod.fst

/-- Where identities are unique, a group is shadowed exactly if it is not kept. -/
theorem mem_shadowed_iff {groups : List Group} (unique : (groups.map Group.id).Nodup) {g : Group}
    (hg : g ∈ groups) : g ∈ (resolvePaths groups).2 ↔ g ∉ (resolvePaths groups).1 := by
  have hnodup : ((resolvePaths groups).1 ++ (resolvePaths groups).2).Nodup :=
    (resolvePaths_perm groups).nodup_iff.2 (List.Nodup.of_map _ unique)
  have hmem : g ∈ (resolvePaths groups).1 ++ (resolvePaths groups).2 :=
    (resolvePaths_perm groups).mem_iff.2 hg
  constructor
  · intro hshadowed hkept
    exact (List.nodup_append.1 hnodup).2.2 g hkept g hshadowed rfl
  · intro hkept
    exact (List.mem_append.1 hmem).resolve_left hkept

/-- The order in which paths are given out is one of the groups. -/
theorem map_byPathPrecedence_perm {β : Type} (f : Group → β) (groups : List Group) :
    ((byPathPrecedence groups).map fun a => f a.1).Perm (groups.map f) := by
  have hgroups : (groups.zipIdx.map fun a => f a.1) = groups.map f := by
    rw [← List.zipIdx_map_fst 0 groups, List.map_map]
    simp [Function.comp_def]
  rw [← hgroups]
  exact (Sorted.ofList_perm _ _).map _

/-- The groups that keep their path are those that come first with it. -/
theorem first_perm_kept (groups : List Group) :
    ((firstClaims (fun a : Placed => a.1.path) (byPathPrecedence groups) []).1.map Prod.fst).Perm
      (resolvePaths groups).1 := by
  let placed := groups.zipIdx
  let first := (firstClaims (fun a : Placed => a.1.path) (byPathPrecedence groups) []).1
  let late := (firstClaims (fun a : Placed => a.1.path) (byPathPrecedence groups) []).2
  have hsplit : (first ++ late).Perm placed :=
    (firstClaims_perm _ _).trans (Sorted.ofList_perm _ _)
  have hplaces : ((first ++ late).map Prod.snd).Nodup := by
    rw [(hsplit.map Prod.snd).nodup_iff, List.zipIdx_map_snd]
    exact List.nodup_range'
  rw [List.map_append, List.nodup_append] at hplaces
  -- The places of the others are lost, and no place is listed twice.
  have hfirst : first.filter (fun a => !(shadowedPlaces groups).contains a.2) = first := by
    refine List.filter_eq_self.2 fun a ha => ?_
    simp only [Bool.not_eq_true', List.contains_eq_mem, decide_eq_false_iff_not]
    exact fun hlost => hplaces.2.2 _ (List.mem_map_of_mem ha) _ hlost rfl
  have hlate : late.filter (fun a => !(shadowedPlaces groups).contains a.2) = [] := by
    refine List.filter_eq_nil_iff.2 fun a ha => ?_
    have hlost : a.2 ∈ shadowedPlaces groups := List.mem_map_of_mem ha
    simpa using hlost
  have hkept := hsplit.filter fun a => !(shadowedPlaces groups).contains a.2
  rw [List.filter_append, hfirst, hlate, List.append_nil] at hkept
  exact hkept.map Prod.fst

/-- No two groups keep one path. -/
theorem nodup_kept_paths (groups : List Group) : ((resolvePaths groups).1.map Group.path).Nodup := by
  rw [← ((first_perm_kept groups).map Group.path).nodup_iff, List.map_map]
  exact (nodup_first _ _).1

/-- Every path of a group is kept by some group. -/
theorem exists_kept_path {groups : List Group} {g : Group} (hg : g ∈ groups) :
    ∃ k ∈ (resolvePaths groups).1, k.path = g.path := by
  obtain ⟨i, hi⟩ := List.mem_iff_getElem?.1 hg
  have hplaced : (g, i) ∈ byPathPrecedence groups :=
    (Sorted.mem_ofList _).2 (List.mk_mem_zipIdx_iff_getElem?.2 hi)
  obtain ⟨b, hb, hpath⟩ : ∃ b ∈ (firstClaims (fun a : Placed => a.1.path) (byPathPrecedence groups) []).1,
      b.1.path = g.path := (exists_first hplaced []).resolve_left List.not_mem_nil
  exact ⟨b.1, (first_perm_kept groups).subset (List.mem_map_of_mem hb), hpath⟩

/-- Where no two groups have one path, all keep it. -/
theorem resolvePaths_of_nodup {groups : List Group} (distinct : (groups.map Group.path).Nodup) :
    resolvePaths groups = (groups, []) := by
  have hpaths : ((byPathPrecedence groups).map fun a => a.1.path).Nodup :=
    (map_byPathPrecedence_perm Group.path groups).nodup_iff.2 distinct
  have hplaces : shadowedPlaces groups = [] := by
    rw [shadowedPlaces, firstClaims_of_nodup hpaths fun _ _ => List.not_mem_nil]
    rfl
  simp [resolvePaths, hplaces]

end RouteBinding
