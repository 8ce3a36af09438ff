import RouteBinding.Proofs.Pass.Plan

/-!
# What is found out about one provider

A pass reports failures stage by stage, where each stage looks at every item of a list once.  The failures
about one identity are then those that the stages report for the one item that has it
(`Finding.about_flatMap`, `Finding.about_map`).
-/

namespace RouteBinding

/-- The failure of a provider that is left out for a reason. -/
def Provider.failed (p : Provider) (reason : Reason) : FailedProvider :=
  ⟨p.id, p.name, p.kind, reason⟩

namespace Finding

/-- The failures among findings that are about an identity. -/
def about (id : ServiceId) (l : List Finding) : List FailedProvider :=
  (l.filterMap failure?).filter fun f => f.id == id

theorem about_append (id : ServiceId) (l m : List Finding) :
    about id (l ++ m) = about id l ++ about id m := by
  unfold about
  rw [List.filterMap_append, List.filter_append]

theorem about_eq_nil {id : ServiceId} {l : List Finding}
    (h : ∀ f ∈ l.filterMap failure?, f.id ≠ id) : about id l = [] := by
  refine List.filter_eq_nil_iff.2 fun f hf => ?_
  rw [beq_iff_eq]
  exact h f hf

theorem about_eq_self {id : ServiceId} {l : List Finding}
    (h : ∀ f ∈ l.filterMap failure?, f.id = id) : about id l = l.filterMap failure? := by
  refine List.filter_eq_self.2 fun f hf => ?_
  rw [beq_iff_eq]
  exact h f hf

section Stage

variable {α : Type} {k : α → ServiceId} {stage : α → List Finding}

/-- A stage reports nothing about an identity that no item has. -/
theorem about_flatMap_absent (own : ∀ x, ∀ f ∈ (stage x).filterMap failure?, f.id = k x)
    {id : ServiceId} {l : List α} (absent : ∀ x ∈ l, k x ≠ id) : about id (l.flatMap stage) = [] := by
  refine about_eq_nil fun f hf => ?_
  rw [List.filterMap_flatMap, List.mem_flatMap] at hf
  obtain ⟨x, hx, hf⟩ := hf
  rw [own x f hf]
  exact absent x hx

/-- About the identity of an item a stage reports what it finds out about this item. -/
theorem about_flatMap_present (own : ∀ x, ∀ f ∈ (stage x).filterMap failure?, f.id = k x)
    {l : List α} (nodup : (l.map k).Nodup) {x : α} (hx : x ∈ l) :
    about (k x) (l.flatMap stage) = (stage x).filterMap failure? := by
  induction l with
  | nil => cases hx
  | cons y rest ih =>
      rw [List.map_cons, List.nodup_cons, List.mem_map] at nodup
      rw [List.flatMap_cons, about_append]
      rcases List.mem_cons.1 hx with rfl | hx
      · have hrest : about (k x) (rest.flatMap stage) = [] :=
          about_flatMap_absent own fun z hz hkey => nodup.1 ⟨z, hz, hkey⟩
        rw [about_eq_self (own x), hrest, List.append_nil]
      · have hhead : about (k x) (stage y) = [] := by
          refine about_eq_nil fun f hf hid => nodup.1 ⟨x, hx, ?_⟩
          rw [← hid, own y f hf]
        rw [hhead, List.nil_append, ih nodup.2 hx]

/-- About the identity of an item that may or may not be in the list a stage reports what it finds out about
this item, or nothing. -/
theorem about_flatMap [DecidableEq α] (own : ∀ x, ∀ f ∈ (stage x).filterMap failure?, f.id = k x)
    {l : List α} (nodup : (l.map k).Nodup) {x : α} (only : ∀ y ∈ l, k y = k x → y = x) :
    about (k x) (l.flatMap stage) = if x ∈ l then (stage x).filterMap failure? else [] := by
  by_cases hx : x ∈ l
  · rw [if_pos hx, about_flatMap_present own nodup hx]
  · rw [if_neg hx]
    refine about_flatMap_absent own fun y hy hkey => hx ?_
    rwa [← only y hy hkey]

/-- The case in which each item has one finding. -/
theorem about_map [DecidableEq α] {finding : α → Finding}
    (own : ∀ x, ∀ f ∈ (finding x).failure?, f.id = k x) {l : List α} (nodup : (l.map k).Nodup) {x : α}
    (only : ∀ y ∈ l, k y = k x → y = x) :
    about (k x) (l.map finding) = if x ∈ l then (finding x).failure?.toList else [] := by
  have hsingle : ∀ y, [finding y].filterMap failure? = (finding y).failure?.toList := by
    intro y
    cases h : (finding y).failure? <;> simp [h]
  rw [List.map_eq_flatMap, about_flatMap _ nodup only, hsingle]
  intro y f hf
  rw [hsingle, Option.mem_toList] at hf
  exact own y f hf

/-- A map stage reports nothing about an identity that no item has. -/
theorem about_map_absent {finding : α → Finding} (own : ∀ x, ∀ f ∈ (finding x).failure?, f.id = k x)
    {id : ServiceId} {l : List α} (absent : ∀ x ∈ l, k x ≠ id) : about id (l.map finding) = [] := by
  refine about_eq_nil fun f hf => ?_
  rw [List.mem_filterMap] at hf
  obtain ⟨y, hy, hf⟩ := hf
  obtain ⟨x, hx, rfl⟩ := List.mem_map.1 hy
  rw [own x f hf]
  exact absent x hx

end Stage

theorem failure?_excluded (p : Provider) (reason : Reason) :
    (excluded p reason).failure? = some (p.failed reason) := rfl

theorem excluded_id {p : Provider} {reason : Reason} {f : FailedProvider}
    (hf : f ∈ (excluded p reason).failure?) : f.id = p.id := by
  rw [Option.mem_def, failure?_excluded, Option.some.injEq] at hf
  rw [← hf]
  rfl

end Finding

/-- The failures about one identity in a snapshot are those that were found. -/
theorem Snapshot.toList_ofFailures_perm (l : List FailedProvider) :
    (Snapshot.ofFailures l).toList.Perm l := by
  have hgroups := Sorted.ofList_perm (fun a b : FailedProvider => decide (a.id ≤ b.id))
    (l.filter fun f => f.kind == .group)
  have hhandlers := Sorted.ofList_perm (fun a b : FailedProvider => decide (a.id ≤ b.id))
    (l.filter fun f => f.kind == .handler)
  have hinterceptors := Sorted.ofList_perm (fun a b : FailedProvider => decide (a.id ≤ b.id))
    (l.filter fun f => f.kind == .interceptor)
  refine ((hgroups.append hhandlers).append hinterceptors).trans ?_
  -- Every failure is of one of the three kinds, and of no other.
  induction l with
  | nil => exact .refl _
  | cons f rest ih =>
      have ih := ih (Sorted.ofList_perm _ _) (Sorted.ofList_perm _ _) (Sorted.ofList_perm _ _)
      cases hkind : f.kind with
      | group =>
          simp only [List.filter_cons, hkind]
          exact ih.cons f
      | handler =>
          simp only [List.filter_cons, hkind]
          exact (List.perm_middle.append_right _).trans (ih.cons f)
      | interceptor =>
          simp only [List.filter_cons, hkind]
          exact List.perm_middle.trans (ih.cons f)

end RouteBinding
