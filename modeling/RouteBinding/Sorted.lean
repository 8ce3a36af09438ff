/-!
# Stable sorting

A list is sorted by inserting its items, from the last to the first, each in front of the first item that may
stand behind it.  Sorting permutes a list (`Sorted.ofList_perm`), puts it in order where the order is
transitive and total (`Sorted.pairwise_ofList`), and changes nothing in a list that is in order already
(`Sorted.ofList_eq_self`).

The place of an item in a row that is in order can be found by halving: where a property holds up to a place
and not from there on, halving finds that place (`Sorted.boundary_eq`).
-/

namespace RouteBinding.Sorted

variable {α : Type} (le : α → α → Bool)

/-- Put an item in front of the first one that may stand behind it. -/
def insert (a : α) : List α → List α
  | [] => [a]
  | b :: rest => if le a b then a :: b :: rest else b :: insert a rest

/-- The items of a list in order; those that may stand in either order stay as they are. -/
def ofList : List α → List α
  | [] => []
  | a :: rest => insert le a (ofList rest)

theorem insert_perm (a : α) (l : List α) : (insert le a l).Perm (a :: l) := by
  induction l with
  | nil => exact .refl _
  | cons b rest ih =>
    simp only [insert]
    split
    · exact .refl _
    · exact (ih.cons b).trans (.swap a b rest)

theorem ofList_perm (l : List α) : (ofList le l).Perm l := by
  induction l with
  | nil => exact .refl _
  | cons a rest ih => exact (insert_perm le a _).trans (ih.cons a)

theorem mem_ofList {a : α} {l : List α} : a ∈ ofList le l ↔ a ∈ l := (ofList_perm le l).mem_iff

variable {le}

theorem pairwise_insert (trans : ∀ a b c, le a b → le b c → le a c)
    (total : ∀ a b, le a b || le b a) (a : α) {l : List α} (h : l.Pairwise fun x y => le x y) :
    (insert le a l).Pairwise fun x y => le x y := by
  induction l with
  | nil => simp [insert]
  | cons b rest ih =>
    have hb := (List.pairwise_cons.1 h).1
    have hrest := (List.pairwise_cons.1 h).2
    simp only [insert]
    split
    · next hab =>
      refine List.pairwise_cons.2 ⟨?_, h⟩
      intro c hc
      rcases List.mem_cons.1 hc with rfl | hc
      · exact hab
      · exact trans _ _ _ hab (hb c hc)
    · next hab =>
      refine List.pairwise_cons.2 ⟨?_, ih hrest⟩
      intro c hc
      rcases List.mem_cons.1 ((insert_perm le a rest).mem_iff.1 hc) with rfl | hc
      · simpa [hab] using total c b
      · exact hb c hc

theorem pairwise_ofList (trans : ∀ a b c, le a b → le b c → le a c)
    (total : ∀ a b, le a b || le b a) (l : List α) : (ofList le l).Pairwise fun x y => le x y := by
  induction l with
  | nil => exact .nil
  | cons a rest ih => exact pairwise_insert trans total a ih

theorem ofList_eq_self {l : List α} (h : l.Pairwise fun x y => le x y) : ofList le l = l := by
  induction l with
  | nil => rfl
  | cons a rest ih =>
    have ha := (List.pairwise_cons.1 h).1
    rw [ofList, ih (List.pairwise_cons.1 h).2]
    cases rest with
    | nil => rfl
    | cons b more => simp [insert, ha b (List.mem_cons_self ..)]

/-- Sorting commutes with a map that keeps the order. -/
theorem ofList_map {β : Type} {le' : β → β → Bool} {f : α → β} (h : ∀ a b, le' (f a) (f b) = le a b)
    (l : List α) : ofList le' (l.map f) = (ofList le l).map f := by
  have hinsert : ∀ (a : α) (l : List α), insert le' (f a) (l.map f) = (insert le a l).map f := by
    intro a l
    induction l with
    | nil => rfl
    | cons b rest ih =>
      simp only [List.map_cons, insert, h, ih]
      split <;> rfl
  induction l with
  | nil => rfl
  | cons a rest ih => rw [List.map_cons, ofList, ih, hinsert, ofList]

theorem insert_eq_cons {a : α} {l : List α} (h : ∀ b ∈ l, le a b) : insert le a l = a :: l := by
  cases l with
  | nil => rfl
  | cons b rest => rw [insert, if_pos (h b List.mem_cons_self)]

/-- Sorting commutes with leaving out items. -/
theorem ofList_filter (trans : ∀ a b c, le a b → le b c → le a c) (total : ∀ a b, le a b || le b a)
    (p : α → Bool) (l : List α) : ofList le (l.filter p) = (ofList le l).filter p := by
  have hinsert : ∀ (a : α) {l : List α}, l.Pairwise (fun x y => le x y) →
      (insert le a l).filter p = if p a then insert le a (l.filter p) else l.filter p := by
    intro a l hl
    induction l with
    | nil => exact List.filter_cons
    | cons b rest ih =>
      obtain ⟨hb, hrest⟩ := List.pairwise_cons.1 hl
      rw [insert]
      by_cases hab : le a b = true
      · -- The item goes in front of all that is left.
        have hfront : ∀ c ∈ (b :: rest).filter p, le a c := by
          intro c hc
          rcases List.mem_cons.1 (List.mem_filter.1 hc).1 with rfl | hc
          · exact hab
          · exact trans _ _ _ hab (hb c hc)
        rw [if_pos hab, insert_eq_cons hfront, List.filter_cons]
      · rw [if_neg hab, List.filter_cons, List.filter_cons, ih hrest]
        by_cases hp : p b = true
        · rw [if_pos hp, if_pos hp, insert, if_neg hab]
          split <;> rfl
        · rw [if_neg hp, if_neg hp]
  induction l with
  | nil => rfl
  | cons a rest ih =>
    rw [ofList, hinsert a (pairwise_ofList trans total rest), ← ih, List.filter_cons]
    split <;> rfl

/-- The place where a property of places ceases to hold, looked for among the `size` places from `low` on.
The middle of these places decides which half is looked at next. -/
def boundary (holds : Nat → Bool) (low size : Nat) : Nat :=
  if size ≤ 1 then if holds low then low + 1 else low
  else boundary holds (if holds (low + size / 2) then low + size / 2 else low) (size - size / 2)
termination_by size

theorem boundary_eq {holds : Nat → Bool} {k : Nat} (h : ∀ i, holds i = true ↔ i < k) (low size : Nat)
    (hlow : low ≤ k) (hk : k ≤ low + size) : boundary holds low size = k := by
  fun_induction boundary holds low size with
  | case1 low size _ hl =>
    have := (h low).1 hl
    omega
  | case2 low size _ hl =>
    have := mt (h low).2 hl
    omega
  | case3 low size _ ih =>
    have hmiddle := h (low + size / 2)
    apply ih <;> split <;> simp_all <;> omega

end RouteBinding.Sorted
