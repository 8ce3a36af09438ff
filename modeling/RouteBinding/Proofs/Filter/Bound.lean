import RouteBinding.Filter.Matching
import RouteBinding.Proofs.Property.Integer

/-!
# Tests against a bound

An integer or a text is meant to be compared with a bound by number if both denote integers, of whatever size,
and by its characters otherwise (`Ranks`).  The tests read integers of 64 bits only.  A text beside an integer
beyond these is compared by characters, which may put the two in the other order; and an integer value beside a
bound that is no integer of 64 bits passes neither test (`Misjudged`).  `Judged` says that there are no other
exceptions (`bounds_judged`), and `vast_bound_misjudged` shows one.
-/

namespace RouteBinding.Filter

open Text Property Value

/-- A value that the tests against a bound are meant for: an integer or a text. -/
def Comparable : Value → Prop
  | .number _ | .text _ => True
  | .flag _ | .list _ => False

/-- How a value stands to a bound: by number if both denote integers, otherwise by the characters of its written
form. -/
inductive Ranks (v : Value) (b : String) : Ordering → Prop where
  | numeric {i j : Int} (hv : v.Denotes i) (hb : (text b).Denotes j) : Ranks v b (compare i j)
  | lexical (h : ¬∃ i j, v.Denotes i ∧ (text b).Denotes j) : Ranks v b (compare v.render b)

/-- Whether a bound is an integer of 64 bits. -/
def FitsWord (b : String) : Prop := ∃ j, (text b).Denotes j ∧ inInt64 j = true

/-- Whether a value and a bound are compared by something else than the rule: an integer and a bound that is no
integer of 64 bits, or two texts that denote integers, one of them beyond 64 bits, and that stand in another
order by their characters. -/
inductive Misjudged : Value → String → Prop where
  | number {w : Int64} {b : String} (h : ¬FitsWord b) : Misjudged (.number w) b
  | text {s b : String} {i j : Int} (hs : (text s).Denotes i) (hb : (text b).Denotes j)
      (beyond : ¬(inInt64 i = true ∧ inInt64 j = true)) (other : compare s b ≠ compare i j) :
      Misjudged (.text s) b

/-- Whether the two tests of a key against a bound answer as one order of its value and the bound says. -/
def Follows (props : Map) (k b : String) (o : Ordering) : Prop :=
  accepts props (.atLeast k b) = o.isGE ∧ accepts props (.atMost k b) = o.isLE

/-- What the tests of a key against a bound say of its value, where this is an integer or a text. -/
structure Judged (props : Map) (k b : String) (v : Value) : Prop where
  /-- The rule says of each value in one way how it stands to a bound. -/
  ranked : ∃! o, Ranks v b o
  /-- The tests follow the rule, with the exceptions that are listed and no others. -/
  follows_iff : ∀ o, Ranks v b o → (Follows props k b o ↔ ¬Misjudged v b)
  /-- One of them holds, unless an integer value meets a bound that is no integer of 64 bits. -/
  total_iff : (accepts props (.atLeast k b) = true ∨ accepts props (.atMost k b) = true) ↔
    ((∃ w, v = .number w) → FitsWord b)
  /-- An integer value is at most what an integer literal denotes exactly if the test says so, unless the literal
  denotes something above all integer values. -/
  literal_iff : ∀ w j, v = .number w → (text b).Denotes j →
    ((accepts props (.atMost k b) = true ↔ w.toInt ≤ j) ↔ j ≤ 9223372036854775807)

variable {props : Map} {k b : String} {v : Value} {j : Int} {o : Ordering}

/-! ### The rule -/

theorem Ranks.unique {o' : Ordering} (h : Ranks v b o) (h' : Ranks v b o') : o = o' := by
  cases h with
  | numeric hv hb =>
      cases h' with
      | numeric hv' hb' => rw [hv.unique hv', hb.unique hb']
      | lexical hnone => exact absurd ⟨_, _, hv, hb⟩ hnone
  | lexical hnone =>
      cases h' with
      | numeric hv hb => exact absurd ⟨_, _, hv, hb⟩ hnone
      | lexical => rfl

theorem exists_ranks (v : Value) (b : String) : ∃! o, Ranks v b o := by
  by_cases h : ∃ i j, v.Denotes i ∧ (text b).Denotes j
  · obtain ⟨i, j, hv, hb⟩ := h
    exact ⟨_, .numeric hv hb, fun o ho => ho.unique (.numeric hv hb)⟩
  · exact ⟨_, .lexical h, fun o ho => ho.unique (.lexical h)⟩

/-! ### The comparison -/

theorem int64?_eq_none_iff : int64? b = none ↔ ¬FitsWord b := by
  rw [← Option.not_isSome_iff_eq_none, Option.isSome_iff_exists, FitsWord]
  exact not_congr (exists_congr fun j => int64?_eq_some_iff_denotes)

/-- An integer is compared with a bound that is an integer of 64 bits by number, and with no other. -/
theorem compareBound_number (w : Int64) (b : String) :
    (∃ j, (text b).Denotes j ∧ inInt64 j = true ∧ compareBound b (.number w) = some (compare w.toInt j)) ∨
      ¬FitsWord b ∧ compareBound b (.number w) = none := by
  rw [compareBound]
  cases hread : int64? b with
  | none => exact .inr ⟨int64?_eq_none_iff.1 hread, rfl⟩
  | some j =>
      obtain ⟨hb, hword⟩ := int64?_eq_some_iff_denotes.1 hread
      exact .inl ⟨j, hb, hword, rfl⟩

/-- A text is compared by number with a bound if both denote integers of 64 bits, and by its characters
otherwise. -/
theorem compareBound_text (s b : String) :
    (∃ i j, (text s).Denotes i ∧ (text b).Denotes j ∧ (inInt64 i = true ∧ inInt64 j = true) ∧
        compareBound b (.text s) = some (compare i j)) ∨
      (∀ i j, (text s).Denotes i → (text b).Denotes j → ¬(inInt64 i = true ∧ inInt64 j = true)) ∧
        compareBound b (.text s) = some (compare s b) := by
  rw [compareBound]
  cases hs : int64? s with
  | none =>
      refine .inr ⟨fun i j hi _ hwords => ?_, rfl⟩
      exact int64?_eq_none_iff.1 hs ⟨i, hi, hwords.1⟩
  | some i =>
      cases hb : int64? b with
      | none =>
          refine .inr ⟨fun i j _ hj hwords => ?_, rfl⟩
          exact int64?_eq_none_iff.1 hb ⟨j, hj, hwords.2⟩
      | some j =>
          obtain ⟨hi, hiword⟩ := int64?_eq_some_iff_denotes.1 hs
          obtain ⟨hj, hjword⟩ := int64?_eq_some_iff_denotes.1 hb
          exact .inl ⟨i, j, hi, hj, ⟨hiword, hjword⟩, rfl⟩

/-! ### The tests -/

/-- A test of a key whose value is an integer or a text looks at this value. -/
theorem holds_comparable (hv : props.get? k = some v) (hplain : Comparable v) (p : Value → Bool) :
    holds props k p = p v := by
  rw [holds, hv]
  cases v with
  | number w => rfl
  | text s => rfl
  | flag _ => cases hplain
  | list _ => cases hplain

section Tests

variable (hv : props.get? k = some v) (hplain : Comparable v)
include hv hplain

theorem accepts_atLeast : accepts props (.atLeast k b) = (compareBound b v).any Ordering.isGE := by
  rw [accepts, holds_comparable hv hplain]

theorem accepts_atMost : accepts props (.atMost k b) = (compareBound b v).any Ordering.isLE := by
  rw [accepts, holds_comparable hv hplain]

/-- The tests answer as one order says exactly if the comparison found this order. -/
theorem follows_iff_compareBound : Follows props k b o ↔ compareBound b v = some o := by
  rw [Follows, accepts_atLeast hv hplain, accepts_atMost hv hplain]
  cases compareBound b v with
  | none => cases o <;> simp
  | some c => cases c <;> cases o <;> simp

/-- One of the tests holds exactly if the comparison found an order. -/
theorem accepts_or_iff_compareBound :
    (accepts props (.atLeast k b) = true ∨ accepts props (.atMost k b) = true) ↔
      (compareBound b v).isSome = true := by
  rw [accepts_atLeast hv hplain, accepts_atMost hv hplain]
  cases compareBound b v with
  | none => simp
  | some c => cases c <;> simp

end Tests

/-- The comparison finds what the rule says, with the exceptions that are listed. -/
theorem compareBound_eq_iff (hplain : Comparable v) (ho : Ranks v b o) :
    compareBound b v = some o ↔ ¬Misjudged v b := by
  cases v with
  | flag _ => cases hplain
  | list _ => cases hplain
  | number w =>
      rcases compareBound_number w b with ⟨j, hb, hword, hfound⟩ | ⟨hword, hfound⟩
      · rw [hfound, ho.unique (.numeric (.number w) hb)]
        refine iff_of_true rfl fun hmiss => ?_
        cases hmiss with
        | number hnot => exact hnot ⟨j, hb, hword⟩
      · rw [hfound]
        exact iff_of_false (by simp) fun hnot => hnot (.number hword)
  | text s =>
      rcases compareBound_text s b with ⟨i, j, hs, hb, hwords, hfound⟩ | ⟨hwords, hfound⟩
      · rw [hfound, ho.unique (.numeric hs hb)]
        refine iff_of_true rfl fun hmiss => ?_
        cases hmiss with
        | text hs' hb' hbeyond _ =>
            rw [hs'.unique hs, hb'.unique hb] at hbeyond
            exact hbeyond hwords
      · rw [hfound, Option.some.injEq]
        cases ho with
        | numeric hs hb =>
            constructor
            · rintro heq (_ | ⟨hs', hb', -, hother⟩)
              rw [hs'.unique hs, hb'.unique hb] at hother
              exact hother heq
            · intro hnot
              by_contra hother
              exact hnot (.text hs hb (hwords _ _ hs hb) hother)
        | lexical hnone =>
            refine iff_of_true rfl ?_
            rintro (_ | ⟨hs, hb, -, -⟩)
            exact hnone ⟨_, _, hs, hb⟩

/-- The comparison of a text finds some order, that of an integer if the bound is an integer of 64 bits. -/
theorem compareBound_isSome_iff (hplain : Comparable v) :
    (compareBound b v).isSome = true ↔ ((∃ w, v = .number w) → FitsWord b) := by
  cases v with
  | flag _ => cases hplain
  | list _ => cases hplain
  | number w =>
      rcases compareBound_number w b with ⟨j, hb, hword, hfound⟩ | ⟨hword, hfound⟩
      · rw [hfound]
        exact iff_of_true rfl fun _ => ⟨j, hb, hword⟩
      · rw [hfound]
        exact iff_of_false (by simp) fun himp => hword (himp ⟨w, rfl⟩)
  | text s =>
      refine iff_of_true ?_ ?_
      · rcases compareBound_text s b with ⟨i, j, -, -, -, hfound⟩ | ⟨-, hfound⟩ <;> rw [hfound] <;> rfl
      · rintro ⟨w, hw⟩
        cases hw

/-- An integer is found to be at most what a literal denotes exactly if it is, unless the literal denotes
something above all integers of 64 bits. -/
theorem compareBound_isLE_iff (w : Int64) (hb : (text b).Denotes j) :
    ((compareBound b (.number w)).any Ordering.isLE = true ↔ w.toInt ≤ j) ↔ j ≤ 9223372036854775807 := by
  have hrange := inInt64_iff.1 (inInt64_toInt w)
  rcases compareBound_number w b with ⟨j', hb', hword, hfound⟩ | ⟨hword, hfound⟩
  · have hvalue : j' = j := hb'.unique hb
    have hrange' := inInt64_iff.1 hword
    rw [hfound, hvalue, Option.any_some, Int.isLE_compare]
    omega
  · -- The literal is below all integers of 64 bits, where the answer is right, or above, where it is not.
    have hbeyond : ¬inInt64 j = true := fun hin => hword ⟨j, hb, hin⟩
    rw [inInt64_iff] at hbeyond
    rw [hfound, Option.any_none]
    simp only [Bool.false_eq_true, false_iff]
    omega

/-- The tests of a key against a bound follow the rule wherever 64 bits are enough for it, and fail it exactly
where these change the order. -/
theorem bounds_judged (hv : props.get? k = some v) (hplain : Comparable v) : Judged props k b v where
  ranked := exists_ranks v b
  follows_iff o ho := by rw [follows_iff_compareBound hv hplain, compareBound_eq_iff hplain ho]
  total_iff := by rw [accepts_or_iff_compareBound hv hplain, compareBound_isSome_iff hplain]
  literal_iff w j hw hb := by
    rw [accepts_atMost hv hplain, hw]
    exact compareBound_isLE_iff w hb

/-- A rank as text and a bound with a blank and a sign, which by their characters stand in the other order. -/
theorem padded_bounds_judged : (Map.ofList [("Rank", .text "9")]).get? "rank" = some (.text "9") ∧
    Comparable (.text "9") ∧ compare "9" " +10" = .gt ∧
      accepts (.ofList [("Rank", .text "9")]) (.atMost "rank" " +10") = true ∧
        Judged (.ofList [("Rank", .text "9")]) "rank" " +10" (.text "9") :=
  ⟨by decide +kernel, trivial, by decide +kernel, by decide +kernel,
    bounds_judged (by decide +kernel) trivial⟩

/-- An integer is not found to be at most a greater one that has more than 64 bits. -/
theorem vast_bound_misjudged : (text "9223372036854775808").Denotes 9223372036854775808 ∧
    ¬(accepts (.ofList [("rank", .number 5)]) (.atMost "rank" "9223372036854775808") = true ↔
      (5 : Int) ≤ 9223372036854775808) := by
  refine ⟨denotes_text_iff.2 (by decide +kernel), ?_⟩
  decide +kernel

end RouteBinding.Filter
