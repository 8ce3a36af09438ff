import RouteBinding.Property.Value
import Mathlib.Data.Nat.Digits.Defs

/-!
# Integers as values and in text

An integer of any size is written as an optional sign and one or more ASCII digits (`Text.IsInteger`).  A value
denotes an integer if it is one, or is a text that writes one between blanks (`Value.Denotes`).  What is read from
a text (`Text.integer?`, `Text.int64?`) is what it denotes, cut to the range that is asked for.
-/

namespace RouteBinding

namespace Text

variable {cs : List Char} {n : Nat} {i : Int}

/-- The value of an ASCII digit. -/
def digitValue (c : Char) : Nat := c.toNat - '0'.toNat

/-- One or more ASCII digits, and the number that they are in base ten. -/
structure IsNatural (cs : List Char) (n : Nat) : Prop where
  nonempty : cs ≠ []
  digits : ∀ c ∈ cs, c.isDigit = true
  value : Nat.ofDigits 10 (cs.reverse.map digitValue) = n

/-- Digits with an optional sign in front, and the integer that they are. -/
inductive IsInteger : List Char → Int → Prop where
  | unsigned {cs : List Char} {n : Nat} (h : IsNatural cs n) : IsInteger cs n
  | positive {cs : List Char} {n : Nat} (h : IsNatural cs n) : IsInteger ('+' :: cs) n
  | negative {cs : List Char} {n : Nat} (h : IsNatural cs n) : IsInteger ('-' :: cs) (-n)

/-- Digits are read from the left, each one multiplying what is in front of it by ten. -/
theorem digits?_eq_some_iff (acc : Nat) : digits? acc cs = some n ↔ (∀ c ∈ cs, c.isDigit = true) ∧
    acc * 10 ^ cs.length + Nat.ofDigits 10 (cs.reverse.map digitValue) = n := by
  induction cs generalizing acc with
  | nil => simp [digits?]
  | cons c rest ih =>
      rw [digits?]
      by_cases hc : c.isDigit = true
      · have hvalue : acc * 10 ^ (c :: rest).length + Nat.ofDigits 10 ((c :: rest).reverse.map digitValue) =
            (10 * acc + digitValue c) * 10 ^ rest.length +
              Nat.ofDigits 10 (rest.reverse.map digitValue) := by
          rw [List.reverse_cons, List.map_append, Nat.ofDigits_append, List.map_singleton,
            Nat.ofDigits_singleton, List.length_map, List.length_reverse, List.length_cons, Nat.pow_succ]
          ring
        rw [if_pos hc, hvalue, List.forall_mem_cons, and_iff_right hc]
        exact ih _
      · rw [if_neg hc]
        refine iff_of_false (by simp) ?_
        rintro ⟨hdigits, -⟩
        exact hc (hdigits c List.mem_cons_self)

theorem natural?_eq_some_iff : natural? cs = some n ↔ IsNatural cs n := by
  cases cs with
  | nil => exact iff_of_false (by simp [natural?]) fun h => h.nonempty rfl
  | cons c rest =>
      rw [natural?, digits?_eq_some_iff, Nat.zero_mul, Nat.zero_add]
      · exact ⟨fun ⟨hdigits, hvalue⟩ => ⟨List.cons_ne_nil c rest, hdigits, hvalue⟩,
          fun h => ⟨h.digits, h.value⟩⟩
      · exact List.cons_ne_nil c rest

theorem map_natural?_eq_some_iff {f : Int → Int} :
    (natural? cs).map f = some i ↔ ∃ n, IsNatural cs n ∧ f (n : Nat) = i := by
  simp [← natural?_eq_some_iff, Option.bind_eq_some_iff]

/-- A text of digits starts with a digit, and so with no sign. -/
theorem IsNatural.head_isDigit {c : Char} {rest : List Char} (h : IsNatural (c :: rest) n) :
    c.isDigit = true :=
  h.digits c List.mem_cons_self

/-- What is read as an integer is what is written as one. -/
theorem integer?_eq_some_iff : integer? cs = some i ↔ IsInteger cs i := by
  constructor
  · intro hread
    unfold integer? at hread
    split at hread <;> obtain ⟨n, hn, rfl⟩ := map_natural?_eq_some_iff.1 hread
    · exact .negative hn
    · exact .positive hn
    · exact .unsigned hn
  · rintro (h | h | h)
    · unfold integer?
      split
      · exact absurd h.head_isDigit (by decide)
      · exact absurd h.head_isDigit (by decide)
      · exact map_natural?_eq_some_iff.2 ⟨_, h, rfl⟩
    · exact map_natural?_eq_some_iff.2 ⟨_, h, rfl⟩
    · exact map_natural?_eq_some_iff.2 ⟨_, h, rfl⟩

theorem IsInteger.unique {j : Int} (h : IsInteger cs i) (k : IsInteger cs j) : i = j :=
  Option.some.inj ((integer?_eq_some_iff.2 h).symm.trans (integer?_eq_some_iff.2 k))

end Text

namespace Property.Value

variable {v : Value} {i j : Int} {w : Int64}

/-- The integer that a value is or, as text, writes between blanks. -/
inductive Denotes : Value → Int → Prop where
  | number (i : Int64) : Denotes (.number i) i.toInt
  | text {s : String} {i : Int} (h : Text.IsInteger (Text.trimmed s.toList) i) : Denotes (.text s) i

theorem denotes_number_iff : (number w).Denotes j ↔ w.toInt = j :=
  ⟨fun h => by cases h; rfl, fun h => h ▸ .number w⟩

theorem denotes_text_iff {s : String} :
    (text s).Denotes i ↔ Text.integer? (Text.trimmed s.toList) = some i := by
  rw [Text.integer?_eq_some_iff]
  exact ⟨fun h => by cases h; assumption, .text⟩

theorem Denotes.unique (h : v.Denotes i) (k : v.Denotes j) : i = j := by
  cases h with
  | number => cases k; rfl
  | text h => cases k with | text k => exact h.unique k

/-- Text is read as an integer if it denotes one in the range of integer values. -/
theorem int64?_eq_some_iff_denotes {s : String} :
    Text.int64? s = some i ↔ (text s).Denotes i ∧ Text.inInt64 i = true := by
  rw [Text.int64?, Option.filter_eq_some_iff, denotes_text_iff]

end Property.Value

end RouteBinding
