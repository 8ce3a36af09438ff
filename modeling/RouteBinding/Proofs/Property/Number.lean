import RouteBinding.Property.Value

/-!
# Natural numbers as property values

A natural number is kept as an integer value, or as its decimal digits where it exceeds the range of integer
values (`Value.ofNat`).  Reading such a value as an integer gives the number back within the range
(`Value.int?_ofNat`); beyond it the digits are read, denote the number, and are then turned down for their
size.
-/

namespace RouteBinding

namespace Text

variable {cs : List Char} {n : Nat}

theorem digits?_append (acc : Nat) (cs ds : List Char) :
    digits? acc (cs ++ ds) = (digits? acc cs).bind fun n => digits? n ds := by
  induction cs generalizing acc with
  | nil => rfl
  | cons c rest ih =>
      rw [List.cons_append, digits?, digits?]
      split
      · exact ih _
      · rfl

/-- One digit more. -/
theorem digits?_digitChar (acc : Nat) (h : n < 10) : digits? acc [n.digitChar] = some (10 * acc + n) := by
  have hvalue : n.digitChar.toNat - '0'.toNat = n := Nat.toNat_digitChar_sub_48_of_lt_ten h
  rw [digits?, Nat.isDigit_digitChar, if_pos (decide_eq_true h), hvalue, digits?]

/-- The decimal digits of a number denote it. -/
theorem digits?_toDigits (n : Nat) : digits? 0 (Nat.toDigits 10 n) = some n := by
  induction n using Nat.strongRecOn with
  | ind n ih =>
      by_cases hsmall : n < 10
      · rw [Nat.toDigits_of_lt_base hsmall, digits?_digitChar 0 hsmall, Nat.mul_zero, Nat.zero_add]
      · have hlarge : 10 ≤ n := Nat.le_of_not_lt hsmall
        rw [Nat.toDigits_of_base_le (by decide) hlarge, digits?_append,
          ih (n / 10) (Nat.div_lt_self (by omega) (by decide)), Option.bind_some,
          digits?_digitChar _ (Nat.mod_lt n (by decide)), Nat.div_add_mod]

theorem isBlank_eq_false_of_isDigit {c : Char} (h : c.isDigit = true) : isBlank c = false := by
  have hrange : 48 ≤ c.toNat ∧ c.toNat ≤ 57 := by
    simpa [Char.isDigit, UInt32.le_iff_toNat_le] using h
  simp only [isBlank, Bool.or_eq_false_iff, Bool.and_eq_false_iff, decide_eq_false_iff_not,
    beq_eq_false_iff_ne]
  omega

/-- A text of digits has no blanks at its ends. -/
theorem trimmed_of_isDigit (h : ∀ c ∈ cs, c.isDigit = true) : trimmed cs = cs := by
  have hkeep : ∀ {ds : List Char}, (∀ c ∈ ds, c.isDigit = true) → ds.dropWhile isBlank = ds := by
    intro ds hds
    cases ds with
    | nil => rfl
    | cons d rest =>
        rw [List.dropWhile_cons, isBlank_eq_false_of_isDigit (hds d List.mem_cons_self)]
        rfl
  rw [trimmed, dropBlanks, hkeep h, dropBlanksRight,
    hkeep fun c hc => h c (List.mem_reverse.1 hc), List.reverse_reverse]

/-- Digits are read as a natural number, since a digit is no sign. -/
theorem integer?_of_isDigit (h : ∀ c ∈ cs, c.isDigit = true) :
    integer? cs = (natural? cs).map fun n => (n : Int) := by
  unfold integer?
  split
  · exact absurd (h '-' List.mem_cons_self) (by decide)
  · exact absurd (h '+' List.mem_cons_self) (by decide)
  · rfl

theorem integer?_toDigits (n : Nat) : integer? (Nat.toDigits 10 n) = some (n : Int) := by
  have hdigit : ∀ c ∈ Nat.toDigits 10 n, c.isDigit = true := fun c hc =>
    Nat.isDigit_of_mem_toDigits (by decide) (by decide) hc
  have hread := digits?_toDigits n
  rw [integer?_of_isDigit hdigit]
  cases hdigits : Nat.toDigits 10 n with
  | nil => exact absurd hdigits Nat.toDigits_ne_nil
  | cons d rest =>
      rw [natural?, ← hdigits, hread]
      · rfl
      · exact List.cons_ne_nil d rest

/-- The written form of a number is read back if it is in range. -/
theorem int64?_toString (n : Nat) : int64? (toString n) = if inInt64 n then some (n : Int) else none := by
  have hchars : (toString n).toList = Nat.toDigits 10 n := Nat.toList_repr
  have hdigit : ∀ c ∈ Nat.toDigits 10 n, c.isDigit = true := fun c hc =>
    Nat.isDigit_of_mem_toDigits (by decide) (by decide) hc
  rw [int64?, hchars, trimmed_of_isDigit hdigit, integer?_toDigits, Option.filter_some]

end Text

/-- A natural number that is kept as a value is read back as an integer if it is in the range of integer
values, and is no integer otherwise. -/
theorem Property.Value.int?_ofNat (n : Nat) :
    (ofNat n).int? = if Text.inInt64 n then some (n : Int) else none := by
  unfold ofNat
  by_cases hrange : Text.inInt64 n = true
  · have hlt : n < 2 ^ 63 := by
      have hbound := (Text.inInt64_iff.1 hrange).2
      omega
    rw [if_pos hrange, if_pos hrange, int?, Int64.toInt_ofNat_of_lt hlt]
  · rw [if_neg hrange, int?, Text.int64?_toString]

end RouteBinding
