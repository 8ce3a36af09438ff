import RouteBinding.Text.Blank

/-!
# Integers in text

An integer is written as an optional sign and at least one ASCII digit.  `integer?` reads one of any size;
`int64?` also asks that it fit in a signed 64-bit word, which is the range of integer values.
-/

namespace RouteBinding.Text

/-- The value of a run of ASCII digits, continuing from the value of the digits before it. -/
def digits? (acc : Nat) : List Char → Option Nat
  | [] => some acc
  | c :: rest => if c.isDigit then digits? (10 * acc + (c.toNat - '0'.toNat)) rest else none

/-- The number that a non-empty run of ASCII digits denotes. -/
def natural? : List Char → Option Nat
  | [] => none
  | cs => digits? 0 cs

/-- The integer that an optional sign and a non-empty run of ASCII digits denote. -/
def integer? : List Char → Option Int
  | '-' :: cs => (natural? cs).map fun n => -(n : Int)
  | '+' :: cs => (natural? cs).map fun n => (n : Int)
  | cs => (natural? cs).map fun n => (n : Int)

/-- Whether an integer fits in a signed 64-bit word. -/
def inInt64 (i : Int) : Bool := -9223372036854775808 ≤ i && i ≤ 9223372036854775807

theorem inInt64_iff {i : Int} : inInt64 i = true ↔ -9223372036854775808 ≤ i ∧ i ≤ 9223372036854775807 := by
  simp [inInt64]

theorem inInt64_toInt (w : Int64) : inInt64 w.toInt = true := by
  have hlow := w.le_toInt
  have hhigh := w.toInt_lt
  rw [inInt64_iff]
  omega

def minInt32 : Int := -2147483648

/-- Whether an integer fits in a signed 32-bit word. -/
def inInt32 (i : Int) : Bool := minInt32 ≤ i && i ≤ 2147483647

/-- The 64-bit integer that a string denotes once blanks at its ends are dropped. -/
def int64? (s : String) : Option Int := (integer? (trimmed s.toList)).filter inInt64

end RouteBinding.Text
