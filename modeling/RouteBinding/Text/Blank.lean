/-!
# Blank characters

One class of blanks serves the whole library: the characters with the Unicode property White_Space.  Filters
skip them between their parts, and values lose them at both ends before they are read.
-/

namespace RouteBinding.Text

/-- Whether a character has the Unicode property White_Space. -/
def isBlank (c : Char) : Bool :=
  let n := c.toNat
  (0x09 ≤ n && n ≤ 0x0D) || n == 0x20 || n == 0x85 || n == 0xA0 || n == 0x1680 ||
    (0x2000 ≤ n && n ≤ 0x200A) || n == 0x2028 || n == 0x2029 || n == 0x202F || n == 0x205F ||
    n == 0x3000

def dropBlanks (cs : List Char) : List Char := cs.dropWhile isBlank

def dropBlanksRight (cs : List Char) : List Char := (cs.reverse.dropWhile isBlank).reverse

/-- A text without the blanks at its two ends. -/
def trimmed (cs : List Char) : List Char := dropBlanksRight (dropBlanks cs)

theorem length_dropBlanks_le (cs : List Char) : (dropBlanks cs).length ≤ cs.length :=
  (List.dropWhile_suffix _).length_le

/-- A string without the blanks at its two ends. -/
def trim (s : String) : String := String.ofList (trimmed s.toList)

end RouteBinding.Text
