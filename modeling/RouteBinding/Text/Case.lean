/-!
# Comparison without regard to ASCII case

Property keys and the words of booleans are compared after the letters `A` to `Z` have been replaced by
`a` to `z`.  Characters outside ASCII are left as they are, so keys that differ there are different.
-/

namespace RouteBinding.Text

/-- The characters of a string with the letters `A` to `Z` in lowercase. -/
def fold (s : String) : List Char := s.toList.map Char.toLower

/-- Whether two strings are equal without regard to ASCII case. -/
def sameFold (a b : String) : Bool := fold a == fold b

theorem sameFold_iff {a b : String} : sameFold a b = true ↔ fold a = fold b := by
  simp [sameFold]

end RouteBinding.Text
