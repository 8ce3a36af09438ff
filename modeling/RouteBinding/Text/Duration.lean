/-!
# Durations in text

A number of milliseconds in the largest unit of which it holds at least one: below a second in
milliseconds, else in seconds with as many of three decimals as are needed.  Nothing is written as `0ns`.
-/

namespace RouteBinding.Text

/-- The three decimals of a second after the point, without trailing zeros; empty for a whole second. -/
def decimals (ms : Nat) : List Char :=
  let digits := [ms / 100, ms / 10 % 10, ms % 10].map Nat.digitChar
  (digits.reverse.dropWhile (· == '0')).reverse

/-- The text of a duration given in milliseconds. -/
def duration (ms : Nat) : String :=
  if ms = 0 then "0ns"
  else if ms < 1000 then toString ms ++ "ms"
  else
    match decimals (ms % 1000) with
    | [] => toString (ms / 1000) ++ "s"
    | ds => toString (ms / 1000) ++ "." ++ String.ofList ds ++ "s"

end RouteBinding.Text
