import RouteBinding.Provider.Basic
import RouteBinding.Sorted

/-!
# Precedence

Of two providers that claim one thing, the one of higher rank has it, and of two with one rank the one that
was registered first, which has the lower identity.  A claim is settled by walking the claimants in this
order and keeping the first of each claim.
-/

namespace RouteBinding

namespace Provider

/-- Whether a provider wins every conflict with another. -/
def precedes (p q : Provider) : Bool := p.rank > q.rank || (p.rank == q.rank && p.id < q.id)

/-- Whether a provider may stand before another in the order of precedence. -/
def notAfter (p q : Provider) : Bool := !q.precedes p

end Provider

/-- Split a list into the items that come first with their claim and the others, in the order of the list;
the claims in `taken` are those of items before it. -/
def firstClaims {α κ : Type} [BEq κ] (claim : α → κ) : List α → List κ → List α × List α
  | [], _ => ([], [])
  | a :: rest, taken =>
    if taken.contains (claim a) then
      let (first, late) := firstClaims claim rest taken
      (first, a :: late)
    else
      let (first, late) := firstClaims claim rest (claim a :: taken)
      (a :: first, late)

end RouteBinding
