import RouteBinding.Conflict.Precedence
import RouteBinding.Provider.Group

/-!
# Conflicts over names

A declared name belongs to the first provider by precedence that declares it, whatever the kinds.  Generated
names are never in conflict.
-/

namespace RouteBinding

/-- Providers of the three kinds. -/
structure Roster where
  groups : List Group
  handlers : List Content
  interceptors : List Content
  deriving DecidableEq, Inhabited

namespace Roster

/-- All providers: groups, then handlers, then interceptors. -/
def providers (r : Roster) : List Provider :=
  r.groups.map (·.provider) ++ r.handlers.map (·.provider) ++ r.interceptors.map (·.provider)

/-- The providers that declare a name, in the order of precedence. -/
def named (r : Roster) : List Provider :=
  Sorted.ofList Provider.notAfter (r.providers.filter fun p => !p.generated)

/-- The providers whose name belongs to another, in the order of precedence. -/
def duplicates (r : Roster) : List Provider := (firstClaims Provider.name r.named []).2

/-- The roster without the providers of a list. -/
def without (r : Roster) (lost : List Provider) : Roster :=
  let keeps (p : Provider) : Bool := !lost.any p.sameAs
  ⟨r.groups.filter fun g => keeps g.provider, r.handlers.filter fun c => keeps c.provider,
    r.interceptors.filter fun c => keeps c.provider⟩

/-- The roster of the providers that have their name, and the providers that lost it. -/
def resolveNames (r : Roster) : Roster × List Provider := (r.without r.duplicates, r.duplicates)

end Roster

end RouteBinding
