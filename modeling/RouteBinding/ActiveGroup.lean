import RouteBinding.Provider.Group

/-!
# Active groups

A summary of a group as the host serves it.
-/

namespace RouteBinding

/-- What the host serves for a group. -/
structure ActiveGroup where
  id : ServiceId
  name : String
  path : String
  isDefault : Bool
  interceptors : List String
  handlers : List String
  deriving DecidableEq, Inhabited

def Group.summary (g : Group) : ActiveGroup where
  id := g.id
  name := g.name
  path := g.path
  isDefault := g.isDefault
  interceptors := g.interceptors.map Content.name
  handlers := g.handlers.map Content.name

end RouteBinding
