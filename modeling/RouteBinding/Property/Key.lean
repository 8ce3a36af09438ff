/-!
# Well-known property keys

The keys that give a provider its kind, its identity, its place and its conditions.
-/

namespace RouteBinding.Property.Key

def routeGroup : String := "route.group"

def routeHandler : String := "route.handler"

def routeInterceptor : String := "route.interceptor"

/-- The identity of a provider. -/
def serviceId : String := "service.id"

def name : String := "name"

/-- The path of a route group. -/
def path : String := "path"

/-- Another word for the path of a route group. -/
def base : String := "base"

/-- The rank of a provider; the higher one wins a conflict. -/
def rank : String := "rank"

/-- The route group declares itself the default. -/
def default : String := "default"

/-- The route group wraps content authored elsewhere. -/
def legacy : String := "legacy"

/-- A filter over the properties of the host. -/
def target : String := "target"

/-- A filter over the properties of route groups. -/
def select : String := "select"

/-- Filters over the properties of interceptors. -/
def requires : String := "requires"

/-- The route template of a handler, below the path of its group. -/
def route : String := "route"

end RouteBinding.Property.Key
