import RouteBinding.Property.Key
import RouteBinding.Property.Map

/-!
# Declaring providers

Property maps that declare a provider of each kind and not much else.
-/

namespace RouteBinding

open Property

/-- The properties of a route group with a name and a path. -/
def groupProperties (name path : String) : Map :=
  .ofList [(Key.routeGroup, .flag true), (Key.name, .text name), (Key.path, .text path)]

/-- The entry that declares a filter over route groups, if there is one. -/
def selectEntry (select : Option String) : List (String × Value) :=
  select.toList.map fun f => (Key.select, .text f)

/-- The properties of a handler without a name. -/
def handlerProperties (select : Option String) : Map :=
  .ofList ((Key.routeHandler, .flag true) :: selectEntry select)

/-- The properties of an interceptor with a name. -/
def interceptorProperties (name : String) (select : Option String) : Map :=
  .ofList ((Key.routeInterceptor, .flag true) :: (Key.name, .text name) :: selectEntry select)

end RouteBinding
