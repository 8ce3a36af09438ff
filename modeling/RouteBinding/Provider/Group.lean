import RouteBinding.Provider.Basic

/-!
# Handlers, interceptors and route groups

A route group has a path and the content attached to it.  Content names the groups it is meant for by a
filter over their properties, or is meant for default groups.
-/

namespace RouteBinding

open Property

/-- A handler or an interceptor. -/
structure Content where
  /-- What it has in common with other providers. -/
  provider : Provider
  /-- The filter over the properties of route groups. -/
  select : Option Filter
  deriving DecidableEq, Inhabited

namespace Content

/-- The filter over group properties that a property map declares. -/
def declaredSelect (props : Map) : Declared Filter := .ofValue filterOf? (props.get? Key.select)

/-- Read a handler or an interceptor. -/
def ofProperties (kind : Kind) (id : ServiceId) (revision : Nat) (payload : Payload) (props : Map) :
    Content where
  provider := .ofProperties kind id revision payload props (declaredSelect props).faults
  select := (declaredSelect props).value?

def id (c : Content) : ServiceId := c.provider.id

def kind (c : Content) : Kind := c.provider.kind

def name (c : Content) : String := c.provider.name

end Content

/-- A path in its normal spelling: blanks at the ends and slashes at the end dropped, one slash in front. -/
def normalizePath (raw : String) : String :=
  -- Blanks are dropped before slashes, so a blank in front of the last slashes stays.
  let cs := ((Text.trimmed raw.toList).reverse.dropWhile (· == '/')).reverse
  match cs with
  | [] => "/"
  | '/' :: _ => String.ofList cs
  | _ => String.ofList ('/' :: cs)

/-- A path with the content that is served under it. -/
structure Group where
  /-- What it has in common with other providers. -/
  provider : Provider
  /-- The path in its normal spelling. -/
  path : String
  isDefault : Bool
  /-- Whether it wraps content authored elsewhere, and so takes no handlers. -/
  isLegacy : Bool
  attached : List Content := []
  /-- Whether it differs from what the host was last told. -/
  changed : Bool := false
  deriving DecidableEq, Inhabited

namespace Group

/-- The path that a property map declares, under either of two keys. -/
def declaredPath (props : Map) : Option String :=
  (props.text? Key.path).or (props.text? Key.base)

/-- The fault that only a route group can have: it has no path. -/
def pathFaults (props : Map) : List Reason :=
  if (declaredPath props).isSome then [] else [.invalid]

/-- Read a route group. -/
def ofProperties (id : ServiceId) (revision : Nat) (payload : Payload) (props : Map) : Group where
  provider := .ofProperties .group id revision payload props (pathFaults props)
  path := normalizePath ((declaredPath props).getD "/")
  isDefault := props.isTruthy Key.default
  isLegacy := props.isTruthy Key.legacy

/-- The name of the implicit default group. -/
def implicitName : String := ".default"

/-- The properties of the implicit default group. -/
def implicitProperties : Map :=
  .ofList [(Key.routeGroup, .flag true), (Key.default, .flag true)]

/-- The group that is the default where no registered group is, of the lowest rank. -/
def implicitDefault (path : String) (payload : Payload) : Group where
  provider :=
    { Provider.ofProperties .group ServiceId.implicitDefault 0 payload implicitProperties [] with
      name := implicitName
      rank := Text.minInt32 }
  path := normalizePath path
  isDefault := true
  isLegacy := false

def id (g : Group) : ServiceId := g.provider.id

def name (g : Group) : String := g.provider.name

/-- Whether this is the implicit default group. -/
def isImplicit (g : Group) : Bool := g.id == ServiceId.implicitDefault

/-- The properties that content selects by: the registered ones with the name and path in effect. -/
def selection (g : Group) : Map :=
  (g.provider.properties.insert Key.name (.text g.name)).insert Key.path (.text g.path)

def attachedOf (g : Group) (kind : Kind) : List Content := g.attached.filter fun c => c.kind == kind

def interceptors (g : Group) : List Content := g.attachedOf .interceptor

def handlers (g : Group) : List Content := g.attachedOf .handler

end Group

/-- Whether content may be attached to a group.  A legacy group takes no handler; else the filter decides,
and content without one is meant for default groups. -/
def Content.selects (c : Content) (g : Group) : Bool :=
  !(g.isLegacy && c.kind == .handler) &&
    match c.select with
    | some f => f.accepts g.selection
    | none => g.isDefault

end RouteBinding
