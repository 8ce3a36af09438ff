import RouteBinding.Host.Error
import RouteBinding.Provider.Group
import RouteBinding.Route.Routing
import RouteBinding.Table

/-!
# A host in memory

A host serves the groups that are registered with it.  A request goes to the group with the longest path that
covers it in whole segments, and there to the handler that the router of the group finds for what is left of
the request.  The router may be of any kind.  An operation that fails yields no new host, so a host changes as
a whole or not at all.
-/

namespace RouteBinding.Host

open Property Route

variable [Routing]

/-- A group as a host serves it. -/
structure Mounted where
  group : Group
  router : Routing.Router
  deriving Inhabited

/-- A template with a slash in front. -/
def rooted (template : String) : String :=
  if template.toList.head? = some '/' then template else "/" ++ template

/-- The template of a handler, if it declares one as text. -/
def templateOf (c : Content) : Option String := (c.provider.properties.text? Key.route).map rooted

/-- The error of a template that the router of a group does not take. -/
def routeError (group template : String) : Refusal → Error
  | .refused reason => .rejected group ("route `" ++ template ++ "`: " ++ reason)
  | .gaveUp note => .panicked note

/-- Routes with those of some handlers added in order. -/
def addRoutes (group : String) (router : Routing.Router) : List Content → Except Error Routing.Router
  | [] => .ok router
  | c :: rest =>
    match templateOf c with
    | none => addRoutes group router rest
    | some template =>
      match Routing.insert router template c.name with
      | .error e => .error (routeError group template e)
      | .ok router => addRoutes group router rest

/-- A group made ready to be served. -/
def mount (g : Group) : Except Error Mounted :=
  match addRoutes g.name Routing.empty g.handlers with
  | .error e => .error e
  | .ok router => .ok ⟨g, router⟩

/-- A host that keeps what it serves in memory. -/
structure Memory where
  /-- The properties that the filters of providers for their hosts look at. -/
  properties : Map := ∅
  /-- The groups that are served, by identity. -/
  mounted : Table ServiceId Mounted := ∅
  deriving Inhabited

/-- Where a request lands. -/
structure Resolved where
  group : String
  /-- The name of the handler, if a template matches. -/
  handler : Option String
  /-- The names of the wildcards with what they took. -/
  parameters : List (String × String)
  deriving DecidableEq, Inhabited

/-- What is left of a request below a path that covers it in whole segments. -/
def below? (path request : List Char) : Option (List Char) :=
  -- The root covers every request with a slash in front.
  if path = ['/'] then if request.head? = some '/' then some request else none
  else if request = path then some ['/']
  else if path.isPrefixOf request then
    let rest := request.drop path.length
    if rest.head? = some '/' then some rest else none
  else none

namespace Memory

/-- Whether the host serves the group with an identity. -/
def serves (m : Memory) (id : ServiceId) : Bool := m.mounted.contains id

def register (m : Memory) (g : Group) : Except Error Memory :=
  if m.serves g.id then .error (.rejected g.name "already registered")
  else
    match mount g with
    | .error e => .error e
    | .ok served => .ok { m with mounted := m.mounted.insert g.id served }

def unregister (m : Memory) (g : Group) : Except Error Memory :=
  if m.serves g.id then .ok { m with mounted := m.mounted.erase g.id }
  else .error (.notRegistered g.name)

/-- Serve a group in its new form. -/
def reload (m : Memory) (g : Group) : Except Error Memory :=
  if m.serves g.id then
    match mount g with
    | .error e => .error e
    | .ok served => .ok { m with mounted := m.mounted.insert g.id served }
  else .error (.notRegistered g.name)

/-- The groups that are served, by identity. -/
def groups (m : Memory) : List Group := m.mounted.values.map Mounted.group

/-- The first group with a name. -/
def groupNamed? (m : Memory) (name : String) : Option Group := m.groups.find? fun g => g.name == name

/-- The groups that cover a request, with what is left of it below each. -/
def covering (m : Memory) (request : String) : List (Mounted × List Char) :=
  m.mounted.values.filterMap fun s =>
    (below? s.group.path.toList request.toList).map fun rest => (s, rest)

/-- The later of the candidates with the longest path. -/
def longest : List (Mounted × List Char) → Option (Mounted × List Char)
  | [] => none
  | c :: rest =>
    match longest rest with
    | none => some c
    | some d => if d.1.group.path.utf8ByteSize < c.1.group.path.utf8ByteSize then some c else some d

/-- Where a request lands, if a group covers it. -/
def resolve (m : Memory) (request : String) : Option Resolved :=
  (longest (m.covering request)).map fun (served, rest) =>
    match Routing.find? served.router (String.ofList rest) with
    | some target => ⟨served.group.name, some target.handler, target.parameters⟩
    | none => ⟨served.group.name, none, []⟩

end Memory

end RouteBinding.Host
