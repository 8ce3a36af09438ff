import RouteBinding.Component.Payload
import RouteBinding.Failure.Reason
import RouteBinding.Filter.Matching
import RouteBinding.Filter.Parser
import RouteBinding.Property.Key

/-!
# Providers

A provider is a registered property map with its content, read once: its name and rank, the hosts it is
meant for, what it requires, and the first thing that is wrong with it.  Reading never fails; a provider
with a fault is kept, reported and left out of service.
-/

namespace RouteBinding

open Property

/-- The identity of a registered provider; zero is that of the implicit default group. -/
abbrev ServiceId := Nat

namespace ServiceId

/-- The identity of the implicit default group. -/
def implicitDefault : ServiceId := 0

def label (id : ServiceId) : String := "#" ++ toString id

end ServiceId

/-- The three kinds of providers. -/
inductive Kind where
  /-- A route group: a path under which content is served. -/
  | group
  /-- A handler: it answers requests in the groups it is attached to. -/
  | handler
  /-- An interceptor: it serves the groups it is attached to. -/
  | interceptor
  deriving DecidableEq, Inhabited

namespace Kind

/-- The kinds in the order in which they are searched. -/
def every : List Kind := [group, handler, interceptor]

def label : Kind → String
  | group => "group"
  | handler => "handler"
  | interceptor => "interceptor"

/-- The key whose value must stand for yes in a provider of a kind. -/
def discriminator : Kind → String
  | group => Key.routeGroup
  | handler => Key.routeHandler
  | interceptor => Key.routeInterceptor

end Kind

/-- What a property map says under a key of which a certain form is asked. -/
inductive Declared (α : Type) where
  | absent
  | malformed
  /-- The value has the form, and this is what it says. -/
  | given (a : α)

namespace Declared

variable {α : Type}

/-- What is declared, or nothing. -/
def value? : Declared α → Option α
  | given a => some a
  | _ => none

/-- What is declared, or a stand-in. -/
def valueOr (d : α) : Declared α → α
  | given a => a
  | _ => d

/-- The fault of a declaration: none, unless it is malformed. -/
def faults : Declared α → List Reason
  | malformed => [.validationFailed]
  | _ => []

/-- A declaration read by a partial function. -/
def ofValue (read : Value → Option α) : Option Value → Declared α
  | none => absent
  | some v =>
    match read v with
    | some a => given a
    | none => malformed

end Declared

/-- The filter that a text value holds. -/
def filterOf? (v : Value) : Option Filter := v.text?.bind Filter.parse?

/-- The filters that a text value or a list of text values holds. -/
def filtersOf? : Value → Option (List Filter)
  | .text s => (Filter.parse? s).map ([·])
  | .list items => items.mapM filterOf?
  | .flag _ | .number _ => none

/-- The rank that a value holds or denotes, within a signed 32-bit word. -/
def rankOf? (v : Value) : Option Int := v.int?.filter Text.inInt32

/-- The filter over host properties that a property map declares. -/
def declaredTarget (props : Map) : Declared Filter := .ofValue filterOf? (props.get? Key.target)

/-- The required filters that a property map declares. -/
def declaredRequires (props : Map) : Declared (List Filter) :=
  .ofValue filtersOf? (props.get? Key.requires)

/-- The rank that a property map declares. -/
def declaredRank (props : Map) : Declared Int := .ofValue rankOf? (props.get? Key.rank)

/-- The words with which only generated names begin. -/
def reservedLeads : List String := [".", "trellis."]

/-- Whether a name begins with a reserved word. -/
def isReserved (name : String) : Bool :=
  reservedLeads.any fun lead => lead.toList.isPrefixOf name.toList

/-- The fault of a declared name: it is empty or begins with a reserved word. -/
def nameFaults (props : Map) : List Reason :=
  match props.text? Key.name with
  | some name => if name.isEmpty || isReserved name then [.validationFailed] else []
  | none => []

/-- The name of a provider that declares none. -/
def generatedName (kind : Kind) (id : ServiceId) : String :=
  ".generated." ++ kind.label ++ "." ++ toString id

/-- What providers of every kind have in common. -/
structure Provider where
  id : ServiceId
  kind : Kind
  /-- The declared name, or a generated one. -/
  name : String
  generated : Bool
  /-- The rank; the higher one wins a conflict. -/
  rank : Int
  /-- The revision, which grows with every registration. -/
  revision : Nat
  /-- The first thing that is wrong with it. -/
  failure : Option Reason
  target : Option Filter
  /-- The filters of which each must be met. -/
  requires : List Filter
  properties : Map
  payload : Payload
  deriving DecidableEq, Inhabited

namespace Provider

/-- The faults that a provider of any kind can have, in the order in which they are looked for. -/
def faults (kind : Kind) (props : Map) : List Reason :=
  (if props.isTruthy kind.discriminator then [] else [.invalid]) ++
    (declaredTarget props).faults ++ (declaredRequires props).faults ++
    (declaredRank props).faults ++ nameFaults props

/-- Read a provider; `more` are the faults that only its kind can have. -/
def ofProperties (kind : Kind) (id : ServiceId) (revision : Nat) (payload : Payload) (props : Map)
    (more : List Reason) : Provider where
  id := id
  kind := kind
  name := (props.text? Key.name).getD (generatedName kind id)
  generated := (props.text? Key.name).isNone
  rank := (declaredRank props).valueOr 0
  revision := revision
  failure := (faults kind props ++ more).head?
  target := (declaredTarget props).value?
  requires := (declaredRequires props).valueOr []
  properties := props
  payload := payload

/-- Whether nothing is wrong with a provider. -/
def isValid (p : Provider) : Bool := p.failure.isNone

/-- Whether a provider is meant for a host with these properties. -/
def appliesTo (p : Provider) (host : Map) : Bool := p.target.all fun f => f.accepts host

/-- Whether two records are of one registered provider. -/
def sameAs (p q : Provider) : Bool := p.id == q.id && p.kind == q.kind

end Provider

end RouteBinding
