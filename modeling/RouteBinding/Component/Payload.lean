import RouteBinding.Component.Contract

/-!
# Payloads and their sources

The content of a provider is one component for all, or comes from a factory that hands out an instance to
each consumer and takes it back.  A payload names its source; what a factory has handed out and got back is
kept in a pool.  Acquiring yields a guard, and releasing the guard gives the instance back.
-/

namespace RouteBinding

/-- A unit of content. -/
inductive Component where
  | marker (contracts : Contracts)
  | plain
  deriving DecidableEq, Inhabited

def Component.contracts : Component → Contracts
  | marker cs => cs
  | plain => .none

/-- How a factory answers when it is asked for an instance. -/
inductive Maker where
  /-- It hands out a component with these contracts. -/
  | ready (contracts : Contracts)
  | broken
  /-- It refuses a number of times before it is ready. -/
  | warming (left : Nat) (contracts : Contracts)
  deriving DecidableEq, Inhabited

/-- A factory with what it has handed out and got back. -/
structure Factory where
  maker : Maker
  acquired : Nat := 0
  released : Nat := 0
  deriving DecidableEq, Inhabited

/-- The content of a provider, by its source. -/
inductive Payload where
  | shared (source : Nat) (component : Component)
  /-- The instances of the factory with this place in the pool. -/
  | made (factory : Nat)
  deriving DecidableEq, Inhabited

namespace Payload

/-- Whether every consumer gets the same instance. -/
def isShared : Payload → Bool
  | shared .. => true
  | made _ => false

/-- Whether two payloads have one source. -/
def sameSource : Payload → Payload → Bool
  | shared a _, shared b _ => a == b
  | made a, made b => a == b
  | _, _ => false

/-- The written form of a payload, which tells its sort alone. -/
def render (p : Payload) : String :=
  "Payload \x7b kind: \"" ++ (if p.isShared then "singleton" else "factory") ++ "\" \x7d"

end Payload

/-- Why an instance could not be acquired. -/
inductive AcquireError where
  | broken
  /-- The factory refuses; it will do so this often, counting this time. -/
  | notReady (left : Nat)
  deriving DecidableEq, Inhabited

def AcquireError.message : AcquireError → String
  | broken => "factory is broken"
  | notReady n => "not ready, " ++ toString n ++ " left"

/-- An instance in the hands of a consumer. -/
structure Guard where
  component : Component
  factory : Option Nat
  deriving DecidableEq, Inhabited

/-- What a factory answers, and the factory after it. -/
def Factory.acquire (f : Factory) : Except AcquireError Component × Factory :=
  match f.maker with
  | .ready cs => (.ok (.marker cs), { f with acquired := f.acquired + 1 })
  | .broken => (.error .broken, f)
  | .warming 0 cs => (.ok (.marker cs), { f with acquired := f.acquired + 1 })
  | .warming (n + 1) cs => (.error (.notReady (n + 1)), { f with maker := .warming n cs })

/-- The factories of a run, and how many shared sources it has. -/
structure Pool where
  /-- The factories by their place. -/
  factories : List Factory := []
  shared : Nat := 0
  deriving DecidableEq, Inhabited

namespace Pool

/-- A payload with a component for all as a source of its own. -/
def share (p : Pool) (c : Component) : Payload × Pool :=
  (.shared p.shared c, { p with shared := p.shared + 1 })

/-- A payload with a factory as a source of its own. -/
def build (p : Pool) (m : Maker) : Payload × Pool :=
  (.made p.factories.length, { p with factories := p.factories ++ [{ maker := m }] })

def acquire (p : Pool) : Payload → Except AcquireError Guard × Pool
  | .shared _ c => (.ok ⟨c, none⟩, p)
  | .made i =>
    match p.factories[i]? with
    | none => (.error .broken, p)
    | some f =>
      let (answer, after) := f.acquire
      (answer.map fun c => ⟨c, some i⟩, { p with factories := p.factories.set i after })

def release (p : Pool) (g : Guard) : Pool :=
  match g.factory with
  | none => p
  | some i =>
    { p with factories := p.factories.modify i fun f => { f with released := f.released + 1 } }

end Pool

end RouteBinding
