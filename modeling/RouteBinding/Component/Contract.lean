/-!
# Contracts

What an interceptor can do for a route group.  A component advertises a set of contracts, kept in the fixed
order of `Contract.every`.
-/

namespace RouteBinding

/-- One service that an interceptor can render. -/
inductive Contract where
  | requestFilter
  /-- Runs after a handler has produced a response. -/
  | responseFilter
  | reader
  | writer
  | exceptionMapper
  | contextResolver
  | feature
  deriving DecidableEq, Inhabited

namespace Contract

/-- The contracts in their fixed order. -/
def every : List Contract :=
  [requestFilter, responseFilter, reader, writer, exceptionMapper, contextResolver, feature]

def name : Contract → String
  | requestFilter => "request_filter"
  | responseFilter => "response_filter"
  | reader => "reader"
  | writer => "writer"
  | exceptionMapper => "exception_mapper"
  | contextResolver => "context_resolver"
  | feature => "feature"

/-- The bit of a contract in the mask of a set. -/
def bit : Contract → Nat
  | requestFilter => 1
  | responseFilter => 2
  | reader => 4
  | writer => 8
  | exceptionMapper => 16
  | contextResolver => 32
  | feature => 64

def named? (s : String) : Option Contract := every.find? fun c => c.name == s

end Contract

/-- A set of contracts. -/
structure Contracts where
  /-- The members, each once and in the fixed order. -/
  members : List Contract
  deriving DecidableEq, Inhabited

namespace Contracts

/-- The set of the contracts in a list. -/
def ofList (cs : List Contract) : Contracts := ⟨Contract.every.filter fun c => cs.contains c⟩

def none : Contracts := ⟨[]⟩

def isEmpty (s : Contracts) : Bool := s.members.isEmpty

/-- The mask of a set: the sum of the bits of its members. -/
def mask (s : Contracts) : Nat := s.members.foldr (fun c n => c.bit + n) 0

end Contracts

end RouteBinding
