import RouteBinding.Host.Memory
import RouteBinding.Text.Quoted

/-!
# A host that records its calls

A recording host writes down every call before anything else happens, and then does what the host inside it
does, unless it was told to fail for the name of the group.  It can also be told to let the next registration
wait, which divides a call into its announcement and its performance.
-/

namespace RouteBinding.Host

/-- What a host can be asked to do for a group. -/
inductive Operation where
  | register
  | reload
  | unregister
  deriving DecidableEq, Inhabited

namespace Operation

def label : Operation → String
  | register => "register"
  | reload => "reload"
  | unregister => "unregister"

/-- The word for an operation, with a capital. -/
def title : Operation → String
  | register => "Register"
  | reload => "Reload"
  | unregister => "Unregister"

end Operation

/-- A call that a host has seen. -/
structure Call where
  operation : Operation
  group : Group
  deriving DecidableEq, Inhabited

def Call.render (c : Call) : String := c.operation.title ++ "(" ++ Text.quoted c.group.name ++ ")"

/-- What a host was told to do in place of a call. -/
inductive Script where
  /-- Give up, with a note if there is one. -/
  | panic (note : Option String)
  /-- Answer with an error of its own. -/
  | answer (text : String)
  deriving DecidableEq, Inhabited

/-- The error that a script leads to. -/
def Script.error : Script → Error
  | panic note => .panicked (note.getD "unknown panic")
  | answer text => .custom text

variable [Route.Routing]

/-- A host in memory with the calls it has seen and what it was told. -/
structure Recording where
  memory : Memory := {}
  calls : List Call := []
  /-- The names of the groups for which calls are refused. -/
  refused : List String := []
  /-- What happens in place of the calls for a group, by its name. -/
  scripts : Table String Script := ∅
  /-- Whether the next registration waits. -/
  gated : Bool := false
  deriving Inhabited

namespace Recording

def failFor (h : Recording) (name : String) : Recording :=
  { h with refused := name :: h.refused.filter (· ≠ name) }

/-- No longer refuse the calls for a group. -/
def succeedFor (h : Recording) (name : String) : Recording :=
  { h with refused := h.refused.filter (· ≠ name) }

/-- Follow a script for a group, in place of any other. -/
def follow (h : Recording) (name : String) (s : Script) : Recording :=
  { h with scripts := h.scripts.insert name s }

/-- Forget all that was told for a group. -/
def restore (h : Recording) (name : String) : Recording :=
  { h.succeedFor name with scripts := h.scripts.erase name }

def announce (h : Recording) (op : Operation) (g : Group) : Recording :=
  { h with calls := h.calls ++ [⟨op, g⟩] }

/-- What the host inside makes of a call. -/
def inner (h : Recording) (op : Operation) (g : Group) : Except Error Memory :=
  match op with
  | .register => h.memory.register g
  | .reload => h.memory.reload g
  | .unregister => h.memory.unregister g

/-- What a call comes to: what the script says, else a refusal, else what the host inside makes of it. -/
def outcome (h : Recording) (op : Operation) (g : Group) : Except Error Memory :=
  match h.scripts.get? g.name with
  | some s => .error s.error
  | none =>
    if h.refused.contains g.name then .error (.rejected g.name "injected failure")
    else h.inner op g

/-- Do what an announced call asks for. -/
def perform (h : Recording) (op : Operation) (g : Group) : Except Error Unit × Recording :=
  match h.outcome op g with
  | .ok m => (.ok (), { h with memory := m })
  | .error e => (.error e, h)

/-- Announce a call and do what it asks for. -/
def call (h : Recording) (op : Operation) (g : Group) : Except Error Unit × Recording :=
  (h.announce op g).perform op g

/-- Whether a call that is announced has to wait: it registers a group without a script. -/
def holds (h : Recording) (op : Operation) (g : Group) : Bool :=
  h.gated && op == .register && !h.scripts.contains g.name

/-- The number of registrations among the calls. -/
def registrations (h : Recording) : Nat := h.calls.countP fun c => c.operation == .register

end Recording

end RouteBinding.Host
