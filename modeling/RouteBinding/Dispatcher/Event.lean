import RouteBinding.Dispatcher.Basic

/-!
# Events

Every event changes the registry and requests a pass.  A pass that is requested while another is held, or
while a batch is open, is run afterwards, once for all such requests.
-/

namespace RouteBinding.Dispatcher

variable [Route.Routing]

open Property

def trigger (d : Dispatcher) : Dispatcher :=
  if d.isOpen then { d with dirty := true }.drain else d

/-- Register a provider, or replace the one of its kind with its identity. -/
def upsert (d : Dispatcher) (kind : Kind) (payload : Payload) (props : Map) :
    Except DispatchError ServiceId × Dispatcher :=
  if d.isOpen then
    match d.registry.upsert kind payload props with
    | (.error e, registry) => (.error (.idInUse e), { d with registry })
    | (.ok id, registry) => (.ok id, ({ d with registry }.note [.upserted kind id]).trigger)
  else (.error .closed, d)

/-- Remove the provider of a kind with the identity in a property map. -/
def removeDeclared (d : Dispatcher) (kind : Kind) (props : Map) :
    Except DispatchError Bool × Dispatcher :=
  if d.isOpen then
    match declaredId? props with
    | none => (.ok false, d.note [.removalIgnored kind])
    | some id =>
      match d.registry.remove kind id with
      | (true, registry) => (.ok true, ({ d with registry }.note [.removed kind id]).trigger)
      | (false, registry) => (.ok false, { d with registry })
  else (.error .closed, d)

/-- Remove the provider with an identity, whatever its kind. -/
def remove (d : Dispatcher) (id : ServiceId) : Except DispatchError Bool × Dispatcher :=
  if d.isOpen then
    match d.registry.removeAny id with
    | (some _, registry) => (.ok true, { d with registry }.trigger)
    | (none, registry) => (.ok false, { d with registry })
  else (.error .closed, d)

/-- Open a batch: no pass is run until every batch has ended. -/
def openBatch (d : Dispatcher) : Dispatcher := { d with batches := d.batches + 1 }

/-- End a batch, if one is open. -/
def endBatch (d : Dispatcher) : Dispatcher :=
  if d.batches = 0 then d else { d with batches := d.batches - 1 }.drain

end RouteBinding.Dispatcher
