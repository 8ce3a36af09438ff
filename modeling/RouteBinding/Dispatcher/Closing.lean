import RouteBinding.Dispatcher.Basic

/-!
# Holding a pass, and closing

A pass that is held goes on when it is released.  Then at most one more pass runs, for all that was requested
in the meantime, and after it the closings that wait have their turn.  Closing unregisters every group and
forgets every provider.  While a pass is held, closing waits and the dispatcher takes no events; a closing
that has waited for as long as the settings allow gives up, and the dispatcher is open again.
-/

namespace RouteBinding.Dispatcher

variable [Route.Routing]

/-- Let the next registration with the host wait. -/
def holdNext (d : Dispatcher) : Dispatcher :=
  { d with site := { d.site with host := { d.site.host with gated := true } } }

def holdNone (d : Dispatcher) : Dispatcher :=
  { d with site := { d.site with host := { d.site.host with gated := false } } }

/-- Close at once: unregister every group, forget every provider, and publish that nothing is left. -/
def closeNow (d : Dispatcher) : Dispatcher :=
  let site := { d.site with report := {} }.abandon
  { d with
    site := site.note [.closed site.report.unregistered]
    registry := d.registry.clear
    default := none
    failures := {}
    active := []
    published := d.published ++ [{}]
    dirty := false
    status := .closed }

/-- Close now, unless the dispatcher is closed. -/
def closeOnce (d : Dispatcher) : Dispatcher := if d.status == .closed then d else d.closeNow

/-- Begin to wait for the pass that is held, in order to close. -/
def beginClose (d : Dispatcher) : Dispatcher :=
  { d with
    status := if d.status == .opened then .closing else d.status
    waiting := d.waiting + 1 }

/-- The closing that has waited longest gives up. -/
def expireClose (d : Dispatcher) : Dispatcher :=
  if d.waiting = 0 then d
  else
    let timeout := d.settings.shutdownTimeout
    let d := d.note [.closeTimedOut timeout]
    drain
      { d with
        status := if d.status == .closing then .opened else d.status
        waiting := d.waiting - 1
        closings := d.closings ++ [.error (.shutdownTimeout timeout)] }

/-- Every closing that waits gives up, in order. -/
def expireAll : Nat → Dispatcher → Dispatcher
  | 0, d => d
  | n + 1, d => expireAll n d.expireClose

/-- Close in the background: at once if no pass is held, else when it is over. -/
def closeLater (d : Dispatcher) : Dispatcher :=
  if d.running.isSome && d.status != .closed then d.beginClose
  else
    let d := d.closeOnce
    { d with closings := d.closings ++ [.ok ()] }

/-- Close and wait for it.  While a pass is held the wait is in vain, and those that have waited before give
up first. -/
def close (d : Dispatcher) : Except DispatchError Unit × Dispatcher :=
  if d.running.isSome && d.status != .closed then
    -- Those that have waited longer give up earlier.
    let d := expireAll d.waiting d
    (.error (.shutdownTimeout d.settings.shutdownTimeout),
      d.note [.closeTimedOut d.settings.shutdownTimeout])
  else (.ok (), d.closeOnce)

/-- Give the closings that wait their turn, if no pass is held. -/
def settleClosings (d : Dispatcher) : Dispatcher :=
  if d.running.isNone && d.waiting > 0 then
    let d := d.closeOnce
    { d with closings := d.closings ++ List.replicate d.waiting (.ok ()), waiting := 0 }
  else d

/-- Let a pass that is held go on: the call that waits is done, and then the rest. -/
def resume (d : Dispatcher) (r : Running) : Dispatcher :=
  match r.left with
  | [] => d.finishPass r.failures
  | g :: rest =>
    -- Only a registration can be held.
    { d with site := d.site.settle .register g, running := none }.goOn { r with left := rest }

/-- Let the pass that is held go on, and then what has waited for it. -/
def release (d : Dispatcher) : Dispatcher :=
  match d.running with
  | none => d
  | some r => (d.resume r).drain.settleClosings

end RouteBinding.Dispatcher
