import RouteBinding.Dispatcher.Closing
import RouteBinding.Dispatcher.Event
import RouteBinding.Proofs.Site.Call

/-!
# Histories of a dispatcher

A dispatcher is acted on by its users and by its host, one action after the other.  A history keeps, beside
the dispatcher, what the last pass read: a pass that begins during an action reads the registry as the
action leaves it (`Tracked.act`).  All events do the same with the change that each of them makes of the registry
(`Dispatcher.act_event`).  A dispatcher that is closed stays closed (`Dispatcher.act_closed`).
-/

namespace RouteBinding

open Property

/-- What a host can be told from outside. -/
inductive Instruction where
  | advertise (properties : Map)
  /-- It is to refuse the calls for a group. -/
  | refuse (name : String)
  | accept (name : String)
  /-- It is to follow a script for a group. -/
  | follow (name : String) (script : Host.Script)
  /-- It is to forget what it was told for a group. -/
  | restore (name : String)

variable [Route.Routing]

/-- A host after it was told something. -/
def Host.Recording.told (h : Recording) : Instruction → Recording
  | .advertise properties => { h with memory := { h.memory with properties } }
  | .refuse name => h.failFor name
  | .accept name => h.succeedFor name
  | .follow name script => h.follow name script
  | .restore name => h.restore name

/-- What can happen to a dispatcher. -/
inductive Action where
  | upsert (kind : Kind) (payload : Payload) (props : Map)
  /-- The provider of a kind with the identity in a property map is removed. -/
  | removeDeclared (kind : Kind) (props : Map)
  | remove (id : ServiceId)
  | trigger
  | openBatch
  | endBatch
  /-- It is to close, and this is waited for. -/
  | close
  | closeLater
  /-- A closing that waits gives up. -/
  | expireClose
  /-- The next registration with the host is to wait. -/
  | holdNext
  | holdNone
  /-- The pass that is held goes on. -/
  | release
  | tell (instruction : Instruction)
  | supply (pool : Pool)
  /-- Someone else changes what the host serves. -/
  | interfere (mounted : Table ServiceId Host.Mounted)

/-- Whether an action leaves what the host serves to the dispatcher. -/
def Action.own : Action → Bool
  | interfere _ => false
  | _ => true

namespace Dispatcher

/-- A dispatcher after an action. -/
def act (d : Dispatcher) : Action → Dispatcher
  | .upsert kind payload props => (d.upsert kind payload props).2
  | .removeDeclared kind props => (d.removeDeclared kind props).2
  | .remove id => (d.remove id).2
  | .trigger => d.trigger
  | .openBatch => d.openBatch
  | .endBatch => d.endBatch
  | .close => d.close.2
  | .closeLater => d.closeLater
  | .expireClose => d.expireClose
  | .holdNext => d.holdNext
  | .holdNone => d.holdNone
  | .release => d.release
  | .tell instruction => { d with site := { d.site with host := d.site.host.told instruction } }
  | .supply pool => { d with pool }
  | .interfere mounted =>
    let host := d.site.host
    { d with site := { d.site with host := { host with memory := { host.memory with mounted } } } }

/-- The number of passes that have begun. -/
def begun (d : Dispatcher) : Nat := d.passes + if d.running.isSome then 1 else 0

end Dispatcher

/-- What an event makes of a registry. -/
structure Change where
  registry : Registry
  /-- Whether there was anything to do, so that a pass is requested. -/
  found : Bool
  notices : List Notice

/-- The change that an event asks for, if an action is one. -/
def Registry.change (r : Registry) : Action → Option Change
  | .upsert kind payload props =>
    let result := r.upsert kind payload props
    some ⟨result.2, result.1.isOk, result.1.toOption.toList.map (.upserted kind)⟩
  | .removeDeclared kind props =>
    some <|
      match declaredId? props with
      | none => ⟨r, false, [.removalIgnored kind]⟩
      | some id =>
        let result := r.remove kind id
        ⟨result.2, result.1, if result.1 then [.removed kind id] else []⟩
  | .remove id =>
    let result := r.removeAny id
    some ⟨result.2, result.1.isSome, []⟩
  | .trigger => some ⟨r, true, []⟩
  | _ => none

/-- A dispatcher that takes events after a change. -/
def Dispatcher.changed (d : Dispatcher) (c : Change) : Dispatcher :=
  let d := { d with registry := c.registry }.note c.notices
  if c.found then d.trigger else d

/-- A dispatcher with what its last pass read. -/
structure Tracked where
  state : Dispatcher
  /-- What the last pass read, if there was one. -/
  last : Option Reading

/-- A tracked dispatcher after an action. -/
def Tracked.act (t : Tracked) (a : Action) : Tracked :=
  let d := t.state.act a
  ⟨d, if d.begun = t.state.begun then t.last
    else some { t.state with registry := d.registry }.reading⟩

/-- What happened to a dispatcher since it was made. -/
structure History (settings : Settings) (content : Payload) where
  host : Host.Recording
  pool : Pool
  actions : List Action

namespace History

variable {settings : Settings} {content : Payload} (h : History settings content)

/-- The dispatcher at the start. -/
def start : Tracked := ⟨.new settings h.host content h.pool, none⟩

/-- The dispatcher at the end. -/
def final : Tracked := h.actions.foldl Tracked.act h.start

/-- The host serves nothing at the start, and then what the dispatcher asks it to. -/
def Driven : Prop := h.host.memory.mounted = ∅ ∧ ∀ a ∈ h.actions, a.own = true

end History

/-! ### Closed dispatchers -/

namespace Dispatcher

theorem goOn_status (d : Dispatcher) (r : Running) : (d.goOn r).status = d.status := by
  unfold goOn
  dsimp only
  split <;> rfl

theorem startPass_status (d : Dispatcher) : d.startPass.status = d.status :=
  goOn_status _ _

theorem resume_status (d : Dispatcher) (r : Running) : (d.resume r).status = d.status := by
  unfold resume
  cases r.left with
  | nil => rfl
  | cons g rest => exact goOn_status _ _

theorem drain_status (d : Dispatcher) : d.drain.status = d.status := by
  unfold drain
  split
  · exact startPass_status d
  · rfl

theorem not_isOpen {d : Dispatcher} (h : d.status = .closed) : d.isOpen = false := by
  rw [isOpen, h]
  rfl

theorem note_nil (d : Dispatcher) : d.note [] = d := by
  simp [note, Site.note]

/-- All events are changes of the registry, behind which a pass may begin. -/
theorem act_event {d : Dispatcher} {a : Action} {c : Change} (h : d.registry.change a = some c) :
    d.act a = if d.isOpen then d.changed c else d := by
  cases a with
  | upsert kind payload props =>
      obtain rfl := Option.some.inj h
      show (d.upsert kind payload props).2 = _
      unfold upsert changed
      cases d.registry.upsert kind payload props with
      | mk result registry =>
          cases result with
          | error e =>
              split
              · exact (note_nil _).symm
              · rfl
          | ok id => split <;> rfl
  | removeDeclared kind props =>
      obtain rfl := Option.some.inj h
      show (d.removeDeclared kind props).2 = _
      unfold removeDeclared
      cases declaredId? props with
      | none => split <;> rfl
      | some id =>
          dsimp only
          cases d.registry.remove kind id with
          | mk found registry =>
              cases found with
              | false =>
                  split
                  · exact (note_nil _).symm
                  · rfl
              | true => split <;> rfl
  | remove id =>
      obtain rfl := Option.some.inj h
      show (d.remove id).2 = _
      unfold remove changed
      rw [note_nil]
      cases d.registry.removeAny id with
      | mk found registry => cases found <;> split <;> rfl
  | trigger =>
      obtain rfl := Option.some.inj h
      have hsame : d.changed ⟨d.registry, true, []⟩ = d.trigger := by
        unfold changed
        rw [note_nil]
        rfl
      show d.trigger = _
      rw [hsame]
      by_cases hopen : d.isOpen = true
      · rw [if_pos hopen]
      · rw [if_neg hopen, trigger, if_neg hopen]
  | _ => cases h

theorem closeOnce_status (d : Dispatcher) : d.closeOnce.status = .closed := by
  unfold closeOnce
  by_cases hclosed : (d.status == .closed) = true
  · rw [if_pos hclosed]
    exact beq_iff_eq.1 hclosed
  · rw [if_neg hclosed]
    rfl

theorem expireClose_closed {d : Dispatcher} (h : d.status = .closed) : d.expireClose.status = .closed := by
  unfold expireClose
  split
  · exact h
  · rw [drain_status]
    show (if (d.status == .closing) = true then Status.opened else d.status) = .closed
    rw [h]
    rfl

/-- A dispatcher that is closed stays closed, whatever happens. -/
theorem act_closed {d : Dispatcher} (h : d.status = .closed) (a : Action) : (d.act a).status = .closed := by
  have hopen := not_isOpen h
  have hevent : ∀ c, d.registry.change a = some c → (d.act a).status = .closed := by
    intro c hc
    rw [act_event hc, hopen]
    exact h
  cases a with
  | upsert kind payload props => exact hevent _ rfl
  | removeDeclared kind props => exact hevent _ rfl
  | remove id => exact hevent _ rfl
  | trigger => exact hevent _ rfl
  | openBatch => exact h
  | endBatch =>
      show d.endBatch.status = _
      unfold endBatch
      split
      · exact h
      · rw [drain_status]
        exact h
  | close =>
      show d.close.2.status = _
      rw [close, h]
      simp [closeOnce_status]
  | closeLater =>
      show d.closeLater.status = _
      rw [closeLater, h]
      simp [closeOnce_status]
  | expireClose => exact expireClose_closed h
  | holdNext => exact h
  | holdNone => exact h
  | release =>
      show d.release.status = _
      unfold release
      cases d.running with
      | none => exact h
      | some r =>
          dsimp only
          unfold settleClosings
          split
          · exact closeOnce_status _
          · rw [drain_status, resume_status]
            exact h
  | tell instruction => exact h
  | supply pool => exact h
  | interfere mounted => exact h

theorem foldl_closed {d : Dispatcher} (h : d.status = .closed) (actions : List Action) :
    (actions.foldl act d).status = .closed :=
  List.foldlRecOn actions act (motive := fun d => d.status = .closed) h fun _ hd a _ => act_closed hd a

end Dispatcher

end RouteBinding
