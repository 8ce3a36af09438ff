import RouteBinding.Proofs.Run.Notes

/-!
# What a call asks of the next pass

A call to a dispatcher that takes events changes the registry, requests a pass, or opens or ends a batch
(`Requests.file`), and is answered with what the registry makes of it (`Registry.reply`).  Nothing else happens,
but that a pass may begin behind it (`Dispatcher.act_like`).  Which removals are pending makes no difference to
the answers (`Registry.Alike.reply`).
-/

namespace RouteBinding

open Property

/-! ### Pending removals -/

namespace Registry

theorem upsert_drain (r : Registry) (kind : Kind) (payload : Payload) (props : Map) :
    r.drain.2.upsert kind payload props =
      ((r.upsert kind payload props).1, (r.upsert kind payload props).2.drain.2) := by
  unfold upsert assignId
  cases claimedId? props with
  | none =>
      dsimp only [drain]
      cases r.owners.get? r.nextId with
      | none => cases kind <;> rfl
      | some owner =>
          dsimp only
          split
          · cases kind <;> rfl
          · rfl
  | some id =>
      dsimp only [drain]
      cases r.owners.get? id with
      | none => cases kind <;> rfl
      | some owner =>
          dsimp only
          split
          · cases kind <;> rfl
          · rfl

theorem remove_drain (r : Registry) (kind : Kind) (id : ServiceId) :
    (r.drain.2.remove kind id).1 = (r.remove kind id).1 ∧
      (r.drain.2.remove kind id).2.drain.2 = (r.remove kind id).2.drain.2 := by
  have howners : r.drain.2.owners = r.owners := rfl
  unfold remove
  rw [howners]
  by_cases howner : r.owners.get? id = some kind
  · rw [if_pos howner, if_pos howner]
    dsimp only [drain]
    cases kind
    case group => cases r.groups.get? id <;> exact ⟨rfl, rfl⟩
    case handler => cases r.handlers.get? id <;> exact ⟨rfl, rfl⟩
    case interceptor => cases r.interceptors.get? id <;> exact ⟨rfl, rfl⟩
  · rw [if_neg howner, if_neg howner]
    exact ⟨rfl, rfl⟩

/-- Registries that differ only in the removals that are pending. -/
def Alike (r s : Registry) : Prop := r.drain.2 = s.drain.2

variable {r s : Registry}

theorem Alike.upsert (h : r.Alike s) (kind : Kind) (payload : Payload) (props : Map) :
    (r.upsert kind payload props).1 = (s.upsert kind payload props).1 ∧
      (r.upsert kind payload props).2.Alike (s.upsert kind payload props).2 := by
  have hboth := (r.upsert_drain kind payload props).symm
  rw [h, s.upsert_drain kind payload props] at hboth
  exact Prod.mk.inj hboth

theorem Alike.remove (h : r.Alike s) (kind : Kind) (id : ServiceId) :
    (r.remove kind id).1 = (s.remove kind id).1 ∧ (r.remove kind id).2.Alike (s.remove kind id).2 := by
  obtain ⟨hr, hrest⟩ := r.remove_drain kind id
  obtain ⟨hs, hsest⟩ := s.remove_drain kind id
  unfold Alike at h ⊢
  rw [h] at hr hrest
  exact ⟨hr.symm.trans hs, hrest.symm.trans hsest⟩

theorem Alike.removeFirst (h : r.Alike s) (id : ServiceId) (kinds : List Kind) :
    (r.removeFirst id kinds).1 = (s.removeFirst id kinds).1 ∧
      (r.removeFirst id kinds).2.Alike (s.removeFirst id kinds).2 := by
  induction kinds generalizing r s with
  | nil => exact ⟨rfl, h⟩
  | cons kind rest ih =>
      obtain ⟨hfound, hleft⟩ := h.remove kind id
      unfold Registry.removeFirst
      cases hr : r.remove kind id with
      | mk found r' =>
          cases hs : s.remove kind id with
          | mk found' s' =>
              rw [hr, hs] at hfound hleft
              obtain rfl : found = found' := hfound
              cases found with
              | true => exact ⟨rfl, hleft⟩
              | false => exact ih hleft

end Registry

variable [Route.Routing]

namespace Action

/-- Whether an action is a call that others may make while a pass is held. -/
def isCall : Action → Bool
  | upsert .. | removeDeclared .. | remove _ | trigger | openBatch | endBatch | close => true
  | _ => false

def isClose : Action → Bool
  | close => true
  | _ => false

/-- The number of open batches after a call. -/
def batches (n : Nat) : Action → Nat
  | openBatch => n + 1
  | endBatch => n - 1
  | _ => n

end Action

/-- What an event comes to for its caller. -/
inductive Reply where
  | registered (answer : Except DispatchError ServiceId)
  | removed (answer : Except DispatchError Bool)
  /-- A trigger has no answer. -/
  | triggered
  deriving DecidableEq

/-- Whether an event that was replied to in this way has requested a pass. -/
def Reply.requests : Reply → Bool
  | registered (.ok _) => true
  | removed (.ok found) => found
  | triggered => true
  | _ => false

namespace Dispatcher

/-- What an event comes to for its caller, if an action is one. -/
def reply (d : Dispatcher) : Action → Option Reply
  | .upsert kind payload props => some (.registered (d.upsert kind payload props).1)
  | .removeDeclared kind props => some (.removed (d.removeDeclared kind props).1)
  | .remove id => some (.removed (d.remove id).1)
  | .trigger => some .triggered
  | _ => none

/-- What the events among some actions come to, one after the other. -/
def replies (d : Dispatcher) : List Action → List Reply
  | [] => []
  | a :: rest => (d.reply a).toList ++ (d.act a).replies rest

end Dispatcher

/-- What a registry makes of an event, for a dispatcher that takes events. -/
def Registry.reply (r : Registry) : Action → Option Reply
  | .upsert kind payload props => some (.registered ((r.upsert kind payload props).1.mapError .idInUse))
  | .removeDeclared kind props =>
    some (.removed (.ok ((declaredId? props).any fun id => (r.remove kind id).1)))
  | .remove id => some (.removed (.ok (r.removeAny id).1.isSome))
  | .trigger => some .triggered
  | _ => none

/-- What the next pass will find, and whether it may begin. -/
structure Requests where
  registry : Registry
  dirty : Bool
  batches : Nat

namespace Requests

/-- What a call leaves where the dispatcher takes events. -/
def file (q : Requests) (a : Action) : Requests :=
  let c := (q.registry.change a).getD ⟨q.registry, false, []⟩
  ⟨c.registry, q.dirty || c.found, a.batches q.batches⟩

/-- An event neither opens nor ends a batch. -/
theorem file_event {q : Requests} {a : Action} {c : Change} (h : q.registry.change a = some c) :
    q.file a = ⟨c.registry, q.dirty || c.found, q.batches⟩ := by
  have hbatches : a.batches q.batches = q.batches := by
    cases a with
    | openBatch => cases h
    | endBatch => cases h
    | _ => rfl
  simp [file, h, hbatches]

/-- A call that is no event leaves the registry as it is. -/
theorem file_other {q : Requests} {a : Action} (h : q.registry.change a = none) :
    q.file a = { q with batches := a.batches q.batches } := by
  simp [file, h]

/-- What some calls leave, one after the other. -/
def after (q : Requests) (calls : List Action) : Requests := calls.foldl file q

@[simp]
theorem after_cons (q : Requests) (a : Action) (rest : List Action) :
    q.after (a :: rest) = (q.file a).after rest := rfl

end Requests

namespace Dispatcher

def requests (d : Dispatcher) : Requests := ⟨d.registry, d.dirty, d.batches⟩

/-- A dispatcher of which this is asked, instead of what was asked before. -/
def filed (d : Dispatcher) (q : Requests) : Dispatcher :=
  { d with registry := q.registry, dirty := q.dirty, batches := q.batches }

@[simp]
theorem filed_requests (d : Dispatcher) : d.filed d.requests = d := rfl

@[simp]
theorem requests_filed (d : Dispatcher) (q : Requests) : (d.filed q).requests = q := rfl

theorem Like.requests {d e : Dispatcher} (h : d.Like e) : e.requests = d.requests := by
  obtain ⟨s, -, rfl⟩ := h
  rfl

theorem Like.filed {d e : Dispatcher} (h : d.Like e) (q : Requests) : (d.filed q).Like (e.filed q) := by
  obtain ⟨s, hs, rfl⟩ := h
  exact ⟨s, hs, rfl⟩

end Dispatcher

/-! ### What is asked of registries -/

namespace Registry

variable {r s : Registry}

theorem Alike.reply (h : r.Alike s) (a : Action) : r.reply a = s.reply a := by
  cases a with
  | upsert kind payload props =>
      have hanswer := (h.upsert kind payload props).1
      exact congrArg (fun answer => some (Reply.registered (answer.mapError DispatchError.idInUse))) hanswer
  | removeDeclared kind props =>
      show some (Reply.removed (.ok ((declaredId? props).any _))) = some (Reply.removed (.ok _))
      cases declaredId? props with
      | none => rfl
      | some id => exact congrArg (fun found => some (Reply.removed (.ok found))) (h.remove kind id).1
  | remove id =>
      have hfound := (h.removeFirst id Kind.every).1
      exact congrArg (fun found => some (Reply.removed (.ok (Option.isSome found)))) hfound
  | _ => rfl

end Registry

namespace Requests

variable {q q' : Requests}

/-- Which removals are pending makes no difference to those that are registered. -/
theorem file_alike (h : q.registry.Alike q'.registry) (a : Action) :
    (q.file a).registry.Alike (q'.file a).registry := by
  cases a with
  | upsert kind payload props => exact (h.upsert kind payload props).2
  | removeDeclared kind props =>
      cases hid : declaredId? props with
      | none => simpa [file, Registry.change, hid] using h
      | some id => simpa [file, Registry.change, hid] using (h.remove kind id).2
  | remove id => exact (h.removeFirst id Kind.every).2
  | _ => exact h

/-- A pass is requested by the events whose reply says so. -/
theorem file_dirty (q : Requests) (a : Action) :
    (q.file a).dirty = (q.dirty || (q.registry.reply a).any Reply.requests) := by
  cases a with
  | upsert kind payload props =>
      have hdone : ∀ answer : Except IdInUse ServiceId,
          Reply.requests (.registered (answer.mapError .idInUse)) = answer.isOk := by
        rintro (e | id) <;> rfl
      simp [file, Registry.change, Registry.reply, hdone]
  | removeDeclared kind props =>
      cases hid : declaredId? props <;> simp [file, Registry.change, Registry.reply, Reply.requests, hid]
  | remove id => simp [file, Registry.change, Registry.reply, Reply.requests]
  | trigger => simp [file, Registry.change, Registry.reply, Reply.requests]
  | _ => simp [file, Registry.change, Registry.reply]

end Requests

namespace Dispatcher

variable {d e : Dispatcher} {a : Action}

theorem isOpen_of_opened (hopen : d.status = .opened) : d.isOpen = true := by
  simp [isOpen, hopen]

/-- What a dispatcher that takes events replies follows from its registry. -/
theorem reply_eq (hopen : d.status = .opened) (a : Action) : d.reply a = d.registry.reply a := by
  have hopen := isOpen_of_opened hopen
  cases a with
  | upsert kind payload props =>
      show some (Reply.registered (d.upsert kind payload props).1) = some (Reply.registered _)
      rw [upsert, if_pos hopen]
      cases d.registry.upsert kind payload props with
      | mk answer r => cases answer <;> rfl
  | removeDeclared kind props =>
      show some (Reply.removed (d.removeDeclared kind props).1) = some (Reply.removed _)
      rw [removeDeclared, if_pos hopen]
      cases declaredId? props with
      | none => rfl
      | some id =>
          dsimp only [Option.any]
          cases d.registry.remove kind id with
          | mk found r => cases found <;> rfl
  | remove id =>
      show some (Reply.removed (d.remove id).1) = some (Reply.removed _)
      rw [remove, if_pos hopen]
      cases d.registry.removeAny id with
      | mk found r => cases found <;> rfl
  | _ => rfl

/-- A change is filed, and then a pass may begin if there was something to do. -/
theorem changed_like (hopen : d.isOpen = true) (hready : d.ready = false) (c : Change) :
    (d.changed c).Like (d.filed ⟨c.registry, d.dirty || c.found, d.batches⟩).drain := by
  have hnoted : (({ d with registry := c.registry } : Dispatcher).note c.notices).Like
      { d with registry := c.registry } := (Like.note _ _).symm
  unfold changed
  cases c.found with
  | true =>
      have hdirty := hnoted.filed ⟨c.registry, true, d.batches⟩
      dsimp only
      rw [Bool.or_true, if_pos rfl, trigger_open (by exact hopen)]
      exact hdirty.drain
  | false =>
      have hstill : (d.filed ⟨c.registry, d.dirty, d.batches⟩).ready = false := hready
      rw [Bool.or_false, if_neg Bool.false_ne_true, drain_of_not_ready hstill]
      exact hnoted

/-- A call that does not close files its request, and then a pass may begin. -/
theorem act_like (hopen : d.status = .opened) (hready : d.ready = false) (hcall : a.isCall = true)
    (hclose : a.isClose = false) : (d.act a).Like (d.filed (d.requests.file a)).drain := by
  have hopen := isOpen_of_opened hopen
  have hevent : ∀ c, d.registry.change a = some c →
      (d.act a).Like (d.filed (d.requests.file a)).drain := by
    intro c hc
    rw [act_event hc, if_pos hopen, Requests.file_event (q := d.requests) hc]
    exact changed_like hopen hready c
  cases a with
  | upsert kind payload props => exact hevent _ rfl
  | removeDeclared kind props => exact hevent _ rfl
  | remove id => exact hevent _ rfl
  | trigger => exact hevent _ rfl
  | openBatch =>
      have hopened : d.openBatch.ready = false := d.openBatch_ready
      rw [Requests.file_other rfl]
      show d.openBatch.Like d.openBatch.drain
      rw [drain_of_not_ready hopened]
      exact .refl _
  | endBatch =>
      rw [Requests.file_other rfl]
      show d.endBatch.Like (d.filed ⟨d.registry, d.dirty, d.batches - 1⟩).drain
      unfold endBatch
      split
      · next hnone =>
        have hstill : d.batches - 1 = d.batches := by omega
        rw [hstill, show d.filed ⟨d.registry, d.dirty, d.batches⟩ = d from rfl, drain_of_not_ready hready]
        exact .refl d
      · exact .refl _
  | close => cases hclose
  | _ => cases hcall

theorem drain_alike (d : Dispatcher) : d.drain.registry.Alike d.registry := by
  rw [drain_eq]
  split
  · rw [startPass_registry]
    rfl
  · rfl

/-- A call that does not close leaves a dispatcher that takes events, and a registry with what was filed. -/
theorem act_opened (hopen : d.status = .opened) (hready : d.ready = false) (hcall : a.isCall = true)
    (hclose : a.isClose = false) : (d.act a).status = .opened ∧ (d.act a).ready = false ∧
      (d.act a).registry.Alike (d.requests.file a).registry := by
  have hlike := act_like hopen hready hcall hclose
  refine ⟨?_, ?_, ?_⟩
  · rw [hlike.symm.status, drain_status]
    exact hopen
  · rw [hlike.symm.ready, drain_not_ready]
  · rw [hlike.symm.registry]
    exact drain_alike _

/-! ### While a pass is held -/

/-- A pass is held, and no closing waits for it. -/
structure Busy (d : Dispatcher) (r : Running) : Prop where
  running : d.running = some r
  opened : d.status = .opened
  waiting : d.waiting = 0

namespace Busy

variable {r : Running}

theorem like (h : d.Busy r) (k : d.Like e) : e.Busy r := by
  obtain ⟨s, -, rfl⟩ := k
  exact ⟨h.running, h.opened, h.waiting⟩

theorem filed (h : d.Busy r) (q : Requests) : (d.filed q).Busy r := ⟨h.running, h.opened, h.waiting⟩

theorem ready (h : d.Busy r) : d.ready = false := ready_of_held (by simp [h.running])

/-- Closing waits in vain. -/
theorem close_eq (h : d.Busy r) : d.close = (.error (.shutdownTimeout d.settings.shutdownTimeout),
    d.note [.closeTimedOut d.settings.shutdownTimeout]) := by
  simp [close, h.running, h.opened, h.waiting, expireAll]

/-- Calls file their requests, and nothing else happens. -/
theorem act_like (h : d.Busy r) (hcall : a.isCall = true) : (d.act a).Like (d.filed (d.requests.file a)) := by
  cases hclose : a.isClose with
  | false =>
      have hfiled := Dispatcher.act_like h.opened h.ready hcall hclose
      rwa [drain_of_not_ready (h.filed _).ready] at hfiled
  | true =>
      cases a with
      | close =>
          have hclosed : d.act .close = d.close.2 := rfl
          rw [hclosed, h.close_eq, Requests.file_other rfl]
          exact (Like.note _ _).symm
      | _ => cases hclose

theorem act (h : d.Busy r) (hcall : a.isCall = true) : (d.act a).Busy r :=
  (h.filed _).like (h.act_like hcall).symm

theorem run_like (h : d.Busy r) {calls : List Action} (hcalls : ∀ a ∈ calls, a.isCall = true) :
    (calls.foldl Dispatcher.act d).Like (d.filed (d.requests.after calls)) := by
  induction calls generalizing d with
  | nil => exact .refl d
  | cons a rest ih =>
      have hfirst := h.act_like (hcalls a (List.mem_cons_self ..))
      have hrest := ih (h.act (hcalls a (List.mem_cons_self ..)))
        fun b hb => hcalls b (List.mem_cons_of_mem a hb)
      have hfiled : (d.act a).requests = d.requests.file a := hfirst.symm.requests
      rw [hfiled] at hrest
      exact hrest.trans (hfirst.filed _)

/-- A pass is requested while another is held by the events whose reply says so. -/
theorem run_dirty (h : d.Busy r) {calls : List Action} (hcalls : ∀ a ∈ calls, a.isCall = true) :
    (d.requests.after calls).dirty = (d.dirty || (d.replies calls).any Reply.requests) := by
  induction calls generalizing d with
  | nil => simp [Requests.after, replies, requests]
  | cons a rest ih =>
      have hcall := hcalls a (List.mem_cons_self ..)
      have hrest := ih (h.act hcall) fun b hb => hcalls b (List.mem_cons_of_mem a hb)
      have hfiled : (d.act a).requests = d.requests.file a := (h.act_like hcall).symm.requests
      have hdirty : (d.act a).dirty = (d.dirty || (d.reply a).any Reply.requests) := by
        rw [reply_eq h.opened]
        exact (congrArg Requests.dirty hfiled).trans (d.requests.file_dirty a)
      rw [Requests.after_cons, ← hfiled, hrest, hdirty, replies, List.any_append, Bool.or_assoc]
      cases d.reply a <;> simp

/-- The events among some calls are replied as they are on another dispatcher that takes events and has the
same providers, where nobody tries to close it. -/
theorem replies_eq (h : d.Busy r) (hopen : e.status = .opened) (hready : e.ready = false)
    (halike : e.registry.Alike d.registry) {calls : List Action} (hcalls : ∀ a ∈ calls, a.isCall = true) :
    e.replies (calls.filter fun a => !a.isClose) = d.replies calls := by
  induction calls generalizing d e with
  | nil => rfl
  | cons a rest ih =>
      have hcall := hcalls a (List.mem_cons_self ..)
      have hrest : ∀ b ∈ rest, b.isCall = true := fun b hb => hcalls b (List.mem_cons_of_mem a hb)
      have hfiled : (d.act a).requests = d.requests.file a := (h.act_like hcall).symm.requests
      have hregistry : (d.act a).registry = (d.requests.file a).registry :=
        congrArg Requests.registry hfiled
      cases hclose : a.isClose with
      | true =>
          -- The closing is left out, and changes nothing where it is made.
          cases a with
          | close =>
              have hsame : (d.act .close).registry = d.registry := hregistry
              have hthen := ih (h.act hcall) hopen hready (hsame ▸ halike) hrest
              simpa [hclose, replies, reply] using hthen
          | _ => cases hclose
      | false =>
          have hleft : (e.requests.file a).registry.Alike (d.requests.file a).registry :=
            Requests.file_alike halike a
          obtain ⟨hstill, hquiet, hboth⟩ := act_opened hopen hready hcall hclose
          have hthen := ih (h.act hcall) hstill hquiet (hregistry ▸ hboth.trans hleft) hrest
          simp [hclose, replies, hthen, reply_eq hopen, reply_eq h.opened, halike.reply a]

end Busy

end Dispatcher

/-! ### Inside a batch -/

/-- The number of open batches after a call; none where no batch is open that could end. -/
def Action.nest (n : Nat) : Action → Option Nat
  | openBatch => some (n + 1)
  | endBatch => if n = 0 then none else some (n - 1)
  | _ => some n

namespace Requests

variable {q q' : Requests} {a : Action} {m n k : Nat}

/-- Batches that are open around a call stay open. -/
theorem file_batches (hnest : a.nest n = some m) (hq : q.batches = n + k) :
    (q.file a).batches = m + k := by
  show a.batches q.batches = m + k
  cases a with
  | openBatch =>
      obtain rfl : n + 1 = m := by simpa [Action.nest] using hnest
      rw [Action.batches, hq]
      omega
  | endBatch =>
      obtain ⟨hpos, rfl⟩ : n ≠ 0 ∧ n - 1 = m := by simpa [Action.nest] using hnest
      rw [Action.batches, hq]
      omega
  | _ =>
      obtain rfl : n = m := by simpa [Action.nest] using hnest
      exact hq

/-- They make no other difference. -/
theorem file_congr (hregistry : q.registry = q'.registry) (hdirty : q.dirty = q'.dirty) (a : Action) :
    (q.file a).registry = (q'.file a).registry ∧ (q.file a).dirty = (q'.file a).dirty := by
  simp [file, hregistry, hdirty]

theorem after_batches {calls : List Action} (hnest : calls.foldlM Action.nest n = some m)
    (hq : q.batches = n + k) : (q.after calls).batches = m + k := by
  induction calls generalizing q n with
  | nil =>
      obtain rfl : n = m := by simpa using hnest
      exact hq
  | cons a rest ih =>
      rw [List.foldlM_cons] at hnest
      obtain ⟨l, hfirst, hrest⟩ := Option.bind_eq_some_iff.1 hnest
      exact ih hrest (file_batches hfirst hq)

theorem after_congr {calls : List Action} (hregistry : q.registry = q'.registry)
    (hdirty : q.dirty = q'.dirty) : (q.after calls).registry = (q'.after calls).registry ∧
      (q.after calls).dirty = (q'.after calls).dirty := by
  induction calls generalizing q q' with
  | nil => exact ⟨hregistry, hdirty⟩
  | cons a rest ih =>
      obtain ⟨hfirst, hthen⟩ := file_congr hregistry hdirty a
      exact ih hfirst hthen

end Requests

namespace Dispatcher

variable {d e : Dispatcher} {a : Action} {m n : Nat}

theorem ready_of_batches (h : d.batches ≠ 0) : d.ready = false := by
  simp [ready, h]

/-- Calls inside of a batch file their requests as well, where nobody tries to close the dispatcher. -/
theorem batch_like (hopen : d.status = .opened) {calls : List Action}
    (hcalls : ∀ a ∈ calls, a.isCall = true) (hnest : calls.foldlM Action.nest n = some m)
    (hbatches : d.batches = n + 1) :
    ((calls.filter fun a => !a.isClose).foldl act d).Like (d.filed (d.requests.after calls)) := by
  induction calls generalizing d n with
  | nil => exact .refl d
  | cons a rest ih =>
      have hcall := hcalls a (List.mem_cons_self ..)
      have hothers : ∀ b ∈ rest, b.isCall = true := fun b hb => hcalls b (List.mem_cons_of_mem a hb)
      rw [List.foldlM_cons] at hnest
      obtain ⟨l, hfirst, hrest⟩ := Option.bind_eq_some_iff.1 hnest
      cases hclose : a.isClose with
      | true =>
          cases a with
          | close =>
              obtain rfl : n = l := by simpa [Action.nest] using hfirst
              have hsame : d.requests.file .close = d.requests := Requests.file_other rfl
              simpa [hclose, hsame] using ih hopen hothers hrest hbatches
          | _ => cases hclose
      | false =>
          have hfiled : (d.requests.file a).batches = l + 1 := Requests.file_batches hfirst hbatches
          have hlike := act_like hopen (ready_of_batches (by omega)) hcall hclose
          rw [drain_of_not_ready (ready_of_batches (by simp [filed, hfiled]))] at hlike
          have hrequests : (d.act a).requests = d.requests.file a := hlike.symm.requests
          have hthen := ih (d := d.act a) (hlike.symm.status.trans hopen) hothers hrest
            ((congrArg Requests.batches hrequests).trans hfiled)
          rw [hrequests] at hthen
          rw [List.filter_cons_of_pos (by simp [hclose]), List.foldl_cons]
          exact hthen.trans (hlike.filed _)

end Dispatcher

end RouteBinding
