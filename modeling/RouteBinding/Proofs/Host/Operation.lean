import RouteBinding.Proofs.Host.Covering
import RouteBinding.Proofs.Host.Mount
import RouteBinding.Provider.Declare
import RouteBinding.Route.Served

/-!
# Operations happen as a whole

An operation on a host in memory looks for the group, makes it ready and writes, in some order, and it may give up
in between; what it has written by then stays (`Operation.effects`, `Memory.attempt`).  Nothing is left of an
operation that fails, one that succeeds changes the entry of its group alone, and requests that are meant for other
groups before and after land where they did (`Memory.AllOrNothing`).  A recording host adds one entry to its calls,
and otherwise does what the host inside it does, or nothing for the groups for which it was told to fail
(`Recording.Transparent`).
-/

namespace RouteBinding.Host

open Property

section

variable [Route.Routing]

/-! ### Effects in their order -/

/-- Make a group ready, and only then put it in its place. -/
def enter (g : Group) : ExceptT Error (StateM Memory) Unit := do
  let served ← liftExcept (mount g)
  modify fun m => { m with mounted := m.mounted.insert g.id served }

/-- What an operation does, one step after the other.  What it has written when it gives up stays written. -/
def Operation.effects (g : Group) : Operation → ExceptT Error (StateM Memory) Unit
  | .register => do
    if (← get).serves g.id then throw (.rejected g.name "already registered") else enter g
  | .reload => do
    if (← get).serves g.id then enter g else throw (.notRegistered g.name)
  | .unregister => do
    let served := (← get).serves g.id
    modify fun m => { m with mounted := m.mounted.erase g.id }
    if !served then throw (.notRegistered g.name)

namespace Memory

/-- What an operation comes to, and the host that it leaves behind. -/
def attempt (m : Memory) (op : Operation) (g : Group) : Except Error Unit × Memory := (op.effects g).run.run m

variable {m : Memory} {op : Operation} {g : Group} {e : Error}

theorem run_enter (m : Memory) (g : Group) : (enter g).run.run m =
    match mount g with
    | .error e => (.error e, m)
    | .ok s => (.ok (), { m with mounted := m.mounted.insert g.id s }) := by
  unfold enter
  cases mount g <;> rfl

/-- Taking out what is not there takes nothing out. -/
theorem erase_absent (h : m.serves g.id = false) : { m with mounted := m.mounted.erase g.id } = m := by
  have habsent : m.mounted.get? g.id = none := by simpa [serves, Table.contains] using h
  have hsame : m.mounted.erase g.id = m.mounted := by
    refine Table.ext_get? fun id => ?_
    rw [Table.get?_erase]
    split
    · next heq => rw [heq, habsent]
    · rfl
  rw [hsame]

/-- An operation leaves behind the host that it makes, or the one that it found. -/
theorem attempt_eq (m : Memory) (op : Operation) (g : Group) : m.attempt op g =
    match m.apply g op with
    | .ok m' => (.ok (), m')
    | .error e => (.error e, m) := by
  cases op with
  | register =>
      change (if m.serves g.id = true then throw (.rejected g.name "already registered") else enter g :
        ExceptT Error (StateM Memory) Unit).run.run m = _
      rw [apply, register]
      split
      · rfl
      · rw [run_enter]
        cases mount g <;> rfl
  | reload =>
      change (if m.serves g.id = true then enter g else throw (.notRegistered g.name) :
        ExceptT Error (StateM Memory) Unit).run.run m = _
      rw [apply, reload]
      split
      · rw [run_enter]
        cases mount g <;> rfl
      · rfl
  | unregister =>
      change (if (!m.serves g.id) = true then throw (.notRegistered g.name) else pure () :
        ExceptT Error (StateM Memory) Unit).run.run { m with mounted := m.mounted.erase g.id } = _
      rw [apply, unregister]
      cases hserves : m.serves g.id with
      | true => rfl
      | false =>
          -- What is written before it gives up is not there.
          rw [erase_absent hserves]
          rfl

theorem attempt_eq_error_iff : (m.attempt op g).1 = .error e ↔ m.apply g op = .error e := by
  rw [attempt_eq]
  cases m.apply g op <;> simp

theorem attempt_eq_ok_iff : (m.attempt op g).1 = .ok () ↔ m.apply g op = .ok (m.attempt op g).2 := by
  rw [attempt_eq]
  cases m.apply g op <;> simp

/-- Either an operation has failed, and left everything as it was, or it has succeeded. -/
theorem attempt_cases (m : Memory) (op : Operation) (g : Group) :
    (m.attempt op g).2 = m ∨ m.apply g op = .ok (m.attempt op g).2 := by
  rw [attempt_eq]
  cases m.apply g op <;> simp

/-! ### One operation -/

/-- An operation that succeeds changes the entry of its group alone. -/
theorem apply_others {m' : Memory} (hok : m.apply g op = .ok m') :
    m'.properties = m.properties ∧ ∀ id, id ≠ g.id → m'.mounted.get? id = m.mounted.get? id := by
  by_cases hop : op = .unregister
  · subst hop
    rw [apply_unregister hok]
    exact ⟨rfl, fun id hid => by rw [Table.get?_erase, if_neg hid]⟩
  · obtain ⟨s, -, rfl⟩ := apply_serve hop hok
    exact ⟨rfl, fun id hid => by rw [Table.get?_insert, if_neg hid]⟩

theorem attempt_others (m : Memory) (op : Operation) (g : Group) :
    (m.attempt op g).2.properties = m.properties ∧
      ∀ id, id ≠ g.id → (m.attempt op g).2.mounted.get? id = m.mounted.get? id := by
  rcases attempt_cases m op g with hsame | hok
  · rw [hsame]
    exact ⟨rfl, fun _ _ => rfl⟩
  · exact apply_others hok

/-- An operation fails for the reasons that there are and without effect; if it succeeds it does what it was asked
to do with the group, and nothing else. -/
structure AllOrNothing (m : Memory) (g : Group) : Prop where
  register_fails_iff : (∃ e, (m.attempt .register g).1 = .error e) ↔
    m.serves g.id = true ∨ ∃ template cause, Refused g template cause
  reload_fails_iff : (∃ e, (m.attempt .reload g).1 = .error e) ↔
    m.serves g.id = false ∨ ∃ template cause, Refused g template cause
  unregister_fails_iff : (∃ e, (m.attempt .unregister g).1 = .error e) ↔ m.serves g.id = false
  /-- What fails, by an error or by giving up, leaves the host as it was found. -/
  failed : ∀ op e, (m.attempt op g).1 = .error e → (m.attempt op g).2 = m
  served : ∀ op, op ≠ .unregister → (m.attempt op g).1 = .ok () →
    ∃ s, Ready g s ∧ (m.attempt op g).2.mounted.get? g.id = some s
  withdrawn : (m.attempt .unregister g).1 = .ok () → (m.attempt .unregister g).2.mounted.get? g.id = none
  others : ∀ op id, id ≠ g.id → (m.attempt op g).2.mounted.get? id = m.mounted.get? id
  properties : ∀ op, (m.attempt op g).2.properties = m.properties
  /-- Requests that the group owns neither before nor after land where they did. -/
  elsewhere : ∀ op request, (∀ s, ¬m.Owns request g.id s) →
    (∀ s, ¬(m.attempt op g).2.Owns request g.id s) → (m.attempt op g).2.resolve request = m.resolve request

theorem allOrNothing (m : Memory) (g : Group) : m.AllOrNothing g where
  register_fails_iff := by
    simp only [attempt_eq_error_iff]
    exact Memory.register_fails_iff
  reload_fails_iff := by
    simp only [attempt_eq_error_iff]
    exact Memory.reload_fails_iff
  unregister_fails_iff := by
    simp only [attempt_eq_error_iff]
    exact Memory.unregister_fails_iff
  failed op e h := by rw [attempt_eq, attempt_eq_error_iff.1 h]
  served op hop h := by
    obtain ⟨s, hmount, hs⟩ := apply_serve hop (attempt_eq_ok_iff.1 h)
    exact ⟨s, mount_eq_ok_iff.1 hmount, by rw [hs, Table.get?_insert, if_pos rfl]⟩
  withdrawn h := by rw [apply_unregister (attempt_eq_ok_iff.1 h), Table.get?_erase, if_pos rfl]
  others op := (attempt_others m op g).2
  properties op := (attempt_others m op g).1
  elsewhere op _ := resolve_eq_of_elsewhere (attempt_others m op g).2

end Memory

/-! ### A host that records its calls -/

namespace Recording

variable {h : Recording} {op : Operation} {g : Group}

/-- A call is written down once, whatever comes of it; it does what the host inside makes of it, or nothing at all if
it is to fail for the name of the group. -/
structure Transparent (h : Recording) (g : Group) : Prop where
  recorded : ∀ op, (h.call op g).2.calls = h.calls ++ [⟨op, g⟩]
  /-- A call that was announced and had to wait is not written down again. -/
  performed : ∀ op, (h.perform op g).2.calls = h.calls
  passed : ∀ op, h.scripts.get? g.name = none → g.name ∉ h.refused →
    h.call op g = ((h.memory.attempt op g).1, { h.announce op g with memory := (h.memory.attempt op g).2 })
  refused : ∀ op, h.scripts.get? g.name = none → g.name ∈ h.refused →
    h.call op g = (.error (.rejected g.name "injected failure"), h.announce op g)
  scripted : ∀ op s, h.scripts.get? g.name = some s → h.call op g = (.error s.error, h.announce op g)
  refused_failFor : ∀ name, g.name ∈ (h.failFor name).refused ↔ g.name = name ∨ g.name ∈ h.refused
  refused_succeedFor : ∀ name, g.name ∈ (h.succeedFor name).refused ↔ g.name ≠ name ∧ g.name ∈ h.refused

theorem perform_calls (h : Recording) (op : Operation) (g : Group) : (h.perform op g).2.calls = h.calls := by
  unfold perform
  split <;> rfl

/-- A call whose outcome is an error leaves nothing but its record. -/
theorem call_of_error {e : Error} (houtcome : h.outcome op g = .error e) :
    h.call op g = (.error e, h.announce op g) := by
  have hannounced : (h.announce op g).outcome op g = .error e := houtcome
  rw [call, perform, hannounced]

theorem transparent (h : Recording) (g : Group) : h.Transparent g where
  recorded op := perform_calls (h.announce op g) op g
  performed op := perform_calls h op g
  passed op hscript hname := by
    have houtcome : (h.announce op g).outcome op g = h.memory.apply g op := by
      show h.outcome op g = _
      rw [outcome, hscript, ← inner_eq]
      exact if_neg (by simpa using hname)
    rw [call, perform, houtcome, Memory.attempt_eq]
    cases h.memory.apply g op <;> rfl
  refused op hscript hname := by
    refine call_of_error ?_
    rw [outcome, hscript]
    exact if_pos (by simpa using hname)
  scripted op s hscript := by
    refine call_of_error ?_
    rw [outcome, hscript]
  refused_failFor name := by
    by_cases hname : g.name = name <;> simp [failFor, hname]
  refused_succeedFor name := by
    simp [succeedFor, and_comm]

end Recording

/-- Operations on a host in memory happen as a whole and change one entry, and a host that records its calls adds
nothing to them but the record and the failures that it was told of. -/
theorem operations_atomic (m : Memory) (h : Recording) (g : Group) : m.AllOrNothing g ∧ h.Transparent g :=
  ⟨m.allOrNothing g, h.transparent g⟩

end

/-- A group with a handler for each of some templates. -/
def routed (id : ServiceId) (name path : String) (templates : List String) : Group :=
  { Group.ofProperties id 0 (.shared 0 .plain) (groupProperties name path) with
    attached := templates.map fun t => .ofProperties .handler 10 0 (.shared 0 .plain)
      ((handlerProperties none).insert Key.route (.text t)) }

/-- A group whose second route is refused beside the first. -/
def clashing : Group := routed 2 "api" "/api" ["{x}", "y", "{z}"]

/-- The error that the refused route leads to. -/
def clash : Error :=
  .rejected "api" "route `/{z}`: Insertion failed due to conflict with previously registered route: /{x}"

/-- A host that serves a group of the same identity with one route. -/
def serving : Memory := (({} : Memory).attempt .register (routed 2 "api" "/api" ["users/{id}"])).2

/-- A host that records its calls and refuses those for that group. -/
def refusing : Recording := ({ memory := serving } : Recording).failFor "api"

/-- Routes that exclude each other keep a new group out and leave a group that is served as it was, with its own
route; a recording host refuses the group that it was told of, and registers another one. -/
theorem clashing_atomic :
    (({} : Memory).attempt .register clashing).1 = .error clash ∧
      (∃ template cause, Refused clashing template cause) ∧
      (∃ e, (serving.attempt .reload clashing).1 = .error e) ∧
      (serving.attempt .reload clashing).2 = serving ∧
      serving.resolve "/api/users/7" = some ⟨"api", some ".generated.handler.10", [("id", "7")]⟩ ∧
      refusing.call .unregister clashing =
        (.error (.rejected "api" "injected failure"), refusing.announce .unregister clashing) ∧
      (refusing.call .register (routed 3 "new" "/new" ["/a"])).1 = .ok () := by
  have herror : (({} : Memory).attempt .register clashing).1 = .error clash := by decide +kernel
  have hatomic := operations_atomic serving refusing clashing
  have hrefused : ∃ template cause, Refused clashing template cause :=
    ((operations_atomic {} {} clashing).1.register_fails_iff.1 ⟨_, herror⟩).resolve_left (by decide)
  obtain ⟨e, he⟩ := hatomic.1.reload_fails_iff.2 (.inr hrefused)
  refine ⟨herror, hrefused, ⟨e, he⟩, hatomic.1.failed _ _ he, by decide +kernel, ?_, ?_⟩
  · exact hatomic.2.refused .unregister rfl (by decide)
  · rw [(operations_atomic serving refusing _).2.passed .register rfl (by decide)]
    decide +kernel

end RouteBinding.Host
