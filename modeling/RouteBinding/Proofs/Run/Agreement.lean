import RouteBinding.Proofs.Run.Move
import RouteBinding.Route.Served

/-!
# Dispatcher and host agree

Where the host is left to the dispatcher, it serves exactly the groups that are known to be registered, each
in the form in which it is remembered (`Site.InStep`).  Every call keeps this, whether it fails or not, and
a pass that is over publishes what is registered; so between passes what is known, what is served and what
is published are one (`History.agreement`).
-/

namespace RouteBinding

open Host

section

variable [Route.Routing]

/-- The host serves the groups that are registered, each as it was told of it, and no others. -/
structure Site.InStep (s : Site) : Prop where
  /-- A registered group stands under its identity, and the host serves it as it was told of it. -/
  known : ∀ id g, s.registered.get? id = some g →
    g.id = id ∧ ∃ m, mount g.told = .ok m ∧ s.host.memory.mounted.get? id = some m
  /-- Nothing else is served. -/
  unknown : ∀ id, s.registered.get? id = none → s.host.memory.mounted.get? id = none

namespace Site.InStep

variable {s t : Site}

theorem still (h : s.InStep) (hregistered : t.registered = s.registered)
    (hmounted : t.host.memory.mounted = s.host.memory.mounted) : t.InStep := by
  refine ⟨?_, ?_⟩
  · rw [hregistered, hmounted]
    exact h.known
  · rw [hregistered, hmounted]
    exact h.unknown

/-- Taking a group from the host takes it from both. -/
theorem withdrawn (h : s.InStep) {id : ServiceId} {g : Group} (k : s.Withdrawn t id g) : t.InStep := by
  -- The host forgets the identity of the group, the dispatcher the key; they are the same.
  have hid : g.id = id := (h.known id g k.known).1
  refine ⟨?_, ?_⟩
  · intro j g' hg'
    rw [k.registered, Table.get?_erase] at hg'
    rw [k.mounted, hid, Table.get?_erase]
    by_cases hj : j = id
    · rw [if_pos hj] at hg'
      cases hg'
    · rw [if_neg hj] at hg' ⊢
      exact h.known j g' hg'
  · intro j hj
    rw [k.registered, Table.get?_erase] at hj
    rw [k.mounted, hid, Table.get?_erase]
    by_cases heq : j = id
    · rw [if_pos heq]
    · rw [if_neg heq] at hj ⊢
      exact h.unknown j hj

/-- Bringing a group to the host brings it to both. -/
theorem served (h : s.InStep) {g : Group} {m : Mounted} (k : s.Served t g m) : t.InStep := by
  refine ⟨?_, ?_⟩
  · intro j g' hg'
    rw [k.registered, Table.get?_insert] at hg'
    rw [k.mounted, Table.get?_insert]
    by_cases hj : j = g.id
    · rw [if_pos hj] at hg' ⊢
      obtain rfl : g.settled = g' := Option.some.inj hg'
      exact ⟨hj.symm, m, k.mounts, rfl⟩
    · rw [if_neg hj] at hg' ⊢
      exact h.known j g' hg'
  · intro j hj
    rw [k.registered, Table.get?_insert] at hj
    rw [k.mounted, Table.get?_insert]
    by_cases heq : j = g.id
    · rw [if_pos heq] at hj
      cases hj
    · rw [if_neg heq] at hj ⊢
      exact h.unknown j hj

theorem call {plan : List Group} (h : s.InStep) (hcall : Call plan s t) : t.InStep := by
  cases hcall with
  | still k => exact h.still k.registered (congrArg Memory.mounted k.memory)
  | withdrawn id g k => exact h.withdrawn k
  | served g m _ k => exact h.served k

theorem calls {plan : List Group} (h : s.InStep) (hcalls : Calls plan s t) : t.InStep := by
  induction hcalls with
  | refl => exact h
  | tail _ hcall ih => exact ih.call hcall

end Site.InStep

namespace Dispatcher

/-- Where no pass is held, the active groups are the registered ones. -/
def Published (d : Dispatcher) : Prop :=
  d.running = none → d.active = d.site.registered.values.map Group.summary

theorem goOn_active {d : Dispatcher} {r : Running} (hidle : (d.goOn r).running = none) :
    (d.goOn r).active = (d.goOn r).site.registered.values.map Group.summary := by
  unfold goOn at hidle ⊢
  dsimp only at hidle ⊢
  split at hidle
  · next hleft =>
    rw [if_pos hleft]
    rfl
  · cases hidle

theorem startPass_active {d : Dispatcher} (hidle : d.startPass.running = none) :
    d.startPass.active = d.startPass.site.registered.values.map Group.summary := by
  rw [startPass_eq] at hidle ⊢
  exact goOn_active hidle

theorem resume_active {d : Dispatcher} {r : Running} (hidle : (d.resume r).running = none) :
    (d.resume r).active = (d.resume r).site.registered.values.map Group.summary := by
  cases hleft : r.left with
  | nil =>
      rw [resume_nil hleft]
      rfl
  | cons g rest =>
      rw [resume_cons hleft] at hidle ⊢
      exact goOn_active hidle

/-- A pass that is over publishes what is registered, and nothing is published in between. -/
theorem published_move {shared : Prop} {t u : Tracked} (h : t.state.Published) (hmove : Move shared t u) :
    u.state.Published := by
  cases hmove with
  | aside k =>
      intro hidle
      rw [k.running] at hidle
      rw [k.active, k.registered]
      exact h hidle
  | registers d last kind payload props => exact h
  | removes d last kind id => exact h
  | begins d last hidle =>
      dsimp only
      exact startPass_active
  | resumes d last r hheld =>
      dsimp only
      exact resume_active
  | interferes d last mounted hshared => exact h

/-- Every move that leaves the host to the dispatcher keeps the two in step. -/
theorem inStep_move {t u : Tracked} (h : t.state.site.InStep) (hmove : Move False t u) :
    u.state.site.InStep := by
  cases hmove with
  | aside k => exact h.still k.registered k.mounted
  | registers d last kind payload props => exact h
  | removes d last kind id => exact h
  | begins d last hidle =>
      dsimp only
      exact h.calls d.startPass_calls
  | resumes d last r hheld =>
      dsimp only
      exact h.calls (d.resume_calls r)
  | interferes d last mounted hshared => exact hshared.elim

end Dispatcher

namespace History

variable {settings : Settings} {content : Payload}

theorem published (h : History settings content) (hopen : h.final.state.status ≠ .closed) :
    h.final.state.Published :=
  final_of_moves (P := fun t => t.state.Published) hopen (fun _ => rfl)
    fun _ _ => Dispatcher.published_move

theorem start_inStep (h : History settings content) (hdriven : h.Driven) : h.start.state.site.InStep := by
  refine ⟨?_, ?_⟩
  · intro id g hg
    cases hg
  · intro id _
    show h.host.memory.mounted.get? id = none
    rw [hdriven.1]
    rfl

/-- Host and dispatcher stay in step along every chain of moves that leaves the host to the dispatcher. -/
theorem inStep_of_moves (h : History settings content) (hdriven : h.Driven) {t : Tracked}
    (hmoves : Moves False h.start t) : t.state.site.InStep :=
  hmoves.preserve (P := fun t => t.state.site.InStep) (fun _ _ => Dispatcher.inStep_move)
    (h.start_inStep hdriven)

theorem inStep (h : History settings content) (hdriven : h.Driven)
    (hopen : h.final.state.status ≠ .closed) : h.final.state.site.InStep :=
  final_of_own_moves (P := fun t => t.state.site.InStep) hdriven hopen (h.start_inStep hdriven)
    fun _ _ => Dispatcher.inStep_move

/-- Whenever no pass is held, the groups that are known to be registered, those that the host serves and
those that are published as active are the same, and the host serves each in the form that is published. -/
theorem agreement (h : History settings content)
    (hdriven : h.Driven) (hopen : h.final.state.status ≠ .closed) (hidle : h.final.state.running = none) :
    h.final.state.site.registered.keys = h.final.state.site.host.memory.mounted.keys ∧
      h.final.state.active.map ActiveGroup.id = h.final.state.site.registered.keys ∧
      ∀ a ∈ h.final.state.active, ∃ g m,
        h.final.state.site.registered.get? a.id = some g ∧
        h.final.state.site.host.memory.mounted.get? a.id = some m ∧ a = g.summary ∧
        m.group.provider.revision = g.provider.revision ∧ m.group.name = g.name ∧
        m.group.path = g.path ∧ m.group.attached = g.attached := by
  have hstep := h.inStep hdriven hopen
  have hactive := h.published hopen hidle
  refine ⟨?_, ?_, ?_⟩
  · refine Table.keys_eq fun id => ?_
    cases hget : h.final.state.site.registered.get? id with
    | none =>
        rw [hstep.unknown id hget]
        rfl
    | some g =>
        obtain ⟨-, m, -, hm⟩ := hstep.known id g hget
        rw [hm]
        rfl
  · rw [hactive, List.map_map]
    exact Table.map_values_eq_keys fun id g hg => (hstep.known id g hg).1
  · intro a ha
    rw [hactive, List.mem_map] at ha
    obtain ⟨g, hg, rfl⟩ := ha
    obtain ⟨id, hget⟩ := Table.mem_values.1 hg
    obtain ⟨hid, m, hmount, hm⟩ := hstep.known id g hget
    -- What the host keeps of a group is the form in which it was told of it.
    have hgroup : m.group = g.told := by
      unfold mount at hmount
      split at hmount
      · cases hmount
      · exact congrArg Mounted.group (Except.ok.inj hmount).symm
    have hkey : g.summary.id = id := hid
    rw [hkey]
    refine ⟨g, m, hget, hm, rfl, ?_, ?_, ?_, ?_⟩ <;> rw [hgroup] <;> rfl

end History

end

namespace History

/-- A group is registered, refused by the host under its new path, and brought to it by a later pass. -/
def sample : History {} (.shared 0 .plain) where
  host := {}
  pool := {}
  actions :=
    let props (path : String) : Property.Map :=
      .ofList [(Property.Key.routeGroup, .flag true), (Property.Key.serviceId, .ofNat 3),
        (Property.Key.name, .text "api"), (Property.Key.path, .text path)]
    [.upsert .group (.shared 1 .plain) (props "/a"), .tell (.refuse "api"),
      .upsert .group (.shared 1 .plain) (props "/b"), .openBatch, .tell (.accept "api"), .trigger, .endBatch]

/-- There the host serves the group and the implicit default group. -/
theorem sample_agreement : sample.Driven ∧ sample.final.state.status ≠ .closed ∧
    sample.final.state.running = none ∧
      sample.final.state.active.map (fun a => (a.id, a.path)) = [(0, "/"), (3, "/b")] ∧
      sample.final.state.site.registered.keys = sample.final.state.site.host.memory.mounted.keys := by
  have hdriven : sample.Driven := ⟨rfl, by decide +kernel⟩
  have hopen : sample.final.state.status ≠ .closed := by decide +kernel
  have hidle : sample.final.state.running = none := by decide +kernel
  exact ⟨hdriven, hopen, hidle, by decide +kernel, (agreement sample hdriven hopen hidle).1⟩

end History

end RouteBinding
