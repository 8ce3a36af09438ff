import RouteBinding.Proofs.Registry.Ledger

/-!
# What an operation on a registry does

An operation registers a provider, removes one, drains the removals, clears the registry or does nothing, and
what each of these leaves is said here once (`Registry.Kept.effect`).  The records that pass through an
operation are read from the registries before and after it: those that it stores, replaces, withdraws and
delivers.  What a run of operations does is what its steps do, one after the other (`Registry.gather`).
-/

namespace RouteBinding

open Property

namespace Entry

def id (e : Entry) : ServiceId := e.provider.id

def revision (e : Entry) : Nat := e.provider.revision

/-- The group that an entry is. -/
def group? : Entry → Option Group
  | group g => some g
  | content _ => none

/-- The handler or interceptor that an entry is. -/
def content? : Entry → Option Content
  | group _ => none
  | content c => some c

@[simp] theorem ofProperties_id (kind : Kind) (id : ServiceId) (revision : Nat) (payload : Payload)
    (props : Map) : (ofProperties kind id revision payload props).id = id :=
  (ofProperties_provider ..).1

@[simp] theorem ofProperties_revision (kind : Kind) (id : ServiceId) (revision : Nat) (payload : Payload)
    (props : Map) : (ofProperties kind id revision payload props).revision = revision := by
  cases kind <;> rfl

end Entry

/-- The removals that a drain hands out. -/
def RegistryView.removed (v : RegistryView) : List Entry :=
  v.removedGroups.map .group ++ v.removedContent.map .content

namespace Registry

/-- The record in a place. -/
def at? (r : Registry) (place : Kind × ServiceId) : Option Entry := r.recordOf place.1 place.2

/-- The removals that no drain has handed out. -/
def pending (r : Registry) : List Entry := r.removedGroups.map .group ++ r.removedContent.map .content

namespace Operation

/-- The place in which an operation stores a provider: that of a registration that is not refused. -/
def registers? (r : Registry) : Operation → Option (Kind × ServiceId)
  | upsert kind payload props => (r.upsert kind payload props).1.toOption.map fun id => (kind, id)
  | _ => none

/-- The place that an operation empties: that of a removal that finds a provider. -/
def removes? (r : Registry) : Operation → Option (Kind × ServiceId)
  | remove kind id => if (r.remove kind id).1 then some (kind, id) else none
  | removeAny id => (r.removeAny id).1.map fun kind => (kind, id)
  | _ => none

/-- The identity that an operation returns. -/
def returned (r : Registry) (op : Operation) : List ServiceId := (op.registers? r).toList.map Prod.snd

/-- The record that an operation stores. -/
def stored (r : Registry) (op : Operation) : List Entry := ((op.registers? r).bind (op.apply r).at?).toList

/-- The record whose place a registration takes. -/
def replaced (r : Registry) (op : Operation) : List Entry := ((op.registers? r).bind r.at?).toList

/-- The record that is live when an operation removes it. -/
def withdrawn (r : Registry) (op : Operation) : List Entry := ((op.removes? r).bind r.at?).toList

/-- The removals that an operation hands out. -/
def delivered (r : Registry) : Operation → List Entry
  | drain => r.drain.1.removed
  | _ => []

/-- What an operation on a registry does. -/
inductive Effect (r : Registry) (op : Operation) : Prop where
  | registers (kind : Kind) (id : ServiceId) (payload : Payload) (props : Map)
    (op_eq : op = .upsert kind payload props) (place : op.registers? r = some (kind, id))
    (assigned : id = (r.assignId props).1)
    (nextId : (op.apply r).nextId = max r.nextId (id + 1))
    (nextRevision : (op.apply r).nextRevision = r.nextRevision + 1)
    (records : ∀ k j, (op.apply r).recordOf k j = if k = kind ∧ j = id then
        some (.ofProperties kind id r.nextRevision payload (r.assignId props).2.1) else r.recordOf k j)
    (removedGroups : (op.apply r).removedGroups = r.removedGroups)
    (removedContent : (op.apply r).removedContent = r.removedContent)
  | removes (kind : Kind) (id : ServiceId) (e : Entry) (registers : op.registers? r = none)
    (place : op.removes? r = some (kind, id)) (delivered : op.delivered r = [])
    (held : r.recordOf kind id = some e)
    (nextId : (op.apply r).nextId = r.nextId)
    (nextRevision : (op.apply r).nextRevision = r.nextRevision)
    (records : ∀ k j, (op.apply r).recordOf k j = if k = kind ∧ j = id then none else r.recordOf k j)
    (removedGroups : (op.apply r).removedGroups = r.removedGroups ++ e.group?.toList)
    (removedContent : (op.apply r).removedContent = r.removedContent ++ e.content?.toList)
  | drains (op_eq : op = .drain)
  | clears (op_eq : op = .clear)
  /-- A registration is refused, or a removal finds nothing. -/
  | idle (registers : op.registers? r = none) (removes : op.removes? r = none)
    (delivered : op.delivered r = []) (same : op.apply r = r)

end Operation

variable {r : Registry} {kind : Kind} {id : ServiceId} {payload : Payload} {props : Map} {e : Entry}

/-! ### One operation -/

/-- Settling an identity moves the counter of identities past it, and does nothing else. -/
theorem assignId_state (r : Registry) (props : Map) :
    (r.assignId props).2.2 = { r with nextId := max r.nextId ((r.assignId props).1 + 1) } := by
  unfold assignId
  cases claimedId? props with
  | none => simp
  | some id => rfl

/-- A registration that succeeds moves both counters, and leaves what is pending. -/
theorem upsert_counters (h : (r.upsert kind payload props).1 = .ok id) :
    (r.upsert kind payload props).2.nextId = max r.nextId (id + 1) ∧
      (r.upsert kind payload props).2.nextRevision = r.nextRevision + 1 ∧
      (r.upsert kind payload props).2.removedGroups = r.removedGroups ∧
      (r.upsert kind payload props).2.removedContent = r.removedContent := by
  obtain ⟨hid, heq⟩ := upsert_ok h
  rw [heq, assignId_state, hid]
  cases kind <;> simp [store]

/-- A removal puts the record that it takes at the end of what is pending. -/
theorem remove_pending (howner : r.owners.get? id = some kind) (hheld : r.recordOf kind id = some e) :
    (r.remove kind id).2.removedGroups = r.removedGroups ++ e.group?.toList ∧
      (r.remove kind id).2.removedContent = r.removedContent ++ e.content?.toList := by
  unfold remove
  rw [if_pos howner]
  cases kind with
  | group =>
      obtain ⟨g, hg, rfl⟩ := Option.map_eq_some_iff.1 hheld
      simp [hg, Entry.group?, Entry.content?]
  | handler =>
      obtain ⟨c, hc, rfl⟩ := Option.map_eq_some_iff.1 hheld
      simp [hc, Entry.group?, Entry.content?]
  | interceptor =>
      obtain ⟨c, hc, rfl⟩ := Option.map_eq_some_iff.1 hheld
      simp [hc, Entry.group?, Entry.content?]

namespace Kept

/-- The removal of a provider that is live takes its record, and moves no counter. -/
theorem remove_effect (h : r.Kept) (howner : r.owners.get? id = some kind) :
    ∃ e, r.recordOf kind id = some e ∧ (r.remove kind id).1 = true ∧
      (r.remove kind id).2.nextId = r.nextId ∧ (r.remove kind id).2.nextRevision = r.nextRevision ∧
      (∀ k j, (r.remove kind id).2.recordOf k j = if k = kind ∧ j = id then none else r.recordOf k j) ∧
      (r.remove kind id).2.removedGroups = r.removedGroups ++ e.group?.toList ∧
      (r.remove kind id).2.removedContent = r.removedContent ++ e.content?.toList := by
  have hheld := h.held id kind howner
  obtain ⟨e, he⟩ := Option.isSome_iff_exists.1 hheld
  obtain ⟨hfound, -, hnext, hrecords⟩ := remove_held howner hheld
  have hrevision := (r.remove_shrinks kind id).1
  exact ⟨e, he, hfound, hnext, hrevision, hrecords, remove_pending howner he⟩

/-- Every operation on a registry does one of these things. -/
theorem effect (h : r.Kept) (op : Operation) : op.Effect r := by
  cases op with
  | upsert kind payload props =>
      cases hresult : (r.upsert kind payload props).1 with
      | error refusal =>
          apply Operation.Effect.idle
          · simp [Operation.registers?, hresult, Except.toOption]
          · rfl
          · rfl
          · exact (h.upsert_refused hresult).2.2.2
      | ok id =>
          obtain ⟨hid, hrevision, hgroups, hcontent⟩ := upsert_counters hresult
          apply Operation.Effect.registers kind id payload props rfl
          · simp [Operation.registers?, hresult, Except.toOption]
          · exact (upsert_ok hresult).1.symm
          · exact hid
          · exact hrevision
          · exact fun k j => recordOf_upsert hresult
          · exact hgroups
          · exact hcontent
  | remove kind id =>
      by_cases howner : r.owners.get? id = some kind
      · obtain ⟨e, he, hfound, hnext, hrevision, hrecords, hgroups, hcontent⟩ := h.remove_effect howner
        have hplace : (Operation.remove kind id).removes? r = some (kind, id) := by
          simp [Operation.removes?, hfound]
        exact .removes kind id e rfl hplace rfl he hnext hrevision hrecords hgroups hcontent
      · have habsent := remove_absent howner
        apply Operation.Effect.idle rfl
        · simp [Operation.removes?, habsent]
        · rfl
        · simp [Operation.apply, habsent]
  | removeAny id =>
      have hany := h.removeAny_eq id
      cases howner : r.owners.get? id with
      | none =>
          rw [howner] at hany
          apply Operation.Effect.idle rfl
          · simp [Operation.removes?, hany]
          · rfl
          · simp [Operation.apply, hany]
      | some kind =>
          rw [howner] at hany
          obtain ⟨e, he, -, hnext, hrevision, hrecords, hgroups, hcontent⟩ := h.remove_effect howner
          have happly : (Operation.removeAny id).apply r = (r.remove kind id).2 := by
            simp [Operation.apply, hany]
          rw [← happly] at hnext hrevision hrecords hgroups hcontent
          have hplace : (Operation.removeAny id).removes? r = some (kind, id) := by
            simp [Operation.removes?, hany]
          exact .removes kind id e rfl hplace rfl he hnext hrevision hrecords hgroups hcontent
  | drain => exact .drains rfl
  | clear => exact .clears rfl

end Kept

/-! ### Runs of operations -/

variable {α : Type} {ops before later : List Operation} {op : Operation}

/-- What the operations of a run yield, one after the other. -/
def gather (yield : Registry → Operation → List α) : Registry → List Operation → List α
  | _, [] => []
  | r, op :: rest => yield r op ++ gather yield (op.apply r) rest

theorem run_append (r : Registry) (before later : List Operation) :
    r.run (before ++ later) = (r.run before).run later :=
  List.foldl_append

variable {yield : Registry → Operation → List α}

theorem gather_append (r : Registry) (before later : List Operation) :
    gather yield r (before ++ later) = gather yield r before ++ gather yield (r.run before) later := by
  induction before generalizing r with
  | nil => rfl
  | cons op rest ih =>
      rw [List.cons_append, gather, ih, gather, List.append_assoc]
      rfl

theorem gather_concat (r : Registry) (ops : List Operation) (op : Operation) :
    gather yield r (ops ++ [op]) = gather yield r ops ++ yield (r.run ops) op := by
  rw [gather_append]
  simp [gather]

/-- What a run yields, one of its operations yields. -/
theorem mem_gather {a : α} : a ∈ gather yield r ops ↔
    ∃ before op later, ops = before ++ op :: later ∧ a ∈ yield (r.run before) op := by
  constructor
  · intro ha
    induction ops generalizing r with
    | nil => simp [gather] at ha
    | cons op rest ih =>
        rcases List.mem_append.1 ha with hnow | hlater
        · exact ⟨[], op, rest, rfl, hnow⟩
        · obtain ⟨before, o, later, rfl, ho⟩ := ih hlater
          exact ⟨op :: before, o, later, rfl, ho⟩
  · intro hsplit
    obtain ⟨before, op, later, rfl, ha⟩ := hsplit
    rw [gather_append]
    simp [gather, ha]

/-- In a run that yields nothing twice, one operation only yields an item. -/
theorem gather_unique (hnodup : (gather yield r ops).Nodup) {a : α} {before' later' : List Operation}
    {op' : Operation} (h : ops = before ++ op :: later) (h' : ops = before' ++ op' :: later')
    (ha : a ∈ yield (r.run before) op) (ha' : a ∈ yield (r.run before') op') :
    before = before' ∧ op = op' := by
  -- An operation that comes strictly later yields another item.
  have hlater : ∀ {b b' l l' : List Operation} {o o' : Operation}, ops = b ++ o :: l →
      ops = b' ++ o' :: l' → a ∈ yield (r.run b) o → a ∈ yield (r.run b') o' → ¬b.length < b'.length := by
    intro b b' l l' o o' hb hb' ho ho' hlt
    have hfront : b ++ [o] <+: ops := ⟨l, by simp [hb]⟩
    have hfront' : b' <+: ops := ⟨o' :: l', hb'.symm⟩
    obtain ⟨middle, rfl⟩ : b ++ [o] <+: b' := by
      apply List.prefix_of_prefix_length_le hfront hfront'
      rw [List.length_append, List.length_singleton]
      omega
    have hsplit : ops = (b ++ [o]) ++ (middle ++ o' :: l') := by simp [hb']
    rw [hsplit, gather_append] at hnodup
    apply List.disjoint_of_nodup_append hnodup (a := a)
    · simp [gather_concat, ho]
    · apply mem_gather.2
      refine ⟨middle, o', l', rfl, ?_⟩
      rwa [run_append] at ho'
  have hlength : before.length = before'.length := by
    have hle := hlater h h' ha ha'
    have hge := hlater h' h ha' ha
    omega
  obtain ⟨hbefore, hrest⟩ := List.append_inj (h.symm.trans h') hlength
  exact ⟨hbefore, (List.cons.inj hrest).1⟩

end Registry

end RouteBinding
