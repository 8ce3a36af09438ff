import RouteBinding.Proofs.Registry.Effect
import Mathlib.Algebra.Group.Nat.Defs

/-!
# Identities and revisions are not used again

One counter gives out the identities that nobody declares, and moves past the declared ones; another one gives
out the revisions.  Every identity that was returned lies below the first counter and every revision below the
second, so what a counter gives out is new, whatever was removed, drained or forgotten before
(`Registry.run_fresh`).  A registration moves the first counter by one or past a declared identity, and those
are signed 64-bit values: fewer than `2 ^ 62` operations leave both counters within 64 bits.
-/

namespace RouteBinding.Registry

open Property

/-- A registry whose counters are 64-bit words. -/
def wrapped (r : Registry) : Registry :=
  { r with nextId := r.nextId % 2 ^ 64, nextRevision := r.nextRevision % 2 ^ 64 }

/-- The registry after some operations, if its counters are 64-bit words. -/
def runWrapped (r : Registry) (ops : List Operation) : Registry :=
  ops.foldl (fun r op => (op.apply r).wrapped) r

/-- What some operations give out is new each time. -/
structure Fresh (ops : List Operation) : Prop where
  /-- A registration that declares no identity succeeds, with one that was not returned before. -/
  assigned : ∀ before kind payload props later, ops = before ++ .upsert kind payload props :: later →
    claimedId? props = none → ∃ id, ((empty.run before).upsert kind payload props).1 = .ok id ∧
      id ≠ ServiceId.implicitDefault ∧ id ∉ gather Operation.returned empty before
  /-- Every record that is stored has a later revision than those stored before it. -/
  renewed : (gather Operation.stored empty ops).Pairwise fun e f => e.revision < f.revision
  /-- No two records are stored with the same identity and revision. -/
  named : ((gather Operation.stored empty ops).map fun e => (e.id, e.revision)).Nodup
  bounded : ∀ before later, ops = before ++ later →
    (empty.run before).nextId < 2 ^ 64 ∧ (empty.run before).nextRevision < 2 ^ 64
  /-- The counters do not wrap around. -/
  exact : empty.runWrapped ops = empty.run ops

variable {r : Registry} {id : ServiceId} {e : Entry} {op : Operation} {ops : List Operation}

/-- An identity is declared as an integer value, or as a text that is read as one. -/
theorem declaredId?_lt {props : Map} (h : id ∈ declaredId? props) : id < 2 ^ 63 := by
  obtain ⟨i, hi, rfl⟩ := Option.map_eq_some_iff.1 h
  obtain ⟨v, -, hv⟩ := Option.bind_eq_some_iff.1 (Option.filter_eq_some_iff.1 hi).1
  have hbound := (Text.inInt64_iff.1 (Value.inInt64_of_int? hv)).2
  have hlt : i.toNat < 2 ^ 63 := by omega
  exact hlt

namespace Kept

/-! ### One operation -/

theorem nextId_le (h : r.Kept) (op : Operation) : r.nextId ≤ (op.apply r).nextId := by
  cases h.effect op with
  | registers kind id payload props op_eq place assigned nextId =>
      rw [nextId]
      exact Nat.le_max_left ..
  | removes kind id e registers place delivered held nextId => exact Nat.le_of_eq nextId.symm
  | drains op_eq =>
      subst op_eq
      exact Nat.le_refl _
  | clears op_eq =>
      subst op_eq
      exact Nat.le_refl _
  | idle registers removes delivered same => exact Nat.le_of_eq (by rw [same])

/-- The identity that an operation returns lies below the counter from then on. -/
theorem returned_lt (h : r.Kept) (hid : id ∈ op.returned r) : id < (op.apply r).nextId := by
  cases h.effect op with
  | registers kind j payload props op_eq place assigned nextId =>
      obtain rfl : id = j := by simpa [Operation.returned, place] using hid
      rw [nextId]
      exact Nat.le_max_right ..
  | removes kind j e registers => simp [Operation.returned, registers] at hid
  | drains op_eq => simp [op_eq, Operation.returned, Operation.registers?] at hid
  | clears op_eq => simp [op_eq, Operation.returned, Operation.registers?] at hid
  | idle registers => simp [Operation.returned, registers] at hid

/-- An operation stores a record with the next revision, which is then past, or none. -/
theorem stored_cases (h : r.Kept) (op : Operation) :
    (op.stored r = [] ∧ (op.apply r).nextRevision = r.nextRevision) ∨
      ∃ e, op.stored r = [e] ∧ e.revision = r.nextRevision ∧
        (op.apply r).nextRevision = r.nextRevision + 1 := by
  cases h.effect op with
  | registers kind id payload props op_eq place assigned nextId nextRevision records =>
      right
      refine ⟨.ofProperties kind id r.nextRevision payload (r.assignId props).2.1, ?_, ?_, nextRevision⟩
      · simp [Operation.stored, place, at?, records]
      · simp
  | removes kind id e registers place delivered held nextId nextRevision =>
      left
      simp [Operation.stored, registers, nextRevision]
  | drains op_eq =>
      subst op_eq
      exact .inl ⟨rfl, rfl⟩
  | clears op_eq =>
      subst op_eq
      exact .inl ⟨rfl, rfl⟩
  | idle registers removes delivered same =>
      left
      simp [Operation.stored, registers, same]

/-- An operation moves the counter of identities by one, or past a declared one. -/
theorem nextId_apply_le (h : r.Kept) (op : Operation) :
    (op.apply r).nextId ≤ max (r.nextId + 1) (2 ^ 63) := by
  have hsame : r.nextId ≤ max (r.nextId + 1) (2 ^ 63) := Nat.le_trans (Nat.le_succ _) (Nat.le_max_left ..)
  cases h.effect op with
  | registers kind id payload props op_eq place assigned nextId =>
      subst op_eq
      rw [nextId, assigned, assignId]
      cases hclaimed : claimedId? props with
      | none => exact Nat.max_le.2 ⟨hsame, Nat.le_max_left ..⟩
      | some declared =>
          have hlt : declared < 2 ^ 63 := declaredId?_lt (Option.filter_eq_some_iff.1 hclaimed).1
          exact Nat.max_le.2 ⟨hsame, Nat.le_trans hlt (Nat.le_max_right ..)⟩
  | removes kind id e registers place delivered held nextId => rwa [nextId]
  | drains op_eq =>
      subst op_eq
      exact hsame
  | clears op_eq =>
      subst op_eq
      exact hsame
  | idle registers removes delivered same => rwa [same]

/-- An operation moves the counter of revisions by one at most. -/
theorem nextRevision_apply_le (h : r.Kept) (op : Operation) :
    (op.apply r).nextRevision ≤ r.nextRevision + 1 := by
  rcases h.stored_cases op with ⟨-, hsame⟩ | ⟨e, -, -, hnext⟩
  · omega
  · omega

/-- A registration that declares no identity gets the next one. -/
theorem upsert_assigned (h : r.Kept) {kind : Kind} {payload : Payload} {props : Map}
    (hnone : claimedId? props = none) : (r.upsert kind payload props).1 = .ok r.nextId := by
  cases hresult : (r.upsert kind payload props).1 with
  | error refusal => simp [(h.upsert_refused hresult).1] at hnone
  | ok id =>
      have hid := (upsert_ok hresult).1
      rw [assignId, hnone] at hid
      rw [← hid]

end Kept

/-! ### Runs of operations -/

/-- Every identity that a run returned lies below its counter. -/
theorem lt_nextId_of_returned (h : id ∈ gather Operation.returned empty ops) :
    id < (empty.run ops).nextId := by
  induction ops using List.reverseRecOn with
  | nil => simp [gather] at h
  | append_singleton ops op ih =>
      have hkept := Kept.empty.run ops
      rw [run_concat]
      rw [gather_concat, List.mem_append] at h
      rcases h with hbefore | hnow
      · exact Nat.lt_of_lt_of_le (ih hbefore) (hkept.nextId_le op)
      · exact hkept.returned_lt hnow

/-- Every record that a run stored has a revision below its counter. -/
theorem revision_lt_of_stored (h : e ∈ gather Operation.stored empty ops) :
    e.revision < (empty.run ops).nextRevision := by
  induction ops using List.reverseRecOn with
  | nil => simp [gather] at h
  | append_singleton ops op ih =>
      rw [run_concat]
      rw [gather_concat, List.mem_append] at h
      rcases (Kept.empty.run ops).stored_cases op with ⟨hnone, hsame⟩ | ⟨f, hone, hrevision, hnext⟩
      · rw [hnone] at h
        rw [hsame]
        exact ih (h.resolve_right (by simp))
      · rw [hone, List.mem_singleton] at h
        rw [hnext]
        rcases h with hbefore | rfl
        · exact Nat.lt_succ_of_lt (ih hbefore)
        · omega

/-- Revisions increase in the order in which records are stored. -/
theorem stored_renewed (ops : List Operation) :
    (gather Operation.stored empty ops).Pairwise fun e f => e.revision < f.revision := by
  induction ops using List.reverseRecOn with
  | nil => exact .nil
  | append_singleton ops op ih =>
      rw [gather_concat]
      rcases (Kept.empty.run ops).stored_cases op with ⟨hnone, -⟩ | ⟨f, hone, hrevision, -⟩
      · rwa [hnone, List.append_nil]
      · rw [hone]
        refine List.pairwise_append.2 ⟨ih, List.pairwise_singleton .., fun e he g hg => ?_⟩
        obtain rfl := List.mem_singleton.1 hg
        rw [hrevision]
        exact revision_lt_of_stored he

/-- No record is stored twice. -/
theorem stored_nodup (ops : List Operation) : (gather Operation.stored empty ops).Nodup := by
  refine (stored_renewed ops).imp fun {e f} hlt heq => ?_
  rw [heq] at hlt
  exact Nat.lt_irrefl _ hlt

/-- Each operation moves the counter of identities by one at most, once it is past the declared ones. -/
theorem nextId_run_le (ops : List Operation) : (empty.run ops).nextId ≤ 2 ^ 63 + ops.length := by
  induction ops using List.reverseRecOn with
  | nil => decide
  | append_singleton ops op ih =>
      have hstep := (Kept.empty.run ops).nextId_apply_le op
      rw [run_concat, List.length_append, List.length_singleton]
      refine Nat.le_trans hstep (Nat.max_le.2 ⟨?_, Nat.le_add_right ..⟩)
      exact Nat.succ_le_succ ih

theorem nextRevision_run_le (ops : List Operation) : (empty.run ops).nextRevision ≤ ops.length + 1 := by
  induction ops using List.reverseRecOn with
  | nil => decide
  | append_singleton ops op ih =>
      have hstep := (Kept.empty.run ops).nextRevision_apply_le op
      rw [run_concat, List.length_append, List.length_singleton]
      omega

/-- Fewer than `2 ^ 62` operations leave both counters within 64 bits. -/
theorem counters_lt (hlength : ops.length < 2 ^ 62) :
    (empty.run ops).nextId < 2 ^ 64 ∧ (empty.run ops).nextRevision < 2 ^ 64 := by
  have hid := nextId_run_le ops
  have hrevision := nextRevision_run_le ops
  constructor
  · exact Nat.lt_of_le_of_lt hid (by omega)
  · omega

theorem wrapped_eq (hid : r.nextId < 2 ^ 64) (hrevision : r.nextRevision < 2 ^ 64) : r.wrapped = r := by
  rw [wrapped, Nat.mod_eq_of_lt hid, Nat.mod_eq_of_lt hrevision]

/-- Counters that are 64-bit words go as those without a bound. -/
theorem runWrapped_eq (hlength : ops.length < 2 ^ 62) :
    empty.runWrapped ops = empty.run ops := by
  induction ops using List.reverseRecOn with
  | nil => rfl
  | append_singleton ops op ih =>
      obtain ⟨hid, hrevision⟩ := counters_lt hlength
      have hbefore : empty.runWrapped ops = empty.run ops := by
        apply ih
        rw [List.length_append] at hlength
        omega
      have hlast : empty.runWrapped (ops ++ [op]) = (op.apply (empty.runWrapped ops)).wrapped :=
        List.foldl_append
      rw [run_concat] at hid hrevision ⊢
      rw [hlast, hbefore, wrapped_eq hid hrevision]

/-- Fewer than `2 ^ 62` operations on a registry give out identities and revisions that are new each time,
and their counters stay within 64 bits. -/
theorem run_fresh (ops : List Operation) (hlength : ops.length < 2 ^ 62) : Fresh ops where
  assigned := by
    intro before kind payload props later hsplit hnone
    have hkept := Kept.empty.run before
    refine ⟨_, hkept.upsert_assigned hnone, Nat.ne_of_gt hkept.freshId, fun hreturned => ?_⟩
    exact Nat.lt_irrefl _ (lt_nextId_of_returned hreturned)
  renewed := stored_renewed ops
  named := by
    refine List.pairwise_map.2 ((stored_renewed ops).imp fun {e f} hlt heq => ?_)
    have hrevision : e.revision = f.revision := congrArg Prod.snd heq
    omega
  bounded := by
    rintro before later rfl
    apply counters_lt
    rw [List.length_append] at hlength
    omega
  exact := runWrapped_eq hlength

/-- The last identity in range is declared, removed and declared again, by a group and by a handler, around
registrations without one and a drain. -/
def renewing : List Operation :=
  let declared : Map := .ofList [(Key.serviceId, .number 9223372036854775807), (Key.path, .text "/a")]
  let bare : Map := .ofList [(Key.path, .text "/b")]
  [.upsert .group (.shared 1 .plain) declared, .upsert .group (.shared 1 .plain) bare,
    .upsert .handler (.shared 1 .plain) declared, .remove .group 9223372036854775807, .drain,
    .upsert .handler (.shared 1 .plain) declared, .removeAny 9223372036854775808, .clear,
    .upsert .interceptor (.shared 1 .plain) bare]

theorem renewing_fresh : renewing.length < 2 ^ 62 ∧ Fresh renewing ∧
    gather Operation.returned empty renewing =
      [9223372036854775807, 9223372036854775808, 9223372036854775807, 9223372036854775809] ∧
    (gather Operation.stored empty renewing).map Entry.revision = [1, 2, 3, 4] :=
  ⟨by decide, run_fresh renewing (by decide), by decide +kernel, by decide +kernel⟩

end RouteBinding.Registry
