import RouteBinding.Proofs.Registry.Entry
import Mathlib.Data.List.Induction

/-!
# Registries and what was done to them

Whatever is done to a registry, its tables, its index of owners and its counters agree, and what is live in
it is accounted for by the operations: the record under an identity is the one that the last registration of
it made, provided that no removal came later (`Registry.run_accounted`).  The induction is over the
operations, with `Registry.Kept` as its invariant and one equation for what an operation does to the record
under an identity (`Registry.Kept.recordOf_apply`).
-/

namespace RouteBinding.Registry

open Property

/-- What can be done to a registry. -/
inductive Operation where
  | upsert (kind : Kind) (payload : Payload) (props : Map)
  | remove (kind : Kind) (id : ServiceId)
  | removeAny (id : ServiceId)
  | drain
  | clear

namespace Operation

/-- The registry that an operation leaves. -/
def apply (r : Registry) : Operation → Registry
  | upsert kind payload props => (r.upsert kind payload props).2
  | remove kind id => (r.remove kind id).2
  | removeAny id => (r.removeAny id).2
  | drain => r.drain.2
  | clear => r.clear

/-- Whether an operation on a registry registers a provider under an identity, or removes the one there. -/
def Touches (r : Registry) (id : ServiceId) : Operation → Prop
  | upsert kind payload props => (r.upsert kind payload props).1 = .ok id
  | remove kind j => j = id ∧ (r.remove kind j).1 = true
  | removeAny j => j = id ∧ (r.removeAny j).1.isSome
  | drain => False
  | clear => True

end Operation

/-- The registry after some operations, one after the other. -/
def run (r : Registry) (ops : List Operation) : Registry := ops.foldl Operation.apply r

/-- None of some operations, one after the other, registers or removes anything under an identity. -/
def Untouched (id : ServiceId) : Registry → List Operation → Prop
  | _, [] => True
  | r, op :: rest => ¬op.Touches r id ∧ Untouched id (op.apply r) rest

/-- The last that some operations did to an identity was to register this entry under it: it was read from the
properties of a registration that succeeded, with the next revision at that moment. -/
def RegisteredLast (ops : List Operation) (kind : Kind) (id : ServiceId) (e : Entry) : Prop :=
  ∃ before payload props later, ops = before ++ .upsert kind payload props :: later ∧
    ((empty.run before).upsert kind payload props).1 = .ok id ∧
    e = .ofProperties kind id (empty.run before).nextRevision payload
      ((empty.run before).assignId props).2.1 ∧
    Untouched id ((empty.run before).upsert kind payload props).2 later

/-- A registry whose parts agree with each other and with the operations that led to it. -/
structure Accounted (ops : List Operation) (r : Registry) : Prop where
  disjoint : ∀ kind k, kind ≠ k → (r.keys kind).Disjoint (r.keys k)
  owners : ∀ id kind, r.owners.get? id = some kind ↔ id ∈ r.keys kind
  /-- Every record has the identity it is kept under, and the kind of its table. -/
  own : ∀ kind id e, r.recordOf kind id = some e → e.provider.id = id ∧ e.provider.kind = kind
  latest : ∀ kind id e, r.recordOf kind id = some e ↔ RegisteredLast ops kind id e
  remove : ∀ kind id, (r.remove kind id).1 = true ↔ id ∈ r.keys kind
  removeAny : ∀ id kind, (r.removeAny id).1 = some kind ↔ id ∈ r.keys kind
  /-- A registration is refused exactly if a provider of another kind has the declared identity. -/
  refused : ∀ kind payload props e, (r.upsert kind payload props).1 = .error e ↔
    declaredId? props = some e.id ∧ e.owner ≠ kind ∧ e.id ∈ r.keys e.owner
  /-- A registration that is refused changes nothing, the counters included. -/
  atomic : ∀ kind payload props e, (r.upsert kind payload props).1 = .error e →
    (r.upsert kind payload props).2 = r

variable {r : Registry} {kind : Kind} {id : ServiceId} {e : Entry} {ops later : List Operation}

/-! ### One operation -/

namespace Kept

theorem apply (h : r.Kept) (op : Operation) : (op.apply r).Kept := by
  cases op with
  | upsert kind payload props => exact h.upsert kind payload props
  | remove kind id => exact h.remove kind id
  | removeAny id => exact h.removeAny id
  | drain => exact h.drain
  | clear => exact h.clear

theorem run (h : r.Kept) (ops : List Operation) : (r.run ops).Kept :=
  List.foldlRecOn ops Operation.apply h fun _ hkept op _ => hkept.apply op

/-- The record under an identity after a removal from a kind: the one before, unless it was removed. -/
theorem recordOf_remove_iff (h : r.Kept) {k : Kind} {j : ServiceId} :
    (r.remove k j).2.recordOf kind id = some e ↔
      r.recordOf kind id = some e ∧ ¬(j = id ∧ (r.remove k j).1 = true) := by
  rw [h.recordOf_remove, h.remove_iff]
  by_cases hsame : kind = k ∧ id = j
  · obtain ⟨rfl, rfl⟩ := hsame
    rw [if_pos ⟨rfl, rfl⟩]
    refine iff_of_false (fun hnone => by cases hnone) fun ⟨hentry, hkept⟩ => hkept ⟨rfl, ?_⟩
    rw [hentry]
    rfl
  · rw [if_neg hsame]
    refine ⟨fun hentry => ⟨hentry, fun ⟨hj, hheld⟩ => hsame ⟨?_, hj.symm⟩⟩, And.left⟩
    -- Two kinds would have a record under the identity.
    rw [hj] at hheld
    exact h.kind_unique hheld (by rw [hentry]; rfl)

/-- The record under an identity after a registration: the one before, unless the registration is of this
identity, or the one that it stores. -/
theorem recordOf_upsert_iff (h : r.Kept) {k : Kind} {payload : Payload} {props : Map} :
    (r.upsert k payload props).2.recordOf kind id = some e ↔
      (r.recordOf kind id = some e ∧ ¬(r.upsert k payload props).1 = .ok id) ∨
      k = kind ∧ (r.upsert k payload props).1 = .ok id ∧
        e = .ofProperties kind id r.nextRevision payload (r.assignId props).2.1 := by
  cases hresult : (r.upsert k payload props).1 with
  | error refusal =>
      rw [recordOf_upsert_refused hresult]
      refine ⟨fun hentry => .inl ⟨hentry, fun hok => by cases hok⟩, ?_⟩
      rintro (⟨hentry, -⟩ | ⟨-, hok, -⟩)
      · exact hentry
      · cases hok
  | ok j =>
      rw [recordOf_upsert hresult]
      by_cases hj : id = j
      · by_cases hkind : kind = k
        · subst hj hkind
          rw [if_pos ⟨rfl, rfl⟩]
          refine ⟨fun hentry => .inr ⟨rfl, rfl, (Option.some.inj hentry).symm⟩, ?_⟩
          rintro (⟨-, hother⟩ | ⟨-, -, rfl⟩)
          · exact absurd rfl hother
          · rfl
        · -- No record of another kind is there, or the registration would have been refused.
          have hnone : r.recordOf kind id ≠ some e := by
            intro hentry
            have howner : r.owners.get? id = some kind := h.owner_iff.2 (by rw [hentry]; rfl)
            rcases r.upsert_cases k payload props with ⟨hfree, heq⟩ | ⟨owner, -, -, heq⟩
            · rw [heq] at hresult
              rw [hj, ← Except.ok.inj hresult] at howner
              exact hkind (hfree kind howner)
            · rw [heq] at hresult
              cases hresult
          rw [if_neg fun hboth => hkind hboth.1]
          refine iff_of_false hnone ?_
          rintro (⟨hentry, -⟩ | ⟨hk, -⟩)
          · exact hnone hentry
          · exact hkind hk.symm
      · rw [if_neg fun hboth => hj hboth.2]
        have hne : (Except.ok j : Except IdInUse ServiceId) ≠ .ok id :=
          fun hok => hj (Except.ok.inj hok).symm
        refine ⟨fun hentry => .inl ⟨hentry, hne⟩, ?_⟩
        rintro (⟨hentry, -⟩ | ⟨-, hok, -⟩)
        · exact hentry
        · exact absurd hok hne

/-- The record under an identity after an operation: the one before, unless the operation touches the
identity, or the one that the operation registers. -/
theorem recordOf_apply (h : r.Kept) (op : Operation) :
    (op.apply r).recordOf kind id = some e ↔ (r.recordOf kind id = some e ∧ ¬op.Touches r id) ∨
      ∃ payload props, op = .upsert kind payload props ∧ (r.upsert kind payload props).1 = .ok id ∧
        e = .ofProperties kind id r.nextRevision payload (r.assignId props).2.1 := by
  cases op with
  | upsert k payload props =>
      refine h.recordOf_upsert_iff.trans (or_congr_right ⟨?_, ?_⟩)
      · rintro ⟨rfl, hok, hentry⟩
        exact ⟨payload, props, rfl, hok, hentry⟩
      · rintro ⟨payload', props', heq, hok, hentry⟩
        cases heq
        exact ⟨rfl, hok, hentry⟩
  | remove k j =>
      refine h.recordOf_remove_iff.trans ⟨.inl, ?_⟩
      rintro (hkept | ⟨payload, props, heq, -⟩)
      · exact hkept
      · cases heq
  | removeAny j =>
      have hstep : (r.removeAny j).2.recordOf kind id = some e ↔
          r.recordOf kind id = some e ∧ ¬(j = id ∧ (r.removeAny j).1.isSome) := by
        rw [h.removeAny_eq]
        cases howner : r.owners.get? j with
        | none => exact ⟨fun hentry => ⟨hentry, fun ⟨_, hsome⟩ => by cases hsome⟩, And.left⟩
        | some k =>
            have hremoved := (remove_held howner (h.held j k howner)).1
            refine h.recordOf_remove_iff.trans ?_
            rw [hremoved]
            exact Iff.rfl
      refine hstep.trans ⟨.inl, ?_⟩
      rintro (hkept | ⟨payload, props, heq, -⟩)
      · exact hkept
      · cases heq
  | drain =>
      refine ⟨fun hentry => .inl ⟨hentry, not_false⟩, ?_⟩
      rintro (⟨hentry, -⟩ | ⟨payload, props, heq, -⟩)
      · exact hentry
      · cases heq
  | clear =>
      refine iff_of_false (fun hentry => ?_) ?_
      · cases kind <;> cases hentry
      · rintro (⟨-, htouched⟩ | ⟨payload, props, heq, -⟩)
        · exact htouched trivial
        · cases heq

end Kept

/-! ### Runs -/

theorem run_concat (r : Registry) (ops : List Operation) (op : Operation) :
    r.run (ops ++ [op]) = op.apply (r.run ops) := by
  rw [run, List.foldl_append]
  rfl

theorem untouched_concat (op : Operation) :
    Untouched id r (later ++ [op]) ↔ Untouched id r later ∧ ¬op.Touches (r.run later) id := by
  induction later generalizing r with
  | nil => exact and_comm
  | cons first rest ih =>
      show _ ∧ Untouched id (first.apply r) (rest ++ [op]) ↔ (_ ∧ _) ∧ _
      rw [ih, and_assoc]
      rfl

/-- What a registration does to the state of a run is where the operations behind it start. -/
theorem run_split (before later : List Operation) (kind : Kind) (payload : Payload) (props : Map) :
    empty.run (before ++ .upsert kind payload props :: later) =
      ((empty.run before).upsert kind payload props).2.run later := by
  rw [run, List.foldl_append, List.foldl_cons]
  rfl

/-- What was registered last under an identity after one operation more. -/
theorem registeredLast_concat (op : Operation) :
    RegisteredLast (ops ++ [op]) kind id e ↔
      (RegisteredLast ops kind id e ∧ ¬op.Touches (empty.run ops) id) ∨
      ∃ payload props, op = .upsert kind payload props ∧
        ((empty.run ops).upsert kind payload props).1 = .ok id ∧
        e = .ofProperties kind id (empty.run ops).nextRevision payload
          ((empty.run ops).assignId props).2.1 := by
  constructor
  · rintro ⟨before, payload, props, later, hsplit, hok, hentry, hlater⟩
    -- The registration is the last operation, or the last operation stands behind it.
    rcases List.eq_nil_or_concat later with rfl | ⟨later, last, rfl⟩
    · obtain ⟨rfl, hlast⟩ := List.append_inj' hsplit rfl
      exact .inr ⟨payload, props, (List.cons.inj hlast).1, hok, hentry⟩
    · rw [List.concat_eq_append] at hsplit hlater
      rw [← List.cons_append, ← List.append_assoc] at hsplit
      obtain ⟨rfl, hlast⟩ := List.append_inj' hsplit rfl
      obtain rfl := (List.cons.inj hlast).1
      obtain ⟨hlater, hop⟩ := (untouched_concat op).1 hlater
      rw [run_split]
      exact .inl ⟨⟨before, payload, props, later, rfl, hok, hentry, hlater⟩, hop⟩
  · rintro (⟨⟨before, payload, props, later, rfl, hok, hentry, hlater⟩, hop⟩ |
      ⟨payload, props, rfl, hok, hentry⟩)
    · rw [run_split] at hop
      refine ⟨before, payload, props, later ++ [op], ?_, hok, hentry, (untouched_concat op).2 ⟨hlater, hop⟩⟩
      rw [List.append_assoc, List.cons_append]
    · exact ⟨ops, payload, props, [], rfl, hok, hentry, trivial⟩

/-- The record under an identity is the one that was registered last under it and has not left since. -/
theorem recordOf_run_iff (ops : List Operation) (kind : Kind) (id : ServiceId) (e : Entry) :
    (empty.run ops).recordOf kind id = some e ↔ RegisteredLast ops kind id e := by
  induction ops using List.reverseRecOn with
  | nil =>
      refine iff_of_false (fun hentry => ?_) ?_
      · cases kind <;> cases hentry
      · rintro ⟨before, payload, props, later, hsplit, -⟩
        exact List.append_ne_nil_of_right_ne_nil before (List.cons_ne_nil _ later) hsplit.symm
  | append_singleton ops op ih =>
      rw [run_concat, (Kept.empty.run ops).recordOf_apply, ih, registeredLast_concat]

/-- Whatever was done to a registry, its tables, owners and counters agree with each other and with what was
done. -/
theorem run_accounted (ops : List Operation) : Accounted ops (empty.run ops) := by
  have hkept := Kept.empty.run ops
  have howner : ∀ id kind, (empty.run ops).owners.get? id = some kind ↔ id ∈ (empty.run ops).keys kind :=
    fun id kind => hkept.owner_iff.trans mem_keys_iff.symm
  refine
    { disjoint := ?_
      owners := howner
      own := ?_
      latest := recordOf_run_iff ops
      remove := fun kind id => hkept.remove_iff.trans mem_keys_iff.symm
      removeAny := ?_
      refused := ?_
      atomic := fun kind payload props e herror => (hkept.upsert_refused herror).2.2.2 }
  · intro kind k hkinds id hkind hk
    exact hkinds (hkept.kind_unique (mem_keys_iff.1 hk) (mem_keys_iff.1 hkind))
  · intro kind id e hentry
    obtain ⟨before, payload, props, later, -, -, rfl, -⟩ := (recordOf_run_iff ops kind id e).1 hentry
    exact Entry.ofProperties_provider ..
  · intro id kind
    rw [← howner, hkept.removeAny_eq]
    cases (empty.run ops).owners.get? id <;> rfl
  · intro kind payload props e
    constructor
    · intro herror
      obtain ⟨hclaimed, hother, hheld, -⟩ := hkept.upsert_refused herror
      exact ⟨(Option.filter_eq_some_iff.1 hclaimed).1, hother, (howner _ _).1 hheld⟩
    · rintro ⟨hdeclared, hother, hheld⟩
      have hheld := (howner _ _).2 hheld
      -- An identity that is held is not that of the implicit default group, so it is claimed as declared.
      have hclaimed : claimedId? props = some e.id := by
        rw [claimedId?, hdeclared, Option.filter_some_pos]
        exact decide_eq_true (hkept.nonzero _ _ hheld)
      have hid : ((empty.run ops).assignId props).1 = e.id := by
        rw [assignId, hclaimed]
      rcases (empty.run ops).upsert_cases kind payload props with ⟨hfree, -⟩ | ⟨owner, howned, -, heq⟩
      · rw [hid] at hfree
        exact absurd (hfree e.owner hheld) hother
      · rw [hid] at howned heq
        rw [heq, Option.some.inj (howned.symm.trans hheld)]

/-- The properties of a provider that asks for an identity. -/
def asking (id : Value) : Map := .ofList [("Service.Id", id), (Key.path, .text "/a")]

/-- A handler is registered under an identity, once by its number and once by its text; an interceptor that asks for
the same identity is refused, and so is a group that asks for the one of an interceptor. -/
def contending : List Operation :=
  [.upsert .handler (.shared 1 .plain) (asking (.number 7)), .upsert .interceptor (.shared 2 .plain) ∅,
    .upsert .interceptor (.shared 3 .plain) (asking (.number 7)), .remove .interceptor 7,
    .upsert .handler (.shared 4 .plain) (asking (.text "7")), .upsert .group (.shared 5 .plain) (asking (.text "8")),
    .drain]

theorem contending_accounted :
    Accounted contending (empty.run contending) ∧
      ((empty.run contending).upsert .group (.shared 6 .plain) (asking (.text "+7"))).1 = .error ⟨7, .handler⟩ ∧
      ((empty.run contending).upsert .group (.shared 6 .plain) (asking (.text "+7"))).2 = empty.run contending ∧
      ((empty.run contending).upsert .group (.shared 6 .plain) (asking (.number 9))).1 = .ok 9 ∧
      (declaredId? (asking (.text "+7")) = some 7 ∧ 7 ∈ (empty.run contending).keys .handler) ∧
      ((empty.run contending).nextId, (empty.run contending).nextRevision) = (9, 4) ∧
      RegisteredLast contending .handler 7
        (.ofProperties .handler 7 3 (.shared 4 .plain) (asking (.text "7"))) := by
  have haccounted := run_accounted contending
  have hrefused : ((empty.run contending).upsert .group (.shared 6 .plain) (asking (.text "+7"))).1 =
      .error ⟨7, .handler⟩ := by decide +kernel
  obtain ⟨hdeclared, -, hheld⟩ := (haccounted.refused _ _ _ _).1 hrefused
  exact ⟨haccounted, hrefused, haccounted.atomic _ _ _ _ hrefused, by decide +kernel, ⟨hdeclared, hheld⟩,
    by decide +kernel, (haccounted.latest _ _ _).1 (by decide +kernel)⟩

end RouteBinding.Registry
