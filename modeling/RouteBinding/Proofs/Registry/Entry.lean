import RouteBinding.Proofs.Registry.Sound

/-!
# The record under an identity

The three tables of a registry are read here as one: `Registry.recordOf` is the record of a kind under an
identity, and each operation has one equation that says what it does to it (`recordOf_store`, `remove_held`).
With the index of owners these equations give the invariant that ties the tables, the index and the counter
of identities together (`Registry.Kept`): the index says exactly which kind has a record under an identity,
and every identity in it lies below the counter.  The counter is why a refused registration leaves no trace:
it asks for an identity that is held, so the counter is past it already (`Registry.Kept.upsert_refused`).
-/

namespace RouteBinding

open Property

/-- A registered provider with what its kind adds to it. -/
inductive Entry where
  | group (g : Group)
  | content (c : Content)
  deriving DecidableEq

namespace Entry

/-- What an entry has in common with other providers. -/
def provider : Entry → Provider
  | group g => g.provider
  | content c => c.provider

/-- Read an entry of a kind. -/
def ofProperties (kind : Kind) (id : ServiceId) (revision : Nat) (payload : Payload) (props : Map) : Entry :=
  match kind with
  | .group => group (.ofProperties id revision payload props)
  | .handler => content (.ofProperties .handler id revision payload props)
  | .interceptor => content (.ofProperties .interceptor id revision payload props)

theorem ofProperties_provider (kind : Kind) (id : ServiceId) (revision : Nat) (payload : Payload)
    (props : Map) :
    (ofProperties kind id revision payload props).provider.id = id ∧
      (ofProperties kind id revision payload props).provider.kind = kind := by
  cases kind <;> exact ⟨rfl, rfl⟩

end Entry

namespace Registry

/-- The record of a kind under an identity. -/
def recordOf (r : Registry) : Kind → ServiceId → Option Entry
  | .group, id => (r.groups.get? id).map .group
  | .handler, id => (r.handlers.get? id).map .content
  | .interceptor, id => (r.interceptors.get? id).map .content

/-- The identities under which a kind has a record. -/
def keys (r : Registry) : Kind → List ServiceId
  | .group => r.groups.keys
  | .handler => r.handlers.keys
  | .interceptor => r.interceptors.keys

variable {r s : Registry} {kind k : Kind} {id j : ServiceId} {payload : Payload} {props : Map}

theorem mem_keys_iff : id ∈ r.keys kind ↔ (r.recordOf kind id).isSome := by
  have hmem : ∀ {α : Type} (t : Table ServiceId α) (f : α → Entry),
      id ∈ t.keys ↔ ((t.get? id).map f).isSome := fun t f => by
    rw [Table.mem_keys, Option.isSome_map, Option.isSome_iff_exists]
  cases kind with
  | group => exact hmem r.groups _
  | handler => exact hmem r.handlers _
  | interceptor => exact hmem r.interceptors _

/-- The records are all that `recordOf` reads. -/
theorem recordOf_congr (hgroups : s.groups = r.groups) (hhandlers : s.handlers = r.handlers)
    (hinterceptors : s.interceptors = r.interceptors) : s.recordOf = r.recordOf := by
  funext k j
  cases k with
  | group => rw [recordOf, recordOf, hgroups]
  | handler => rw [recordOf, recordOf, hhandlers]
  | interceptor => rw [recordOf, recordOf, hinterceptors]

/-! ### What each operation does to the records -/

theorem recordOf_store : (r.store kind id payload props).recordOf k j =
    if k = kind ∧ j = id then some (.ofProperties kind id r.nextRevision payload props)
    else r.recordOf k j := by
  have hput : ∀ {α : Type} (t : Table ServiceId α) (a : α) (f : α → Entry),
      ((t.insert id a).get? j).map f = if j = id then some (f a) else (t.get? j).map f := by
    intro α t a f
    rw [Table.get?_insert]
    split <;> rfl
  cases kind with
  | group => cases k <;> simp [store, recordOf, Entry.ofProperties, hput]
  | handler => cases k <;> simp [store, recordOf, Entry.ofProperties, hput]
  | interceptor => cases k <;> simp [store, recordOf, Entry.ofProperties, hput]

theorem store_owners : (r.store kind id payload props).owners = r.owners.insert id kind := by
  cases kind <;> rfl

theorem store_nextId : (r.store kind id payload props).nextId = r.nextId := by
  cases kind <;> rfl

/-- Settling an identity changes the counter of identities only, and moves it past the identity. -/
theorem assignId_spec (r : Registry) (props : Map) :
    (r.assignId props).2.2.owners = r.owners ∧ (r.assignId props).2.2.recordOf = r.recordOf ∧
      (r.assignId props).2.2.nextRevision = r.nextRevision ∧ r.nextId ≤ (r.assignId props).2.2.nextId ∧
      (r.assignId props).1 < (r.assignId props).2.2.nextId := by
  unfold assignId
  cases claimedId? props with
  | none => exact ⟨rfl, rfl, rfl, Nat.le_succ _, Nat.lt_succ_self _⟩
  | some id =>
      exact ⟨rfl, rfl, rfl, Nat.le_max_left _ _, Nat.lt_of_succ_le (Nat.le_max_right _ _)⟩

/-- A registration stores a provider under an identity that is free or of its kind, and is refused if another
kind owns the identity. -/
theorem upsert_cases (r : Registry) (kind : Kind) (payload : Payload) (props : Map) :
    ((∀ owner, r.owners.get? (r.assignId props).1 = some owner → owner = kind) ∧
      r.upsert kind payload props = (.ok (r.assignId props).1,
        (r.assignId props).2.2.store kind (r.assignId props).1 payload (r.assignId props).2.1)) ∨
    ∃ owner, r.owners.get? (r.assignId props).1 = some owner ∧ owner ≠ kind ∧
      r.upsert kind payload props = (.error ⟨(r.assignId props).1, owner⟩, (r.assignId props).2.2) := by
  have howners := (r.assignId_spec props).1
  unfold upsert
  dsimp only
  rw [howners]
  cases howner : r.owners.get? (r.assignId props).1 with
  | none =>
      refine .inl ⟨fun owner h => ?_, rfl⟩
      cases h
  | some owner =>
      by_cases hkind : owner = kind
      · refine .inl ⟨fun _ h => Option.some.inj h ▸ hkind, ?_⟩
        dsimp only
        rw [if_pos hkind]
      · refine .inr ⟨owner, rfl, hkind, ?_⟩
        dsimp only
        rw [if_neg hkind]

/-- A registration that succeeds is of the identity that was settled. -/
theorem upsert_ok (h : (r.upsert kind payload props).1 = .ok id) :
    (r.assignId props).1 = id ∧ r.upsert kind payload props = (.ok id,
      (r.assignId props).2.2.store kind id payload (r.assignId props).2.1) := by
  rcases r.upsert_cases kind payload props with ⟨-, heq⟩ | ⟨owner, -, -, heq⟩
  · rw [heq] at h
    cases h
    exact ⟨rfl, heq⟩
  · rw [heq] at h
    cases h

/-- A registration puts its record under its identity and leaves every other one. -/
theorem recordOf_upsert (h : (r.upsert kind payload props).1 = .ok id) :
    (r.upsert kind payload props).2.recordOf k j =
      if k = kind ∧ j = id then
        some (.ofProperties kind id r.nextRevision payload (r.assignId props).2.1)
      else r.recordOf k j := by
  obtain ⟨-, heq⟩ := upsert_ok h
  obtain ⟨-, hentry, hrevision, -⟩ := r.assignId_spec props
  rw [heq, recordOf_store, hrevision, hentry]

/-- A registration that is refused changes no record. -/
theorem recordOf_upsert_refused {e : IdInUse} (h : (r.upsert kind payload props).1 = .error e) :
    (r.upsert kind payload props).2.recordOf = r.recordOf := by
  rcases r.upsert_cases kind payload props with ⟨-, heq⟩ | ⟨owner, -, -, heq⟩
  · rw [heq] at h
    cases h
  · rw [heq]
    exact (r.assignId_spec props).2.1

theorem remove_absent (h : r.owners.get? id ≠ some kind) : r.remove kind id = (false, r) := by
  rw [remove, if_neg h]

/-- The removal of a record that its kind owns succeeds, and forgets the record and its owner. -/
theorem remove_held (howner : r.owners.get? id = some kind) (hheld : (r.recordOf kind id).isSome) :
    (r.remove kind id).1 = true ∧ (r.remove kind id).2.owners = r.owners.erase id ∧
      (r.remove kind id).2.nextId = r.nextId ∧
      ∀ k j, (r.remove kind id).2.recordOf k j = if k = kind ∧ j = id then none else r.recordOf k j := by
  have hdrop : ∀ {α : Type} (t : Table ServiceId α) (f : α → Entry) (j : ServiceId),
      ((t.erase id).get? j).map f = if j = id then none else (t.get? j).map f := by
    intro α t f j
    rw [Table.get?_erase]
    split <;> rfl
  unfold remove
  rw [if_pos howner]
  cases kind with
  | group =>
      obtain ⟨g, hg⟩ := Option.isSome_iff_exists.1 (Option.isSome_map.symm.trans hheld)
      dsimp only
      rw [hg]
      refine ⟨rfl, rfl, rfl, fun k j => ?_⟩
      cases k <;> simp [recordOf, hdrop]
  | handler =>
      obtain ⟨c, hc⟩ := Option.isSome_iff_exists.1 (Option.isSome_map.symm.trans hheld)
      dsimp only
      rw [hc]
      refine ⟨rfl, rfl, rfl, fun k j => ?_⟩
      cases k <;> simp [recordOf, hdrop]
  | interceptor =>
      obtain ⟨c, hc⟩ := Option.isSome_iff_exists.1 (Option.isSome_map.symm.trans hheld)
      dsimp only
      rw [hc]
      refine ⟨rfl, rfl, rfl, fun k j => ?_⟩
      cases k <;> simp [recordOf, hdrop]

/-! ### What ties the tables together -/

/-- A registry in which the index of owners and the counter of identities are in step with the records. -/
structure Kept (r : Registry) : Prop extends r.Sound where
  /-- The kind that owns an identity has a record under it. -/
  held : ∀ id kind, r.owners.get? id = some kind → (r.recordOf kind id).isSome
  /-- Every identity that is owned was given out before. -/
  below : ∀ id kind, r.owners.get? id = some kind → id < r.nextId

namespace Kept

theorem empty : Registry.empty.Kept where
  toSound := empty_sound
  held := by
    intro id kind howner
    cases howner
  below := by
    intro id kind howner
    cases howner

/-- The owner of an identity is the kind that has a record under it. -/
theorem owner_iff (h : r.Kept) : r.owners.get? id = some kind ↔ (r.recordOf kind id).isSome := by
  refine ⟨h.held id kind, fun hheld => ?_⟩
  cases kind with
  | group =>
      obtain ⟨g, hg⟩ := Option.isSome_iff_exists.1 (Option.isSome_map.symm.trans hheld)
      exact (h.groups id g hg).1
  | handler =>
      obtain ⟨c, hc⟩ := Option.isSome_iff_exists.1 (Option.isSome_map.symm.trans hheld)
      exact (h.handlers id c hc).1
  | interceptor =>
      obtain ⟨c, hc⟩ := Option.isSome_iff_exists.1 (Option.isSome_map.symm.trans hheld)
      exact (h.interceptors id c hc).1

/-- No two kinds have a record under one identity. -/
theorem kind_unique (h : r.Kept) (hkind : (r.recordOf kind id).isSome) (hk : (r.recordOf k id).isSome) :
    k = kind :=
  Option.some.inj ((h.owner_iff.2 hk).symm.trans (h.owner_iff.2 hkind))

/-- A registration that is refused asks for an identity of another kind, and changes nothing. -/
theorem upsert_refused (h : r.Kept) {e : IdInUse} (herror : (r.upsert kind payload props).1 = .error e) :
    claimedId? props = some e.id ∧ e.owner ≠ kind ∧ r.owners.get? e.id = some e.owner ∧
      (r.upsert kind payload props).2 = r := by
  rcases r.upsert_cases kind payload props with ⟨-, heq⟩ | ⟨owner, howner, hkind, heq⟩
  · rw [heq] at herror
    cases herror
  · rw [heq] at herror
    cases herror
    rw [heq]
    have hlt := h.below _ _ howner
    unfold assignId at howner hlt ⊢
    cases hclaimed : claimedId? props with
    -- An identity that nobody declared is the next one, which nobody owns.
    | none =>
        rw [hclaimed] at hlt
        exact absurd hlt (Nat.lt_irrefl _)
    | some id =>
        rw [hclaimed] at howner hlt
        refine ⟨rfl, hkind, howner, ?_⟩
        -- The identity is owned, so the counter is past it and does not move.
        dsimp only
        rw [Nat.max_eq_left (Nat.succ_le_of_lt hlt)]

theorem upsert (h : r.Kept) (kind : Kind) (payload : Payload) (props : Map) :
    (r.upsert kind payload props).2.Kept := by
  cases hresult : (r.upsert kind payload props).1 with
  | error e =>
      rw [(h.upsert_refused hresult).2.2.2]
      exact h
  | ok id =>
      obtain ⟨hid, heq⟩ := upsert_ok hresult
      obtain ⟨howners, -, -, hle, hlt⟩ := r.assignId_spec props
      have hindex : (r.upsert kind payload props).2.owners = r.owners.insert id kind := by
        rw [heq, store_owners, howners]
      have hnext : (r.upsert kind payload props).2.nextId = (r.assignId props).2.2.nextId := by
        rw [heq, store_nextId]
      refine { toSound := h.toSound.upsert kind payload props, held := ?_, below := ?_ }
      · intro j k howner
        rw [hindex, Table.get?_insert] at howner
        rw [recordOf_upsert hresult]
        by_cases hj : j = id
        · rw [if_pos hj] at howner
          rw [if_pos ⟨(Option.some.inj howner).symm, hj⟩]
          rfl
        · rw [if_neg hj] at howner
          rw [if_neg fun hboth => hj hboth.2]
          exact h.held j k howner
      · intro j k howner
        rw [hindex, Table.get?_insert] at howner
        rw [hnext]
        by_cases hj : j = id
        · rw [hj, ← hid]
          exact hlt
        · rw [if_neg hj] at howner
          exact Nat.lt_of_lt_of_le (h.below j k howner) hle

theorem remove_iff (h : r.Kept) : (r.remove kind id).1 = true ↔ (r.recordOf kind id).isSome := by
  by_cases howner : r.owners.get? id = some kind
  · have hheld := h.held id kind howner
    exact iff_of_true (remove_held howner hheld).1 hheld
  · rw [remove_absent howner, ← h.owner_iff]
    exact iff_of_false Bool.false_ne_true howner

/-- A removal forgets the record of the kind under the identity and leaves every other one. -/
theorem recordOf_remove (h : r.Kept) :
    (r.remove kind id).2.recordOf k j = if k = kind ∧ j = id then none else r.recordOf k j := by
  by_cases howner : r.owners.get? id = some kind
  · exact (remove_held howner (h.held id kind howner)).2.2.2 k j
  · rw [remove_absent howner]
    split
    · next hsame =>
      obtain ⟨rfl, rfl⟩ := hsame
      rw [h.owner_iff] at howner
      exact Option.not_isSome_iff_eq_none.1 howner
    · rfl

theorem remove (h : r.Kept) (kind : Kind) (id : ServiceId) : (r.remove kind id).2.Kept := by
  by_cases howner : r.owners.get? id = some kind
  · obtain ⟨-, howners, hnext, -⟩ := remove_held howner (h.held id kind howner)
    -- The owners that are left are those of the other identities.
    have hleft : ∀ {j k}, (r.remove kind id).2.owners.get? j = some k →
        j ≠ id ∧ r.owners.get? j = some k := by
      intro j k hk
      rw [howners, Table.get?_erase] at hk
      by_cases hj : j = id
      · rw [if_pos hj] at hk
        cases hk
      · rw [if_neg hj] at hk
        exact ⟨hj, hk⟩
    refine { toSound := h.toSound.remove kind id, held := ?_, below := ?_ }
    · intro j k hk
      obtain ⟨hj, howner⟩ := hleft hk
      rw [h.recordOf_remove, if_neg fun hboth => hj hboth.2]
      exact h.held j k howner
    · intro j k hk
      rw [hnext]
      exact h.below j k (hleft hk).2
  · rw [remove_absent howner]
    exact h

/-- A search among kinds that do not own the identity finds nothing. -/
theorem removeFirst_none {kinds : List Kind} (hnone : ∀ kind ∈ kinds, r.owners.get? id ≠ some kind) :
    r.removeFirst id kinds = (none, r) := by
  induction kinds with
  | nil => rfl
  | cons kind rest ih =>
      unfold removeFirst
      rw [remove_absent (hnone kind List.mem_cons_self)]
      exact ih fun k hk => hnone k (List.mem_cons_of_mem _ hk)

/-- A search among kinds of which one owns the identity removes the provider of that kind. -/
theorem removeFirst_some (h : r.Kept) (howner : r.owners.get? id = some kind) {kinds : List Kind}
    (hmem : kind ∈ kinds) : r.removeFirst id kinds = (some kind, (r.remove kind id).2) := by
  induction kinds with
  | nil => cases hmem
  | cons first rest ih =>
      unfold removeFirst
      by_cases hfirst : first = kind
      · have hfound := (remove_held howner (h.held id kind howner)).1
        subst hfirst
        cases hresult : r.remove first id with
        | mk found s =>
            rw [hresult] at hfound
            obtain rfl := hfound
            rfl
      · have habsent : r.owners.get? id ≠ some first := by
          rw [howner]
          exact fun heq => hfirst (Option.some.inj heq).symm
        rw [remove_absent habsent]
        exact ih ((List.mem_cons.1 hmem).resolve_left fun heq => hfirst heq.symm)

/-- A removal of whatever an identity names is the removal from the kind that has it, if one has. -/
theorem removeAny_eq (h : r.Kept) (id : ServiceId) :
    r.removeAny id = match r.owners.get? id with
      | some kind => (some kind, (r.remove kind id).2)
      | none => (none, r) := by
  have hevery : ∀ kind : Kind, kind ∈ Kind.every := fun kind => by cases kind <;> decide
  cases howner : r.owners.get? id with
  | none =>
      refine removeFirst_none fun kind _ => ?_
      rw [howner]
      exact Option.some_ne_none kind |>.symm
  | some kind => exact h.removeFirst_some howner (hevery kind)

theorem removeAny (h : r.Kept) (id : ServiceId) : (r.removeAny id).2.Kept := by
  rw [h.removeAny_eq]
  cases r.owners.get? id with
  | none => exact h
  | some kind => exact h.remove kind id

theorem drain (h : r.Kept) : r.drain.2.Kept where
  toSound := h.toSound.drain
  held := h.held
  below := h.below

/-- A registry that forgets its providers keeps its counters. -/
theorem clear (h : r.Kept) : r.clear.Kept where
  groups := Made.empty
  handlers := Made.empty
  interceptors := Made.empty
  nonzero := empty.nonzero
  freshId := h.freshId
  freshRevision := h.freshRevision
  held := empty.held
  below := by
    intro id kind howner
    cases howner

end Kept

end Registry

end RouteBinding
