import RouteBinding.Dispatcher.Basic
import RouteBinding.Proofs.Pass.Roster

/-!
# What a registry holds

Every record of a registry was read from a property map under its own identity and with a revision that was
given out before, and the identity is owned by the kind of the record (`Registry.Sound`).  Each operation
keeps this, so a registry lists its live providers as passes expect them
(`Registry.Sound.live_wellFormed`).  A registration makes at most one record, under a revision that was not
given out before (`Registry.upsert_grown`).
-/

namespace RouteBinding

open Property

/-- Every entry of a table was made under its key with a revision below a bound, and one kind owns the key. -/
def Made {α : Type} (owners : Table ServiceId Kind) (bound : Nat) (kind : Kind)
    (make : ServiceId → Nat → Payload → Map → α) (t : Table ServiceId α) : Prop :=
  ∀ id a, t.get? id = some a → owners.get? id = some kind ∧
    ∃ revision payload props, 0 < revision ∧ revision < bound ∧ a = make id revision payload props

namespace Made

variable {α : Type} {owners : Table ServiceId Kind} {bound : Nat} {kind other : Kind}
  {make : ServiceId → Nat → Payload → Map → α} {t : Table ServiceId α} {id : ServiceId}

theorem empty : Made owners bound kind make ∅ := by
  intro id a ha
  cases ha

/-- A record that is made with the next revision may be stored. -/
theorem insert (h : Made owners bound kind make t) (hbound : 0 < bound) (payload : Payload) (props : Map) :
    Made (owners.insert id kind) (bound + 1) kind make (t.insert id (make id bound payload props)) := by
  intro j a ha
  rw [Table.get?_insert] at ha ⊢
  by_cases hj : j = id
  · rw [if_pos hj] at ha ⊢
    rw [hj]
    exact ⟨rfl, bound, payload, props, hbound, Nat.lt_succ_self _, (Option.some.inj ha).symm⟩
  · rw [if_neg hj] at ha ⊢
    obtain ⟨howner, revision, payload, props, hpos, hlt, rfl⟩ := h j a ha
    exact ⟨howner, revision, payload, props, hpos, Nat.lt_succ_of_lt hlt, rfl⟩

/-- A record of another kind may be stored under an identity that this kind does not own. -/
theorem insert_other (h : Made owners bound kind make t) (hfree : owners.get? id ≠ some kind) :
    Made (owners.insert id other) (bound + 1) kind make t := by
  intro j a ha
  obtain ⟨howner, revision, payload, props, hpos, hlt, rfl⟩ := h j a ha
  -- An entry of this table has an owner of this kind, so it is not the one that changes.
  have hj : j ≠ id := fun hj => hfree (hj ▸ howner)
  rw [Table.get?_insert, if_neg hj]
  exact ⟨howner, revision, payload, props, hpos, Nat.lt_succ_of_lt hlt, rfl⟩

/-- A record and its owner may be forgotten together. -/
theorem erase (h : Made owners bound kind make t) :
    Made (owners.erase id) bound kind make (t.erase id) := by
  intro j a ha
  rw [Table.get?_erase] at ha ⊢
  by_cases hj : j = id
  · rw [if_pos hj] at ha
    cases ha
  · rw [if_neg hj] at ha ⊢
    exact h j a ha

/-- An owner may be forgotten if the table has no record under the identity. -/
theorem erase_absent (h : Made owners bound kind make t) (habsent : t.get? id = none) :
    Made (owners.erase id) bound kind make t := by
  intro j a ha
  have hj : j ≠ id := by
    rintro rfl
    rw [habsent] at ha
    cases ha
  rw [Table.get?_erase, if_neg hj]
  exact h j a ha

theorem absent (h : Made owners bound kind make t) (howner : owners.get? id ≠ some kind) :
    t.get? id = none := by
  cases hget : t.get? id with
  | none => rfl
  | some a => exact absurd (h id a hget).1 howner

theorem owner (h : Made owners bound kind make t) (hid : id ∈ t.keys) : owners.get? id = some kind := by
  obtain ⟨a, ha⟩ := Table.mem_keys.1 hid
  exact (h id a ha).1

theorem of_mem_values (h : Made owners bound kind make t) {a : α} (ha : a ∈ t.values) :
    ∃ id revision payload props, 0 < revision ∧ revision < bound ∧ a = make id revision payload props := by
  obtain ⟨id, hget⟩ := Table.mem_values.1 ha
  obtain ⟨-, revision, payload, props, hmade⟩ := h id a hget
  exact ⟨id, revision, payload, props, hmade⟩

/-- Where a record knows the identity it was made with, the records in order have the keys in order. -/
theorem map_values (h : Made owners bound kind make t) {key : α → ServiceId}
    (hkey : ∀ id revision payload props, key (make id revision payload props) = id) :
    t.values.map key = t.keys := by
  refine Table.map_values_eq_keys fun id a ha => ?_
  obtain ⟨-, revision, payload, props, -, -, rfl⟩ := h id a ha
  exact hkey id revision payload props

end Made

namespace Registry

/-- A registry as its operations leave it. -/
structure Sound (r : Registry) : Prop where
  groups : Made r.owners r.nextRevision .group Group.ofProperties r.groups
  handlers : Made r.owners r.nextRevision .handler (Content.ofProperties .handler) r.handlers
  interceptors :
    Made r.owners r.nextRevision .interceptor (Content.ofProperties .interceptor) r.interceptors
  /-- Nothing owns the identity of the implicit default group. -/
  nonzero : ∀ id kind, r.owners.get? id = some kind → id ≠ ServiceId.implicitDefault
  freshId : 0 < r.nextId
  freshRevision : 0 < r.nextRevision

variable {r : Registry}

theorem empty_sound : empty.Sound where
  groups := Made.empty
  handlers := Made.empty
  interceptors := Made.empty
  nonzero := by
    intro id kind howner
    cases howner
  freshId := Nat.one_pos
  freshRevision := Nat.one_pos

namespace Sound

theorem store (h : r.Sound) {kind : Kind} {id : ServiceId}
    (hfree : r.owners.get? id = none ∨ r.owners.get? id = some kind)
    (hid : id ≠ ServiceId.implicitDefault) (payload : Payload) (props : Map) :
    (r.store kind id payload props).Sound := by
  -- The identity is free or of this kind, so no other kind owns it.
  have hother : ∀ other, other ≠ kind → r.owners.get? id ≠ some other := by
    intro other hne howner
    rcases hfree with hnone | hsome
    · rw [hnone] at howner
      cases howner
    · rw [hsome] at howner
      exact hne (Option.some.inj howner).symm
  have hnonzero : ∀ j k, (r.owners.insert id kind).get? j = some k → j ≠ ServiceId.implicitDefault := by
    intro j k howner
    rw [Table.get?_insert] at howner
    by_cases hj : j = id
    · rwa [hj]
    · rw [if_neg hj] at howner
      exact h.nonzero j k howner
  cases kind with
  | group =>
      exact
        { groups := h.groups.insert h.freshRevision payload props
          handlers := h.handlers.insert_other (hother _ (by decide))
          interceptors := h.interceptors.insert_other (hother _ (by decide))
          nonzero := hnonzero
          freshId := h.freshId
          freshRevision := Nat.succ_pos _ }
  | handler =>
      exact
        { groups := h.groups.insert_other (hother _ (by decide))
          handlers := h.handlers.insert h.freshRevision payload props
          interceptors := h.interceptors.insert_other (hother _ (by decide))
          nonzero := hnonzero
          freshId := h.freshId
          freshRevision := Nat.succ_pos _ }
  | interceptor =>
      exact
        { groups := h.groups.insert_other (hother _ (by decide))
          handlers := h.handlers.insert_other (hother _ (by decide))
          interceptors := h.interceptors.insert h.freshRevision payload props
          nonzero := hnonzero
          freshId := h.freshId
          freshRevision := Nat.succ_pos _ }

/-- An identity that a registration is given is not that of the implicit default group. -/
theorem assignId_ne (h : r.Sound) (props : Map) : (r.assignId props).1 ≠ ServiceId.implicitDefault := by
  unfold assignId
  cases hclaimed : claimedId? props with
  | none => exact Nat.ne_of_gt h.freshId
  | some id =>
      have := (Option.filter_eq_some_iff.1 hclaimed).2
      exact of_decide_eq_true this

theorem assignId (h : r.Sound) (props : Map) : (r.assignId props).2.2.Sound := by
  unfold Registry.assignId
  cases claimedId? props with
  | none => exact { h with freshId := Nat.succ_pos _ }
  | some id => exact { h with freshId := Nat.lt_of_lt_of_le h.freshId (Nat.le_max_left _ _) }

theorem upsert (h : r.Sound) (kind : Kind) (payload : Payload) (props : Map) :
    (r.upsert kind payload props).2.Sound := by
  have hassigned := h.assignId props
  have hid := h.assignId_ne props
  unfold Registry.upsert
  generalize r.assignId props = assigned at hassigned hid ⊢
  obtain ⟨id, props, r'⟩ := assigned
  dsimp only at hassigned hid ⊢
  -- Registering under an identity that another kind holds is refused.
  cases howner : r'.owners.get? id with
  | none => exact hassigned.store (.inl howner) hid payload props
  | some owner =>
      dsimp only
      by_cases hkind : owner = kind
      · rw [if_pos hkind]
        exact hassigned.store (.inr (hkind ▸ howner)) hid payload props
      · rw [if_neg hkind]
        exact hassigned

theorem remove (h : r.Sound) (kind : Kind) (id : ServiceId) : (r.remove kind id).2.Sound := by
  unfold Registry.remove
  by_cases howner : r.owners.get? id = some kind
  · rw [if_pos howner]
    have hnonzero : ∀ j k, (r.owners.erase id).get? j = some k → j ≠ ServiceId.implicitDefault := by
      intro j k hj
      rw [Table.get?_erase] at hj
      by_cases heq : j = id
      · rw [if_pos heq] at hj
        cases hj
      · rw [if_neg heq] at hj
        exact h.nonzero j k hj
    have hother : ∀ other, other ≠ kind → r.owners.get? id ≠ some other := by
      intro other hne hsome
      exact hne (Option.some.inj (hsome.symm.trans howner))
    -- The tables of the other kinds have no record under the identity.
    have hgroups : kind ≠ .group → r.groups.get? id = none :=
      fun hne => h.groups.absent (hother _ hne.symm)
    have hhandlers : kind ≠ .handler → r.handlers.get? id = none :=
      fun hne => h.handlers.absent (hother _ hne.symm)
    have hinterceptors : kind ≠ .interceptor → r.interceptors.get? id = none :=
      fun hne => h.interceptors.absent (hother _ hne.symm)
    cases kind with
    | group =>
        have hhandlers := h.handlers.erase_absent (hhandlers (by decide))
        have hinterceptors := h.interceptors.erase_absent (hinterceptors (by decide))
        dsimp only
        cases hget : r.groups.get? id with
        | none =>
            have hgroups := h.groups.erase_absent hget
            exact ⟨hgroups, hhandlers, hinterceptors, hnonzero, h.freshId, h.freshRevision⟩
        | some g =>
            exact ⟨h.groups.erase, hhandlers, hinterceptors, hnonzero, h.freshId, h.freshRevision⟩
    | handler =>
        have hgroups := h.groups.erase_absent (hgroups (by decide))
        have hinterceptors := h.interceptors.erase_absent (hinterceptors (by decide))
        dsimp only
        cases hget : r.handlers.get? id with
        | none =>
            have hhandlers := h.handlers.erase_absent hget
            exact ⟨hgroups, hhandlers, hinterceptors, hnonzero, h.freshId, h.freshRevision⟩
        | some c =>
            exact ⟨hgroups, h.handlers.erase, hinterceptors, hnonzero, h.freshId, h.freshRevision⟩
    | interceptor =>
        have hgroups := h.groups.erase_absent (hgroups (by decide))
        have hhandlers := h.handlers.erase_absent (hhandlers (by decide))
        dsimp only
        cases hget : r.interceptors.get? id with
        | none =>
            have hinterceptors := h.interceptors.erase_absent hget
            exact ⟨hgroups, hhandlers, hinterceptors, hnonzero, h.freshId, h.freshRevision⟩
        | some c =>
            exact ⟨hgroups, hhandlers, h.interceptors.erase, hnonzero, h.freshId, h.freshRevision⟩
  · rw [if_neg howner]
    exact h

theorem drain (h : r.Sound) : r.drain.2.Sound :=
  { h with }

/-! ### The live providers -/

theorem groups_keys (h : r.Sound) : r.groups.values.map Group.id = r.groups.keys :=
  h.groups.map_values fun _ _ _ _ => rfl

theorem handlers_keys (h : r.Sound) : r.handlers.values.map Content.id = r.handlers.keys :=
  h.handlers.map_values fun _ _ _ _ => rfl

theorem interceptors_keys (h : r.Sound) : r.interceptors.values.map Content.id = r.interceptors.keys :=
  h.interceptors.map_values fun _ _ _ _ => rfl

/-- The identities of the live providers are the keys of the three tables. -/
theorem live_ids (h : r.Sound) : r.live.providers.map Provider.id =
    r.groups.keys ++ r.handlers.keys ++ r.interceptors.keys := by
  rw [← h.groups_keys, ← h.handlers_keys, ← h.interceptors_keys, Roster.providers, List.map_append,
    List.map_append, List.map_map, List.map_map, List.map_map]
  rfl

/-- No two tables have a key in common: the owner of a key says which table has it. -/
theorem nodup_live_ids (h : r.Sound) : (r.live.providers.map Provider.id).Nodup := by
  have hnodup : ∀ {α : Type} (t : Table ServiceId α), t.keys.Nodup := fun t =>
    (Table.pairwise_keys t).imp fun hlt => Nat.ne_of_lt hlt
  -- The owner of an identity tells which table has it.
  have hdisjoint : ∀ {id : ServiceId} {k k' : Kind}, r.owners.get? id = some k →
      r.owners.get? id = some k' → k = k' := by
    intro id k k' hk hk'
    exact Option.some.inj (hk.symm.trans hk')
  rw [h.live_ids, List.nodup_append, List.nodup_append]
  refine ⟨⟨hnodup _, hnodup _, ?_⟩, hnodup _, ?_⟩
  · rintro id hgroup _ hhandler rfl
    cases hdisjoint (h.groups.owner hgroup) (h.handlers.owner hhandler)
  · rintro id hmem _ hinterceptor rfl
    rcases List.mem_append.1 hmem with hgroup | hhandler
    · cases hdisjoint (h.groups.owner hgroup) (h.interceptors.owner hinterceptor)
    · cases hdisjoint (h.handlers.owner hhandler) (h.interceptors.owner hinterceptor)

/-- A registry lists its live providers as passes expect them. -/
theorem live_wellFormed (h : r.Sound) : r.live.WellFormed where
  groupKind := by
    intro g hg
    obtain ⟨id, revision, payload, props, -, -, rfl⟩ := h.groups.of_mem_values hg
    rfl
  handlerKind := by
    intro c hc
    obtain ⟨id, revision, payload, props, -, -, rfl⟩ := h.handlers.of_mem_values hc
    rfl
  interceptorKind := by
    intro c hc
    obtain ⟨id, revision, payload, props, -, -, rfl⟩ := h.interceptors.of_mem_values hc
    rfl
  groupOrder := List.pairwise_map.1 (h.groups_keys ▸ Table.pairwise_keys r.groups)
  handlerOrder := List.pairwise_map.1 (h.handlers_keys ▸ Table.pairwise_keys r.handlers)
  interceptorOrder := List.pairwise_map.1 (h.interceptors_keys ▸ Table.pairwise_keys r.interceptors)
  unique := h.nodup_live_ids
  nonzero := by
    intro p hp hzero
    have hid : p.id ∈ r.live.providers.map Provider.id := List.mem_map_of_mem hp
    rw [h.live_ids, List.mem_append, List.mem_append] at hid
    rcases hid with (hid | hid) | hid
    · exact h.nonzero _ _ (h.groups.owner hid) hzero
    · exact h.nonzero _ _ (h.handlers.owner hid) hzero
    · exact h.nonzero _ _ (h.interceptors.owner hid) hzero

end Sound

/-! ### What registrations and removals do to the live providers -/

/-- A registration makes at most one new record, under the next revision. -/
inductive Grown (r s : Registry) : Prop where
  | same (live : s.live = r.live) (nextRevision : s.nextRevision = r.nextRevision)
  | one (kind : Kind) (id : ServiceId) (payload : Payload) (props : Map)
    (nextRevision : s.nextRevision = r.nextRevision + 1)
    (groups : ∀ g ∈ s.live.groups,
      g ∈ r.live.groups ∨ g = .ofProperties id r.nextRevision payload props)
    (content : ∀ k, ∀ c ∈ s.live.content k,
      c ∈ r.live.content k ∨ c = .ofProperties kind id r.nextRevision payload props)

theorem mem_values_insert {α : Type} {t : Table ServiceId α} {id : ServiceId} {a b : α}
    (h : b ∈ (t.insert id a).values) : b ∈ t.values ∨ b = a := by
  obtain ⟨j, hj⟩ := Table.mem_values.1 h
  rw [Table.get?_insert] at hj
  by_cases heq : j = id
  · rw [if_pos heq] at hj
    exact .inr (Option.some.inj hj).symm
  · rw [if_neg heq] at hj
    exact .inl (Table.mem_values.2 ⟨j, hj⟩)

theorem mem_values_erase {α : Type} {t : Table ServiceId α} {id : ServiceId} {b : α}
    (h : b ∈ (t.erase id).values) : b ∈ t.values := by
  obtain ⟨j, hj⟩ := Table.mem_values.1 h
  rw [Table.get?_erase] at hj
  by_cases heq : j = id
  · rw [if_pos heq] at hj
    cases hj
  · rw [if_neg heq] at hj
    exact Table.mem_values.2 ⟨j, hj⟩

theorem store_grown (r : Registry) (kind : Kind) (id : ServiceId) (payload : Payload) (props : Map) :
    r.Grown (r.store kind id payload props) := by
  cases kind with
  | group =>
      refine .one .group id payload props rfl (fun g hg => mem_values_insert hg) fun k c hc => .inl ?_
      cases k <;> exact hc
  | handler =>
      refine .one .handler id payload props rfl (fun g hg => .inl hg) fun k c hc => ?_
      cases k with
      | handler => exact mem_values_insert hc
      | group => exact .inl hc
      | interceptor => exact .inl hc
  | interceptor =>
      refine .one .interceptor id payload props rfl (fun g hg => .inl hg) fun k c hc => ?_
      cases k with
      | handler => exact .inl hc
      | group => exact mem_values_insert hc
      | interceptor => exact mem_values_insert hc

theorem assignId_same (r : Registry) (props : Map) : (r.assignId props).2.2.live = r.live ∧
    (r.assignId props).2.2.nextRevision = r.nextRevision := by
  unfold assignId
  cases claimedId? props <;> exact ⟨rfl, rfl⟩

theorem upsert_grown (r : Registry) (kind : Kind) (payload : Payload) (props : Map) :
    r.Grown (r.upsert kind payload props).2 := by
  obtain ⟨hlive, hrevision⟩ := r.assignId_same props
  unfold upsert
  generalize r.assignId props = assigned at hlive hrevision ⊢
  obtain ⟨id, props, s⟩ := assigned
  dsimp only at hlive hrevision ⊢
  -- Settling the identity changes neither the live providers nor the next revision.
  have hstored : r.Grown (s.store kind id payload props) := by
    cases s.store_grown kind id payload props with
    | same live revision => exact .same (live.trans hlive) (revision.trans hrevision)
    | one kind id payload props revision groups content =>
        rw [hrevision] at revision groups content
        rw [hlive] at groups content
        exact .one kind id payload props revision groups content
  cases s.owners.get? id with
  | none => exact hstored
  | some owner =>
      dsimp only
      by_cases hkind : owner = kind
      · rw [if_pos hkind]
        exact hstored
      · rw [if_neg hkind]
        exact .same hlive hrevision

/-- A removal makes no record and gives out no revision. -/
theorem remove_shrinks (r : Registry) (kind : Kind) (id : ServiceId) :
    (r.remove kind id).2.nextRevision = r.nextRevision ∧
      (r.remove kind id).2.live.groups ⊆ r.live.groups ∧
      ∀ k, (r.remove kind id).2.live.content k ⊆ r.live.content k := by
  have hsame : ∀ s : Registry, s.live = r.live → s.nextRevision = r.nextRevision →
      s.nextRevision = r.nextRevision ∧ s.live.groups ⊆ r.live.groups ∧
        ∀ k, s.live.content k ⊆ r.live.content k := by
    intro s hlive hrevision
    rw [hlive]
    exact ⟨hrevision, fun _ h => h, fun _ _ h => h⟩
  unfold remove
  by_cases howner : r.owners.get? id = some kind
  · rw [if_pos howner]
    cases kind with
    | group =>
        dsimp only
        cases r.groups.get? id with
        | none => exact hsame _ rfl rfl
        | some g =>
            refine ⟨rfl, fun _ hg => mem_values_erase hg, fun k c hc => ?_⟩
            cases k <;> exact hc
    | handler =>
        dsimp only
        cases r.handlers.get? id with
        | none => exact hsame _ rfl rfl
        | some c =>
            refine ⟨rfl, fun _ hg => hg, fun k c hc => ?_⟩
            cases k with
            | handler => exact mem_values_erase hc
            | group => exact hc
            | interceptor => exact hc
    | interceptor =>
        dsimp only
        cases r.interceptors.get? id with
        | none => exact hsame _ rfl rfl
        | some c =>
            refine ⟨rfl, fun _ hg => hg, fun k c hc => ?_⟩
            cases k with
            | handler => exact hc
            | group => exact mem_values_erase hc
            | interceptor => exact mem_values_erase hc
  · rw [if_neg howner]
    exact hsame r rfl rfl

end Registry

end RouteBinding
