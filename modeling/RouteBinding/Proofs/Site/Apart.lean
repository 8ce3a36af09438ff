import RouteBinding.Proofs.Site.Trail

/-!
# Groups that may be served at once

Two groups may be served at once if their paths differ and not both of them are default groups
(`Group.Apart`).  A host that is in step with the dispatcher serves such groups only, exactly if those that
are recorded are such (`Site.InStep.apart_iff`).  Taking groups from the host keeps this (`Site.Trail.apart`),
so it can only be lost while groups are brought there.  An ask for one of them stands behind the asks for
those before it in the plan, and before all others (`Site.Serving.split`).
-/

namespace RouteBinding

open Host

/-- Two groups have different paths and are not both default groups. -/
def Group.Apart (g g' : Group) : Prop := g.path ≠ g'.path ∧ ¬(g.isDefault = true ∧ g'.isDefault = true)

instance (g g' : Group) : Decidable (g.Apart g') := inferInstanceAs (Decidable (_ ∧ _))

theorem Group.Apart.symm {g g' : Group} (h : g.Apart g') : g'.Apart g :=
  ⟨h.1.symm, fun hboth => h.2 hboth.symm⟩

variable [Route.Routing]

/-- Any two groups that a host serves have different paths and are not both default groups. -/
def Host.Memory.Apart (m : Host.Memory) : Prop :=
  ∀ id id' s s', id ≠ id' → m.mounted.get? id = some s → m.mounted.get? id' = some s' →
    s.group.Apart s'.group

namespace Site

/-- The same of the groups that are recorded as registered. -/
def Apart (s : Site) : Prop :=
  ∀ id id' g g', id ≠ id' → s.registered.get? id = some g → s.registered.get? id' = some g' → g.Apart g'

variable {s t u : Site} {l m : List Ask} {plan : List Group} {k : Ask}

/-- Taking groups away keeps those that are left apart. -/
theorem Apart.mono (h : s.Apart)
    (hsub : ∀ id g, t.registered.get? id = some g → s.registered.get? id = some g) : t.Apart :=
  fun id id' g g' hne hg hg' => h id id' g g' hne (hsub id g hg) (hsub id' g' hg')

theorem Apart.rests (h : s.Apart) (hrests : s.Rests t) : t.Apart :=
  h.mono fun _ _ hg => hrests.registered ▸ hg

theorem apart_of_empty (h : s.registered = ∅) : s.Apart := by
  intro id id' g g' _ hg
  rw [h] at hg
  cases hg

/-- The host serves what is recorded, in the form in which it was told of it. -/
theorem InStep.mounted_iff (h : s.InStep) {id : ServiceId} {g : Group} :
    (∃ m, s.host.memory.mounted.get? id = some m ∧ m.group = g) ↔
      ∃ old, s.registered.get? id = some old ∧ old.told = g := by
  constructor
  · rintro ⟨m, hm, rfl⟩
    cases hknown : s.registered.get? id with
    | none =>
        rw [h.unknown id hknown] at hm
        cases hm
    | some old =>
        obtain ⟨-, m', hmount, hm'⟩ := h.known id old hknown
        obtain rfl : m = m' := Option.some.inj (hm.symm.trans hm')
        exact ⟨old, rfl, (group_of_mount hmount).symm⟩
  · rintro ⟨old, hold, rfl⟩
    obtain ⟨-, m, hmount, hm⟩ := h.known id old hold
    exact ⟨m, hm, group_of_mount hmount⟩

/-- What is told of a group has its path, and is a default group where it is. -/
theorem InStep.apart_iff (h : s.InStep) : s.host.memory.Apart ↔ s.Apart := by
  constructor
  · intro hserved id id' g g' hne hg hg'
    obtain ⟨m, hm, hgroup⟩ := h.mounted_iff.2 ⟨g, hg, rfl⟩
    obtain ⟨m', hm', hgroup'⟩ := h.mounted_iff.2 ⟨g', hg', rfl⟩
    have happart := hserved id id' m m' hne hm hm'
    rwa [hgroup, hgroup'] at happart
  · intro hrecorded id id' m m' hne hm hm'
    obtain ⟨g, hg, hgroup⟩ := h.mounted_iff.1 ⟨m, hm, rfl⟩
    obtain ⟨g', hg', hgroup'⟩ := h.mounted_iff.1 ⟨m', hm', rfl⟩
    rw [← hgroup, ← hgroup']
    exact hrecorded id id' g g' hne hg hg'

/-- Unregistering brings nothing to the host. -/
theorem Trail.registered_of_unregister (h : Trail s l u) (hops : ∀ k ∈ l, k.op = .unregister)
    {id : ServiceId} {g : Group} (hg : u.registered.get? id = some g) : s.registered.get? id = some g := by
  induction h with
  | refl => exact hg
  | rests hrests _ ih => exact hrests.registered ▸ ih hops hg
  | @asks k t u l hdone _ ih =>
      have hop : k.op = .unregister := hops k (List.mem_cons_self ..)
      have hthen := ih (fun j hj => hops j (List.mem_cons_of_mem k hj)) hg
      rw [hdone.record] at hthen
      by_cases hid : id = k.id
      · rw [if_pos hid, Ask.leaves] at hthen
        split at hthen
        · rw [hid]
          exact hthen
        · -- Nothing is left of a group that was unregistered.
          rw [Ask.applied, hop] at hthen
          cases hthen
      · rwa [if_neg hid] at hthen

theorem Trail.apart (h : Trail s l u) (hops : ∀ k ∈ l, k.op = .unregister) (hs : s.Apart) : u.Apart :=
  hs.mono fun _ _ hg => h.registered_of_unregister hops hg

/-- An ask for a group of the plan stands where the groups before it were brought to the host. -/
theorem Serving.split (h : Serving s plan (l ++ k :: m) u) : ∃ done g rest, plan = done ++ g :: rest ∧
    k.id = g.id ∧ k.op ≠ .unregister ∧ Serving s done l k.site := by
  generalize hsplit : l ++ k :: m = asks at h
  induction h generalizing l with
  | refl => simp at hsplit
  | rests hrests _ ih =>
      obtain ⟨done, g, rest, hplan, hid, hop, hserving⟩ := ih hsplit
      exact ⟨done, g, rest, hplan, hid, hop, .rests hrests hserving⟩
  | skips hnone _ ih =>
      obtain ⟨done, g, rest, hplan, hid, hop, hserving⟩ := ih hsplit
      exact ⟨_ :: done, g, rest, congrArg (List.cons _) hplan, hid, hop, .skips hnone hserving⟩
  | asks hdue _ ih =>
      cases l with
      | nil =>
          obtain ⟨rfl, -⟩ := List.cons.inj hsplit
          exact ⟨[], _, _, rfl, rfl, operationFor_ne hdue, .refl _⟩
      | cons first more =>
          obtain ⟨rfl, hmore⟩ := List.cons.inj hsplit
          obtain ⟨done, g, rest, hplan, hid, hop, hserving⟩ := ih hmore
          exact ⟨_ :: done, g, rest, congrArg (List.cons _) hplan, hid, hop, .asks hdue hserving⟩

end Site

end RouteBinding
