import RouteBinding.Dispatcher.Event
import RouteBinding.Proofs.Property.Number
import RouteBinding.Proofs.Registry.Ledger
import RouteBinding.Proofs.Run.Move
import RouteBinding.Route.Served

/-!
# What an identity in the properties reaches

A provider is updated and removed by properties that carry its identity.  Properties that carry the identity of
a live provider lead to it as long as the identity is in the range of integer values: registering by them
replaces the provider, and removing by them removes it (`Registry.Reaches`).  An identity beyond this range is
kept as text, and is not read back: registering by it adds another provider under the next free identity, and
removing by it removes nothing (`Registry.Misses`).  Declared identities can bring the counter to the end of
the range, so that a registry gives out identities by which it finds nothing (`exhausted_misses`).
-/

namespace RouteBinding

open Property

namespace Registry

variable {r : Registry} {kind : Kind} {id : ServiceId} {props : Map}

/-- The identity that a property map carries as a value is declared by it, if it is in range. -/
theorem declaredId?_carried (hcarried : props.get? Key.serviceId = some (Value.ofNat id)) :
    declaredId? props = if Text.inInt64 id then some id else none := by
  rw [declaredId?, hcarried, Option.bind_some, Value.int?_ofNat]
  by_cases hrange : Text.inInt64 id = true
  · rw [if_pos hrange, if_pos hrange, Option.filter_some, if_pos (decide_eq_true (Int.natCast_nonneg id))]
    rfl
  · rw [if_neg hrange, if_neg hrange]
    rfl

/-- Two registries with records under the same identities have the same keys. -/
theorem keys_congr {s : Registry} (h : ∀ k j, (s.recordOf k j).isSome = (r.recordOf k j).isSome) (k : Kind) :
    s.keys k = r.keys k := by
  have hkeys : ∀ {α : Type} {t u : Table ServiceId α} {f : α → Entry},
      (∀ j, ((t.get? j).map f).isSome = ((u.get? j).map f).isSome) → t.keys = u.keys := by
    intro α t u f hsome
    refine Table.keys_eq fun j => ?_
    rw [← Option.isSome_map (f := f), hsome, Option.isSome_map]
  cases k with
  | group => exact hkeys (h .group)
  | handler => exact hkeys (h .handler)
  | interceptor => exact hkeys (h .interceptor)

end Registry

section

variable [Route.Routing]

namespace Dispatcher

variable {d : Dispatcher} {kind k : Kind} {id j : ServiceId} {props : Map}

/-- A pass that is requested changes no record. -/
theorem trigger_recordOf (d : Dispatcher) : d.trigger.registry.recordOf = d.registry.recordOf := by
  unfold trigger drain
  split
  · split
    · rw [startPass_registry]
      exact Registry.recordOf_congr rfl rfl rfl
    · rfl
  · rfl

/-- Properties without an identity remove nothing. -/
theorem removeDeclared_none (hopen : d.isOpen = true) (hdeclared : declaredId? props = none) :
    d.removeDeclared kind props = (.ok false, d.note [.removalIgnored kind]) := by
  rw [removeDeclared, if_pos hopen, hdeclared]

/-- Properties with the identity of a live provider of the kind remove it and no other one. -/
theorem removeDeclared_some (hopen : d.isOpen = true) (hdeclared : declaredId? props = some id)
    (hkept : d.registry.Kept) (hlive : (d.registry.recordOf kind id).isSome) :
    (d.removeDeclared kind props).1 = .ok true ∧
      ∀ k j, (d.removeDeclared kind props).2.registry.recordOf k j =
        if k = kind ∧ j = id then none else d.registry.recordOf k j := by
  have hfound := hkept.remove_iff.2 hlive
  have hentry : ∀ k j, (d.registry.remove kind id).2.recordOf k j =
      if k = kind ∧ j = id then none else d.registry.recordOf k j := fun _ _ => hkept.recordOf_remove
  unfold removeDeclared
  rw [if_pos hopen, hdeclared]
  dsimp only
  cases hresult : d.registry.remove kind id with
  | mk found s =>
      rw [hresult] at hfound hentry
      obtain rfl := hfound
      refine ⟨rfl, fun k j => ?_⟩
      dsimp only
      rw [trigger_recordOf]
      exact hentry k j

end Dispatcher

namespace Registry

/-- A property map leads to the provider of a kind under an identity, whether it is read, registered or handed
to the removal of a dispatcher. -/
structure Reaches (r : Registry) (props : Map) (kind : Kind) (id : ServiceId) : Prop where
  declared : declaredId? props = some id
  returned : ∀ payload, (r.upsert kind payload props).1 = .ok id
  /-- The new record takes the place of the one before, and no other record changes. -/
  replaced : ∀ payload k j, (r.upsert kind payload props).2.recordOf k j =
    if k = kind ∧ j = id then some (.ofProperties kind id r.nextRevision payload props) else r.recordOf k j
  /-- No provider is added. -/
  keys : ∀ payload k, (r.upsert kind payload props).2.keys k = r.keys k
  removed : ∀ d : Dispatcher, d.registry = r → d.isOpen = true →
    (d.removeDeclared kind props).1 = .ok true ∧
      ∀ k j, (d.removeDeclared kind props).2.registry.recordOf k j =
        if k = kind ∧ j = id then none else r.recordOf k j

/-- A property map leads to no provider: no identity is read from it, registering it adds a provider under an
identity that was free, and handing it to the removal of a dispatcher removes nothing. -/
structure Misses (r : Registry) (props : Map) (kind : Kind) : Prop where
  undeclared : declaredId? props = none
  returned : ∀ payload, (r.upsert kind payload props).1 = .ok r.nextId
  free : ∀ k, r.nextId ∉ r.keys k
  /-- The record is a new one: every record that was there stays. -/
  added : ∀ payload k j, j ≠ r.nextId → (r.upsert kind payload props).2.recordOf k j = r.recordOf k j
  ignored : ∀ d : Dispatcher, d.registry = r → d.isOpen = true →
    d.removeDeclared kind props = (.ok false, d.note [.removalIgnored kind])

variable {r : Registry} {kind : Kind} {id : ServiceId} {props : Map}

namespace Kept

/-- Properties that declare the identity of a live provider of a kind reach it. -/
theorem reaches (h : r.Kept) (hlive : (r.recordOf kind id).isSome) (hdeclared : declaredId? props = some id) :
    r.Reaches props kind id := by
  have howner := h.owner_iff.2 hlive
  have hclaimed : claimedId? props = some id := by
    rw [claimedId?, hdeclared, Option.filter_some, if_pos (decide_eq_true (h.nonzero _ _ howner))]
  obtain ⟨hid, hprops⟩ : (r.assignId props).1 = id ∧ (r.assignId props).2.1 = props := by
    rw [assignId, hclaimed]
    exact ⟨rfl, rfl⟩
  have hreturned : ∀ payload, (r.upsert kind payload props).1 = .ok id := by
    intro payload
    rcases r.upsert_cases kind payload props with ⟨-, heq⟩ | ⟨owner, howned, hother, -⟩
    · rw [heq, hid]
    · rw [hid] at howned
      exact absurd (Option.some.inj (howned.symm.trans howner)) hother
  have hreplaced : ∀ payload k j, (r.upsert kind payload props).2.recordOf k j =
      if k = kind ∧ j = id then some (.ofProperties kind id r.nextRevision payload props)
      else r.recordOf k j := by
    intro payload k j
    rw [recordOf_upsert (hreturned payload), hprops]
  refine ⟨hdeclared, hreturned, hreplaced, fun payload => keys_congr fun k j => ?_, ?_⟩
  · rw [hreplaced]
    by_cases hsame : k = kind ∧ j = id
    · rw [if_pos hsame, hsame.1, hsame.2, hlive]
      rfl
    · rw [if_neg hsame]
  · rintro d rfl hopen
    exact Dispatcher.removeDeclared_some hopen hdeclared h hlive

/-- Properties that declare no identity miss every provider. -/
theorem misses (h : r.Kept) (hdeclared : declaredId? props = none) (kind : Kind) : r.Misses props kind := by
  have hclaimed : claimedId? props = none := by
    rw [claimedId?, hdeclared]
    rfl
  have hid : (r.assignId props).1 = r.nextId := by
    rw [assignId, hclaimed]
  have hunowned : ∀ k, r.owners.get? r.nextId ≠ some k := fun k howner =>
    Nat.lt_irrefl _ (h.below _ k howner)
  have hreturned : ∀ payload, (r.upsert kind payload props).1 = .ok r.nextId := by
    intro payload
    rcases r.upsert_cases kind payload props with ⟨-, heq⟩ | ⟨owner, howned, -, -⟩
    · rw [heq, hid]
    · rw [hid] at howned
      exact absurd howned (hunowned owner)
  refine ⟨hdeclared, hreturned, fun k hmem => ?_, fun payload k j hj => ?_, ?_⟩
  · exact hunowned k (h.owner_iff.2 (mem_keys_iff.1 hmem))
  · rw [recordOf_upsert (hreturned payload), if_neg fun hboth => hj hboth.2]
  · rintro d rfl hopen
    exact Dispatcher.removeDeclared_none hopen hdeclared

end Kept

/-- Whatever was done to a registry, properties that carry the identity of a live provider reach it if the
identity is in the range of integer values, and miss it otherwise. -/
theorem run_reaches (ops : List Operation) (hlive : id ∈ (empty.run ops).keys kind)
    (hcarried : props.get? Key.serviceId = some (Value.ofNat id)) :
    (Text.inInt64 id = true → (empty.run ops).Reaches props kind id) ∧
      (Text.inInt64 id = false → (empty.run ops).Misses props kind) := by
  have hkept := Kept.empty.run ops
  have hdeclared := declaredId?_carried hcarried
  constructor
  · intro hrange
    rw [if_pos hrange] at hdeclared
    exact hkept.reaches (mem_keys_iff.1 hlive) hdeclared
  · intro hrange
    rw [if_neg (by rw [hrange]; exact Bool.false_ne_true)] at hdeclared
    exact hkept.misses hdeclared kind

end Registry

end

namespace Registry

/-- The properties of a group that carry an identity. -/
def carrying (id : ServiceId) : Map :=
  .ofList [(Key.routeGroup, .flag true), (Key.serviceId, .ofNat id), (Key.path, .text "/c")]

/-- A group declares the last identity in range, so the next one is given an identity beyond it. -/
def exhausting : List Operation :=
  [.upsert .group (.shared 1 .plain)
      (.ofList [(Key.serviceId, .number 9223372036854775807), (Key.routeGroup, .flag true),
        (Key.path, .text "/a")]),
    .upsert .group (.shared 1 .plain) (.ofList [(Key.routeGroup, .flag true), (Key.path, .text "/b")])]

theorem exhausting_reaches : (empty.run exhausting).groups.keys = [9223372036854775807, 9223372036854775808] ∧
    (empty.run exhausting).Reaches (carrying 9223372036854775807) .group 9223372036854775807 ∧
    (empty.run exhausting).Misses (carrying 9223372036854775808) .group := by
  have hlive : 9223372036854775807 ∈ (empty.run exhausting).keys .group ∧
      9223372036854775808 ∈ (empty.run exhausting).keys .group := by decide +kernel
  exact ⟨by decide +kernel, (run_reaches exhausting hlive.1 (by decide +kernel)).1 (by decide),
    (run_reaches exhausting hlive.2 (by decide +kernel)).2 (by decide)⟩

/-- The identity beyond the range was given out for a live group, yet the properties that carry it add a third
group, under another identity. -/
theorem exhausted_misses : ((empty.run (exhausting.take 1)).upsert .group (.shared 1 .plain)
      (.ofList [(Key.routeGroup, .flag true), (Key.path, .text "/b")])).1.toOption =
        some 9223372036854775808 ∧
    9223372036854775808 ∈ (empty.run exhausting).keys .group ∧
    (carrying 9223372036854775808).get? Key.serviceId = some (Value.ofNat 9223372036854775808) ∧
    ((empty.run exhausting).upsert .group (.shared 1 .plain) (carrying 9223372036854775808)).1.toOption =
      some 9223372036854775809 ∧
    ((empty.run exhausting).upsert .group (.shared 1 .plain) (carrying 9223372036854775808)).2.count .group =
      3 ∧
    declaredId? (carrying 9223372036854775808) = none := by
  decide +kernel

end Registry

end RouteBinding
