import RouteBinding.Proofs.Site.Trail
import Mathlib.Logic.Function.Basic

/-!
# The turns of a pass

A pass gives one identity after the other its turn: the group recorded of it leaves the host, or a group is
brought to the host under it.  Whether there is a call then, and which one, follows from what is recorded of
this identity and from what the host serves under it (`Turn.call`), and the call changes nothing else
(`Site.unregister_spot`, `Site.settle_spot`).  So all that a pass asks for is a `Taking` of turns.

Two sites that take the same turns keep agreeing on every identity on which they agree at the start, as long
as the calls about it come to the same in both; and they make the same calls about these identities, in the
same order, whatever becomes of the calls about others (`Taking.lockstep`).
-/

namespace RouteBinding

open Host

/-- What a pass may do for an identity when it has its turn. -/
inductive Turn where
  /-- The group that is recorded of it leaves the host. -/
  | leaves (id : ServiceId)
  /-- A group is brought to the host under it. -/
  | serves (g : Group)

namespace Turn

def id : Turn → ServiceId
  | leaves id => id
  | serves g => g.id

theorem map_id_leaves (ids : List ServiceId) : (ids.map leaves).map id = ids := by
  rw [List.map_map]
  exact List.map_id ids

end Turn

variable [Route.Routing]

/-- What is recorded of an identity, and what the host serves under it. -/
structure Spot where
  recorded : Option Group
  served : Option Mounted

namespace Spot

/-- What a group is due that is to be served there.  The host may serve a group of which nothing is
recorded. -/
def due (x : Spot) (g : Group) : Option Operation :=
  match x.recorded with
  | some known => if known.fingerprint = g.fingerprint then none else some .reload
  | none => if x.served.isSome then some .reload else some .register

/-- What is left there by a call that fails, or does what it asks for. -/
def after (x : Spot) (c : Call) (failed : Bool) : Spot :=
  if failed then x
  else
    match c.operation with
    | .unregister => ⟨none, none⟩
    | _ => ⟨some c.group.settled, (mount c.group).toOption⟩

/-- What is left there by an ask, if there is one. -/
def following (x : Spot) : Option Ask → Spot
  | none => x
  | some k => x.after k.call k.failed

end Spot

namespace Turn

/-- The call that is made for an identity in its turn, if any. -/
def call (turn : Turn) (x : Spot) : Option Call :=
  match turn with
  | leaves _ => x.recorded.map fun g => ⟨.unregister, g⟩
  | serves g => (x.due g).map fun op => ⟨op, g.told⟩

end Turn

/-! ### Asks by turns -/

/-- What some turns leave, one after the other, with the asks that are made. -/
inductive Taking : (ServiceId → Spot) → List Turn → List Ask → (ServiceId → Spot) → Prop where
  | refl (x : ServiceId → Spot) : Taking x [] [] x
  /-- An identity has its turn: there is the one ask that its spot calls for, or none. -/
  | takes {x z : ServiceId → Spot} {turn : Turn} {first : Option Ask} {rest : List Turn} {l : List Ask}
      (hcall : first.map Ask.call = turn.call (x turn.id)) (hid : ∀ k ∈ first, k.id = turn.id)
      (more : Taking (Function.update x turn.id ((x turn.id).following first)) rest l z) :
      Taking x (turn :: rest) (first.toList ++ l) z

namespace Taking

variable {x y z : ServiceId → Spot} {turns more : List Turn} {l m : List Ask} {id : ServiceId}

theorem append (h : Taking x turns l y) (k : Taking y more m z) : Taking x (turns ++ more) (l ++ m) z := by
  induction h with
  | refl => exact k
  | takes hcall hid _ ih =>
      rw [List.append_assoc]
      exact .takes hcall hid (ih k)

/-- An identity that has no turn is left alone. -/
theorem other (h : Taking x turns l y) (hid : id ∉ turns.map Turn.id) : y id = x id := by
  induction h with
  | refl => rfl
  | takes _ _ _ ih =>
      rw [List.map_cons, List.mem_cons, not_or] at hid
      rw [ih hid.2, Function.update_of_ne hid.1]

section First

variable {first first' : Option Ask} {turn : Turn} {P Q : ServiceId → Bool}

theorem filter_first (hid : ∀ k ∈ first, k.id = turn.id) (Q : ServiceId → Bool) :
    (first.toList.filter fun k => Q k.id) = if Q turn.id = true then first.toList else [] := by
  cases first with
  | none => simp
  | some k => simp [List.filter_cons, hid k rfl]

theorem asksAbout_first (hid : ∀ k ∈ first, k.id = turn.id) (id : ServiceId) :
    asksAbout id first.toList = if turn.id = id then first.toList else [] := by
  have hfirst := filter_first hid fun j => j == id
  simpa [asksAbout] using hfirst

/-- Asks for the same call, if it is made for an identity that counts. -/
theorem calls_first (hid : ∀ k ∈ first, k.id = turn.id) (hid' : ∀ k ∈ first', k.id = turn.id)
    (hcalls : P turn.id = true → first'.map Ask.call = first.map Ask.call)
    (hQ : Q turn.id = true → P turn.id = true) :
    (first'.toList.filter fun k => Q k.id).map Ask.call =
      (first.toList.filter fun k => Q k.id).map Ask.call := by
  rw [filter_first hid, filter_first hid']
  split
  · next hturn => rw [← Option.toList_map, ← Option.toList_map, hcalls (hQ hturn)]
  · rfl

theorem zip_asksAbout (l l' : List Ask) (hid : ∀ k ∈ first, k.id = turn.id)
    (hid' : ∀ k ∈ first', k.id = turn.id)
    (hcalls : P turn.id = true → first'.map Ask.call = first.map Ask.call) {id : ServiceId}
    (hP : P id = true) : (asksAbout id (first.toList ++ l)).zip (asksAbout id (first'.toList ++ l')) =
      (asksAbout id first.toList).zip (asksAbout id first'.toList) ++
        (asksAbout id l).zip (asksAbout id l') := by
  have hsame : (asksAbout id first'.toList).map Ask.call = (asksAbout id first.toList).map Ask.call :=
    calls_first (Q := fun j => j == id) hid hid' hcalls fun hturn => by rwa [beq_iff_eq.1 hturn]
  have hlength := congrArg List.length hsame
  rw [List.length_map, List.length_map] at hlength
  rw [asksAbout_append, asksAbout_append, List.zip_append hlength.symm]

/-- Where the same call comes to the same, it leaves the same. -/
theorem following_congr {s t : Spot} (hspot : t = s) (hcalls : first'.map Ask.call = first.map Ask.call)
    (hsame : ∀ e ∈ first.toList.zip first'.toList, e.2.failed = e.1.failed) :
    t.following first' = s.following first := by
  subst hspot
  cases first with
  | none =>
      obtain rfl : first' = none := Option.map_eq_none_iff.1 hcalls
      rfl
  | some k =>
      obtain ⟨k', rfl, hk'⟩ := Option.map_eq_some_iff.1 hcalls
      have hfailed : k'.failed = k.failed := hsame (k, k') (List.mem_singleton_self _)
      rw [Spot.following, Spot.following, hk', hfailed]

end First

/-- In two takings of the same turns, the asks about the identities on which they agree are for the same calls
in the same order, and leave these identities the same, as long as the calls come to the same. -/
theorem lockstep {P : ServiceId → Bool} {x' y' : ServiceId → Spot} {l' : List Ask} (h : Taking x turns l y)
    (h' : Taking x' turns l' y') (hstart : ∀ id, P id = true → x' id = x id)
    (hsame : ∀ id, P id = true → ∀ e ∈ (asksAbout id l).zip (asksAbout id l'), e.2.failed = e.1.failed) :
    (∀ id, P id = true → y' id = y id) ∧
      (l'.filter fun k => P k.id).map Ask.call = (l.filter fun k => P k.id).map Ask.call := by
  induction h generalizing x' l' with
  | refl =>
      cases h'
      exact ⟨hstart, rfl⟩
  | @takes x y turn first rest l hcall hid more ih =>
      cases h' with
      | @takes _ _ _ first' _ l' hcall' hid' more' =>
          -- Where the two agree on the identity that has its turn, they make the same call.
          have hcalls : P turn.id = true → first'.map Ask.call = first.map Ask.call := by
            intro hturn
            rw [hcall', hcall, hstart turn.id hturn]
          have hzip := fun {id} (hP : P id = true) => zip_asksAbout l l' hid hid' hcalls hP
          have hnext : ∀ id, P id = true →
              Function.update x' turn.id ((x' turn.id).following first') id =
                Function.update x turn.id ((x turn.id).following first) id := by
            intro id hP
            by_cases hturn : id = turn.id
            · subst hturn
              rw [Function.update_self, Function.update_self]
              refine following_congr (hstart _ hP) (hcalls hP) fun e he => hsame _ hP e ?_
              rw [hzip hP, asksAbout_first hid, asksAbout_first hid', if_pos rfl, if_pos rfl]
              exact List.mem_append_left _ he
            · rw [Function.update_of_ne hturn, Function.update_of_ne hturn]
              exact hstart id hP
          obtain ⟨hend, hrest⟩ := ih more' hnext fun id hP e he =>
            hsame id hP e (hzip hP ▸ List.mem_append_right _ he)
          refine ⟨hend, ?_⟩
          rw [List.filter_append, List.filter_append, List.map_append, List.map_append, hrest,
            calls_first hid hid' hcalls fun hP => hP]

end Taking

/-! ### The turns of a site -/

namespace Site

variable {s t u : Site} {plan : List Group} {l : List Ask} {g : Group} {id : ServiceId}

def spot (s : Site) (id : ServiceId) : Spot := ⟨s.registered.get? id, s.host.memory.mounted.get? id⟩

/-- Every registered group is recorded under its identity, whatever the host serves. -/
def Keyed (s : Site) : Prop := ∀ id g, s.registered.get? id = some g → g.id = id

theorem Rests.spot (h : s.Rests t) : t.spot = s.spot := by
  funext id
  rw [Site.spot, Site.spot, h.registered, h.mounted]

theorem operationFor_eq_due (s : Site) (g : Group) : s.operationFor g = (s.spot g.id).due g := by
  unfold operationFor Spot.due
  cases hknown : s.registered.get? g.id with
  | some known => simp [spot, hknown]
  | none =>
      simp only [spot, hknown]
      rfl

/-! #### What a call leaves -/

theorem Keyed.call (h : s.Keyed) (hcall : Call plan s t) : t.Keyed := by
  intro id g hg
  cases hcall with
  | still k =>
      rw [k.registered] at hg
      exact h id g hg
  | withdrawn j old k =>
      rw [k.registered, Table.get?_erase] at hg
      split at hg
      · cases hg
      · exact h id g hg
  | served new m _ k =>
      rw [k.registered, Table.get?_insert] at hg
      split at hg
      · next hid =>
        obtain rfl : new.settled = g := Option.some.inj hg
        exact hid.symm
      · exact h id g hg

theorem Keyed.calls (h : s.Keyed) (hcalls : Calls plan s t) : t.Keyed := by
  induction hcalls with
  | refl => exact h
  | tail _ hcall ih => exact ih.call hcall

theorem after_recorded (k : Ask) :
    ((k.site.spot k.id).after k.call k.failed).recorded = k.leaves := by
  unfold Spot.after Ask.leaves
  cases k.failed with
  | true => rfl
  | false =>
      rw [if_neg Bool.false_ne_true, if_neg Bool.false_ne_true, Ask.call, Ask.applied]
      cases k.op <;> rfl

/-- What the host serves after a call, under the identity of the group and under others. -/
theorem perform_served (k : Ask) (id : ServiceId) :
    (k.site.perform k.op k.group).2.host.memory.mounted.get? id =
      if id = k.id then ((k.site.spot k.id).after k.call k.failed).served
      else k.site.host.memory.mounted.get? id := by
  have hfailed : (k.site.perform k.op k.group).1 = !k.failed := perform_failed k.site k.op k.group
  rcases perform_cases k.site k.op k.group with ⟨m, hinner, hdone, hmemory, -, -⟩ | ⟨hdone, hsame⟩
  · have hsucceeded : k.failed = false := by simpa [hdone] using hfailed
    rw [hmemory, hsucceeded, Spot.after, if_neg Bool.false_ne_true, Ask.call]
    cases hop : k.op with
    | unregister =>
        rw [hop] at hinner
        rw [inner_unregister hinner, Table.get?_erase]
        rfl
    | _ =>
        obtain ⟨served, hmount, rfl⟩ := inner_serve (by simp [hop]) hinner
        rw [Table.get?_insert, hmount]
        rfl
  · have hrefused : k.failed = true := by simpa [hdone] using hfailed
    rw [hsame.memory, hrefused, Spot.after, if_pos rfl]
    split
    · next hid =>
      rw [hid]
      rfl
    · rfl

/-- A call changes one spot, as far as the registered groups and the host have changed as it says. -/
theorem spot_of_done {k : Ask} (h : k.Done t)
    (hmounted : t.host.memory.mounted = (k.site.perform k.op k.group).2.host.memory.mounted) :
    t.spot = Function.update k.site.spot k.id ((k.site.spot k.id).after k.call k.failed) := by
  funext id
  have hrecorded := h.record id
  have hserved := perform_served k id
  rw [← hmounted] at hserved
  by_cases hid : id = k.id
  · subst hid
    rw [if_pos rfl] at hrecorded hserved
    rw [Function.update_self, spot, hrecorded, hserved, ← after_recorded]
  · rw [if_neg hid] at hrecorded hserved
    rw [Function.update_of_ne hid, spot, hrecorded, hserved]
    rfl

/-- The ask by which an identity is unregistered, if it is registered. -/
def unregisterAsk (s : Site) (id : ServiceId) : Option Ask :=
  (s.registered.get? id).map fun g => ⟨s.announce .unregister g, .unregister, g⟩

theorem unregister_spot (hs : s.Keyed) (id : ServiceId) :
    (s.unregister id).spot = Function.update s.spot id ((s.spot id).following (s.unregisterAsk id)) := by
  unfold unregisterAsk
  cases hknown : s.registered.get? id with
  | none =>
      rw [unregister_absent hknown]
      exact (Function.update_eq_self id s.spot).symm
  | some g =>
      obtain rfl := hs id g hknown
      refine spot_of_done (unregister_done hknown rfl) ?_
      rw [unregister_eq hknown]
      split <;> rfl

theorem settle_spot (s : Site) {op : Operation} (hop : op ≠ .unregister) (g : Group) :
    (s.settle op g).spot =
      Function.update s.spot g.id ((s.spot g.id).following (some ⟨s, op, g.told⟩)) := by
  refine spot_of_done (settle_done s hop g) ?_
  rw [settle_eq]
  split <;> rfl

/-! #### What a pass asks for -/

/-- Unregistering some identities gives each of them its turn. -/
theorem unregisterEach_taking (hs : s.Keyed) (ids : List ServiceId) :
    Taking s.spot (ids.map .leaves) (s.unregisterAsks ids) (s.unregisterEach ids).spot := by
  induction ids generalizing s with
  | nil => exact .refl _
  | cons id rest ih =>
      have hrest := ih (hs.call (s.unregister_call id))
      rw [unregister_spot hs] at hrest
      have hcall : (s.unregisterAsk id).map Ask.call = (Turn.leaves id).call (s.spot id) := by
        rw [unregisterAsk, Option.map_map]
        rfl
      have hid : ∀ k ∈ s.unregisterAsk id, k.id = (Turn.leaves id).id := by
        intro k hk
        obtain ⟨g, hg, rfl⟩ := Option.map_eq_some_iff.1 hk
        exact hs id g hg
      rw [unregisterAsks, ← Option.toList_map]
      exact .takes hcall hid hrest

/-- Bringing a plan to the host gives each of its groups its turn. -/
theorem Serving.taking (h : Serving s plan l u) : Taking s.spot (plan.map .serves) l u.spot := by
  induction h with
  | refl s => exact .refl s.spot
  | rests hrests _ ih => rwa [hrests.spot] at ih
  | @skips s u g rest l hnone _ ih =>
      have hcall : none.map Ask.call = (Turn.serves g).call (s.spot g.id) := by
        rw [Turn.call, ← operationFor_eq_due, hnone]
        rfl
      rw [← Function.update_eq_self g.id s.spot] at ih
      exact .takes hcall (by simp) ih
  | @asks s u g op rest l hop _ ih =>
      have hcall : (some ⟨s, op, g.told⟩).map Ask.call = (Turn.serves g).call (s.spot g.id) := by
        rw [Turn.call, ← operationFor_eq_due, hop]
        rfl
      have hid : ∀ k ∈ (some ⟨s, op, g.told⟩ : Option Ask), k.id = (Turn.serves g).id := by
        rintro _ ⟨⟩
        rfl
      rw [settle_spot s (operationFor_ne hop)] at ih
      exact .takes hcall hid ih

end Site

end RouteBinding
