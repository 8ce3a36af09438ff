import RouteBinding.Proofs.Run.Agreement

/-!
# Calls and their circumstances

The log of a host tells which calls were made, but not what was known when they were made and what came of
them.  An `Ask` keeps with a call the site at which it was announced, so that both can be read off.  Each part
of a pass has its list of asks (`Site.unregisterAsks`, `Site.advanceAsks`), and their calls are what the part
adds to the log (`Site.unregisterEach_log`, `Site.advance_log`).

What is recorded of an identity in the end is told by the last ask about it (`Site.Trail.record`).  While
groups are brought to the host, each group of the plan is asked for at most once, and what it is asked for
depends on what was recorded of it at the start (`Site.Serving.about_planned`).
-/

namespace RouteBinding

open Host

variable [Route.Routing]

/-- A call to the host with the site at which it was announced. -/
structure Ask where
  site : Site
  op : Operation
  group : Group

namespace Ask

def id (k : Ask) : ServiceId := k.group.id

/-- The call as the host records it. -/
def call (k : Ask) : Call := ⟨k.op, k.group⟩

/-- What was known to be registered under the identity of the group. -/
def known (k : Ask) : Option Group := k.site.registered.get? k.id

/-- What the call came to. -/
def result (k : Ask) : Except Host.Error Unit := (k.site.host.perform k.op k.group).1

def failed (k : Ask) : Bool := !k.result.isOk

/-- What is recorded of the identity once the call was applied. -/
def applied (k : Ask) : Option Group :=
  match k.op with
  | .unregister => none
  | _ => some k.group.settled

/-- What is recorded of the identity after the call. -/
def leaves (k : Ask) : Option Group := if k.failed then k.known else k.applied

/-- A site after the call: what is recorded of other identities is as before, and the host has done what it
was asked to do, or nothing. -/
structure Done (k : Ask) (t : Site) : Prop where
  record : ∀ id, t.registered.get? id = if id = k.id then k.leaves else k.site.registered.get? id
  call : ∃ plan, Site.Call plan k.site t

end Ask

/-- The asks about one identity. -/
def asksAbout (id : ServiceId) (l : List Ask) : List Ask := l.filter fun k => k.id == id

@[simp] theorem asksAbout_append (id : ServiceId) (l m : List Ask) :
    asksAbout id (l ++ m) = asksAbout id l ++ asksAbout id m := List.filter_append ..

theorem asksAbout_cons (id : ServiceId) (k : Ask) (l : List Ask) :
    asksAbout id (k :: l) = if k.id = id then k :: asksAbout id l else asksAbout id l := by
  simp [asksAbout, List.filter_cons]

theorem mem_asksAbout {id : ServiceId} {k : Ask} {l : List Ask} :
    k ∈ asksAbout id l ↔ k ∈ l ∧ k.id = id := by
  simp [asksAbout]

theorem asksAbout_eq_nil {id : ServiceId} {l : List Ask} : asksAbout id l = [] ↔ ∀ k ∈ l, k.id ≠ id := by
  simp [asksAbout]

/-- What is recorded of an identity after some asks about it: what the last one that succeeded has applied. -/
def recorded (known : Option Group) (l : List Ask) : Option Group :=
  l.foldl (fun known k => if k.failed then known else k.applied) known

namespace Site

/-! ### The asks of each part of a pass -/

/-- The asks by which identities are unregistered, one after the other. -/
def unregisterAsks (s : Site) : List ServiceId → List Ask
  | [] => []
  | id :: rest =>
    ((s.registered.get? id).toList.map fun g => ⟨s.announce .unregister g, .unregister, g⟩) ++
      (s.unregister id).unregisterAsks rest

/-- The asks by which groups are brought to the host, as far as no call has to wait. -/
def advanceAsks (s : Site) : List Group → List Ask
  | [] => []
  | g :: rest =>
    match s.operationFor g with
    | none => s.advanceAsks rest
    | some op =>
      let s := s.announce op g.told
      if s.host.holds op g then [] else ⟨s, op, g.told⟩ :: (s.settle op g).advanceAsks rest

/-- The asks by which groups are unregistered where nothing is remembered of them. -/
def partAsks (s : Site) : List Group → List Ask
  | [] => []
  | g :: rest =>
    let s := s.announce .unregister g
    ⟨s, .unregister, g⟩ :: (s.perform .unregister g).2.partAsks rest

/-- The asks by which all that is registered is abandoned. -/
def abandonAsks (s : Site) : List Ask := partAsks { s with registered := ∅ } s.registered.values

/-- The call that waits for a registration to go on. -/
def waitingCalls : List Group → List Host.Call
  | [] => []
  | g :: _ => [⟨.register, g.told⟩]

/-! ### The log -/

theorem perform_log (s : Site) (op : Operation) (g : Group) :
    (s.perform op g).2.host.calls = s.host.calls := by
  unfold perform Recording.perform
  cases s.host.outcome op g <;> rfl

theorem settle_log (s : Site) (op : Operation) (g : Group) :
    (s.settle op g).host.calls = s.host.calls := by
  rw [settle_eq]
  split <;> exact perform_log ..

theorem unregister_eq {s : Site} {id : ServiceId} {g : Group} (hknown : s.registered.get? id = some g) :
    s.unregister id =
      if ((s.announce .unregister g).perform .unregister g).1 = true then
        { ((s.announce .unregister g).perform .unregister g).2 with
          registered := ((s.announce .unregister g).perform .unregister g).2.registered.erase id }
      else ((s.announce .unregister g).perform .unregister g).2 := by
  unfold unregister
  rw [hknown]
  dsimp only
  obtain ⟨ok, t⟩ := (s.announce .unregister g).perform .unregister g
  cases ok <;> rfl

theorem unregister_log (s : Site) (id : ServiceId) : (s.unregister id).host.calls =
    s.host.calls ++ (s.registered.get? id).toList.map fun g => ⟨.unregister, g⟩ := by
  cases hknown : s.registered.get? id with
  | none => simp [unregister_absent hknown]
  | some g =>
      have hlog := perform_log (s.announce .unregister g) .unregister g
      rw [unregister_eq hknown]
      split <;> exact hlog

/-- Unregistering adds the calls that were asked for to the log. -/
theorem unregisterEach_log (s : Site) (ids : List ServiceId) :
    (s.unregisterEach ids).host.calls = s.host.calls ++ (s.unregisterAsks ids).map Ask.call := by
  induction ids generalizing s with
  | nil => simp [unregisterEach, unregisterAsks]
  | cons id rest ih =>
      have hrest := ih (s.unregister id)
      rw [unregister_log] at hrest
      have hfirst : ((s.registered.get? id).toList.map fun g =>
          (⟨s.announce .unregister g, .unregister, g⟩ : Ask)).map Ask.call =
            (s.registered.get? id).toList.map fun g => ⟨.unregister, g⟩ := by
        simp [Ask.call]
      rw [unregisterAsks, List.map_append, hfirst, ← List.append_assoc]
      exact hrest

theorem holds_register {h : Recording} {op : Operation} {g : Group} (hholds : h.holds op g = true) :
    op = .register := by
  simp only [Recording.holds, Bool.and_eq_true, beq_iff_eq] at hholds
  exact hholds.1.2

/-- Bringing groups to the host adds the calls that were asked for, and then the one that waits. -/
theorem advance_log (s : Site) (plan : List Group) : (s.advance plan).1.host.calls =
    s.host.calls ++ (s.advanceAsks plan).map Ask.call ++ waitingCalls (s.advance plan).2 := by
  induction plan generalizing s with
  | nil =>
      show s.host.calls = s.host.calls ++ [] ++ []
      rw [List.append_nil, List.append_nil]
  | cons g rest ih =>
      rw [advance_cons, advanceAsks]
      cases s.operationFor g with
      | none => exact ih s
      | some op =>
          dsimp only
          by_cases hholds : (s.announce op g.told).host.holds op g = true
          · rw [if_pos hholds, if_pos hholds, holds_register hholds]
            simp [waitingCalls, ungated, announce, Recording.announce]
          · rw [if_neg hholds, if_neg hholds, ih, settle_log]
            simp [announce, Recording.announce, Ask.call]

/-- Where nothing is asked for, nothing happens. -/
theorem unregisterEach_untouched {s : Site} {ids : List ServiceId} (hnone : s.unregisterAsks ids = []) :
    s.unregisterEach ids = s := by
  induction ids generalizing s with
  | nil => rfl
  | cons id rest ih =>
      obtain ⟨hfirst, hrest⟩ := List.append_eq_nil_iff.1 hnone
      have hsame : s.unregister id = s := unregister_absent (by simpa using hfirst)
      rw [hsame] at hrest
      show (s.unregister id).unregisterEach rest = s
      rw [hsame, ih hrest]

theorem advance_untouched {s : Site} {plan : List Group} (hnone : s.advanceAsks plan = [])
    (hleft : (s.advance plan).2 = []) : (s.advance plan).1 = s := by
  induction plan generalizing s with
  | nil => rfl
  | cons g rest ih =>
      rw [advance_cons] at hleft ⊢
      rw [advanceAsks] at hnone
      cases hop : s.operationFor g with
      | none =>
          rw [hop] at hleft hnone
          exact ih hnone hleft
      | some op =>
          rw [hop] at hleft hnone
          dsimp only at hleft hnone
          by_cases hholds : (s.announce op g.told).host.holds op g = true
          · rw [if_pos hholds] at hleft
            cases hleft
          · rw [if_neg hholds] at hnone
            cases hnone

theorem partAsks_log (s : Site) (groups : List Group) :
    (groups.foldl (fun s g => ((s.announce .unregister g).perform .unregister g).2) s).host.calls =
      s.host.calls ++ (s.partAsks groups).map Ask.call := by
  induction groups generalizing s with
  | nil => simp [partAsks]
  | cons g rest ih =>
      rw [List.foldl_cons, ih, perform_log]
      simp [partAsks, announce, Recording.announce, Ask.call]

theorem abandon_log (s : Site) :
    s.abandon.host.calls = s.host.calls ++ s.abandonAsks.map Ask.call :=
  partAsks_log _ _

/-! ### What a call leaves -/

theorem perform_failed (s : Site) (op : Operation) (g : Group) :
    (s.perform op g).1 = !(⟨s, op, g⟩ : Ask).failed := by
  unfold perform Ask.failed Ask.result
  obtain ⟨result, h⟩ := s.host.perform op g
  cases result <;> rfl

theorem perform_registered (s : Site) (op : Operation) (g : Group) :
    (s.perform op g).2.registered = s.registered := by
  unfold perform Recording.perform
  cases s.host.outcome op g <;> rfl

/-- Unregistering a group does what the call comes to. -/
theorem unregister_done {s : Site} {id : ServiceId} {g : Group} (hknown : s.registered.get? id = some g)
    (hid : g.id = id) : (⟨s.announce .unregister g, .unregister, g⟩ : Ask).Done (s.unregister id) := by
  subst hid
  refine ⟨fun j => ?_, [], ?_⟩
  · have hfailed := perform_failed (s.announce .unregister g) .unregister g
    have hsame := perform_registered (s.announce .unregister g) .unregister g
    have hleaves : (⟨s.announce .unregister g, .unregister, g⟩ : Ask).leaves =
        if (⟨s.announce .unregister g, .unregister, g⟩ : Ask).failed = true then s.registered.get? g.id
        else none := rfl
    rw [unregister_eq hknown, hleaves]
    cases hresult : (⟨s.announce .unregister g, .unregister, g⟩ : Ask).failed with
    | true =>
        rw [if_neg (by simp [hfailed, hresult]), if_pos rfl, hsame]
        show s.registered.get? j = if j = g.id then s.registered.get? g.id else s.registered.get? j
        split
        · next hj => rw [hj]
        · rfl
    | false =>
        rw [if_pos (by simp [hfailed, hresult]), if_neg Bool.false_ne_true]
        dsimp only
        rw [Table.get?_erase, hsame]
        rfl
  · -- Announcing the call has changed nothing that a call could change.
    cases s.unregister_call g.id with
    | still h => exact .still ⟨h.registered, h.memory⟩
    | withdrawn id g h =>
        exact .withdrawn id g ⟨h.known, h.registered, h.mounted, h.properties, h.failedCalls⟩
    | served g m hg h => cases hg

/-- Bringing a group to the host does what the call comes to. -/
theorem settle_done (s : Site) {op : Operation} (hop : op ≠ .unregister) (g : Group) :
    (⟨s, op, g.told⟩ : Ask).Done (s.settle op g) := by
  refine ⟨fun j => ?_, [g], settle_call s hop (List.mem_singleton_self g)⟩
  have hfailed := perform_failed s op g.told
  have hsame := perform_registered s op g.told
  have hleaves : (⟨s, op, g.told⟩ : Ask).leaves =
      if (⟨s, op, g.told⟩ : Ask).failed = true then s.registered.get? g.id else some g.settled := by
    unfold Ask.leaves
    cases op with
    | unregister => exact absurd rfl hop
    | register => rfl
    | reload => rfl
  rw [settle_eq, hleaves]
  cases hresult : (⟨s, op, g.told⟩ : Ask).failed with
  | true =>
      rw [if_neg (by simp [hfailed, hresult]), if_pos rfl, hsame]
      show s.registered.get? j = if j = g.id then s.registered.get? g.id else s.registered.get? j
      split
      · next hj => rw [hj]
      · rfl
  | false =>
      rw [if_pos (by simp [hfailed, hresult]), if_neg Bool.false_ne_true]
      dsimp only
      rw [Table.get?_insert, hsame]
      rfl

end Site

end RouteBinding
