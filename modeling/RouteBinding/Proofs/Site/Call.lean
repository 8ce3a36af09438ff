import RouteBinding.Pass.Site
import RouteBinding.Proofs.Host.Mount
import Mathlib.Logic.Relation

/-!
# What a call does to a site

A call to the host either fails, and then it changes neither the host nor what is known of it, or it does to
both what it was asked to do (`Site.unregister_call`, `Site.settle_call`).  All that a pass does to a site
is a chain of such calls (`Site.unregisterEach_calls`, `Site.advance_calls`).
-/

namespace RouteBinding

open Host

/-- A group in the form in which the host is told of it. -/
def Group.told (g : Group) : Group := { g with changed := true }

/-- A group in the form in which it is remembered. -/
def Group.settled (g : Group) : Group := { g with changed := false }

theorem Site.report_count (r : Report) (op : Operation) : (r.count op).failedCalls = r.failedCalls := by
  cases op <;> rfl

variable [Route.Routing]

namespace Site

/-- Two sites with the same host and the same knowledge of it. -/
structure Still (s t : Site) : Prop where
  registered : t.registered = s.registered
  memory : t.host.memory = s.host.memory

/-- A site with one failed call more. -/
structure Failed (s t : Site) : Prop extends s.Still t where
  failedCalls : t.report.failedCalls = s.report.failedCalls + 1

/-- A site from which a registered group was taken. -/
structure Withdrawn (s t : Site) (id : ServiceId) (g : Group) : Prop where
  known : s.registered.get? id = some g
  registered : t.registered = s.registered.erase id
  mounted : t.host.memory.mounted = s.host.memory.mounted.erase g.id
  properties : t.host.memory.properties = s.host.memory.properties
  failedCalls : t.report.failedCalls = s.report.failedCalls

/-- A site at which the host serves a group that it was told of. -/
structure Served (s t : Site) (g : Group) (m : Mounted) : Prop where
  mounts : mount g.told = .ok m
  registered : t.registered = s.registered.insert g.id g.settled
  mounted : t.host.memory.mounted = s.host.memory.mounted.insert g.id m
  properties : t.host.memory.properties = s.host.memory.properties
  failedCalls : t.report.failedCalls = s.report.failedCalls

/-- What one call can do to a site where certain groups are to be served. -/
inductive Call (plan : List Group) (s t : Site) : Prop where
  /-- Nothing. -/
  | still (h : s.Still t)
  /-- It takes a registered group from the host. -/
  | withdrawn (id : ServiceId) (g : Group) (h : s.Withdrawn t id g)
  /-- It brings one of the groups to the host. -/
  | served (g : Group) (m : Mounted) (hg : g ∈ plan) (h : s.Served t g m)

/-- What a chain of calls can do to a site. -/
def Calls (plan : List Group) : Site → Site → Prop := Relation.ReflTransGen (Call plan)

theorem Still.refl (s : Site) : s.Still s := ⟨rfl, rfl⟩

theorem Still.trans {s t u : Site} (h : s.Still t) (k : t.Still u) : s.Still u :=
  ⟨k.registered.trans h.registered, k.memory.trans h.memory⟩

theorem note_still (s : Site) (notices : List Notice) : s.Still (s.note notices) := ⟨rfl, rfl⟩

theorem announce_still (s : Site) (op : Operation) (g : Group) : s.Still (s.announce op g) := ⟨rfl, rfl⟩

theorem Call.mono {plan more : List Group} (hsub : plan ⊆ more) {s t : Site} (h : Call plan s t) :
    Call more s t := by
  cases h with
  | still h => exact .still h
  | withdrawn id g h => exact .withdrawn id g h
  | served g m hg h => exact .served g m (hsub hg) h

theorem Calls.mono {plan more : List Group} (hsub : plan ⊆ more) {s t : Site} (h : Calls plan s t) :
    Calls more s t :=
  Relation.ReflTransGen.mono (fun _ _ => Call.mono hsub) _ _ h

theorem Still.calls {plan : List Group} {s t : Site} (h : s.Still t) : Calls plan s t :=
  .single (.still h)

/-- No call changes the properties of the host. -/
theorem Calls.properties {plan : List Group} {s t : Site} (h : Calls plan s t) :
    t.host.memory.properties = s.host.memory.properties := by
  induction h with
  | refl => rfl
  | tail _ hcall ih =>
      cases hcall with
      | still h => rw [h.memory, ih]
      | withdrawn id g h => rw [h.properties, ih]
      | served g m hg h => rw [h.properties, ih]

/-! ### Single calls -/

/-- A call that succeeds has done what the host inside does; one that fails has only been counted. -/
theorem perform_cases (s : Site) (op : Operation) (g : Group) :
    (∃ m, s.host.inner op g = .ok m ∧ (s.perform op g).1 = true ∧
      (s.perform op g).2.host.memory = m ∧ (s.perform op g).2.registered = s.registered ∧
      (s.perform op g).2.report.failedCalls = s.report.failedCalls) ∨
      ((s.perform op g).1 = false ∧ s.Failed (s.perform op g).2) := by
  unfold perform Recording.perform
  cases houtcome : s.host.outcome op g with
  | error e => exact .inr ⟨rfl, ⟨rfl, rfl⟩, rfl⟩
  | ok m =>
      -- The outcome was neither a refusal nor a script, so it is that of the host inside.
      refine .inl ⟨m, ?_, rfl, rfl, rfl, report_count _ op⟩
      unfold Recording.outcome at houtcome
      split at houtcome
      · cases houtcome
      · split at houtcome
        · cases houtcome
        · exact houtcome

theorem inner_unregister {h : Recording} {g : Group} {m : Memory} (hok : h.inner .unregister g = .ok m) :
    m = { h.memory with mounted := h.memory.mounted.erase g.id } :=
  Memory.apply_unregister ((h.inner_eq .unregister g).symm.trans hok)

/-- Bringing a group to the host makes it ready and puts it in its place. -/
theorem inner_serve {h : Recording} {op : Operation} (hop : op ≠ .unregister) {g : Group} {m : Memory}
    (hok : h.inner op g = .ok m) : ∃ served, mount g = .ok served ∧
      m = { h.memory with mounted := h.memory.mounted.insert g.id served } :=
  Memory.apply_serve hop ((h.inner_eq op g).symm.trans hok)

/-- Nothing happens where nothing is registered. -/
theorem unregister_absent {s : Site} {id : ServiceId} (h : s.registered.get? id = none) :
    s.unregister id = s := by
  unfold unregister
  rw [h]

/-- Unregistering a registered group fails, or takes it from the host. -/
theorem unregister_known {s : Site} {id : ServiceId} {g : Group} (hknown : s.registered.get? id = some g) :
    s.Failed (s.unregister id) ∨ s.Withdrawn (s.unregister id) id g := by
  unfold unregister
  rw [hknown]
  dsimp only
  rcases perform_cases (s.announce .unregister g) .unregister g with
    ⟨m, hinner, hdone, hmemory, hregistered, hfailed⟩ | ⟨hdone, hfailed⟩
  · have hm := inner_unregister hinner
    generalize (s.announce .unregister g).perform .unregister g = result at *
    obtain ⟨ok, t⟩ := result
    dsimp only at hdone hmemory hregistered hfailed ⊢
    rw [hdone]
    refine .inr ⟨hknown, ?_, ?_, ?_, hfailed⟩
    · show t.registered.erase id = _
      rw [hregistered]
      rfl
    · show t.host.memory.mounted = _
      rw [hmemory, hm]
      rfl
    · show t.host.memory.properties = _
      rw [hmemory, hm]
      rfl
  · generalize (s.announce .unregister g).perform .unregister g = result at *
    obtain ⟨ok, t⟩ := result
    dsimp only at hdone hfailed ⊢
    rw [hdone]
    exact .inl ⟨(announce_still s .unregister g).trans hfailed.toStill, hfailed.failedCalls⟩

theorem settle_eq (s : Site) (op : Operation) (g : Group) : s.settle op g =
    if (s.perform op g.told).1 = true then
      { (s.perform op g.told).2 with
        registered := (s.perform op g.told).2.registered.insert g.id g.settled }
    else (s.perform op g.told).2 := by
  have htold : ({ g with changed := true } : Group) = g.told := rfl
  unfold settle
  rw [htold]
  obtain ⟨ok, t⟩ := s.perform op g.told
  cases ok <;> rfl

/-- Bringing a group to the host fails, or the host serves it and it is registered. -/
theorem settle_cases (s : Site) {op : Operation} (hop : op ≠ .unregister) (g : Group) :
    s.Failed (s.settle op g) ∨ ∃ m, s.Served (s.settle op g) g m := by
  rw [settle_eq]
  rcases perform_cases s op g.told with
    ⟨m, hinner, hdone, hmemory, hregistered, hfailed⟩ | ⟨hdone, hfailed⟩
  · obtain ⟨served, hmount, hm⟩ := inner_serve hop hinner
    rw [if_pos hdone, hregistered]
    refine .inr ⟨served, hmount, rfl, ?_, ?_, hfailed⟩
    · show (s.perform op g.told).2.host.memory.mounted = _
      rw [hmemory, hm]
      rfl
    · show (s.perform op g.told).2.host.memory.properties = _
      rw [hmemory, hm]
  · rw [if_neg (by simp [hdone])]
    exact .inl hfailed

theorem unregister_call (s : Site) (id : ServiceId) : Call [] s (s.unregister id) := by
  cases hknown : s.registered.get? id with
  | none =>
      rw [unregister_absent hknown]
      exact .still (.refl s)
  | some g =>
      rcases unregister_known hknown with hfailed | hdone
      · exact .still hfailed.toStill
      · exact .withdrawn id g hdone

theorem settle_call (s : Site) {op : Operation} (hop : op ≠ .unregister) {g : Group} {plan : List Group}
    (hg : g ∈ plan) : Call plan s (s.settle op g) := by
  rcases settle_cases s hop g with hfailed | ⟨m, hserved⟩
  · exact .still hfailed.toStill
  · exact .served g m hg hserved

/-! ### Chains of calls -/

/-- Unregistering several groups is a chain of calls. -/
theorem unregisterEach_calls (s : Site) (ids : List ServiceId) : Calls [] s (s.unregisterEach ids) := by
  induction ids generalizing s with
  | nil => exact .refl
  | cons id rest ih => exact .head (unregister_call s id) (ih _)

theorem operationFor_ne {s : Site} {g : Group} {op : Operation} (h : s.operationFor g = some op) :
    op ≠ .unregister := by
  unfold operationFor at h
  rintro rfl
  split at h
  · split at h <;> cases h
  · split at h <;> cases h

/-- A site at which no registration waits. -/
def ungated (s : Site) : Site := { s with host := { s.host with gated := false } }

theorem advance_cons (s : Site) (g : Group) (rest : List Group) : s.advance (g :: rest) =
    match s.operationFor g with
    | none => s.advance rest
    | some op =>
      if (s.announce op g.told).host.holds op g then ((s.announce op g.told).ungated, g :: rest)
      else ((s.announce op g.told).settle op g).advance rest := rfl

/-- Bringing groups to the host is a chain of calls. -/
theorem advance_calls (s : Site) (plan : List Group) : Calls plan s (s.advance plan).1 := by
  induction plan generalizing s with
  | nil => exact .refl
  | cons g rest ih =>
      have hrest : rest ⊆ g :: rest := List.subset_cons_self g rest
      rw [advance_cons]
      cases hop : s.operationFor g with
      | none => exact (ih s).mono hrest
      | some op =>
          dsimp only
          have hannounced : Calls (g :: rest) s (s.announce op g.told) :=
            (announce_still s op g.told).calls
          by_cases hholds : (s.announce op g.told).host.holds op g = true
          · rw [if_pos hholds]
            -- The call has to wait; it was announced, and the gate is open for the next one.
            exact hannounced.tail (.still ⟨rfl, rfl⟩)
          · rw [if_neg hholds]
            have hsettled := hannounced.tail (settle_call _ (operationFor_ne hop) (List.mem_cons_self ..))
            exact hsettled.trans ((ih _).mono hrest)

end Site

end RouteBinding
