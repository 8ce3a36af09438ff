import RouteBinding.Proofs.Run.Asked

/-!
# Groups that were removed and come back

A group may be removed and registered again under its identity before a pass has taken the old one from the
host.  Then the new one has a later revision than anything that is still known under the identity, even where
a pass is held that has yet to bring the old one to the host (`Dispatcher.Renewed`).  So the new one differs
from the old one, and a pass that fails to unregister the old one will reload it.
-/

namespace RouteBinding

open Property

namespace Registry

variable {r : Registry}

theorem store_removed (r : Registry) (kind : Kind) (id : ServiceId) (payload : Payload) (props : Map) :
    (r.store kind id payload props).removedGroups = r.removedGroups := by
  cases kind <;> rfl

theorem assignId_removed (r : Registry) (props : Map) :
    (r.assignId props).2.2.removedGroups = r.removedGroups := by
  unfold assignId
  cases claimedId? props <;> rfl

/-- A registration removes nothing. -/
theorem upsert_removed (r : Registry) (kind : Kind) (payload : Payload) (props : Map) :
    (r.upsert kind payload props).2.removedGroups = r.removedGroups := by
  have hassigned := r.assignId_removed props
  unfold upsert
  generalize r.assignId props = assigned at hassigned ⊢
  obtain ⟨id, props, s⟩ := assigned
  dsimp only at hassigned ⊢
  cases s.owners.get? id with
  | none => exact (s.store_removed ..).trans hassigned
  | some owner =>
      dsimp only
      split
      · exact (s.store_removed ..).trans hassigned
      · exact hassigned

/-- A removal notes at most one group, which is no longer live then. -/
theorem remove_removed (h : r.Sound) (kind : Kind) (id : ServiceId) :
    (r.remove kind id).2.removedGroups = r.removedGroups ∨
      ∃ g, (r.remove kind id).2.removedGroups = r.removedGroups ++ [g] ∧
        g.id ≠ ServiceId.implicitDefault ∧ ∀ g' ∈ (r.remove kind id).2.live.groups, g'.id ≠ g.id := by
  unfold remove
  by_cases howner : r.owners.get? id = some kind
  · rw [if_pos howner]
    cases kind with
    | group =>
        dsimp only
        cases hget : r.groups.get? id with
        | none => exact .inl rfl
        | some g =>
            obtain ⟨-, revision, payload, props, -, -, rfl⟩ := h.groups id g hget
            refine .inr ⟨_, rfl, h.nonzero id .group howner, fun g' hg' => ?_⟩
            obtain ⟨j, hj⟩ := Table.mem_values.1 hg'
            rw [Table.get?_erase] at hj
            by_cases heq : j = id
            · rw [if_pos heq] at hj
              cases hj
            · rw [if_neg heq] at hj
              obtain ⟨-, revision', payload', props', -, -, rfl⟩ := h.groups j g' hj
              exact heq
    | handler =>
        dsimp only
        cases r.handlers.get? id <;> exact .inl rfl
    | interceptor =>
        dsimp only
        cases r.interceptors.get? id <;> exact .inl rfl
  · rw [if_neg howner]
    exact .inl rfl

end Registry

variable [Route.Routing]

/-- What is registered under an identity after some calls was so before, or is one of the groups that they
were to bring to the host. -/
theorem Site.Calls.registered {plan : List Group} {s t : Site} {id : ServiceId} {old : Group}
    (h : Site.Calls plan s t) (hold : t.registered.get? id = some old) :
    s.registered.get? id = some old ∨ ∃ g ∈ plan, g.id = id ∧ old = g.settled := by
  induction h with
  | refl => exact .inl hold
  | tail _ hcall ih =>
      cases hcall with
      | still k => exact ih (k.registered ▸ hold)
      | withdrawn j g k =>
          rw [k.registered, Table.get?_erase] at hold
          by_cases heq : id = j
          · rw [if_pos heq] at hold
            cases hold
          · rw [if_neg heq] at hold
            exact ih hold
      | served g m hg k =>
          rw [k.registered, Table.get?_insert] at hold
          by_cases heq : id = g.id
          · rw [if_pos heq] at hold
            exact .inr ⟨g, hg, heq.symm, (Option.some.inj hold).symm⟩
          · rw [if_neg heq] at hold
            exact ih hold

namespace Dispatcher

variable {d e : Dispatcher}

/-- A group is recorded under an identity, or a pass that is held has yet to bring it to the host. -/
def Keeps (d : Dispatcher) (id : ServiceId) (old : Group) : Prop :=
  d.site.registered.get? id = some old ∨ old ∈ d.left ∧ old.id = id

/-- What was registered again after it was removed has a later revision than what is kept of it. -/
structure Renewed (d : Dispatcher) : Prop where
  nonzero : ∀ id ∈ d.removedIds, id ≠ ServiceId.implicitDefault
  later : ∀ id ∈ d.removedIds, ∀ g ∈ d.registry.live.groups, g.id = id →
    ∀ old, d.Keeps id old → old.provider.revision < g.provider.revision

/-- The archive has what a dispatcher keeps, so its revision was given out. -/
theorem Keeps.revision_lt {A : Archive} {id : ServiceId} {old : Group} (h : d.Keeps id old)
    (hcovers : A.Covers d) : old.provider.revision < d.registry.nextRevision := by
  rcases h with hold | ⟨hold, -⟩
  · exact (hcovers.registered id old hold).1.revision
  · unfold left at hold
    cases hheld : d.running with
    | none =>
        rw [hheld] at hold
        cases hold
    | some r =>
        rw [hheld] at hold
        exact (hcovers.left r hheld old hold).revision

theorem goOn_left_suffix (d : Dispatcher) (r : Running) : (d.goOn r).left <:+ r.left := by
  rw [(goOn_advance d r).1]
  exact advance_suffix d.site r.left

theorem resume_left_suffix (d : Dispatcher) (r : Running) : (d.resume r).left <:+ r.left := by
  cases hleft : r.left with
  | nil =>
      rw [resume_nil hleft]
      exact List.suffix_refl []
  | cons g rest =>
      rw [resume_cons hleft]
      exact (goOn_left_suffix _ _).trans (List.suffix_cons g rest)

/-- A pass that goes on keeps no revision that was not kept before. -/
theorem Keeps.of_resume {r : Running} {id : ServiceId} {old : Group} (hheld : d.running = some r)
    (h : (d.resume r).Keeps id old) :
    ∃ old', d.Keeps id old' ∧ old'.provider.revision = old.provider.revision := by
  have hleft : d.left = r.left := left_of_held hheld
  rcases h with hold | ⟨hold, hid⟩
  · rcases (d.resume_calls r).registered hold with hbefore | ⟨g, hg, hid, rfl⟩
    · exact ⟨old, .inl hbefore, rfl⟩
    · exact ⟨g, .inr ⟨hleft ▸ hg, hid⟩, rfl⟩
  · exact ⟨old, .inr ⟨hleft ▸ (resume_left_suffix d r).subset hold, hid⟩, rfl⟩

theorem Renewed.upsert {A : Archive} (h : d.Renewed) (hcovers : A.Covers d) (kind : Kind)
    (payload : Payload) (props : Map) :
    ({ d with registry := (d.registry.upsert kind payload props).2 } : Dispatcher).Renewed := by
  have hremoved := d.registry.upsert_removed kind payload props
  have hids : ({ d with registry := (d.registry.upsert kind payload props).2 } : Dispatcher).removedIds =
      d.removedIds := congrArg (List.map Group.id) hremoved
  refine ⟨?_, ?_⟩
  · rw [hids]
    exact h.nonzero
  · rw [hids]
    intro id hid g hg hkey old hold
    have hold : d.Keeps id old := hold
    cases d.registry.upsert_grown kind payload props with
    | same live _ =>
        have hg : g ∈ (d.registry.upsert kind payload props).2.live.groups := hg
        rw [live] at hg
        exact h.later id hid g hg hkey old hold
    | one kind' id' payload' props' _ groups _ =>
        rcases groups g hg with hlive | rfl
        · exact h.later id hid g hlive hkey old hold
        · -- The new record has the next revision.
          exact hold.revision_lt hcovers

theorem Renewed.remove (h : d.Renewed) (hsound : d.registry.Sound) (kind : Kind) (id : ServiceId) :
    ({ d with registry := (d.registry.remove kind id).2 } : Dispatcher).Renewed := by
  have hshrinks := (d.registry.remove_shrinks kind id).2.1
  rcases Registry.remove_removed hsound kind id with hsame | ⟨g₀, hone, hnonzero, hgone⟩
  · have hids : ({ d with registry := (d.registry.remove kind id).2 } : Dispatcher).removedIds =
        d.removedIds := congrArg (List.map Group.id) hsame
    refine ⟨?_, ?_⟩ <;> rw [hids]
    · exact h.nonzero
    · exact fun j hj g hg => h.later j hj g (hshrinks hg)
  · have hids : ({ d with registry := (d.registry.remove kind id).2 } : Dispatcher).removedIds =
        d.removedIds ++ [g₀.id] := by
      rw [removedIds, hone, List.map_append]
      rfl
    refine ⟨?_, ?_⟩ <;> rw [hids]
    · intro j hj
      rcases List.mem_append.1 hj with hj | hj
      · exact h.nonzero j hj
      · rw [List.mem_singleton.1 hj]
        exact hnonzero
    · intro j hj g hg hkey
      rcases List.mem_append.1 hj with hj | hj
      · exact h.later j hj g (hshrinks hg) hkey
      · exact absurd (hkey.trans (List.mem_singleton.1 hj)) (hgone g hg)

theorem Renewed.aside (h : d.Renewed) (k : d.Aside e) : e.Renewed := by
  have hids : e.removedIds = d.removedIds := by rw [removedIds, removedIds, k.registry]
  refine ⟨?_, ?_⟩ <;> rw [hids]
  · exact h.nonzero
  · rw [k.registry]
    intro id hid g hg hkey old hold
    refine h.later id hid g hg hkey old ?_
    rwa [Keeps, left, k.running, k.registered] at hold

theorem startPass_removedIds (d : Dispatcher) : d.startPass.removedIds = [] := by
  rw [removedIds, startPass_registry]
  rfl

/-- Every move keeps what is renewed later than what is kept. -/
theorem renewed_move {shared : Prop} {own : Option Group} {t u : Tracked} (h : t.state.Renewed)
    (hsteady : t.Steady own) (hmove : Move shared t u) : u.state.Renewed := by
  obtain ⟨A, hcovers⟩ := hsteady.covered
  cases hmove with
  | aside k => exact h.aside k
  | registers d last kind payload props => exact h.upsert hcovers kind payload props
  | removes d last kind id => exact h.remove hsteady.sound kind id
  | begins d last hidle =>
      -- The pass forgets what was removed.
      dsimp only
      refine ⟨?_, ?_⟩ <;> rw [startPass_removedIds] <;> simp
  | resumes d last r hheld =>
      dsimp only at h ⊢
      have hids : (d.resume r).removedIds = d.removedIds := by rw [removedIds, removedIds, resume_registry]
      refine ⟨?_, ?_⟩ <;> rw [hids]
      · exact h.nonzero
      · rw [resume_registry]
        intro id hid g hg hkey old hold
        obtain ⟨old', hbefore, hrevision⟩ := hold.of_resume hheld
        rw [← hrevision]
        exact h.later id hid g hg hkey old' hbefore
  | interferes d last mounted hshared => exact ⟨h.nonzero, h.later⟩

end Dispatcher

/-- So it is at every dispatcher of a history. -/
theorem History.renewed_of_moves {settings : Settings} {content : Payload} (h : History settings content)
    {shared : Prop} {t : Tracked} (hmoves : Moves shared h.start t) : t.state.Renewed := by
  have hstart : h.start.Steady (implicit settings content) ∧ h.start.state.Renewed :=
    ⟨h.start_steady, by simp [start, Dispatcher.new, Dispatcher.removedIds, Registry.empty], by
      simp [start, Dispatcher.new, Dispatcher.removedIds, Registry.empty]⟩
  refine (hmoves.preserve (P := fun t => t.Steady (implicit settings content) ∧ t.state.Renewed) ?_ hstart).2
  rintro t u ⟨hsteady, hrenewed⟩ hmove
  exact ⟨Tracked.steady_move implicit_eq hsteady hmove, Dispatcher.renewed_move hrenewed hsteady hmove⟩

end RouteBinding
