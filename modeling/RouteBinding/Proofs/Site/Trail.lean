import RouteBinding.Proofs.Site.Ask

/-!
# What a chain of calls leaves

Between the calls of a pass the host may be told something, but what is registered and served stays as it is
(`Site.Rests`).  A chain of asks with such rests between them is a `Site.Trail`: what is recorded of an
identity at its end is told by the last ask about it (`Site.Trail.record`), and a site that is in step stays
so at every ask (`Site.Trail.inStep`).

Unregistering some identities asks for those that are registered (`Site.mem_unregisterAsks`), once each if no
identity is listed twice (`Site.unregisterAsks_ids`).  Bringing a plan to the host asks for what each of its
groups is due (`Site.Serving.about_planned`), and for nothing else.
-/

namespace RouteBinding

open Host

variable [Route.Routing]

/-- What a group that is to be served is due, given what is recorded of it: nothing, if that has its
fingerprint. -/
def Group.due (g : Group) (known : Option Group) : Option Operation :=
  match known with
  | some old => if old.fingerprint = g.fingerprint then none else some .reload
  | none => some .register

namespace Site

/-- Two sites at which the same groups are registered and served. -/
structure Rests (s t : Site) : Prop where
  registered : t.registered = s.registered
  mounted : t.host.memory.mounted = s.host.memory.mounted

/-- A site after some asks, one after the other, with rests between them. -/
inductive Trail : Site → List Ask → Site → Prop where
  | refl (s : Site) : Trail s [] s
  | rests {s t u : Site} {l : List Ask} (h : s.Rests t) (more : Trail t l u) : Trail s l u
  | asks {k : Ask} {t u : Site} {l : List Ask} (h : k.Done t) (more : Trail t l u) : Trail k.site (k :: l) u

variable {s t u : Site} {l m : List Ask} {plan more : List Group} {g : Group} {id : ServiceId}

theorem announce_rests (s : Site) (op : Operation) (g : Group) : s.Rests (s.announce op g) := ⟨rfl, rfl⟩

theorem Trail.append (h : Trail s l t) (k : Trail t m u) : Trail s (l ++ m) u := by
  induction h with
  | refl => exact k
  | rests hrests _ ih => exact .rests hrests (ih k)
  | asks hdone _ ih => exact .asks hdone (ih k)

theorem InStep.rests (h : s.InStep) (hrests : s.Rests t) : t.InStep :=
  h.still hrests.registered hrests.mounted

/-- Host and dispatcher stay in step, and are so at every ask. -/
theorem Trail.inStep (h : Trail s l u) (hs : s.InStep) : u.InStep ∧ ∀ k ∈ l, k.site.InStep := by
  induction h with
  | refl => exact ⟨hs, by simp⟩
  | rests hrests _ ih => exact ih (hs.rests hrests)
  | asks hdone _ ih =>
      obtain ⟨plan, hcall⟩ := hdone.call
      obtain ⟨hu, hsites⟩ := ih (hs.call hcall)
      exact ⟨hu, List.forall_mem_cons.2 ⟨hs, hsites⟩⟩

/-- What is recorded of an identity at the end is what the asks about it have applied. -/
theorem Trail.recorded_eq (h : Trail s l u) (id : ServiceId) :
    u.registered.get? id = recorded (s.registered.get? id) (asksAbout id l) := by
  induction h with
  | refl => rfl
  | rests hrests _ ih => rw [ih, hrests.registered]
  | @asks k t u l hdone _ ih =>
      rw [ih, asksAbout_cons, hdone.record]
      by_cases hid : k.id = id
      · subst hid
        rw [if_pos rfl, if_pos rfl]
        rfl
      · rw [if_neg hid, if_neg (Ne.symm hid)]

theorem Trail.split {k : Ask} (h : Trail s (l ++ k :: m) u) : Trail s l k.site := by
  generalize hsplit : l ++ k :: m = asks at h
  induction h generalizing l with
  | refl => simp at hsplit
  | rests hrests _ ih => exact .rests hrests (ih hsplit)
  | asks hdone _ ih =>
      cases l with
      | nil =>
          obtain ⟨rfl, -⟩ := List.cons.inj hsplit
          exact .refl _
      | cons first rest =>
          obtain ⟨rfl, hrest⟩ := List.cons.inj hsplit
          exact .asks hdone (ih hrest)

/-- So is what was known at each ask. -/
theorem Trail.known_eq {k : Ask} (h : Trail s (l ++ k :: m) u) :
    k.known = recorded (s.registered.get? k.id) (asksAbout k.id l) :=
  h.split.recorded_eq k.id

/-- What is recorded of an identity at the end is what the last ask about it left. -/
theorem Trail.record (h : Trail s l u) (id : ServiceId) : u.registered.get? id =
    match (asksAbout id l).getLast? with
    | none => s.registered.get? id
    | some k => k.leaves := by
  induction h with
  | refl => rfl
  | rests hrests _ ih => rw [ih, hrests.registered]
  | @asks k t u l hdone _ ih =>
      rw [ih, asksAbout_cons]
      by_cases hid : k.id = id
      · -- An ask behind this one counts instead of it.
        rw [if_pos hid, List.getLast?_cons]
        cases (asksAbout id l).getLast? with
        | none => simp [hdone.record, hid]
        | some last => rfl
      · rw [if_neg hid, hdone.record, if_neg (Ne.symm hid)]

/-! ### Unregistering -/

theorem unregister_rec (s : Site) (id j : ServiceId) :
    (s.unregister id).registered.get? j = s.registered.get? j ∨
      j = id ∧ (s.unregister id).registered.get? j = none := by
  cases hknown : s.registered.get? id with
  | none => exact .inl (by rw [unregister_absent hknown])
  | some g =>
      rcases unregister_known hknown with hfailed | hdone
      · exact .inl (by rw [hfailed.registered])
      · rw [hdone.registered, Table.get?_erase]
        by_cases hj : j = id <;> simp [hj]

theorem unregister_inStep (hs : s.InStep) (id : ServiceId) : (s.unregister id).InStep :=
  hs.call (s.unregister_call id)

/-- Unregistering adds nothing to what is registered. -/
theorem registered_of_unregisterEach (ids : List ServiceId) (hs : s.InStep)
    (h : (s.unregisterEach ids).registered.get? id = some g) : s.registered.get? id = some g := by
  induction ids generalizing s with
  | nil => exact h
  | cons j rest ih =>
      have hrest := ih (unregister_inStep hs j) h
      rcases unregister_rec s j id with hsame | ⟨-, hnone⟩
      · rwa [hsame] at hrest
      · rw [hnone] at hrest
        cases hrest

/-- What is registered under other identities stays. -/
theorem unregisterEach_other (ids : List ServiceId) (hs : s.InStep) (hid : id ∉ ids) :
    (s.unregisterEach ids).registered.get? id = s.registered.get? id := by
  induction ids generalizing s with
  | nil => rfl
  | cons j rest ih =>
      rw [List.mem_cons, not_or] at hid
      have hrest := ih (unregister_inStep hs j) hid.2
      rcases unregister_rec s j id with hsame | ⟨heq, -⟩
      · rw [← hsame]
        exact hrest
      · exact absurd heq hid.1

theorem unregisterEach_trail (hs : s.InStep) (ids : List ServiceId) :
    Trail s (s.unregisterAsks ids) (s.unregisterEach ids) := by
  induction ids generalizing s with
  | nil => exact .refl s
  | cons id rest ih =>
      have hrest := ih (unregister_inStep hs id)
      unfold unregisterAsks
      cases hknown : s.registered.get? id with
      | none =>
          rw [unregister_absent hknown] at hrest ⊢
          show Trail s _ ((s.unregister id).unregisterEach rest)
          rw [unregister_absent hknown]
          exact hrest
      | some g =>
          have hdone := unregister_done hknown (hs.known id g hknown).1
          exact .rests (s.announce_rests .unregister g) (.asks hdone hrest)

/-- Each ask is about a listed identity, and for what was registered under it from the start. -/
theorem mem_unregisterAsks {ids : List ServiceId} {k : Ask} (hs : s.InStep)
    (hk : k ∈ s.unregisterAsks ids) : k.op = .unregister ∧ k.id ∈ ids ∧ k.known = some k.group ∧
      s.registered.get? k.id = some k.group := by
  induction ids generalizing s with
  | nil => cases hk
  | cons id rest ih =>
      rcases List.mem_append.1 hk with hfirst | hlater
      · obtain ⟨g, hg, rfl⟩ := List.mem_map.1 hfirst
        have hknown : s.registered.get? id = some g := Option.mem_toList.1 hg
        have hid : g.id = id := (hs.known id g hknown).1
        have hsame : s.registered.get? g.id = some g := hid.symm ▸ hknown
        exact ⟨rfl, hid ▸ List.mem_cons_self .., hsame, hsame⟩
      · obtain ⟨hop, hmem, hknown, hstart⟩ := ih (unregister_inStep hs id) hlater
        have hbefore : s.registered.get? k.id = some k.group :=
          registered_of_unregisterEach [id] hs hstart
        exact ⟨hop, List.mem_cons_of_mem id hmem, hknown, hbefore⟩

/-- What is registered under a listed identity is asked for. -/
theorem exists_unregisterAsk {ids : List ServiceId} (hs : s.InStep) (hid : id ∈ ids)
    (hknown : s.registered.get? id = some g) : asksAbout id (s.unregisterAsks ids) ≠ [] := by
  induction ids generalizing s with
  | nil => cases hid
  | cons j rest ih =>
      unfold unregisterAsks
      rw [asksAbout_append]
      by_cases hj : id = j
      · subst hj
        have hkey : g.id = id := (hs.known id g hknown).1
        simp [hknown, asksAbout_cons, Ask.id, hkey]
      · -- Nothing has happened to the identity yet.
        have hsame : (s.unregister j).registered.get? id = some g :=
          (unregisterEach_other [j] hs (by simpa using hj)).trans hknown
        have hmem : id ∈ rest := (List.mem_cons.1 hid).resolve_left hj
        have hrest := ih (unregister_inStep hs j) hmem hsame
        simp [hrest]

/-- Where no identity is listed twice, each that is registered is asked for once. -/
theorem unregisterAsks_ids {ids : List ServiceId} (hs : s.InStep) (hnodup : ids.Nodup) :
    (s.unregisterAsks ids).map Ask.id = ids.filter fun id => (s.registered.get? id).isSome := by
  induction ids generalizing s with
  | nil => rfl
  | cons id rest ih =>
      have hfresh := (List.nodup_cons.1 hnodup).1
      have hrest := ih (unregister_inStep hs id) (List.nodup_cons.1 hnodup).2
      have hsame : rest.filter (fun j => ((s.unregister id).registered.get? j).isSome) =
          rest.filter fun j => (s.registered.get? j).isSome := by
        refine List.filter_congr fun j hj => ?_
        have hne : j ≠ id := fun heq => hfresh (heq ▸ hj)
        have hother : (s.unregister id).registered.get? j = s.registered.get? j :=
          unregisterEach_other [id] hs (by simpa using hne)
        rw [hother]
      rw [unregisterAsks, List.map_append, hrest, hsame, List.filter_cons]
      cases hknown : s.registered.get? id with
      | none => rfl
      | some g =>
          have hid : g.id = id := (hs.known id g hknown).1
          simp [Ask.id, hid]

/-! ### Bringing groups to the host -/

/-- Where host and dispatcher are in step, what a group is asked for follows from what is recorded of it. -/
theorem InStep.operationFor_eq (h : s.InStep) (g : Group) :
    s.operationFor g = g.due (s.registered.get? g.id) := by
  unfold operationFor Group.due
  cases hknown : s.registered.get? g.id with
  | some old => rfl
  | none =>
      have hserves : s.host.memory.serves g.id = false := by
        rw [Memory.serves, Table.contains, h.unknown g.id hknown]
        rfl
      simp [hserves]

theorem operationFor_rests (h : s.Rests t) (g : Group) : t.operationFor g = s.operationFor g := by
  unfold operationFor Memory.serves
  rw [h.registered, h.mounted]

/-- A site to which some groups were brought by some asks, in order. -/
inductive Serving : Site → List Group → List Ask → Site → Prop where
  | refl (s : Site) : Serving s [] [] s
  | rests {s t u : Site} {plan : List Group} {l : List Ask} (h : s.Rests t) (more : Serving t plan l u) :
      Serving s plan l u
  /-- The host serves the group as it is. -/
  | skips {s u : Site} {g : Group} {rest : List Group} {l : List Ask} (h : s.operationFor g = none)
      (more : Serving s rest l u) : Serving s (g :: rest) l u
  | asks {s u : Site} {g : Group} {op : Operation} {rest : List Group} {l : List Ask}
      (h : s.operationFor g = some op) (more : Serving (s.settle op g) rest l u) :
      Serving s (g :: rest) (⟨s, op, g.told⟩ :: l) u

theorem Serving.append (h : Serving s plan l t) (k : Serving t more m u) :
    Serving s (plan ++ more) (l ++ m) u := by
  induction h with
  | refl => exact k
  | rests hrests _ ih => exact .rests hrests (ih k)
  | skips hnone _ ih => exact .skips hnone (ih k)
  | asks hop _ ih => exact .asks hop (ih k)

theorem Serving.trail (h : Serving s plan l u) : Trail s l u := by
  induction h with
  | refl s => exact .refl s
  | rests hrests _ ih => exact .rests hrests ih
  | skips _ _ ih => exact ih
  | @asks s u g op rest l hop _ ih => exact .asks (settle_done s (operationFor_ne hop) g) ih

/-- Bringing a plan to the host gets past some of its groups; the next one waits to be registered. -/
theorem advance_serving (s : Site) (plan : List Group) : ∃ past, plan = past ++ (s.advance plan).2 ∧
    Serving s past (s.advanceAsks plan) (s.advance plan).1 ∧
      ∀ g ∈ (s.advance plan).2.head?, (s.advance plan).1.operationFor g = some .register := by
  induction plan generalizing s with
  | nil => exact ⟨[], rfl, .refl s, by intro g hg; cases hg⟩
  | cons g rest ih =>
      rw [advance_cons, advanceAsks]
      cases hop : s.operationFor g with
      | none =>
          obtain ⟨past, hplan, hserving, hwaits⟩ := ih s
          exact ⟨g :: past, congrArg (List.cons g) hplan, .skips hop hserving, hwaits⟩
      | some op =>
          dsimp only
          have hannounced : (s.announce op g.told).operationFor g = some op := hop
          by_cases hholds : (s.announce op g.told).host.holds op g = true
          · rw [if_pos hholds, if_pos hholds]
            have hrests : s.Rests (s.announce op g.told).ungated := ⟨rfl, rfl⟩
            refine ⟨[], rfl, .rests hrests (.refl _), ?_⟩
            intro g' hg'
            obtain rfl : g = g' := Option.some.inj hg'
            rw [holds_register hholds] at hannounced ⊢
            exact hannounced
          · rw [if_neg hholds, if_neg hholds]
            obtain ⟨past, hplan, hserving, hwaits⟩ := ih ((s.announce op g.told).settle op g)
            exact ⟨g :: past, congrArg (List.cons g) hplan,
              .rests (s.announce_rests op g.told) (.asks hannounced hserving), hwaits⟩

namespace Serving

/-- Each ask is for a group of the plan, as the host is told of it. -/
theorem planned {k : Ask} (h : Serving s plan l u) (hk : k ∈ l) : ∃ g ∈ plan, k.group = g.told := by
  induction h with
  | refl => cases hk
  | rests _ _ ih => exact ih hk
  | skips _ _ ih =>
      obtain ⟨g, hg, hgroup⟩ := ih hk
      exact ⟨g, List.mem_cons_of_mem _ hg, hgroup⟩
  | asks _ _ ih =>
      rcases List.mem_cons.1 hk with rfl | hk
      · exact ⟨_, List.mem_cons_self .., rfl⟩
      · obtain ⟨g, hg, hgroup⟩ := ih hk
        exact ⟨g, List.mem_cons_of_mem _ hg, hgroup⟩

/-- Each ask is for what the group is due at that moment. -/
theorem due {k : Ask} (h : Serving s plan l u) (hs : s.InStep) (hk : k ∈ l) :
    ∃ g ∈ plan, k.group = g.told ∧ g.due k.known = some k.op := by
  induction h with
  | refl => cases hk
  | rests hrests _ ih => exact ih (hs.rests hrests) hk
  | skips _ _ ih =>
      obtain ⟨g, hg, hdue⟩ := ih hs hk
      exact ⟨g, List.mem_cons_of_mem _ hg, hdue⟩
  | @asks s u g op rest l hop _ ih =>
      rcases List.mem_cons.1 hk with rfl | hk
      · refine ⟨g, List.mem_cons_self .., rfl, ?_⟩
        rw [← hop, hs.operationFor_eq]
        rfl
      · have hcall := settle_call s (operationFor_ne hop) (List.mem_singleton_self g)
        obtain ⟨g', hg', hdue⟩ := ih (hs.call hcall) hk
        exact ⟨g', List.mem_cons_of_mem _ hg', hdue⟩

/-- What was known of a group when it was asked for is what is recorded of it at the start. -/
theorem known {k : Ask} (h : Serving s plan l u) (hnodup : (plan.map Group.id).Nodup) (hk : k ∈ l) :
    k.known = s.registered.get? k.id := by
  induction h with
  | refl => cases hk
  | rests hrests _ ih => rw [← hrests.registered, ih hnodup hk]
  | skips _ _ ih =>
      rw [List.map_cons, List.nodup_cons] at hnodup
      exact ih hnodup.2 hk
  | @asks s u g op rest l hop hmore ih =>
      rw [List.map_cons, List.nodup_cons] at hnodup
      rcases List.mem_cons.1 hk with rfl | hk
      · rfl
      · -- It is another group than the one that was just asked for.
        obtain ⟨g', hg', hgroup⟩ := hmore.planned hk
        have hid : k.id = g'.id := by rw [Ask.id, hgroup]; rfl
        have hne : k.id ≠ (⟨s, op, g.told⟩ : Ask).id := fun heq =>
          hnodup.1 (List.mem_map.2 ⟨g', hg', hid.symm.trans heq⟩)
        rw [ih hnodup.2 hk, (settle_done s (operationFor_ne hop) g).record, if_neg hne]

theorem about_absent (h : Serving s plan l u) (hid : id ∉ plan.map Group.id) : asksAbout id l = [] := by
  refine asksAbout_eq_nil.2 fun k hk heq => hid ?_
  obtain ⟨g, hg, hgroup⟩ := h.planned hk
  have hkey : k.id = g.id := by rw [Ask.id, hgroup]; rfl
  exact heq ▸ hkey ▸ List.mem_map_of_mem hg

/-- A group of the plan is asked for what it is due at the start, and for nothing else. -/
theorem about_planned (h : Serving s plan l u) (hs : s.InStep) (hnodup : (plan.map Group.id).Nodup)
    (hg : g ∈ plan) : (asksAbout g.id l).map Ask.op = (g.due (s.registered.get? g.id)).toList := by
  induction h with
  | refl => cases hg
  | rests hrests _ ih => rw [← hrests.registered, ih (hs.rests hrests) hnodup hg]
  | @skips s u g₀ rest l hnone hmore ih =>
      rw [List.map_cons, List.nodup_cons] at hnodup
      rcases List.mem_cons.1 hg with rfl | hg
      · rw [hmore.about_absent hnodup.1, ← hs.operationFor_eq, hnone]
        rfl
      · exact ih hs hnodup.2 hg
  | @asks s u g₀ op rest l hop hmore ih =>
      rw [List.map_cons, List.nodup_cons] at hnodup
      have hdone := settle_done s (operationFor_ne hop) g₀
      rw [asksAbout_cons]
      rcases List.mem_cons.1 hg with rfl | hg
      · have hid : (⟨s, op, g.told⟩ : Ask).id = g.id := rfl
        rw [if_pos hid, hmore.about_absent hnodup.1, ← hs.operationFor_eq, hop]
        rfl
      · -- The asks for other groups leave what is recorded of this one.
        have hne : g₀.id ≠ g.id := fun heq => hnodup.1 (heq ▸ List.mem_map_of_mem hg)
        have hid : (⟨s, op, g₀.told⟩ : Ask).id ≠ g.id := hne
        have hsame : (s.settle op g₀).registered.get? g.id = s.registered.get? g.id := by
          rw [hdone.record, if_neg (Ne.symm hid)]
        have hcall := settle_call s (operationFor_ne hop) (List.mem_singleton_self g₀)
        rw [if_neg hid, ← hsame]
        exact ih (hs.call hcall) hnodup.2 hg

end Serving

end Site

end RouteBinding
