import RouteBinding.Proofs.Pass.Default
import RouteBinding.Proofs.Pass.Naming
import RouteBinding.Proofs.Run.Independence
import RouteBinding.Proofs.Run.Repeat
import RouteBinding.Proofs.Site.Apart

/-!
# When two groups are served at once that should not be

The groups that a pass wants have different paths, and at most one of them is a default group
(`Reading.plan_apart`).  Where no call fails, the host serves some of them as they are wanted while a pass
goes on, and those that the pass has not come to yet as they were before (`Pass.Midway`).  Groups come in the
order of their identities, so a group may take over a path, or become the default, before the one that is to
give it up has been reloaded (`Pass.Clash`).  This is the only way in which the host comes to serve two groups
with one path, or two default groups, and it is over when the pass is (`History.apart_unless_clash`).
-/

namespace RouteBinding

open Property

namespace Reading

variable {r : Reading}

/-- A pass brings groups to the host in the order of their identities. -/
theorem pairwise_plan (h : r.intake.WellFormed) : r.plan.Pairwise fun g g' => g.id < g'.id := by
  have hsorted : r.plan.Pairwise fun g g' => decide (g.id ≤ g'.id) = true :=
    Sorted.pairwise_ofList
      (fun _ _ _ hab hbc => by simpa using Nat.le_trans (of_decide_eq_true hab) (of_decide_eq_true hbc))
      (fun a b => by simpa using Nat.le_total a.id b.id) r.decision.placed
  have hne : r.plan.Pairwise fun g g' => g.id ≠ g'.id := List.pairwise_map.1 (nodup_plan h)
  exact (hsorted.and hne).imp fun hboth => Nat.lt_of_le_of_ne (of_decide_eq_true hboth.1) hboth.2

/-- Two groups of a plan have different paths, and are not both default groups. -/
theorem plan_apart {g g' : Group} (hg : g ∈ r.plan) (hg' : g' ∈ r.plan) (hne : g.id ≠ g'.id) :
    g.Apart g' := by
  constructor
  · intro hpath
    exact hne (congrArg Group.id (List.inj_on_of_nodup_map r.nodup_paths hg hg' hpath))
  · rintro ⟨hdefault, hdefault'⟩
    have hchosen := default_of_planned hg hdefault
    rw [default_of_planned hg' hdefault'] at hchosen
    exact hne (Option.some.inj hchosen).symm

end Reading

section

variable [Route.Routing]

/-! ### Where no call fails -/

/-- An ask that succeeded has left what it applied. -/
theorem Ask.leaves_of_succeeded {k : Ask} (h : k.failed = false) : k.leaves = k.applied := by
  simp [Ask.leaves, h]

/-- Each group of a plan that was brought to the host is recorded as it is wanted. -/
theorem Site.Serving.record {s u : Site} {plan : List Group} {l : List Ask} {A : Archive} {bound : Nat}
    {g : Group} (h : Site.Serving s plan l u) (hs : s.InStep) (hnodup : (plan.map Group.id).Nodup)
    (hremembers : A.Remembers bound s) (hok : ∀ k ∈ l, k.failed = false) (hg : g ∈ plan)
    (hholds : A.Holds bound g) : u.registered.get? g.id = some g.settled := by
  have hops := h.about_planned hs hnodup hg
  rw [h.trail.record]
  cases hdue : g.due (s.registered.get? g.id) with
  | none =>
      -- The host serves the group as it is wanted.
      have hnone : asksAbout g.id l = [] := by simpa [hdue] using hops
      rw [hnone]
      exact known_of_operationFor ((hs.operationFor_eq g).trans hdue) hholds hremembers
  | some op =>
      rw [hdue] at hops
      obtain ⟨k, hk, hop⟩ := List.map_eq_singleton_iff.1 hops
      obtain ⟨hmem, hid⟩ := mem_asksAbout.1 (hk ▸ List.mem_singleton_self k)
      obtain ⟨g', hg', hgroup⟩ := h.planned hmem
      have hsame : g' = g := by
        refine List.inj_on_of_nodup_map hnodup hg' hg ?_
        rw [← hid, Ask.id, hgroup]
        rfl
      rw [hk]
      show k.leaves = some g.settled
      rw [Ask.leaves_of_succeeded (hok k hmem), Ask.applied, hgroup, hsame]
      have hbrings : k.op ≠ .unregister := hop ▸ Group.due_ne hdue
      cases hkop : k.op with
      | unregister => exact absurd hkop hbrings
      | register => rfl
      | reload => rfl

namespace Pass

variable {p : Pass} {past done left : List Group} {served l m : List Ask} {k : Ask} {s : Site}

/-- A group that stays as it was until the pass comes to it: it is recorded when the pass begins, and was not
removed. -/
def Lingers (p : Pass) (id : ServiceId) (old : Group) : Prop :=
  p.opening.site.registered.get? id = some old ∧ id ∉ p.removed

/-- Before the pass comes to an identity, it has brought a group to the host that has the path of one that it
has not come to yet, or is the default group where that one still is. -/
def Clash (p : Pass) (bound : ServiceId) : Prop :=
  ∃ g ∈ p.wanted, ∃ g' ∈ p.wanted, ∃ old, g.id < bound ∧ bound ≤ g'.id ∧ p.Lingers g'.id old ∧
    ¬g.Apart old

/-- A site at which some of the groups that a pass wants are recorded as it wants them, the others as they
were before, and nothing else. -/
structure Midway (p : Pass) (done left : List Group) (s : Site) : Prop where
  wanted : p.wanted = done ++ left
  done : ∀ g ∈ done, s.registered.get? g.id = some g.settled
  left : ∀ g ∈ left, ∀ old, s.registered.get? g.id = some old ↔ p.Lingers g.id old
  only : ∀ id, id ∉ p.wanted.map Group.id → s.registered.get? id = none

/-- Where no call failed, what is left once the host is cleared was wanted, and was not removed. -/
theorem cleared_lingers (hs : p.opening.site.InStep)
    (hok : ∀ k ∈ p.opening.clearAsks p.reading, k.failed = false) {id : ServiceId} {old : Group} :
    p.opening.decided.site.registered.get? id = some old ↔
      id ∈ p.wanted.map Group.id ∧ p.Lingers id old := by
  rw [Traced.cleared_record hs]
  cases hlast : (asksAbout id (p.opening.clearAsks p.reading)).getLast? with
  | none =>
      have hnone := List.getLast?_eq_none_iff.1 hlast
      refine ⟨fun hold => ?_, fun hlingers => hlingers.2.1⟩
      have hkept : ¬(id ∈ p.removed ∨ id ∉ p.wanted.map Group.id) := fun hgone =>
        Dispatcher.exists_clearAsk hs hold hgone hnone
      rw [not_or, not_not] at hkept
      exact ⟨hkept.2, hold, hkept.1⟩
  | some k =>
      obtain ⟨hk, rfl⟩ := mem_asksAbout.1 (List.mem_of_getLast? hlast)
      obtain ⟨hop, -, -, hgone⟩ := Dispatcher.mem_clearAsks hs hk
      have hleaves : k.leaves = none := by
        rw [Ask.leaves_of_succeeded (hok k hk), Ask.applied, hop]
      refine ⟨fun hold => ?_, ?_⟩
      · have hold : k.leaves = some old := hold
        rw [hleaves] at hold
        cases hold
      · rintro ⟨hwanted, -, hkept⟩
        rcases hgone with hremoved | hunwanted
        · exact absurd hremoved hkept
        · exact absurd hwanted hunwanted

/-- Where no call failed, a pass that has brought some groups to the host stands midway. -/
theorem midway_of_serving {A : Archive} (hs : p.opening.site.InStep) (hcovers : A.Covers p.opening)
    (hnodup : (p.wanted.map Group.id).Nodup) (hwanted : p.wanted = done ++ left)
    (hclear : ∀ k ∈ p.opening.clearAsks p.reading, k.failed = false)
    (hserving : Site.Serving p.opening.decided.site done l s) (hok : ∀ k ∈ l, k.failed = false) :
    p.Midway done left s := by
  have happart := hnodup
  rw [hwanted, List.map_append, List.nodup_append] at happart
  obtain ⟨hdone, -, hdisjoint⟩ := happart
  have hsame : ∀ id, id ∉ done.map Group.id →
      s.registered.get? id = p.opening.decided.site.registered.get? id := by
    intro id hid
    rw [hserving.trail.record, hserving.about_absent hid]
    rfl
  refine ⟨hwanted, fun g hg => ?_, fun g hg old => ?_, fun id hid => ?_⟩
  · have hplanned : g ∈ p.reading.plan := by
      show g ∈ p.wanted
      rw [hwanted]
      exact List.mem_append_left _ hg
    have hholds := hcovers.plan g hplanned
    rw [← Dispatcher.decided_nextRevision] at hholds
    exact hserving.record (Traced.decided_inStep hs) hdone hcovers.decided.registered hok hg hholds
  · have hid : g.id ∉ done.map Group.id := fun hmem =>
      hdisjoint _ hmem _ (List.mem_map_of_mem hg) rfl
    have hmem : g.id ∈ p.wanted.map Group.id := by
      rw [hwanted]
      exact List.mem_map_of_mem (List.mem_append_right _ hg)
    rw [hsame _ hid, cleared_lingers hs hclear]
    exact and_iff_right hmem
  · have hother : id ∉ done.map Group.id := fun hmem => hid (by
      rw [hwanted, List.map_append]
      exact List.mem_append_left _ hmem)
    rw [hsame _ hother]
    exact Option.eq_none_iff_forall_ne_some.2 fun old hold => hid ((cleared_lingers hs hclear).1 hold).1

namespace Midway

variable (h : p.Midway done left s)

include h

theorem mem_cases {id : ServiceId} {g : Group} (hg : s.registered.get? id = some g) :
    (∃ g₀ ∈ done, g₀.id = id ∧ g₀.settled = g) ∨ ∃ g₀ ∈ left, g₀.id = id ∧ p.Lingers id g := by
  have hid : id ∈ p.wanted.map Group.id := Decidable.byContradiction fun hnot => by
    rw [h.only id hnot] at hg
    cases hg
  obtain ⟨g₀, hg₀, rfl⟩ := List.mem_map.1 hid
  rw [h.wanted] at hg₀
  rcases List.mem_append.1 hg₀ with hdone | hleft
  · rw [h.done g₀ hdone] at hg
    exact .inl ⟨g₀, hdone, rfl, Option.some.inj hg⟩
  · exact .inr ⟨g₀, hleft, rfl, (h.left g₀ hleft g).1 hg⟩

/-- The groups that were brought to the host are apart, and so are those that linger; so what counts is how
the ones stand to the others. -/
theorem apart (hopening : left = [] ∨ p.opening.site.Apart)
    (hcross : ∀ g ∈ done, ∀ g' ∈ left, ∀ old, p.Lingers g'.id old → g.Apart old) : s.Apart := by
  have hwanted : ∀ g ∈ done, g ∈ p.reading.plan := fun g hg => by
    show g ∈ p.wanted
    rw [h.wanted]
    exact List.mem_append_left _ hg
  intro id id' g g' hne hg hg'
  rcases h.mem_cases hg with ⟨x, hx, rfl, rfl⟩ | ⟨x, hx, rfl, hlingers⟩
  · rcases h.mem_cases hg' with ⟨y, hy, rfl, rfl⟩ | ⟨y, hy, rfl, hlingers'⟩
    · have happart : x.Apart y := Reading.plan_apart (hwanted x hx) (hwanted y hy) hne
      exact happart
    · exact hcross x hx y hy g' hlingers'
  · rcases h.mem_cases hg' with ⟨y, hy, rfl, rfl⟩ | ⟨y, hy, rfl, hlingers'⟩
    · exact (hcross y hy x hx g hlingers).symm
    · rcases hopening with rfl | hopening
      · cases hx
      · exact hopening _ _ g g' hne hlingers.1 hlingers'.1

/-- What has been brought to the host has identities below a bound, and all else that is wanted has not. -/
theorem apart_iff {bound : ServiceId} (hopening : p.opening.site.Apart) (hdone : ∀ g ∈ done, g.id < bound)
    (hleft : ∀ g ∈ left, bound ≤ g.id) : s.Apart ↔ ¬p.Clash bound := by
  constructor
  · rintro happart ⟨g, hg, g', hg', old, hlt, hle, hlingers, hclash⟩
    rw [h.wanted] at hg hg'
    have hg : g ∈ done := (List.mem_append.1 hg).resolve_right fun hmem =>
      Nat.not_le_of_lt hlt (hleft g hmem)
    have hg' : g' ∈ left := (List.mem_append.1 hg').resolve_left fun hmem =>
      Nat.not_le_of_lt (hdone g' hmem) hle
    have hne : g.id ≠ g'.id := Nat.ne_of_lt (Nat.lt_of_lt_of_le hlt hle)
    have hserved : g.settled.Apart old :=
      happart _ _ _ _ hne (h.done g hg) ((h.left g' hg' old).2 hlingers)
    exact hclash hserved
  · intro hnone
    refine h.apart (.inr hopening) fun g hg g' hg' old hlingers => ?_
    refine Decidable.byContradiction fun hclash => hnone ?_
    have hmem : g ∈ p.wanted := h.wanted ▸ List.mem_append_left _ hg
    have hmem' : g' ∈ p.wanted := h.wanted ▸ List.mem_append_right _ hg'
    exact ⟨g, hmem, g', hmem', old, hdone g hg, hleft g' hg', hlingers, hclash⟩

end Midway

/-- The group that is next has an identity behind those of the groups before it. -/
theorem bounds_of_wanted {g : Group} {rest : List Group} (hread : p.reading.intake.WellFormed)
    (hwanted : p.wanted = done ++ g :: rest) :
    (∀ x ∈ done, x.id < g.id) ∧ ∀ x ∈ g :: rest, g.id ≤ x.id := by
  have hsorted : p.wanted.Pairwise fun x y => x.id < y.id := Reading.pairwise_plan hread
  rw [hwanted, List.pairwise_append, List.pairwise_cons] at hsorted
  obtain ⟨-, ⟨hrest, -⟩, hdone⟩ := hsorted
  refine ⟨fun x hx => hdone x hx g (List.mem_cons_self ..), fun x hx => ?_⟩
  rcases List.mem_cons.1 hx with rfl | hx
  · exact Nat.le_refl _
  · exact Nat.le_of_lt (hrest x hx)

/-- A pass with what is known of where it began. -/
structure Founded (p : Pass) : Prop where
  inStep : p.opening.site.InStep
  covered : ∃ A : Archive, A.Covers p.opening
  read : p.reading.intake.WellFormed
  traced : ∃ past served, p.Traced past served

namespace Founded

variable (h : p.Founded)

include h

theorem nodup_wanted : (p.wanted.map Group.id).Nodup := Reading.nodup_plan h.read

/-- While groups leave the host no clash can arise, and then what counts is how far the pass has come. -/
theorem ask_apart_iff (hopening : p.opening.site.Apart) (hsplit : p.asked = l ++ k :: m)
    (hok : ∀ j ∈ l, j.failed = false) : k.site.Apart ↔ k.op = .unregister ∨ ¬p.Clash k.id := by
  obtain ⟨A, hcovers⟩ := h.covered
  obtain ⟨past, served, htraced⟩ := h.traced
  -- The ask is one of those that clear the host, or it stands behind them all.
  have hcases : (∃ more, p.opening.clearAsks p.reading = l ++ k :: more) ∨
      ∃ front, l = p.opening.clearAsks p.reading ++ front ∧ served = front ++ k :: m := by
    rcases List.append_eq_append_iff.1 (hsplit.symm.trans htraced.asked) with
      ⟨more, hclear, hrest⟩ | ⟨front, hfront, hserved⟩
    · cases more with
      | nil => exact .inr ⟨[], by simpa using hclear.symm, hrest.symm⟩
      | cons j more =>
          obtain ⟨rfl, -⟩ := List.cons.inj hrest
          exact .inl ⟨more, hclear⟩
    · exact .inr ⟨front, hfront, hserved⟩
  rcases hcases with ⟨more, hclear⟩ | ⟨front, rfl, rfl⟩
  · have hops : ∀ j ∈ p.opening.clearAsks p.reading, j.op = .unregister := fun j hj =>
      (Dispatcher.mem_clearAsks h.inStep hj).1
    have htrail := Dispatcher.cleared_trail h.inStep p.reading
    rw [hclear] at hops htrail
    have hbefore : ∀ j ∈ l, j.op = .unregister := fun j hj => hops j (List.mem_append_left _ hj)
    have hop : k.op = .unregister := hops k (by simp)
    exact iff_of_true (htrail.split.apart hbefore hopening) (.inl hop)
  · obtain ⟨done, g, rest, hpast, hid, hop, hserving⟩ := htraced.serving.split
    have hwanted : p.wanted = done ++ g :: (rest ++ p.standing.left) := by
      rw [htraced.wanted, hpast, List.append_assoc, List.cons_append]
    have hmidway := midway_of_serving h.inStep hcovers h.nodup_wanted hwanted
      (fun j hj => hok j (List.mem_append_left _ hj)) hserving fun j hj => hok j (List.mem_append_right _ hj)
    obtain ⟨hdone, hleft⟩ := bounds_of_wanted h.read hwanted
    rw [hid, hmidway.apart_iff hopening hdone hleft]
    exact ⟨.inr, fun hor => hor.resolve_left hop⟩

/-- Where no call failed, a pass stands midway between what it is past and what is left. -/
theorem standing_midway (hok : ∀ k ∈ p.asked, k.failed = false) :
    ∃ past, p.Midway past p.standing.left p.standing.site := by
  obtain ⟨A, hcovers⟩ := h.covered
  obtain ⟨past, served, htraced⟩ := h.traced
  rw [htraced.asked] at hok
  exact ⟨past, midway_of_serving h.inStep hcovers h.nodup_wanted htraced.wanted
    (fun j hj => hok j (List.mem_append_left _ hj)) htraced.serving fun j hj =>
      hok j (List.mem_append_right _ hj)⟩

/-- A pass that is over leaves the groups apart. -/
theorem over_apart (hok : ∀ k ∈ p.asked, k.failed = false) (hover : p.standing.left = []) :
    p.standing.site.Apart := by
  obtain ⟨past, hmidway⟩ := h.standing_midway hok
  rw [hover] at hmidway
  exact hmidway.apart (.inl rfl) fun _ _ g' hg' => absurd hg' List.not_mem_nil

theorem standing_apart_iff (hopening : p.opening.site.Apart) (hok : ∀ k ∈ p.asked, k.failed = false) :
    p.standing.site.Apart ↔ ∀ g ∈ p.standing.left.head?, ¬p.Clash g.id := by
  cases hleft : p.standing.left with
  | nil => exact iff_of_true (h.over_apart hok hleft) (by simp)
  | cons g rest =>
      obtain ⟨past, hmidway⟩ := h.standing_midway hok
      rw [hleft] at hmidway
      obtain ⟨hdone, hbehind⟩ := bounds_of_wanted h.read hmidway.wanted
      simpa using hmidway.apart_iff hopening hdone hbehind

end Founded

end Pass

namespace History

variable {settings : Settings} {content : Payload} (h : History settings content) {p : Pass}
  {before after : List Pass}

theorem founded (hdriven : h.Driven) (hp : p ∈ h.passes) : p.Founded := by
  obtain ⟨hs, hcovered, -, htraced⟩ := h.opening_steady hdriven hp
  exact ⟨hs, hcovered, (h.standing_at hp).1.wellFormed, htraced⟩

/-- Where no call failed before, a pass begins with groups that are apart: the pass before it has left them
so, and there are none before the first one. -/
theorem opening_apart (hdriven : h.Driven) (hpasses : h.passes = before ++ p :: after)
    (hok : ∀ q ∈ before, ∀ k ∈ q.asked, k.failed = false) : p.opening.site.Apart := by
  have hlinked := h.chronicle_linked hdriven.2
  rcases List.eq_nil_or_concat before with rfl | ⟨earlier, q, rfl⟩
  · refine Site.apart_of_empty (hlinked.first p ?_)
    rw [← List.head?_reverse]
    show p ∈ h.passes.head?
    rw [hpasses]
    rfl
  · have hchain : h.passes.IsChain Chronicle.Precedes := List.isChain_reverse.2 hlinked.chain
    have hnext : [q, p] <:+: h.passes := ⟨earlier, after, by simp [hpasses]⟩
    have hpair : [q, p].IsChain Chronicle.Precedes := List.IsChain.infix hchain hnext
    obtain ⟨hover, hfollows⟩ := List.isChain_pair.1 hpair
    have hq : q ∈ h.passes := hnext.subset (by simp)
    have happart := (h.founded hdriven hq).over_apart (hok q (by simp)) (Dispatcher.left_of_idle hover)
    exact happart.rests hfollows.rests

/-- As long as no call has failed, the host serves two groups with one path, or two default groups, at just
those moments of a pass at which a group has come before one that is to make room for it: at a call that
brings a group to the host, or where the pass is held at one.  When a pass begins, when groups leave the host
and when the pass is over it never does. -/
theorem apart_unless_clash (hdriven : h.Driven) (hpasses : h.passes = before ++ p :: after)
    (hok : ∀ q ∈ before, ∀ k ∈ q.asked, k.failed = false) :
    p.opening.site.host.memory.Apart ∧
    (∀ l k m, p.asked = l ++ k :: m → (∀ j ∈ l, j.failed = false) →
      (k.site.host.memory.Apart ↔ k.op = .unregister ∨ ¬p.Clash k.id)) ∧
    ((∀ k ∈ p.asked, k.failed = false) →
      (p.standing.site.host.memory.Apart ↔ ∀ g ∈ p.standing.left.head?, ¬p.Clash g.id) ∧
      (p.standing.running = none → p.standing.site.host.memory.Apart)) := by
  have hp : p ∈ h.passes := hpasses ▸ List.mem_append_right _ (List.mem_cons_self ..)
  have hfounded := h.founded hdriven hp
  have hopening := h.opening_apart hdriven hpasses hok
  obtain ⟨past, served, htraced⟩ := hfounded.traced
  obtain ⟨hstanding, hsites⟩ := (htraced.trail hfounded.inStep).inStep hfounded.inStep
  refine ⟨hfounded.inStep.apart_iff.2 hopening, fun l k m hsplit hbefore => ?_, fun hnone => ⟨?_, ?_⟩⟩
  · have hk : k ∈ p.asked := hsplit ▸ List.mem_append_right _ (List.mem_cons_self ..)
    rw [(hsites k hk).apart_iff]
    exact hfounded.ask_apart_iff hopening hsplit hbefore
  · rw [hstanding.apart_iff]
    exact hfounded.standing_apart_iff hopening hnone
  · intro hover
    exact hstanding.apart_iff.2 (hfounded.over_apart hnone (Dispatcher.left_of_idle hover))

end History

end

namespace History

/-- A group is registered as the default, and then declares itself the default no more. -/
def relinquished : History {} (.shared 0 .plain) where
  host := {}
  pool := {}
  actions :=
    [.upsert .group (.shared 1 .plain)
        (sampleProps Key.routeGroup 3 "api" [(Key.path, .text "/a"), (Key.default, .flag true)]),
      .upsert .group (.shared 1 .plain) (sampleProps Key.routeGroup 3 "api" [(Key.path, .text "/a")])]

/-- The second pass registers the implicit default group, and reloads the other one behind it. -/
theorem relinquished_apart_unless_clash : ∃ p q k k', relinquished.passes = [p, q] ∧ q.asked = [k, k'] ∧
    (k.op, k.id) = (.register, 0) ∧ (k'.op, k'.id) = (.reload, 3) ∧
    q.opening.site.host.memory.Apart ∧ k.site.host.memory.Apart ∧
    (k'.site.host.memory.Apart ↔ ¬q.Clash 3) ∧ q.standing.site.host.memory.Apart := by
  have hdriven : relinquished.Driven := ⟨rfl, by decide +kernel⟩
  have hlength : relinquished.passes.length = 2 := by decide +kernel
  obtain ⟨p, q, hpasses⟩ := List.length_eq_two.1 hlength
  obtain ⟨hcalls, hok, hover⟩ : relinquished.passes.map (fun p => p.asked.map fun k => (k.op, k.id)) =
        [[(.register, 3)], [(.register, 0), (.reload, 3)]] ∧
      (∀ p ∈ relinquished.passes, ∀ k ∈ p.asked, k.failed = false) ∧
      ∀ p ∈ relinquished.passes, p.standing.running = none := by decide +kernel
  rw [hpasses] at hcalls hok hover
  obtain ⟨k, k', hasked, hk, hk'⟩ : ∃ k k', q.asked = [k, k'] ∧ (k.op, k.id) = (.register, 0) ∧
      (k'.op, k'.id) = (.reload, 3) := by
    obtain ⟨k, rest, hrest, hk, hmore⟩ := List.map_eq_cons_iff.1 (List.cons.inj (List.cons.inj hcalls).2).1
    obtain ⟨k', rfl, hk'⟩ := List.map_eq_singleton_iff.1 hmore
    exact ⟨k, k', hrest, hk, hk'⟩
  have hfirst : ∀ r ∈ [p], ∀ j ∈ r.asked, j.failed = false := fun r hr => hok r (by simp_all)
  have hsecond : ∀ j ∈ q.asked, j.failed = false := hok q (by simp)
  have hsplit : relinquished.passes = [p] ++ q :: [] := hpasses
  obtain ⟨hopening, hmoments, hend⟩ := apart_unless_clash relinquished hdriven hsplit hfirst
  have hregister := hmoments [] k [k'] hasked (by simp)
  have hreload := hmoments [k] k' [] hasked fun j hj => hsecond j (by simp_all)
  obtain ⟨hop, hid⟩ := Prod.mk.inj hk
  obtain ⟨hop', hid'⟩ := Prod.mk.inj hk'
  rw [hop, hid] at hregister
  rw [hop', hid'] at hreload
  -- No group comes before the implicit default group.
  have hnone : ¬q.Clash 0 := fun ⟨g, _, _, _, _, hlt, _⟩ => Nat.not_lt_zero _ hlt
  exact ⟨p, q, k, k', hpasses, hasked, hk, hk', hopening, hregister.2 (.inr hnone), by simpa using hreload,
    (hend hsecond).2 (hover q (by simp))⟩

/-- At the reload the host serves two default groups, although no call has failed. -/
theorem relinquished_served_together : relinquished.Driven ∧
    (∀ p ∈ relinquished.passes, ∀ k ∈ p.asked, k.failed = false) ∧
    ∃ p ∈ relinquished.passes, ∃ k ∈ p.asked, ¬k.site.host.memory.Apart := by
  obtain ⟨hok, p, hp, k, hk, hserved⟩ :
      (∀ p ∈ relinquished.passes, ∀ k ∈ p.asked, k.failed = false) ∧
      ∃ p ∈ relinquished.passes, ∃ k ∈ p.asked,
        (k.site.host.memory.mounted.get? 0).any (fun s => s.group.isDefault) = true ∧
          (k.site.host.memory.mounted.get? 3).any (fun s => s.group.isDefault) = true := by decide +kernel
  refine ⟨⟨rfl, by decide +kernel⟩, hok, p, hp, k, hk, fun happart => ?_⟩
  rw [Option.any_eq_true, Option.any_eq_true] at hserved
  obtain ⟨⟨s, hs, hdefault⟩, s', hs', hdefault'⟩ := hserved
  exact (happart 0 3 s s' (by decide) hs hs').2 ⟨hdefault, hdefault'⟩

end History

end RouteBinding
