import RouteBinding.Proofs.Pass.Stages
import RouteBinding.Proofs.Registry.Sound
import RouteBinding.Proofs.Run.Move
import Mathlib.Logic.Function.Basic

/-!
# Revisions identify records

A revision is given out once, so what was registered under it can be written down for good (`Archive`). 
Whatever a dispatcher knows of a group, even of one that was removed long ago, is what the archive has under
its revision and the revisions of its content (`Archive.Covers`).  So groups with one fingerprint are one
group, and a host that serves a group under the fingerprint of another serves the other
(`Archive.Holds.settled_eq`).
-/

namespace RouteBinding

open Property

/-- A group without its content. -/
def Group.bare (g : Group) : Group := { g with attached := [], changed := false }

theorem Group.bare_ofProperties {id : ServiceId} {revision : Nat} {payload : Payload} {props : Map} :
    (ofProperties id revision payload props).bare = ofProperties id revision payload props := by
  unfold ofProperties bare
  rfl

/-- What was registered under each revision. -/
structure Archive where
  groups : Nat → Group
  content : Nat → Content

namespace Archive

variable {A : Archive} {bound : Nat}

/-- Content is what was registered under its revision. -/
structure HoldsContent (A : Archive) (bound : Nat) (c : Content) : Prop where
  /-- The revision was given out. -/
  revision : c.provider.revision < bound
  content : A.content c.provider.revision = c

/-- A group is what was registered under its revision, and so is its content. -/
structure Holds (A : Archive) (bound : Nat) (g : Group) : Prop where
  /-- The revision was given out. -/
  revision : g.provider.revision < bound
  bare : A.groups g.provider.revision = g.bare
  content : ∀ c ∈ g.attached, A.HoldsContent bound c

/-- Content is determined by the revisions in a fingerprint. -/
theorem attached_eq {l m : List Content} (hl : ∀ c ∈ l, A.HoldsContent bound c)
    (hm : ∀ c ∈ m, A.HoldsContent bound c)
    (h : l.map (fun c => (c.kind, c.id, c.provider.revision)) =
      m.map fun c => (c.kind, c.id, c.provider.revision)) : l = m := by
  have hrevisions : l.map (fun c => c.provider.revision) = m.map fun c => c.provider.revision := by
    have := congrArg (List.map fun e : Kind × ServiceId × Nat => e.2.2) h
    rwa [List.map_map, List.map_map] at this
  -- Each piece of content can be looked up under its revision.
  have hself : ∀ k : List Content, (∀ c ∈ k, A.HoldsContent bound c) →
      (k.map fun c => c.provider.revision).map A.content = k := by
    intro k hk
    rw [List.map_map]
    exact (List.map_congr_left fun c hc => (hk c hc).content).trans (List.map_id _)
  calc
    l = (l.map fun c => c.provider.revision).map A.content := (hself l hl).symm
    _ = (m.map fun c => c.provider.revision).map A.content := by rw [hrevisions]
    _ = m := hself m hm

/-- Groups with one fingerprint are one group. -/
theorem Holds.settled_eq {g g' : Group} (h : A.Holds bound g) (h' : A.Holds bound g')
    (hfingerprint : g.fingerprint = g'.fingerprint) : g.settled = g'.settled := by
  have hrevision : g.provider.revision = g'.provider.revision :=
    congrArg Fingerprint.revision hfingerprint
  have hbare : g.bare = g'.bare := by rw [← h.bare, ← h'.bare, hrevision]
  have hattached : g.attached = g'.attached :=
    attached_eq h.content h'.content (congrArg Fingerprint.content hfingerprint)
  calc
    g.settled = { g.bare with attached := g.attached } := rfl
    _ = { g'.bare with attached := g'.attached } := by rw [hbare, hattached]
    _ = g'.settled := rfl

/-- The archive with a new record under a revision. -/
def extend (A : Archive) (revision : Nat) (g : Group) (c : Content) : Archive :=
  ⟨Function.update A.groups revision g, Function.update A.content revision c⟩

theorem HoldsContent.extend {c : Content} (h : A.HoldsContent bound c) (g' : Group) (c' : Content) :
    (A.extend bound g' c').HoldsContent (bound + 1) c where
  revision := Nat.lt_succ_of_lt h.revision
  content := by
    show Function.update A.content bound c' c.provider.revision = c
    -- The new revision was not given out before.
    rw [Function.update_of_ne (Nat.ne_of_lt h.revision)]
    exact h.content

theorem Holds.extend {g : Group} (h : A.Holds bound g) (g' : Group) (c' : Content) :
    (A.extend bound g' c').Holds (bound + 1) g where
  revision := Nat.lt_succ_of_lt h.revision
  bare := by
    show Function.update A.groups bound g' g.provider.revision = g.bare
    rw [Function.update_of_ne (Nat.ne_of_lt h.revision)]
    exact h.bare
  content := fun c hc => (h.content c hc).extend g' c'

theorem extend_holds {id : ServiceId} {payload : Payload} {props : Map} (c : Content) :
    (A.extend bound (.ofProperties id bound payload props) c).Holds (bound + 1)
      (.ofProperties id bound payload props) where
  revision := Nat.lt_succ_self bound
  bare := by
    rw [Group.bare_ofProperties]
    exact Function.update_self bound _ A.groups
  content := by
    intro c hc
    cases hc

theorem extend_holdsContent {kind : Kind} {id : ServiceId} {payload : Payload} {props : Map} (g : Group) :
    (A.extend bound g (.ofProperties kind id bound payload props)).HoldsContent (bound + 1)
      (.ofProperties kind id bound payload props) where
  revision := Nat.lt_succ_self bound
  content := Function.update_self ..

theorem Holds.settled {g : Group} (h : A.Holds bound g) : A.Holds bound g.settled :=
  ⟨h.revision, h.bare, h.content⟩

end Archive

variable [Route.Routing]

namespace Archive

variable {A : Archive} {bound : Nat}

/-- The archive has the registered groups, which are remembered as settled. -/
def Remembers (A : Archive) (bound : Nat) (s : Site) : Prop :=
  ∀ id g, s.registered.get? id = some g → A.Holds bound g ∧ g.settled = g

/-- A call that brings to the host what the archive has leaves only such groups registered. -/
theorem Remembers.call {plan : List Group} {s t : Site} (h : A.Remembers bound s)
    (hplan : ∀ g ∈ plan, A.Holds bound g) (hcall : Site.Call plan s t) : A.Remembers bound t := by
  intro id g hg
  cases hcall with
  | still k =>
      rw [k.registered] at hg
      exact h id g hg
  | withdrawn id' g' k =>
      rw [k.registered, Table.get?_erase] at hg
      by_cases heq : id = id'
      · rw [if_pos heq] at hg
        cases hg
      · rw [if_neg heq] at hg
        exact h id g hg
  | served g' m hmem k =>
      rw [k.registered, Table.get?_insert] at hg
      by_cases heq : id = g'.id
      · rw [if_pos heq] at hg
        rw [← Option.some.inj hg]
        exact ⟨(hplan g' hmem).settled, rfl⟩
      · rw [if_neg heq] at hg
        exact h id g hg

theorem Remembers.calls {plan : List Group} {s t : Site} (h : A.Remembers bound s)
    (hplan : ∀ g ∈ plan, A.Holds bound g) (hcalls : Site.Calls plan s t) : A.Remembers bound t := by
  induction hcalls with
  | refl => exact h
  | tail _ hcall ih => exact ih.call hplan hcall

/-- The archive has all that a dispatcher knows of groups and their content. -/
structure Covers (A : Archive) (d : Dispatcher) : Prop where
  groups : ∀ g ∈ d.registry.live.groups, A.Holds d.registry.nextRevision g
  content : ∀ k, ∀ c ∈ d.registry.live.content k, A.HoldsContent d.registry.nextRevision c
  implicit : ∀ g ∈ d.implicit, A.Holds d.registry.nextRevision g
  registered : A.Remembers d.registry.nextRevision d.site
  /-- It has the groups that a pass that is held has yet to bring to the host. -/
  left : ∀ r, d.running = some r → ∀ g ∈ r.left, A.Holds d.registry.nextRevision g

end Archive

namespace Dispatcher

/-- What is left of a pass is among what it had to bring to the host. -/
theorem goOn_left {d : Dispatcher} {r r' : Running} (hheld : (d.goOn r).running = some r') :
    r'.left = (d.site.advance r.left).2 ∧ r'.failures = r.failures := by
  unfold goOn at hheld
  dsimp only at hheld
  split at hheld
  · cases hheld
  · exact Option.some.inj hheld ▸ ⟨rfl, rfl⟩

theorem advance_suffix (s : Site) (plan : List Group) : (s.advance plan).2 <:+ plan := by
  induction plan generalizing s with
  | nil => exact List.suffix_refl []
  | cons g rest ih =>
      rw [Site.advance_cons]
      cases s.operationFor g with
      | none => exact (ih s).trans (List.suffix_cons g rest)
      | some op =>
          dsimp only
          split
          · exact List.suffix_refl _
          · exact (ih _).trans (List.suffix_cons g rest)

end Dispatcher

namespace Archive

namespace Covers

variable {A : Archive} {d : Dispatcher}

/-- The archive has every group that the next pass plans. -/
theorem plan (h : A.Covers d) : ∀ g ∈ d.reading.plan, A.Holds d.registry.nextRevision g := by
  intro g hg
  -- A planned group is a live one or the implicit one, with live content.
  obtain ⟨g₀, hserved, rfl⟩ := d.reading.mem_plan_iff.1 hg
  have hentrant := Reading.contest_within.groups.subset (d.reading.mem_served_iff.1 hserved).1
  have hholds : A.Holds d.registry.nextRevision g₀ := by
    rcases List.mem_append.1 hentrant with hlive | himplicit
    · exact h.groups g₀ hlive
    · exact h.implicit g₀ (Option.mem_toList.1 himplicit)
  refine ⟨hholds.revision, hholds.bare, fun c hc => ?_⟩
  rcases List.mem_append.1 hc with hkept | hmanned
  · exact h.content .interceptor c ((Reading.kept_sublist g₀).subset hkept)
  · exact h.content .handler c ((Reading.manned_sublist g₀).subset hmanned)

/-- A pass that goes on brings to the host only what the archive has. -/
theorem goOn {r : Running} (h : A.Covers d) (hleft : ∀ g ∈ r.left, A.Holds d.registry.nextRevision g) :
    A.Covers (d.goOn r) := by
  have hregistry := Dispatcher.goOn_registry d r
  have himplicit := Dispatcher.goOn_implicit d r
  refine ⟨?_, ?_, ?_, ?_, ?_⟩
  · rw [hregistry]
    exact h.groups
  · rw [hregistry]
    exact h.content
  · rw [hregistry, himplicit]
    exact h.implicit
  · rw [hregistry]
    exact h.registered.calls hleft (Dispatcher.goOn_calls d r)
  · rw [hregistry]
    intro r' hheld g hg
    rw [(Dispatcher.goOn_left hheld).1] at hg
    exact hleft g ((Dispatcher.advance_suffix _ _).subset hg)

theorem decided (h : A.Covers d) : A.Covers d.decided where
  groups := h.groups
  content := h.content
  implicit := h.implicit
  registered := by
    refine h.registered.calls ?_ (d.cleared_calls d.reading)
    intro g hg
    cases hg
  left := h.left

theorem unheld {r : Running} {g : Group} {rest : List Group} (h : A.Covers d)
    (hheld : d.running = some r) (hleft : r.left = g :: rest) : A.Covers (d.unheld g) where
  groups := h.groups
  content := h.content
  implicit := h.implicit
  registered := by
    have hsettled : Site.Call r.left d.site (d.unheld g).site :=
      Site.settle_call d.site (by decide) (hleft ▸ List.mem_cons_self ..)
    exact h.registered.call (h.left r hheld) hsettled
  left := by
    intro r' hnone
    cases hnone

theorem startPass (h : A.Covers d) : A.Covers d.startPass := by
  rw [Dispatcher.startPass_eq]
  exact h.decided.goOn h.plan

theorem resume {r : Running} (h : A.Covers d) (hheld : d.running = some r) : A.Covers (d.resume r) := by
  cases hleft : r.left with
  | nil =>
      rw [Dispatcher.resume_nil hleft]
      refine ⟨h.groups, h.content, h.implicit, h.registered, ?_⟩
      intro r' hnone
      cases hnone
  | cons g rest =>
      have hrest : ∀ g' ∈ rest, A.Holds d.registry.nextRevision g' := by
        intro g' hg'
        exact h.left r hheld g' (hleft ▸ List.mem_cons_of_mem g hg')
      rw [Dispatcher.resume_cons hleft]
      exact (h.unheld hheld hleft).goOn hrest

theorem upsert (h : A.Covers d) (kind : Kind) (payload : Payload) (props : Map) :
    ∃ A' : Archive, A'.Covers { d with registry := (d.registry.upsert kind payload props).2 } := by
  cases d.registry.upsert_grown kind payload props with
  | same live nextRevision =>
      refine ⟨A, ?_⟩
      constructor <;> dsimp only <;> rw [nextRevision]
      · rw [live]
        exact h.groups
      · rw [live]
        exact h.content
      · exact h.implicit
      · exact h.registered
      · exact h.left
  | one kind' id payload' props' nextRevision groups content =>
      -- The new record is written down as a group and as content; it is read as one of them only.
      refine ⟨A.extend d.registry.nextRevision
        (.ofProperties id d.registry.nextRevision payload' props')
        (.ofProperties kind' id d.registry.nextRevision payload' props'), ?_⟩
      constructor <;> dsimp only <;> rw [nextRevision]
      · intro g hg
        rcases groups g hg with hold | rfl
        · exact (h.groups g hold).extend _ _
        · exact extend_holds _
      · intro k c hc
        rcases content k c hc with hold | rfl
        · exact (h.content k c hold).extend _ _
        · exact extend_holdsContent _
      · intro g hg
        exact (h.implicit g hg).extend _ _
      · intro id' g hg
        exact ⟨(h.registered id' g hg).1.extend _ _, (h.registered id' g hg).2⟩
      · intro r hr g hg
        exact (h.left r hr g hg).extend _ _

theorem remove (h : A.Covers d) (kind : Kind) (id : ServiceId) :
    A.Covers { d with registry := (d.registry.remove kind id).2 } := by
  obtain ⟨hrevision, hgroups, hcontent⟩ := d.registry.remove_shrinks kind id
  constructor <;> dsimp only <;> rw [hrevision]
  · exact fun g hg => h.groups g (hgroups hg)
  · exact fun k c hc => h.content k c (hcontent k hc)
  · exact h.implicit
  · exact h.registered
  · exact h.left

end Covers

/-- Every move keeps an archive of all that the dispatcher knows. -/
theorem covers_move {shared : Prop} {t u : Tracked} (h : ∃ A : Archive, A.Covers t.state)
    (hmove : Move shared t u) : ∃ A : Archive, A.Covers u.state := by
  obtain ⟨A, h⟩ := h
  cases hmove with
  | aside k =>
      refine ⟨A, ?_⟩
      constructor <;> dsimp only <;> rw [k.registry]
      · exact h.groups
      · exact h.content
      · rw [k.implicit]
        exact h.implicit
      -- Nothing was brought to the host.
      · intro id g hg
        rw [k.registered] at hg
        exact h.registered id g hg
      · rw [k.running]
        exact h.left
  | registers d last kind payload props => exact h.upsert kind payload props
  | removes d last kind id => exact ⟨A, h.remove kind id⟩
  | begins d last hidle =>
      dsimp only at h ⊢
      exact ⟨A, h.startPass⟩
  | resumes d last r hheld =>
      dsimp only at h ⊢
      exact ⟨A, h.resume hheld⟩
  | interferes d last mounted hshared =>
      exact ⟨A, h.groups, h.content, h.implicit, h.registered, h.left⟩

end Archive

end RouteBinding
