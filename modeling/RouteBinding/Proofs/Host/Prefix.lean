import RouteBinding.Proofs.Host.Operation
import Mathlib.Data.List.Nodup

/-!
# The longest prefix decides

Whatever operations a host has gone through, each group that it serves stands under its own identity and was made
ready from its own handlers (`Memory.InPlace`), and the groups alone decide what the host is (`InPlace.ext`).  Where
their paths are pairwise different, a request that is covered at all is covered by one group with the longest path,
and that group answers for what is left, with none but its own handlers (`Memory.SendsByPrefix`).
-/

namespace RouteBinding.Host

open Property

section

variable [Route.Routing]

namespace Mounted

variable {g : Group} {s : Mounted}

theorem answer_group (s : Mounted) (rest : String) : (s.answer rest).group = s.group.name := by
  unfold answer
  split <;> rfl

/-- The handler that a group answers with is one of its own, for the router finds nothing else. -/
theorem exists_declaresRoute_of_answer (h : Ready g s) {rest name : String} (hname : (s.answer rest).handler = some name) :
    ∃ c ∈ g.attached, c.name = name ∧ ∃ template, DeclaresRoute c template := by
  obtain ⟨routes, hroutes, htakes⟩ := h.routes
  unfold answer at hname
  split at hname
  · next target hfind =>
    obtain ⟨template, hroute⟩ := Route.Routing.found htakes hfind
    obtain ⟨c, hc, hsame, hdeclares⟩ := hroutes.exists_declaresRoute hroute
    exact ⟨c, hc, hsame.trans (Option.some.inj hname), template, hdeclares⟩
  · cases hname

end Mounted

namespace Memory

variable {m m' : Memory} {g : Group} {id : ServiceId} {s : Mounted} {request : String}

/-- Every entry stands under the identity of its group, which was made ready as it is. -/
def InPlace (m : Memory) : Prop := ∀ id s, m.mounted.get? id = some s → s.group.id = id ∧ mount s.group = .ok s

/-- The host that operations leave behind one after the other, those that fail among them. -/
def after (m : Memory) (ops : List (Operation × Group)) : Memory :=
  ops.foldl (fun m call => (m.attempt call.1 call.2).2) m

/-- What one operation leaves behind is in place if what it found was. -/
theorem InPlace.attempt (h : m.InPlace) (op : Operation) (g : Group) : (m.attempt op g).2.InPlace := by
  intro id s hs
  by_cases hid : id = g.id
  · subst hid
    rcases attempt_cases m op g with hsame | hok
    · rw [hsame] at hs
      exact h _ s hs
    · by_cases hop : op = .unregister
      · subst hop
        rw [(m.allOrNothing g).withdrawn (attempt_eq_ok_iff.2 hok)] at hs
        cases hs
      · obtain ⟨s', hready, hs'⟩ := (m.allOrNothing g).served op hop (attempt_eq_ok_iff.2 hok)
        obtain rfl : s' = s := Option.some.inj (hs'.symm.trans hs)
        rw [hready.group]
        exact ⟨rfl, mount_eq_ok_iff.2 hready⟩
  · rw [(m.allOrNothing g).others op id hid] at hs
    exact h id s hs

/-- Whatever operations a host goes through, it stays in place. -/
theorem InPlace.after (h : m.InPlace) (ops : List (Operation × Group)) : (m.after ops).InPlace := by
  induction ops generalizing m with
  | nil => exact h
  | cons call rest ih => exact ih (h.attempt call.1 call.2)

theorem inPlace_empty (props : Map) : ({ properties := props } : Memory).InPlace := by
  intro id s hs
  cases hs

/-- A group is served if it stands under its identity, ready to be served. -/
theorem InPlace.mem_groups_iff (h : m.InPlace) :
    g ∈ m.groups ↔ ∃ s, mount g = .ok s ∧ m.mounted.get? g.id = some s := by
  rw [groups, List.mem_map]
  constructor
  · rintro ⟨s, hs, rfl⟩
    obtain ⟨id, hget⟩ := Table.mem_values.1 hs
    obtain ⟨rfl, hmount⟩ := h id s hget
    exact ⟨s, hmount, hget⟩
  · rintro ⟨s, hmount, hget⟩
    exact ⟨s, Table.mem_values.2 ⟨g.id, hget⟩, group_of_mount hmount⟩

/-- What is served under an identity is one of the groups. -/
theorem InPlace.group_mem (h : m.InPlace) (hget : m.mounted.get? id = some s) : s.group ∈ m.groups := by
  obtain ⟨rfl, hmount⟩ := h id s hget
  exact h.mem_groups_iff.2 ⟨s, hmount, hget⟩

/-- Hosts in place that serve the same groups have the same entries. -/
theorem InPlace.ext (h : m.InPlace) (h' : m'.InPlace) (hgroups : ∀ g, g ∈ m.groups ↔ g ∈ m'.groups) :
    m.mounted = m'.mounted := by
  have hsub : ∀ {n n' : Memory}, n.InPlace → n'.InPlace → (∀ g, g ∈ n.groups → g ∈ n'.groups) →
      ∀ id s, n.mounted.get? id = some s → n'.mounted.get? id = some s := by
    intro n n' hn hn' hle id s hget
    obtain ⟨s', hmount', hget'⟩ := hn'.mem_groups_iff.1 (hle _ (hn.group_mem hget))
    obtain ⟨rfl, hmount⟩ := hn id s hget
    obtain rfl : s' = s := Except.ok.inj (hmount'.symm.trans hmount)
    exact hget'
  refine Table.ext_get? fun id => Option.ext fun s => ⟨?_, ?_⟩
  · exact hsub h h' (fun g => (hgroups g).1) id s
  · exact hsub h' h (fun g => (hgroups g).2) id s

/-- A group that is served covers a request, and none of the others that do has a longer path. -/
structure IsLongest (m : Memory) (request : String) (g : Group) : Prop where
  mem : g ∈ m.groups
  covers : Covers g.path request
  longest : ∀ g' ∈ m.groups, Covers g'.path request → g'.path.utf8ByteSize ≤ g.path.utf8ByteSize

/-- A request goes to the group with the longest path that covers it. -/
structure SendsByPrefix (m : Memory) (request : String) : Prop where
  /-- It lands nowhere exactly if no path covers it. -/
  none_iff : m.resolve request = none ↔ ∀ g ∈ m.groups, ¬Covers g.path request
  existsUnique : (∃ g ∈ m.groups, Covers g.path request) → ∃! g, m.IsLongest request g
  /-- The group is asked, with the router of its own handlers, for what is left. -/
  answer : ∀ g, m.IsLongest request g → ∃ s rest, Ready g s ∧ IsRemainder g.path request rest ∧
    m.resolve request = some (s.answer rest)
  /-- It answers with its name and at most one handler, of those attached to it that declare a route. -/
  own : ∀ g found, m.IsLongest request g → m.resolve request = some found → found.group = g.name ∧
    ∀ name, found.handler = some name →
      ∃ c ∈ g.attached, c.name = name ∧ ∃ template, DeclaresRoute c template

/-- The owner of a request has the longest path. -/
theorem InPlace.isLongest_of_owns (h : m.InPlace) (howns : m.Owns request id s) :
    m.IsLongest request s.group where
  mem := h.group_mem howns.serves
  covers := howns.covers
  longest g' hg' hcovers := by
    obtain ⟨s', hmount, hget⟩ := h.mem_groups_iff.1 hg'
    rw [← group_of_mount hmount] at hcovers ⊢
    rcases howns.longest _ s' hget hcovers with hshorter | ⟨hsize, -⟩
    · exact hshorter.le
    · exact hsize.le

section Apart

variable (hpaths : (m.groups.map Group.path).Nodup)
include hpaths

/-- Two groups with the longest path have one path, and so are one group. -/
theorem IsLongest.unique {g' : Group} (h : m.IsLongest request g) (h' : m.IsLongest request g') : g = g' := by
  have hsize := Nat.le_antisymm (h'.longest g h.mem h.covers) (h.longest g' h'.mem h'.covers)
  exact List.inj_on_of_nodup_map hpaths h.mem h'.mem (h.covers.eq_of_size_eq h'.covers hsize)

/-- The group with the longest path is the owner of a request. -/
theorem InPlace.owns_of_isLongest (h : m.InPlace) (hlongest : m.IsLongest request g) (hmount : mount g = .ok s) :
    m.Owns request g.id s := by
  obtain ⟨s', hmount', hget⟩ := h.mem_groups_iff.1 hlongest.mem
  obtain rfl : s' = s := Except.ok.inj (hmount'.symm.trans hmount)
  have hgroup := group_of_mount hmount
  refine ⟨hget, hgroup ▸ hlongest.covers, fun j t hj hcovers => ?_⟩
  rw [hgroup]
  rcases Nat.lt_or_eq_of_le (hlongest.longest t.group (h.group_mem hj) hcovers) with hshorter | hsize
  · exact .inl hshorter
  · -- A path as long is the same path, so this is the group itself.
    have hsame : t.group = g := List.inj_on_of_nodup_map hpaths (h.group_mem hj) hlongest.mem
      (hcovers.eq_of_size_eq hlongest.covers hsize)
    exact .inr ⟨hsize, by rw [← hsame, (h j t hj).1]⟩

/-- The group with the longest path answers for what is left of a request. -/
theorem InPlace.answer_of_isLongest (h : m.InPlace) (hlongest : m.IsLongest request g) :
    ∃ s rest, Ready g s ∧ IsRemainder g.path request rest ∧ m.resolve request = some (s.answer rest) := by
  obtain ⟨s, hmount, -⟩ := h.mem_groups_iff.1 hlongest.mem
  obtain ⟨rest, hrest⟩ := covers_iff.1 hlongest.covers
  refine ⟨s, rest, mount_eq_ok_iff.1 hmount, hrest, ?_⟩
  exact resolve_of_owns (h.owns_of_isLongest hpaths hlongest hmount) (group_of_mount hmount ▸ hrest)

theorem InPlace.sendsByPrefix (h : m.InPlace) (request : String) : m.SendsByPrefix request where
  none_iff := by
    rw [resolve_eq_none_iff]
    constructor
    · intro huncovered g hg hcovers
      obtain ⟨s, hmount, hget⟩ := h.mem_groups_iff.1 hg
      exact huncovered g.id s hget (group_of_mount hmount ▸ hcovers)
    · exact fun huncovered id s hget => huncovered s.group (h.group_mem hget)
  existsUnique := by
    rintro ⟨g, hg, hcovers⟩
    obtain ⟨s, hmount, hget⟩ := h.mem_groups_iff.1 hg
    obtain ⟨j, t, howns⟩ := exists_owns hget (group_of_mount hmount ▸ hcovers)
    have hlongest := h.isLongest_of_owns howns
    exact ⟨t.group, hlongest, fun g' hg' => hg'.unique hpaths hlongest⟩
  answer g hlongest := h.answer_of_isLongest hpaths hlongest
  own g found hlongest hfound := by
    obtain ⟨s, rest, hready, -, hanswer⟩ := h.answer_of_isLongest hpaths hlongest
    obtain rfl : s.answer rest = found := Option.some.inj (hanswer.symm.trans hfound)
    exact ⟨by rw [s.answer_group, hready.group], fun _ hname => Mounted.exists_declaresRoute_of_answer hready hname⟩

end Apart

/-- The host that operations make of an empty one. -/
def grown (props : Map) (ops : List (Operation × Group)) : Memory := ({ properties := props } : Memory).after ops

/-- Whatever a host has gone through, a request goes to the group with the longest path that covers it if the paths
of all groups differ; and hosts that have come to serve the same groups send it to the same place. -/
theorem longest_prefix_resolves {props : Map} {ops : List (Operation × Group)}
    (hpaths : ((grown props ops).groups.map Group.path).Nodup) (request : String) :
    (grown props ops).SendsByPrefix request ∧
      ∀ props' ops', (∀ g, g ∈ (grown props' ops').groups ↔ g ∈ (grown props ops).groups) →
        (grown props' ops').resolve request = (grown props ops).resolve request := by
  have hplace : ∀ props ops, (grown props ops).InPlace := fun props ops => (inPlace_empty props).after ops
  refine ⟨(hplace props ops).sendsByPrefix hpaths request, fun props' ops' hgroups => ?_⟩
  rw [resolve_eq, resolve_eq, (hplace props' ops').ext (hplace props ops) hgroups]

end Memory

end

namespace Memory

/-- A group below the root is reloaded with a route, and then in vain with two that exclude each other; another one
is never taken for the same reason, and a third one has its path for a while. -/
def nestedOperations : List (Operation × Group) :=
  [(.register, routed 2 "api" "/api" []), (.register, routed 1 "root" "/" ["x"]),
    (.register, routed 3 "new" "/api/new" ["/a", "a"]), (.reload, routed 2 "api" "/api" ["users/{id}"]),
    (.register, routed 4 "old" "/api" []), (.unregister, routed 4 "old" "/api" []),
    (.reload, routed 2 "api" "/api" ["{x}", "{y}"])]

theorem nested_longest_prefix_resolves :
    (grown ∅ nestedOperations).groups.map Group.path = ["/", "/api"] ∧
      ((grown ∅ nestedOperations).groups.map Group.path).Nodup ∧
      (grown ∅ nestedOperations).resolve "/api/users/7" =
        some ⟨"api", some ".generated.handler.10", [("id", "7")]⟩ ∧
      ((grown ∅ nestedOperations).resolve "/apix").map Resolved.group = some "root" ∧
      (grown ∅ nestedOperations).SendsByPrefix "/api/users/7" := by
  have hpaths : ((grown ∅ nestedOperations).groups.map Group.path).Nodup := by decide +kernel
  exact ⟨by decide +kernel, hpaths, by decide +kernel, by decide +kernel,
    (longest_prefix_resolves hpaths "/api/users/7").1⟩

end Memory

end RouteBinding.Host
