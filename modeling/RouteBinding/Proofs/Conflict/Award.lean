import RouteBinding.Proofs.Conflict.Path

/-!
# Paths are awarded

Where identities are unique, giving out paths splits the groups into those that keep their path and those that
lose it to one of them (`resolvePaths_awarded`).  A group keeps its path exactly if it outranks every other
group with this path, which has nothing to do with the order in which the groups are listed; and among groups
that keep their path nothing is in dispute.
-/

namespace RouteBinding

/-- A split of groups by their paths into those that keep their path and those that lose it. -/
structure PathsAwarded (groups kept lost : List Group) : Prop where
  /-- Every group keeps its path or loses it, and not both. -/
  split : (kept ++ lost).Perm groups
  keptOrder : kept.Sublist groups
  lostOrder : lost.Sublist groups
  /-- No two groups keep one path. -/
  distinct : (kept.map Group.path).Nodup
  /-- A group that keeps its path outranks every other group with this path. -/
  outranks : ∀ g ∈ kept, ∀ h ∈ groups, h ≠ g → h.path = g.path → g.Outranks h
  /-- A group that loses its path loses it to one that keeps it. -/
  outranked : ∀ h ∈ lost, ∃ g ∈ kept, g.path = h.path ∧ g.Outranks h
  /-- In another order the same groups keep their path. -/
  anyOrder : ∀ m, m.Perm groups → (resolvePaths m).1.Perm kept
  /-- The groups that keep their path keep it once more. -/
  settled : resolvePaths kept = (kept, [])

variable {groups : List Group} {g h : Group}

section Paths

variable (unique : (groups.map Group.id).Nodup)
include unique

/-- Where identities are unique, a group that keeps its path outranks every other group with this path. -/
theorem outranks_of_kept (hg : g ∈ (resolvePaths groups).1) (hh : h ∈ groups) (hne : h ≠ g)
    (hpath : h.path = g.path) : g.Outranks h := by
  obtain ⟨hmem, hfirst⟩ := (mem_kept_iff unique).1 hg
  have hid : g.id ≠ h.id := fun hid => hne (List.inj_on_of_nodup_map unique hmem hh hid).symm
  exact (Group.outranks_total hid).resolve_right (hfirst h hh hpath)

/-- Where identities are unique, a group that loses its path loses it to one that keeps it. -/
theorem outranked_of_lost (hh : h ∈ (resolvePaths groups).2) :
    ∃ g ∈ (resolvePaths groups).1, g.path = h.path ∧ g.Outranks h := by
  have hmem : h ∈ groups := (shadowed_sublist groups).subset hh
  -- Some group keeps the path, and it is not the one that loses it.
  obtain ⟨g, hg, hpath⟩ := exists_kept_path hmem
  have hne : h ≠ g := fun heq => (mem_shadowed_iff unique hmem).1 hh (heq ▸ hg)
  exact ⟨g, hg, hpath, outranks_of_kept unique hg hmem hne hpath.symm⟩

/-- Where identities are unique, the groups that keep their path do so in any order. -/
theorem kept_perm {m : List Group} (hperm : m.Perm groups) :
    (resolvePaths m).1.Perm (resolvePaths groups).1 := by
  have uniquem : (m.map Group.id).Nodup := (hperm.map _).nodup_iff.2 unique
  have hnodup : ∀ {l : List Group}, (l.map Group.id).Nodup → (resolvePaths l).1.Nodup := fun hl =>
    (List.Nodup.of_map _ hl).sublist (kept_sublist _)
  rw [List.perm_ext_iff_of_nodup (hnodup uniquem) (hnodup unique)]
  intro g
  simp only [mem_kept_iff uniquem, mem_kept_iff unique, hperm.mem_iff]

/-- Where identities are unique, every path goes to the group that outranks all others with this path. -/
theorem resolvePaths_awarded :
    PathsAwarded groups (resolvePaths groups).1 (resolvePaths groups).2 where
  split := resolvePaths_perm groups
  keptOrder := kept_sublist groups
  lostOrder := shadowed_sublist groups
  distinct := nodup_kept_paths groups
  outranks _ hg _ hh hne hpath := outranks_of_kept unique hg hh hne hpath
  outranked _ hh := outranked_of_lost unique hh
  anyOrder _ hperm := kept_perm unique hperm
  settled := resolvePaths_of_nodup (nodup_kept_paths groups)

end Paths

/-- Groups with three paths: a tie of rank, a lower rank with a lower identity, and the implicit default group
in front of a group of the lowest rank. -/
def contested : List Group :=
  let group (id : ServiceId) (path : String) (rank : Int64) : Group := .ofProperties id 0 (.shared 1 .plain)
    (.ofList [(Property.Key.routeGroup, .flag true), (Property.Key.path, .text path),
      (Property.Key.rank, .number rank)])
  [.implicitDefault "/" (.shared 0 .plain), group 3 "/a" 5, group 1 "/a" 0, group 4 "/" (.ofInt Text.minInt32),
    group 2 "/a" 5, group 5 "/b" 0]

theorem contested_awarded : (contested.map Group.id).Nodup ∧
    (resolvePaths contested).1.map Group.id = [4, 2, 5] ∧
    (resolvePaths contested).2.map Group.id = [0, 3, 1] ∧
    PathsAwarded contested (resolvePaths contested).1 (resolvePaths contested).2 :=
  ⟨by decide +kernel, by decide +kernel, by decide +kernel, resolvePaths_awarded (by decide +kernel)⟩

end RouteBinding
