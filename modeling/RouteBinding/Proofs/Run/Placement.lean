import RouteBinding.Proofs.Pass.Naming
import RouteBinding.Proofs.Run.Asked

/-!
# What is served has its own path and name

A pass reads providers that were registered, each under its own identity, so what it decides gives no path and
no name out twice.  Where none of its calls has failed, the host serves what it has decided
(`Site.Serves.values_perm`), so that the groups that are published as active repeat neither a path nor a name
either (`History.placed_uniquely`).
-/

namespace RouteBinding

open Property

/-- The names that are listed for an active group: its own, and those of what is attached to it. -/
def ActiveGroup.listed (a : ActiveGroup) : List String := a.name :: (a.interceptors ++ a.handlers)

/-- What is listed for a group are the names of its providers. -/
theorem Group.listed_subset (g : Group) : g.summary.listed ⊆ g.cast.map Provider.name := by
  intro name hname
  rcases List.mem_cons.1 hname with rfl | hattached
  · exact List.mem_cons_self ..
  · have hcontent : ∃ c ∈ g.attached, c.name = name := by
      rcases List.mem_append.1 hattached with hin | hin
      all_goals
        obtain ⟨c, hc, rfl⟩ := List.mem_map.1 hin
        exact ⟨c, List.mem_of_mem_filter hc, rfl⟩
    obtain ⟨c, hc, rfl⟩ := hcontent
    exact List.mem_cons_of_mem _ (List.mem_map_of_mem (List.mem_map_of_mem hc))

section

variable [Route.Routing]

/-- Where a plan is done, the registered groups are the planned ones. -/
theorem Site.Serves.values_perm {s : Site} {plan : List Group} (h : s.Serves plan plan)
    (hnodup : (plan.map Group.id).Nodup) : s.registered.values.Perm (plan.map Group.settled) := by
  have hplanned : ∀ id g, s.registered.get? id = some g → ∃ g' ∈ plan, g'.id = id ∧ g = g'.settled := by
    intro id g hg
    have hid : id ∈ plan.map Group.id := by
      refine Decidable.byContradiction fun hnot => ?_
      rw [h.only id hnot] at hg
      cases hg
    obtain ⟨g', hg', rfl⟩ := List.mem_map.1 hid
    rw [h.done g' hg'] at hg
    exact ⟨g', hg', rfl, (Option.some.inj hg).symm⟩
  have hkeys : s.registered.values.map Group.id = s.registered.keys := by
    refine Table.map_values_eq_keys fun id g hg => ?_
    obtain ⟨g', -, hid, rfl⟩ := hplanned id g hg
    exact hid
  have hvalues : s.registered.values.Nodup := by
    apply List.Nodup.of_map Group.id
    rw [hkeys]
    exact (Table.pairwise_keys _).imp fun hlt => Nat.ne_of_lt hlt
  have hsettled : (plan.map Group.settled).Nodup := by
    apply List.Nodup.of_map Group.id
    rw [List.map_map]
    exact hnodup
  apply (List.perm_ext_iff_of_nodup hvalues hsettled).2
  intro g
  rw [Table.mem_values, List.mem_map]
  constructor
  · rintro ⟨id, hg⟩
    obtain ⟨g', hg', -, rfl⟩ := hplanned id g hg
    exact ⟨g', hg', rfl⟩
  · rintro ⟨g', hg', rfl⟩
    exact ⟨g'.id, h.done g' hg'⟩

namespace Dispatcher

/-- The providers that the host serves, once for each place. -/
def cast (d : Dispatcher) : List Provider := d.site.registered.values.flatMap Group.cast

/-- What is published as active repeats neither a path nor the name of a group, and every name that is listed
there belongs to one provider that the host serves. -/
structure ServesUniquely (d : Dispatcher) : Prop where
  active : d.active = d.site.registered.values.map Group.summary
  paths : (d.active.map ActiveGroup.path).Nodup
  names : (d.active.map ActiveGroup.name).Nodup
  owners : ∀ a ∈ d.active, ∀ name ∈ a.listed, ∃ p ∈ d.cast, p.name = name ∧
    ∀ q ∈ d.cast, q.name = name → q = p

/-- A dispatcher that has published what it serves, which is all that a pass has decided, lists no path and no
name twice. -/
theorem servesUniquely {d : Dispatcher} {r : Reading} (hr : r.intake.Registered)
    (hnodup : (r.plan.map Group.id).Nodup)
    (hactive : d.active = d.site.registered.values.map Group.summary)
    (hserves : d.site.Serves r.plan r.plan) : d.ServesUniquely := by
  have hperm : d.site.registered.values.Perm (r.plan.map Group.settled) := hserves.values_perm hnodup
  have hcast : ∀ p, p ∈ d.cast ↔ p ∈ r.placed := by
    intro p
    -- A group keeps its providers where it is settled.
    have hsame : (r.plan.map Group.settled).flatMap Group.cast = r.placed := List.flatMap_map ..
    rw [← hsame]
    exact (hperm.flatMap_right Group.cast).mem_iff
  constructor
  case active => exact hactive
  case paths =>
    have hpaths : (d.active.map ActiveGroup.path).Perm (r.plan.map Group.path) := by
      have hmapped := hperm.map Group.path
      rw [List.map_map] at hmapped
      rw [hactive, List.map_map]
      exact hmapped
    exact hpaths.nodup_iff.2 r.nodup_paths
  case names =>
    have hnames : (d.active.map ActiveGroup.name).Perm (r.plan.map Group.name) := by
      have hmapped := hperm.map Group.name
      rw [List.map_map] at hmapped
      rw [hactive, List.map_map]
      exact hmapped
    refine hnames.nodup_iff.2 (List.Nodup.map_on ?_ (hnodup.of_map _))
    intro g hg g' hg' hname
    have hprovider : g.provider = g'.provider :=
      Reading.eq_of_name hr _ (List.mem_flatMap.2 ⟨g, hg, List.mem_cons_self ..⟩) _
        (List.mem_flatMap.2 ⟨g', hg', List.mem_cons_self ..⟩) hname
    exact List.inj_on_of_nodup_map hnodup hg hg' (congrArg Provider.id hprovider)
  case owners =>
    intro a ha name hname
    rw [hactive] at ha
    obtain ⟨g, hg, rfl⟩ := List.mem_map.1 ha
    obtain ⟨p, hp, rfl⟩ := List.mem_map.1 (g.listed_subset hname)
    have hserved : p ∈ d.cast := List.mem_flatMap.2 ⟨g, hg, hp⟩
    refine ⟨p, hserved, rfl, fun q hq hsame => ?_⟩
    exact Reading.eq_of_name hr q ((hcast q).1 hq) p ((hcast p).1 hserved) hsame

end Dispatcher

namespace History

variable {settings : Settings} {content : Payload}

/-- A pass reads registered providers, each under its own identity. -/
theorem reads_registered (h : History settings content) {p : Pass} (hp : p ∈ h.passes) :
    p.reading.intake.Registered := by
  have hreached : h.chronicle.Reached True h.start := (h.chronicle_reached fun _ _ => .inr trivial).2
  obtain ⟨-, last, hmoves⟩ := hreached.openings p (List.mem_reverse.1 hp)
  have hsound : p.opening.registry.Sound := (h.steady_of_moves hmoves).sound
  have hread := (h.standing_at hp).1.wellFormed
  constructor
  case groups =>
    intro g hg
    obtain ⟨id, revision, payload, props, -, -, rfl⟩ := hsound.groups.of_mem_values hg
    exact ⟨id, revision, payload, props, rfl⟩
  case handlers =>
    intro c hc
    obtain ⟨id, revision, payload, props, -, -, rfl⟩ := hsound.handlers.of_mem_values hc
    exact ⟨id, revision, payload, props, rfl⟩
  case interceptors =>
    intro c hc
    obtain ⟨id, revision, payload, props, -, -, rfl⟩ := hsound.interceptors.of_mem_values hc
    exact ⟨id, revision, payload, props, rfl⟩
  case implicit => exact hread.implicit
  case unique => exact hread.unique_entrants

/-- A pass that reads registered providers decides on groups with different paths, and places providers with
different names.  So it does in every history, and where none of its calls has failed what it publishes as active
repeats neither. -/
theorem placed_uniquely :
    (∀ r : Reading, r.intake.Registered → (r.plan.map Group.path).Nodup ∧
      ∀ p ∈ r.placed, ∀ q ∈ r.placed, p.name = q.name → p = q) ∧
    ∀ {settings : Settings} {content : Payload} (h : History settings content), ∀ p ∈ h.passes,
      p.reading.intake.Registered ∧
        (p.standing.running = none → p.standing.lastReport.failedCalls = 0 →
          p.standing.ServesUniquely) := by
  refine ⟨fun r hr => ⟨r.nodup_paths, Reading.eq_of_name hr⟩, fun h p hp => ?_⟩
  have hregistered := h.reads_registered hp
  obtain ⟨htaken, hat, hpublished⟩ := h.standing_at hp
  refine ⟨hregistered, fun hover hnone => ?_⟩
  exact Dispatcher.servesUniquely hregistered (Reading.nodup_plan htaken.wellFormed) (hpublished hover)
    ((hat.ended hover).2 hnone)

end History

end

namespace History

/-- Two groups have one path, a group and a handler have the name of another group, and a handler has the name
that is generated for a group; all are registered in one batch with a group and a handler without names. -/
def crowded : History {} (.shared 0 .plain) where
  host := {}
  pool := {}
  actions :=
    let group (entries : List (String × Value)) : Map := .ofList ((Key.routeGroup, .flag true) :: entries)
    let handler (entries : List (String × Value)) : Map :=
      .ofList ([(Key.routeHandler, .flag true), (Key.select, .text "(path=*)")] ++ entries)
    [.openBatch, .upsert .group (.shared 0 .plain) (group [(Key.path, .text "/a")]),
      .upsert .group (.shared 1 .plain) (group [(Key.path, .text "a/")]),
      .upsert .group (.shared 2 .plain) (group [(Key.path, .text "/b"), (Key.name, .text "api")]),
      .upsert .group (.shared 3 .plain) (group [(Key.path, .text "/c"), (Key.name, .text "api")]),
      .upsert .handler (.shared 4 .plain) (handler [(Key.name, .text "api")]),
      .upsert .handler (.shared 5 .plain) (handler []),
      .upsert .handler (.shared 6 .plain) (handler [(Key.name, .text ".generated.group.1")]), .endBatch]

/-- Its only pass places three of the seven providers, and the implicit default group. -/
theorem crowded_placed_uniquely : ∃ p : Pass, crowded.passes = [p] ∧ p.reading.intake.Registered ∧
    p.reading.intake.roster.providers.length = 7 ∧
      p.reading.placed.map Provider.name = [".default", ".generated.handler.6", ".generated.group.1",
        ".generated.handler.6", "api", ".generated.handler.6"] ∧
      p.standing.active.map (fun a => (a.name, a.path, a.handlers)) =
        [(".default", "/", [".generated.handler.6"]), (".generated.group.1", "/a", [".generated.handler.6"]),
          ("api", "/b", [".generated.handler.6"])] ∧
      (p.reading.plan.map Group.path).Nodup ∧
      (∀ q ∈ p.reading.placed, ∀ q' ∈ p.reading.placed, q.name = q'.name → q = q') ∧
      p.standing.ServesUniquely := by
  have hone : crowded.passes.length = 1 := by decide +kernel
  obtain ⟨p, hp⟩ := List.length_eq_one_iff.1 hone
  have hpass : p = crowded.passes.headD default := by rw [hp]; rfl
  obtain ⟨hcount, hplaced, hactive, hover, hnone⟩ :
      (crowded.passes.headD default).reading.intake.roster.providers.length = 7 ∧
        (crowded.passes.headD default).reading.placed.map Provider.name = [".default",
          ".generated.handler.6", ".generated.group.1", ".generated.handler.6", "api",
          ".generated.handler.6"] ∧
        (crowded.passes.headD default).standing.active.map (fun a => (a.name, a.path, a.handlers)) =
          [(".default", "/", [".generated.handler.6"]),
            (".generated.group.1", "/a", [".generated.handler.6"]),
            ("api", "/b", [".generated.handler.6"])] ∧
        (crowded.passes.headD default).standing.running = none ∧
        (crowded.passes.headD default).standing.lastReport.failedCalls = 0 := by
    decide +kernel
  rw [← hpass] at hcount hplaced hactive hover hnone
  obtain ⟨hall, hruns⟩ := placed_uniquely
  obtain ⟨hregistered, hunique⟩ := hruns crowded p (hp ▸ List.mem_singleton_self p)
  obtain ⟨hpaths, hnames⟩ := hall p.reading hregistered
  exact ⟨p, hp, hregistered, hcount, hplaced, hactive, hpaths, hnames, hunique hover hnone⟩

end History

end RouteBinding
