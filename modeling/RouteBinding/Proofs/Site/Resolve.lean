import RouteBinding.Host.Memory
import RouteBinding.Proofs.Pass.Unrevised

/-!
# A host does not look at revisions

How a group is made ready and where a request lands depend on the names, the paths and the templates alone. 
Two hosts that serve the same groups but for their revisions send every request to the same place
(`Host.Memory.resolve_congr`).
-/

namespace RouteBinding.Host

theorem unrevised_handlers (g : Group) : g.unrevised.handlers = g.handlers.map Content.unrevised := by
  show (g.attached.map Content.unrevised).filter _ = _
  rw [List.filter_map]
  rfl

variable [Route.Routing]

/-- A group as a host serves it, without revisions. -/
def Mounted.unrevised (m : Mounted) : Mounted := { m with group := m.group.unrevised }

theorem unrevised_addRoutes (name : String) (router : Route.Routing.Router) (l : List Content) :
    addRoutes name router (l.map Content.unrevised) = addRoutes name router l := by
  induction l generalizing router with
  | nil => rfl
  | cons c rest ih =>
      have htemplate : templateOf c.unrevised = templateOf c := rfl
      have hname : c.unrevised.name = c.name := rfl
      simp only [List.map_cons, addRoutes, htemplate, hname, ih]

/-- Making a group ready does not look at revisions. -/
theorem unrevised_mount {g : Group} {m : Mounted} (h : mount g = .ok m) :
    mount g.unrevised = .ok m.unrevised := by
  unfold mount at h ⊢
  rw [unrevised_handlers, unrevised_addRoutes, show g.unrevised.name = g.name from rfl]
  cases hroutes : addRoutes g.name Route.Routing.empty g.handlers with
  | error e =>
      rw [hroutes] at h
      cases h
  | ok router =>
      rw [hroutes] at h
      rw [← Except.ok.inj h]
      rfl

namespace Memory

theorem covering_map (l : List Mounted) (request : String) :
    (l.map Mounted.unrevised).filterMap
        (fun s => (below? s.group.path.toList request.toList).map fun rest => (s, rest)) =
      (l.filterMap fun s =>
        (below? s.group.path.toList request.toList).map fun rest => (s, rest)).map
          (Prod.map Mounted.unrevised id) := by
  rw [List.filterMap_map, List.map_filterMap]
  refine List.filterMap_congr fun s _ => ?_
  show (below? s.group.path.toList request.toList).map _ = _
  rw [Option.map_map]
  rfl

theorem longest_map (l : List (Mounted × List Char)) :
    longest (l.map (Prod.map Mounted.unrevised id)) =
      (longest l).map (Prod.map Mounted.unrevised id) := by
  induction l with
  | nil => rfl
  | cons c rest ih =>
      rw [List.map_cons, longest, ih, longest]
      cases longest rest with
      | none => rfl
      | some b =>
          -- The longer path wins, and paths have no revisions.
          by_cases hshorter : b.1.group.path.utf8ByteSize < c.1.group.path.utf8ByteSize
          · have herased : (Prod.map Mounted.unrevised id b).1.group.path.utf8ByteSize <
                (Prod.map Mounted.unrevised id c).1.group.path.utf8ByteSize := hshorter
            simp only [Option.map_some, herased, hshorter, if_true]
          · have herased : ¬(Prod.map Mounted.unrevised id b).1.group.path.utf8ByteSize <
                (Prod.map Mounted.unrevised id c).1.group.path.utf8ByteSize := hshorter
            simp only [Option.map_some, herased, hshorter, if_false]

/-- Where a request lands does not depend on revisions. -/
theorem unrevised_resolve (m : Memory) (request : String) :
    ({ m with mounted := m.mounted.map Mounted.unrevised } : Memory).resolve request =
      m.resolve request := by
  have hcovering : ({ m with mounted := m.mounted.map Mounted.unrevised } : Memory).covering request =
      (m.covering request).map (Prod.map Mounted.unrevised id) := by
    unfold covering
    rw [Table.values_map]
    exact covering_map _ _
  unfold resolve
  rw [hcovering, longest_map, Option.map_map]
  rfl

/-- Hosts that serve the same groups but for their revisions send every request to the same place. -/
theorem resolve_congr {m n : Memory}
    (h : m.mounted.map Mounted.unrevised = n.mounted.map Mounted.unrevised) (request : String) :
    m.resolve request = n.resolve request := by
  rw [← unrevised_resolve m, ← unrevised_resolve n, h]
  rfl

end Memory

end RouteBinding.Host
