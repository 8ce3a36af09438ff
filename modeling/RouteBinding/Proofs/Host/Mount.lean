import RouteBinding.Host.Recording
import RouteBinding.Proofs.Property.Spelling

/-!
# Making a group ready

The handlers of a group declare routes (`Host.Declares`), which go into an empty router in their order.  A group is
ready when the router has taken all of them (`Host.Ready`, `Host.mount_eq_ok_iff`), and it is not made ready if one of
them is refused there (`Host.Refused`, `Host.mount_eq_error_iff`).  To register or to reload a group is to make it
ready and to put it in its place, and to unregister it is to empty that place (`Host.Memory.apply_serve`,
`Host.Memory.apply_unregister`); there is no other way for an operation to fail than a place that is taken or empty
when it should not be (`Host.Memory.register_fails_iff` and the others).
-/

namespace RouteBinding.Host

open Property Route

/-! ### The routes that are declared -/

/-- The template of a route that is declared with a text: it starts with a slash, its own or one put in front. -/
inductive Rooted : String → String → Prop where
  | slashed {text : String} (h : text.toList.head? = some '/') : Rooted text text
  | bare {text : String} (h : text.toList.head? ≠ some '/') : Rooted text ("/" ++ text)

/-- Content declares a route: it is a handler with a text for one. -/
structure DeclaresRoute (c : Content) (template : String) : Prop where
  kind : c.kind = .handler
  text : ∃ text, c.provider.properties.get? Key.route = some (.text text) ∧ Rooted text template

/-- The routes that the handlers among some contents declare, in their order, each with the name of its handler. -/
inductive Declares : List Content → List (String × String) → Prop where
  | nil : Declares [] []
  | route {c : Content} {rest : List Content} {routes : List (String × String)} {template : String}
      (h : DeclaresRoute c template) (more : Declares rest routes) :
      Declares (c :: rest) ((template, c.name) :: routes)
  | skip {c : Content} {rest : List Content} {routes : List (String × String)}
      (h : ∀ template, ¬DeclaresRoute c template) (more : Declares rest routes) : Declares (c :: rest) routes

theorem rooted_iff {text template : String} : Rooted text template ↔ rooted text = template := by
  unfold rooted
  constructor
  · rintro (h | h)
    · exact if_pos h
    · exact if_neg h
  · rintro rfl
    split
    · next h => exact .slashed h
    · next h => exact .bare h

theorem declaresRoute_iff {c : Content} {template : String} :
    DeclaresRoute c template ↔ c.kind = .handler ∧ templateOf c = some template := by
  have htemplate : templateOf c = some template ↔
      ∃ text, c.provider.properties.get? Key.route = some (.text text) ∧ Rooted text template := by
    simp only [templateOf, Option.map_eq_some_iff, Map.text?_eq_some_iff, rooted_iff]
  rw [htemplate]
  exact ⟨fun h => ⟨h.kind, h.text⟩, fun h => ⟨h.1, h.2⟩⟩

theorem exists_declares (contents : List Content) : ∃ routes, Declares contents routes := by
  induction contents with
  | nil => exact ⟨[], .nil⟩
  | cons c rest ih =>
      obtain ⟨routes, hroutes⟩ := ih
      by_cases hroute : ∃ template, DeclaresRoute c template
      · obtain ⟨template, hroute⟩ := hroute
        exact ⟨_, .route hroute hroutes⟩
      · exact ⟨routes, .skip (not_exists.1 hroute) hroutes⟩

/-- Every route is declared by the handler that it leads to. -/
theorem Declares.exists_declaresRoute {contents : List Content} {routes : List (String × String)}
    (h : Declares contents routes) {template name : String} (hroute : (template, name) ∈ routes) :
    ∃ c ∈ contents, c.name = name ∧ DeclaresRoute c template := by
  induction h with
  | nil => cases hroute
  | @route c rest _ _ hdeclares _ ih =>
      rcases List.mem_cons.1 hroute with heq | hroute
      · obtain ⟨rfl, rfl⟩ := Prod.mk.inj heq
        exact ⟨c, List.mem_cons_self, rfl, hdeclares⟩
      · obtain ⟨d, hd, hroutes⟩ := ih hroute
        exact ⟨d, List.mem_cons_of_mem _ hd, hroutes⟩
  | @skip c rest _ _ _ ih =>
      obtain ⟨d, hd, hroutes⟩ := ih hroute
      exact ⟨d, List.mem_cons_of_mem _ hd, hroutes⟩

/-! ### The routes in a router -/

variable [Routing]

/-- A group is ready to be served: the routes that it declares have gone into an empty router. -/
structure Ready (g : Group) (s : Mounted) : Prop where
  group : s.group = g
  routes : ∃ routes, Declares g.attached routes ∧ Takes Routing.insert Routing.empty routes s.router

/-- The routes that a group declares do not all go into one router. -/
def Refused (g : Group) (template : String) (cause : Refusal) : Prop :=
  ∃ routes, Declares g.attached routes ∧ Refuses Routing.insert Routing.empty routes template cause

/-- The handlers among some contents. -/
def handlersOf (contents : List Content) : List Content := contents.filter fun c => c.kind == .handler

section

variable {group : String} {r r' : Routing.Router} {c : Content} {contents rest : List Content}
  {routes : List (String × String)}

/-- Content that declares no route is passed over. -/
theorem addRoutes_skip (h : ∀ template, ¬DeclaresRoute c template) :
    addRoutes group r (handlersOf (c :: rest)) = addRoutes group r (handlersOf rest) := by
  by_cases hkind : c.kind = .handler
  · have htemplate : templateOf c = none :=
      Option.eq_none_iff_forall_ne_some.2 fun template heq => h template (declaresRoute_iff.2 ⟨hkind, heq⟩)
    rw [handlersOf, List.filter_cons_of_pos (by simpa using hkind), addRoutes, htemplate]
    rfl
  · rw [handlersOf, List.filter_cons_of_neg (by simpa using hkind)]
    rfl

/-- A declared route is the next to go into the router. -/
theorem addRoutes_route {template : String} (h : DeclaresRoute c template) :
    addRoutes group r (handlersOf (c :: rest)) =
      match Routing.insert r template c.name with
      | .error e => .error (routeError group template e)
      | .ok taken => addRoutes group taken (handlersOf rest) := by
  obtain ⟨hkind, htemplate⟩ := declaresRoute_iff.1 h
  rw [handlersOf, List.filter_cons_of_pos (by simpa using hkind), addRoutes, htemplate]
  rfl

theorem Declares.addRoutes_eq_ok_iff (h : Declares contents routes) :
    addRoutes group r (handlersOf contents) = .ok r' ↔ Takes Routing.insert r routes r' := by
  induction h generalizing r with
  | nil => simp [handlersOf, addRoutes, takes_nil_iff]
  | @route c rest routes template hroute _ ih =>
      rw [addRoutes_route hroute, takes_cons_iff]
      cases Routing.insert r template c.name with
      | error e => simp
      | ok taken => simp [ih]
  | skip hnone _ ih => rw [addRoutes_skip hnone, ih]

/-- Adding routes fails with the error of the route that is not taken. -/
theorem Declares.addRoutes_eq_error_iff (h : Declares contents routes) {e : Error} :
    addRoutes group r (handlersOf contents) = .error e ↔
      ∃ template cause, Refuses Routing.insert r routes template cause ∧ e = routeError group template cause := by
  induction h generalizing r with
  | nil => simp [handlersOf, addRoutes, not_refuses_nil]
  | @route c rest routes template hroute _ ih =>
      rw [addRoutes_route hroute]
      simp only [refuses_cons_iff]
      cases Routing.insert r template c.name with
      | error cause => simp [eq_comm]
      | ok taken => simp [ih]
  | skip hnone _ ih => rw [addRoutes_skip hnone, ih]

end

theorem mount_eq_ok_iff {g : Group} {s : Mounted} : mount g = .ok s ↔ Ready g s := by
  obtain ⟨routes, hroutes⟩ := exists_declares g.attached
  constructor
  · intro h
    unfold mount at h
    split at h
    · cases h
    · next router hrouter =>
      cases h
      exact ⟨rfl, routes, hroutes, hroutes.addRoutes_eq_ok_iff.1 hrouter⟩
  · rintro ⟨rfl, routes, hroutes, htakes⟩
    have hrouter : addRoutes s.group.name Routing.empty s.group.handlers = .ok s.router :=
      hroutes.addRoutes_eq_ok_iff.2 htakes
    rw [mount, hrouter]

theorem mount_eq_error_iff {g : Group} {e : Error} : mount g = .error e ↔
    ∃ template cause, Refused g template cause ∧ e = routeError g.name template cause := by
  have hmount : mount g = .error e ↔ addRoutes g.name Routing.empty g.handlers = .error e := by
    rw [mount]
    cases addRoutes g.name Routing.empty g.handlers <;> simp
  rw [hmount]
  constructor
  · intro herror
    obtain ⟨routes, hroutes⟩ := exists_declares g.attached
    obtain ⟨template, cause, hrefuses, rfl⟩ := hroutes.addRoutes_eq_error_iff.1 herror
    exact ⟨template, cause, ⟨routes, hroutes, hrefuses⟩, rfl⟩
  · rintro ⟨template, cause, ⟨routes, hroutes, hrefuses⟩, rfl⟩
    exact hroutes.addRoutes_eq_error_iff.2 ⟨template, cause, hrefuses, rfl⟩

/-- A group is not made ready exactly if one of its routes is refused. -/
theorem mount_fails_iff {g : Group} : (∃ e, mount g = .error e) ↔ ∃ template cause, Refused g template cause := by
  simp only [mount_eq_error_iff]
  constructor
  · rintro ⟨_, template, cause, h, -⟩
    exact ⟨template, cause, h⟩
  · rintro ⟨template, cause, h⟩
    exact ⟨_, template, cause, h, rfl⟩

/-- A group that is ready to be served keeps its form. -/
theorem group_of_mount {g : Group} {s : Mounted} (h : mount g = .ok s) : s.group = g :=
  (mount_eq_ok_iff.1 h).group

namespace Memory

/-- The host that an operation makes of another, unless it fails. -/
def apply (m : Memory) (g : Group) : Operation → Except Error Memory
  | .register => m.register g
  | .reload => m.reload g
  | .unregister => m.unregister g

variable {m m' : Memory} {g : Group}

/-- Unregistering a group empties its place. -/
theorem apply_unregister (hok : m.apply g .unregister = .ok m') :
    m' = { m with mounted := m.mounted.erase g.id } := by
  rw [apply, unregister] at hok
  split at hok
  · exact (Except.ok.inj hok).symm
  · cases hok

/-- Bringing a group to the host makes it ready and puts it in its place. -/
theorem apply_serve {op : Operation} (hop : op ≠ .unregister) (hok : m.apply g op = .ok m') :
    ∃ s, mount g = .ok s ∧ m' = { m with mounted := m.mounted.insert g.id s } := by
  cases op with
  | unregister => exact absurd rfl hop
  | register =>
      rw [apply, register] at hok
      split at hok
      · cases hok
      · split at hok
        · cases hok
        · next s hmount => exact ⟨s, hmount, (Except.ok.inj hok).symm⟩
  | reload =>
      rw [apply, reload] at hok
      split at hok
      · split at hok
        · cases hok
        · next s hmount => exact ⟨s, hmount, (Except.ok.inj hok).symm⟩
      · cases hok

theorem register_fails_iff :
    (∃ e, m.register g = .error e) ↔ m.serves g.id = true ∨ ∃ template cause, Refused g template cause := by
  rw [← mount_fails_iff, register]
  split
  · next hserves => simp [hserves]
  · next hserves => cases mount g <;> simp [hserves]

theorem reload_fails_iff :
    (∃ e, m.reload g = .error e) ↔ m.serves g.id = false ∨ ∃ template cause, Refused g template cause := by
  rw [← mount_fails_iff, reload]
  split
  · next hserves => cases mount g <;> simp [hserves]
  · next hserves => simp [hserves]

theorem unregister_fails_iff : (∃ e, m.unregister g = .error e) ↔ m.serves g.id = false := by
  rw [unregister]
  split
  · next hserves => simp [hserves]
  · next hserves => simp [hserves]

end Memory

/-- A recording host asks the host inside it. -/
theorem Recording.inner_eq (h : Recording) (op : Operation) (g : Group) :
    h.inner op g = h.memory.apply g op := by
  cases op <;> rfl

end RouteBinding.Host
