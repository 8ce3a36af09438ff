/-!
# Routers

A host hands the routes of a group to a router, one after the other, and asks it where a path leads.  Which routes
a router takes beside others, and which of them it prefers for a path, is its own affair: of a router a host needs
what `Routing` says and no more.  `Takes` says what becomes of a router as routes go in.
-/

namespace RouteBinding.Route

/-- Why a router did not take a route. -/
inductive Refusal where
  | refused (reason : String)
  /-- The router gave up in the middle of it. -/
  | gaveUp (note : String)
  deriving DecidableEq, Inhabited

/-- Where a path leads. -/
structure Target where
  handler : String
  /-- The names of the wildcards with what they took. -/
  parameters : List (String × String)
  deriving DecidableEq, Inhabited

section

variable {Router : Type} (insert : Router → String → String → Except Refusal Router)

/-- What a router becomes as routes go in one after the other, each of them a template with a handler. -/
inductive Takes : Router → List (String × String) → Router → Prop where
  | nil (r : Router) : Takes r [] r
  | cons {r r' r'' : Router} {template handler : String} {routes : List (String × String)}
      (first : insert r template handler = .ok r') (rest : Takes r' routes r'') :
      Takes r ((template, handler) :: routes) r''

/-- Some routes do not all go into a router: those up to one go in, and the template of that one does not. -/
inductive Refuses : Router → List (String × String) → String → Refusal → Prop where
  | first {r : Router} {template handler : String} {cause : Refusal} {routes : List (String × String)}
      (refused : insert r template handler = .error cause) : Refuses r ((template, handler) :: routes) template cause
  | later {r r' : Router} {template handler other : String} {cause : Refusal} {routes : List (String × String)}
      (first : insert r other handler = .ok r') (rest : Refuses r' routes template cause) :
      Refuses r ((other, handler) :: routes) template cause

variable {insert} {r r' : Router} {template handler : String} {routes : List (String × String)}

theorem takes_nil_iff : Takes insert r [] r' ↔ r = r' := by
  constructor
  · rintro ⟨⟩
    rfl
  · rintro rfl
    exact .nil r

theorem takes_cons_iff : Takes insert r ((template, handler) :: routes) r' ↔
    ∃ taken, insert r template handler = .ok taken ∧ Takes insert taken routes r' := by
  constructor
  · rintro (_ | ⟨first, rest⟩)
    exact ⟨_, first, rest⟩
  · rintro ⟨_, first, rest⟩
    exact .cons first rest

theorem not_refuses_nil {cause : Refusal} : ¬Refuses insert r [] template cause := nofun

theorem refuses_cons_iff {other : String} {cause : Refusal} :
    Refuses insert r ((other, handler) :: routes) template cause ↔
      (insert r other handler = .error cause ∧ template = other) ∨
        ∃ taken, insert r other handler = .ok taken ∧ Refuses insert taken routes template cause := by
  constructor
  · rintro (refused | ⟨first, rest⟩)
    · exact .inl ⟨refused, rfl⟩
    · exact .inr ⟨_, first, rest⟩
  · rintro (⟨refused, rfl⟩ | ⟨_, first, rest⟩)
    · exact .first refused
    · exact .later first rest

end

/-- A kind of router. -/
class Routing where
  /-- The routes of a group. -/
  Router : Type
  empty : Router
  /-- Add a template with the handler that it leads to. -/
  insert : Router → String → String → Except Refusal Router
  /-- Where a path leads, if it leads anywhere. -/
  find? : Router → String → Option Target
  /-- A path leads to the handler of a route that has gone in. -/
  found : ∀ {routes r path target}, Takes insert empty routes r → find? r path = some target →
    ∃ template, (template, target.handler) ∈ routes

instance Routing.inhabited [Routing] : Inhabited Routing.Router := ⟨Routing.empty⟩

end RouteBinding.Route
