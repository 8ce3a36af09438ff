import RouteBinding.Route.Lookup
import RouteBinding.Route.Routing

/-!
# The tree as a router

Nodes are cut, moved and hung below others while templates go into a tree, but what is served at the end of a
template is never made up: it has gone in with some template (`Node.insert_only`), and a path leads to what is
served at the end of one (`Node.find_only`).
-/

namespace RouteBinding.Route

namespace Node

/-- All handlers that are served at a node or below it have a property. -/
inductive Only (p : String → Prop) : Node → Prop where
  | intro {n : Node} (own : ∀ e, n.entry = some e → p e.handler) (below : ∀ c ∈ n.children, Only p c) : Only p n

variable {p : String → Prop} {n m child : Node} {e : Entry}

theorem Only.own (h : n.Only p) : ∀ e, n.entry = some e → p e.handler := by
  cases h with
  | intro own below => exact own

theorem Only.children (h : n.Only p) : ∀ c ∈ n.children, c.Only p := by
  cases h with
  | intro own below => exact below

/-- A node where nothing is served and that has nothing below it. -/
theorem only_of_bare (hentry : n.entry = none) (hchildren : n.children = []) : n.Only p :=
  ⟨fun e he => by simp [hentry] at he, fun c hc => by simp [hchildren] at hc⟩

/-- A node keeps what it serves when other children come to it. -/
theorem Only.of_children (h : n.Only p) (hentry : m.entry = n.entry)
    (hchildren : ∀ c ∈ m.children, c ∈ n.children ∨ c.Only p) : m.Only p :=
  ⟨fun e he => h.own e (hentry ▸ he), fun c hc => (hchildren c hc).elim (h.children c) id⟩

theorem Only.withEntry (h : n.Only p) (he : p e.handler) : ({ n with entry := some e } : Node).Only p :=
  ⟨fun d hd => by rwa [← Option.some.inj hd], h.children⟩

theorem Only.withStatic (h : n.Only p) (hchild : child.Only p) (first : UInt8) :
    (n.withStatic first child).Only p := by
  refine h.of_children rfl fun c hc => ?_
  rcases List.mem_append.1 hc with hc | hc
  · exact .inl (List.mem_of_mem_take hc)
  · rcases List.mem_cons.1 hc with rfl | hc
    · exact .inr hchild
    · exact .inl (List.mem_of_mem_drop hc)

theorem Only.withWildcard (h : n.Only p) (hchild : child.Only p) : (n.withWildcard child).Only p := by
  refine h.of_children rfl fun c hc => ?_
  rcases List.mem_append.1 hc with hc | hc
  · exact .inl hc
  · exact .inr (List.mem_singleton.1 hc ▸ hchild)

/-- What stands in a list after something was put into it stood there before or was put there. -/
theorem mem_of_mem_insertIdx {l : List Node} {i : Nat} {c : Node} (hc : c ∈ l.insertIdx i child) :
    c = child ∨ c ∈ l := by
  rcases Nat.lt_or_ge l.length i with hlt | hle
  · exact .inr (List.insertIdx_of_length_lt hlt ▸ hc)
  · exact (List.mem_insertIdx hle).1 hc

theorem Only.withSuffix (h : n.Only p) (hchild : child.Only p) : (n.withSuffix child).Only p := by
  refine h.of_children rfl fun c hc => ?_
  rcases mem_of_mem_insertIdx hc with rfl | hc
  · exact .inr hchild
  · exact .inl hc

theorem Only.promote (h : n.Only p) (hchild : child.Only p) (i : Nat) : (n.promote i child).Only p := by
  refine h.of_children rfl fun c hc => ?_
  rcases mem_of_mem_insertIdx hc with rfl | hc
  · exact .inr hchild
  · exact .inl (List.mem_of_mem_eraseIdx hc)

theorem Only.set (h : n.Only p) (hchild : child.Only p) (i : Nat) :
    ({ n with children := n.children.set i child } : Node).Only p := by
  refine h.of_children rfl fun c hc => ?_
  rcases List.mem_or_eq_of_mem_set hc with hc | rfl
  · exact .inl hc
  · exact .inr hchild

theorem Only.fork (h : n.Only p) (k : Nat) : (n.fork k).Only p := by
  refine .intro (fun e he => by cases he) fun c hc => ?_
  rw [List.mem_singleton.1 hc]
  exact ⟨h.own, h.children⟩

end Node

/-! ### Adding a template -/

open Node

variable {p : String → Prop} {e : Entry}

mutual

theorem plant_only {n m : Node} {route : Pieces} (he : p e.handler) (h : n.Only p)
    (hplant : plant n route e = .ok m) : m.Only p := by
  rw [plant] at hplant
  split at hplant
  · cases hplant
  · cases hplant
    exact ⟨fun d hd => Option.some.inj hd ▸ he, h.children⟩
  · next w hw =>
    have hlength : (splitSegment w.after).2.length < route.length :=
      Nat.lt_of_le_of_lt (length_splitSegment_le w.after) (length_after_lt hw)
    have hn : (if w.before.isEmpty then n else { n with lead := w.before }).Only p := by
      split
      · exact h
      · exact ⟨h.own, h.children⟩
    generalize (if w.before.isEmpty then n else { n with lead := w.before }) = n' at hplant hn
    dsimp only at hplant
    split at hplant
    · -- The wildcard is for the rest of a path, so nothing may follow it.
      split at hplant
      · cases hplant
        exact hn.withWildcard ⟨fun d hd => Option.some.inj hd ▸ he, fun c hc => by cases hc⟩
      · cases hplant
    · -- What follows a named wildcard goes below it, or below what ends its segment.
      split at hplant
      · cases hplant
      · split at hplant
        · split at hplant
          · cases hplant
          · next hbelow =>
            cases hplant
            exact hn.withWildcard (plantBelow_only he (only_of_bare rfl rfl) hbelow)
        · split at hplant
          · cases hplant
          · next hbelow =>
            cases hplant
            have hsuffix := plantBelow_only he (only_of_bare rfl rfl) hbelow
            exact hn.withWildcard ((only_of_bare rfl rfl).withSuffix hsuffix)
termination_by 2 * route.length
decreasing_by all_goals omega

theorem plantBelow_only {n m : Node} {route : Pieces} (he : p e.handler) (h : n.Only p)
    (hplant : plantBelow n route e = .ok m) : m.Only p := by
  rw [plantBelow.eq_def] at hplant
  split at hplant
  · cases hplant
    exact h.withEntry he
  · split at hplant
    · exact plant_only he h hplant
    · split at hplant
      · cases hplant
      · next hbelow =>
        cases hplant
        exact h.withStatic (plant_only he (only_of_bare rfl rfl) hbelow) _
termination_by 2 * route.length + 1

end

namespace Node

variable {goal : Goal}

theorem addStatic_only {n m : Node} {left : Pieces} (he : p goal.entry.handler) (h : n.Only p)
    (hadd : n.addStatic goal left = .ok m) : m.Only p := by
  unfold addStatic at hadd
  extract_lets conflicts at hadd
  split at hadd
  · cases hadd
  · split at hadd
    · cases hadd
    · next hplant =>
      cases hadd
      exact h.withStatic (plant_only he (only_of_bare rfl rfl) hplant) _

theorem addWildcard_only {n m : Node} {left : Pieces} (he : p goal.entry.handler) (h : n.Only p)
    (hadd : n.addWildcard goal left = .ok m) : m.Only p := by
  unfold addWildcard at hadd
  extract_lets conflicts at hadd
  split at hadd
  · cases hadd
  · exact plant_only he h hadd

theorem addNew_only {n m : Node} {left : Pieces} (he : p goal.entry.handler) (h : n.Only p)
    (hadd : n.addNew goal left = .ok m) : m.Only p := by
  rw [addNew] at hadd
  split at hadd
  · exact addWildcard_only he h hadd
  · exact addStatic_only he h hadd

theorem addSuffix_only {above : Option Node} {n m : Node} {left : Pieces} (he : p goal.entry.handler)
    (h : n.Only p) (hadd : n.addSuffix goal above left = .ok m) : m.Only p := by
  unfold addSuffix at hadd
  generalize splitSegment left = parts at hadd
  obtain ⟨suffix, beyond⟩ := parts
  dsimp only at hadd
  split at hadd
  · cases hadd
  · split at hadd
    · cases hadd
    · split at hadd
      · cases hadd
      · next hbelow =>
        cases hadd
        have hsuffix := h.withSuffix (plantBelow_only he (only_of_bare rfl rfl) hbelow)
        exact ⟨hsuffix.own, hsuffix.children⟩

mutual

/-- What is served in a tree after a template has gone in was served there before, or came with the template. -/
theorem insert_only (he : p goal.entry.handler) (above : Option Node) (n : Node) {m : Node} {left : Pieces}
    (h : n.Only p) (hinsert : insert goal above n left = .ok m) : m.Only p := by
  obtain ⟨lead, shape, weight, hasWildcard, firsts, children, entry⟩ := n
  have hbelow : ∀ {above i left child}, insertAt goal above children i left = .ok child → child.Only p :=
    insertAt_only he _ children h.children
  unfold insert at hinsert
  extract_lets n k beyond forked suffix found last at hinsert
  have hn : n.Only p := ⟨h.own, h.children⟩
  split at hinsert
  · -- The template leaves the lead of the node, which is cut there.
    split at hinsert
    · cases hinsert
      exact (hn.fork k).withEntry he
    · exact addNew_only he (hn.fork k) hinsert
  split at hinsert
  · -- It ends where the node does.
    split at hinsert
    · cases hinsert
    · cases hinsert
      exact hn.withEntry he
  split at hinsert
  · -- It goes on behind a named wildcard, in a child with the rest of its segment or in a new one.
    split at hinsert
    · split at hinsert
      · cases hinsert
      · next hchild =>
        cases hinsert
        exact hn.set (hbelow hchild) _
    · exact addSuffix_only he hn hinsert
  · -- It goes on in the static child with its next byte, in the wildcard, or in a new child.
    clear_value found
    split at hinsert
    · split at hinsert
      · cases hinsert
      · next hchild =>
        cases hinsert
        exact hn.promote (hbelow hchild) _
    · split at hinsert
      · split at hinsert
        · cases hinsert
        · split at hinsert
          · cases hinsert
          · next hchild =>
            cases hinsert
            exact hn.set (hbelow hchild) _
      · exact addNew_only he hn hinsert

theorem insertAt_only (he : p goal.entry.handler) (above : Option Node) (nodes : List Node) {i : Nat} {m : Node}
    {left : Pieces} (h : ∀ c ∈ nodes, c.Only p) (hinsert : insertAt goal above nodes i left = .ok m) :
    m.Only p := by
  cases nodes with
  | nil => cases hinsert
  | cons n rest =>
      cases i with
      | zero => exact insert_only he above n (h n List.mem_cons_self) hinsert
      | succ i => exact insertAt_only he above rest (fun c hc => h c (List.mem_cons_of_mem _ hc)) hinsert

end

/-! ### Looking up a path -/

/-- What a path may lead to has the property of what is served. -/
def Leads (p : String → Prop) (hit? : Option Hit) : Prop := ∀ hit, hit? = some hit → p hit.entry.handler

theorem leads_none : Leads p none := fun _ h => by cases h

/-- What is served at a node has the property, with whatever the wildcards took. -/
theorem Only.leads_entry {n : Node} (h : n.Only p) (taken : List (List UInt8))
    (rest : Option (List UInt8 × List UInt8)) : Leads p (n.entry.map fun e => ⟨e, taken, rest⟩) := by
  intro hit hhit
  obtain ⟨e, he, rfl⟩ := Option.map_eq_some_iff.1 hhit
  exact h.own e he

theorem Leads.behind {hit? : Option Hit} (h : Leads p hit?) (bytes : List UInt8) :
    Leads p (hit?.map fun hit => hit.behind bytes) := by
  intro hit hhit
  obtain ⟨first, hfirst, rfl⟩ := Option.map_eq_some_iff.1 hhit
  exact h first hfirst

mutual

/-- A path leads to something that is served in the tree. -/
theorem find_only (n : Node) (h : n.Only p) (path : List UInt8) : Leads p (n.find path) := by
  obtain ⟨lead, shape, weight, hasWildcard, firsts, children, entry⟩ := n
  unfold find
  extract_lets bytes below viaText
  split
  · split
    · exact h.leads_entry _ _
    · exact leads_none
  split
  · have htext : Leads p viaText := by
      unfold viaText
      split
      · exact findAt_only children h.children _ below
      · exact leads_none
    clear_value viaText
    cases viaText with
    | some hit => exact htext
    | none =>
        dsimp only
        split
        · exact findLast_only children h.children below
        · exact leads_none
  · exact leads_none

theorem findAt_only (nodes : List Node) (h : ∀ c ∈ nodes, c.Only p) (i : Nat) (path : List UInt8) :
    Leads p (findAt nodes i path) := by
  cases nodes with
  | nil => exact leads_none
  | cons n rest =>
      cases i with
      | zero => exact find_only n (h n List.mem_cons_self) path
      | succ i => exact findAt_only rest (fun c hc => h c (List.mem_cons_of_mem _ hc)) i path

theorem findLast_only (nodes : List Node) (h : ∀ c ∈ nodes, c.Only p) (path : List UInt8) :
    Leads p (findLast nodes path) := by
  cases nodes with
  | nil => exact leads_none
  | cons n rest =>
      cases rest with
      | nil => exact findWildcard_only n (h n List.mem_cons_self) path
      | cons n' rest => exact findLast_only (n' :: rest) (fun c hc => h c (List.mem_cons_of_mem _ hc)) path

theorem findWildcard_only (n : Node) (h : n.Only p) (path : List UInt8) : Leads p (n.findWildcard path) := by
  obtain ⟨lead, shape, weight, hasWildcard, firsts, children, entry⟩ := n
  unfold findWildcard
  split
  · exact h.leads_entry _ _
  · exact leads_none
  · split
    · exact leads_none
    split
    · split
      · next hfound => exact findSuffix_only children h.children path hfound
      · split
        · exact leads_none
        · exact h.leads_entry _ _
    split
    · exact findOnly_only children h.children _ _
    · exact h.leads_entry _ _

theorem findSuffix_only (nodes : List Node) (h : ∀ c ∈ nodes, c.Only p) (path : List UInt8)
    {result : Option Hit} (hfound : findSuffix nodes path = some result) : Leads p result := by
  cases nodes with
  | nil => cases hfound
  | cons n rest =>
      unfold findSuffix at hfound
      extract_lets segment lead bytes at hfound
      split at hfound
      · rw [← Option.some.inj hfound]
        exact (find_only n (h n List.mem_cons_self) _).behind _
      · exact findSuffix_only rest (fun c hc => h c (List.mem_cons_of_mem _ hc)) path hfound

theorem findOnly_only (nodes : List Node) (h : ∀ c ∈ nodes, c.Only p) (bytes path : List UInt8) :
    Leads p (findOnly nodes bytes path) := by
  cases nodes with
  | nil => exact leads_none
  | cons n rest =>
      cases rest with
      | nil => exact (find_only n (h n List.mem_cons_self) path).behind bytes
      | cons n' rest => exact leads_none

end

end Node

/-! ### The tree as a router -/

/-- How a router puts that a template cannot be used.  One with too many names makes it give up. -/
def Error.refusal : Error → Refusal
  | tooManyNames => .gaveUp tooManyNames.message
  | e => .refused e.message

/-- Where a path leads that something is served for. -/
def Hit.target (hit : Hit) : Target := ⟨hit.entry.handler, hit.parameters⟩

namespace Router

theorem insert_only {r r' : Router} {template handler : String} (hp : p handler) (h : r.root.Only p)
    (hinsert : r.insert template handler = .ok r') : r'.root.Only p := by
  unfold insert at hinsert
  split at hinsert
  · cases hinsert
  · have hroot : ({ r.root with weight := r.root.weight + 1 } : Node).Only p := ⟨h.own, h.children⟩
    extract_lets goal root added at hinsert
    have hhandler : p goal.entry.handler := hp
    have hadded : ∀ n : Node, added = .ok n → n.Only p := by
      intro n hn
      unfold added at hn
      split at hn
      · exact plant_only hhandler hroot hn
      · exact Node.insert_only hhandler none r.root h hn
    clear_value added
    split at hinsert
    · cases hinsert
    · next n =>
      cases hinsert
      exact hadded n rfl

/-- The router that a template makes of another. -/
def take (r : Router) (template handler : String) : Except Refusal Router :=
  (r.insert template handler).mapError Error.refusal

theorem take_eq_ok_iff {r r' : Router} {template handler : String} :
    r.take template handler = .ok r' ↔ r.insert template handler = .ok r' := by
  rw [take]
  cases r.insert template handler with
  | error e => exact iff_of_false (fun h => by cases h) fun h => by cases h
  | ok taken =>
      exact ⟨fun h => congrArg Except.ok (Except.ok.inj h), fun h => congrArg Except.ok (Except.ok.inj h)⟩

theorem takes_only {r r' : Router} {routes : List (String × String)} (htakes : Takes take r routes r')
    (hp : ∀ route ∈ routes, p route.2) (h : r.root.Only p) : r'.root.Only p := by
  induction htakes with
  | nil => exact h
  | cons first _ ih =>
      refine ih (fun route hroute => hp route (List.mem_cons_of_mem _ hroute)) ?_
      exact insert_only (hp _ List.mem_cons_self) h (take_eq_ok_iff.1 first)

/-- The tree of routes is a router. -/
instance routing : Routing where
  Router := Router
  empty := empty
  insert := take
  find? r path := (r.find? path).map Hit.target
  found {routes r path target} htakes hfind := by
    obtain ⟨hit, hhit, rfl⟩ := Option.map_eq_some_iff.1 hfind
    have honly : r.root.Only fun handler => ∃ template, (template, handler) ∈ routes :=
      takes_only htakes (fun route hroute => ⟨route.1, hroute⟩) (Node.only_of_bare rfl rfl)
    exact Node.find_only r.root honly _ hit hhit

end Router

end RouteBinding.Route
