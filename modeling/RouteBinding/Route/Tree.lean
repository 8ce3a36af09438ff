import RouteBinding.Route.Template
import RouteBinding.Sorted

/-!
# The tree of routes

The templates of a group stand in a tree whose nodes carry the bytes that the templates below them share.
Static children are found by their first byte; a wildcard is always the last child.  The children of a named
wildcard are what may stand behind it in its segment, the longest first.  A template that could not be told
apart from one in the tree is refused, and the refusal names a template that it conflicts with.
-/

namespace RouteBinding.Route

/-- What a node stands for. -/
inductive Shape where
  | static
  /-- A named wildcard; the flag tells whether static text follows it in some segment. -/
  | named (followed : Bool)
  /-- The wildcard for the rest of a path. -/
  | rest
  deriving DecidableEq, Inhabited

/-- What is served at the end of a template. -/
structure Entry where
  handler : String
  /-- The names of the named wildcards, in the order of the template. -/
  names : List (List UInt8)
  deriving DecidableEq, Inhabited

/-- A node of the tree with all that is below it. -/
structure Node where
  /-- The pieces that the templates below share at this point. -/
  lead : Pieces := []
  /-- What the node stands for. -/
  shape : Shape := .static
  /-- How many templates have gone through the node. -/
  weight : Nat := 0
  /-- Whether the last child is a wildcard. -/
  hasWildcard : Bool := false
  /-- The first bytes of the static children, in their order. -/
  firsts : List UInt8 := []
  children : List Node := []
  /-- What is served at the end of a template that ends here. -/
  entry : Option Entry := none
  deriving Inhabited

namespace Node

/-- Whether a node is a named wildcard. -/
def isNamed (n : Node) : Bool :=
  match n.shape with
  | .named _ => true
  | _ => false

/-- Whether the lead of a node reaches into another segment. -/
def leavesSegment (n : Node) : Bool := n.lead.any fun p => p.byte == slash

/-- Whether the lead of a node ends with a slash. -/
def endsSegment (n : Node) : Bool := (n.lead.getLast?.map Piece.byte) == some slash

mutual

/-- Whether a named wildcard stands below a node in the segment where the node begins. -/
def namedInSegment : Node → Bool
  | ⟨lead, shape, _, _, _, children, _⟩ =>
    !(lead.any fun p => p.byte == slash) &&
      match shape with
      | .named _ => true
      | _ => anyNamedInSegment children

/-- Whether this holds of one of several nodes. -/
def anyNamedInSegment : List Node → Bool
  | [] => false
  | n :: rest => namedInSegment n || anyNamedInSegment rest

end

mutual

/-- Whether static text stands in front of a wildcard of the segment where a node ends. -/
def namedBehindText : Node → Bool
  | ⟨lead, _, _, _, _, children, _⟩ =>
    if (lead.getLast?.map Piece.byte) == some slash then anyNamedBehindText children
    else anyNamedInSegment children

/-- Whether this holds of one of several nodes. -/
def anyNamedBehindText : List Node → Bool
  | [] => false
  | n :: rest => namedBehindText n || anyNamedBehindText rest

end

mutual

/-- Whether static text stands behind a wildcard of the segment where a node ends. -/
def namedBeforeText : Node → Bool
  | ⟨_, shape, _, _, _, children, _⟩ =>
    match shape with
    | .named true => true
    | _ => anyNamedBeforeText children

/-- Whether this holds of one of several nodes that stay in the segment. -/
def anyNamedBeforeText : List Node → Bool
  | [] => false
  | n :: rest => (!n.leavesSegment && namedBeforeText n) || anyNamedBeforeText rest

end

mutual

/-- The leads along the first children of a node, and what is served at their end. -/
def firstBranch : Node → Pieces × Option Entry
  | ⟨_, _, _, _, _, children, entry⟩ => firstOf children entry

/-- The leads along the first of several nodes, starting with its own; `own` if there is none. -/
def firstOf : List Node → Option Entry → Pieces × Option Entry
  | [], own => ([], own)
  | n :: _, _ =>
    let (more, entry) := firstBranch n
    (n.lead ++ more, entry)

end

end Node

/-- A normalized template on its way into the tree, with what it serves. -/
structure Goal where
  route : Pieces
  /-- What is served at its end. -/
  entry : Entry

/-- Whether a wildcard begins some pieces. -/
def startsWildcard (ps : Pieces) : Bool := ps.head?.any Piece.opens

/-- Whether nothing but the end of the segment stands here. -/
def endsHere (ps : Pieces) : Bool := Pieces.bytes ps == [] || Pieces.bytes ps == [slash]

/-- The refusal of a template whose part `left` conflicts with what stands at a node. -/
def Goal.refused (goal : Goal) (left : Pieces) (n : Node) : Error :=
  let names (e : Option Entry) : List (List UInt8) := (e.map Entry.names).getD []
  if Pieces.bytes left == Pieces.bytes n.lead then
    .conflict (textOf (Pieces.bytes (denormalize goal.route (names n.entry))))
  else
    let taken := goal.route.take (goal.route.length - left.length)
    let reached :=
      if (Pieces.bytes n.lead).isSuffixOf (Pieces.bytes taken) then taken else taken ++ n.lead
    let (more, entry) := n.firstBranch
    .conflict (textOf (Pieces.bytes (denormalize (reached ++ more) (names entry))))

namespace Node

/-- The node with a static child more, which goes before a wildcard. -/
def withStatic (n : Node) (first : UInt8) (child : Node) : Node :=
  { n with
    firsts := n.firsts ++ [first]
    children := n.children.take n.firsts.length ++ child :: n.children.drop n.firsts.length }

/-- The node with a wildcard as its last child. -/
def withWildcard (n : Node) (child : Node) : Node :=
  { n with hasWildcard := true, children := n.children ++ [child] }

/-- The node of a named wildcard with something more that may stand behind it, the longest first. A child
that is cut short keeps its place, so the children may be out of order; the place is then the one that
halving leads to. -/
def withSuffix (n : Node) (child : Node) : Node :=
  let isLonger (i : Nat) : Bool := n.children[i]?.any fun c => child.lead.length ≤ c.lead.length
  { n with children := n.children.insertIdx (Sorted.boundary isLonger 0 n.children.length) child }

/-- The node with its `i`-th child replaced by one of greater weight, which moves to the front past lighter
ones. -/
def promote (n : Node) (i : Nat) (child : Node) : Node :=
  let passed := ((n.children.take i).reverse.takeWhile fun c => c.weight < child.weight).length
  let move {α : Type} (l : List α) (a : α) : List α := (l.eraseIdx i).insertIdx (i - passed) a
  { n with
    children := move n.children child
    firsts := (n.firsts[i]?.map (move n.firsts)).getD n.firsts }

end Node

mutual

/-- A node for a template that no node shares any more; the node keeps what it has. -/
def plant (n : Node) (route : Pieces) (entry : Entry) : Except Error Node :=
  match _h : wildcard? route with
  | .error e => .error e
  | .ok none => .ok { n with lead := route, entry := some entry }
  | .ok (some w) =>
    let n := if w.before.isEmpty then n else { n with lead := w.before }
    if w.isRest then
      if w.after.isEmpty then
        .ok (n.withWildcard { lead := w.self, shape := .rest, weight := 1, entry := some entry })
      else .error .misplacedRest
    else
      let suffix := (splitSegment w.after).1
      let named : Node := { lead := w.self, shape := .named !(endsHere suffix), weight := 1 }
      match wildcard? suffix with
      | .ok (some _) => .error .crowdedSegment
      | _ =>
        -- What follows the wildcard in its segment becomes a node of its own.
        if suffix.isEmpty then
          match plantBelow named (splitSegment w.after).2 entry with
          | .error e => .error e
          | .ok named => .ok (n.withWildcard named)
        else
          match plantBelow { lead := suffix, weight := 1 } (splitSegment w.after).2 entry with
          | .error e => .error e
          | .ok child => .ok (n.withWildcard (named.withSuffix child))
termination_by 2 * route.length
decreasing_by
  all_goals
    have := length_after_lt _h
    have := length_splitSegment_le w.after
    omega

/-- A node with the rest of a template below it. -/
def plantBelow (n : Node) (route : Pieces) (entry : Entry) : Except Error Node :=
  match route with
  | [] => .ok { n with entry := some entry }
  | p :: rest =>
    if p.opens then plant n (p :: rest) entry
    else
      match plant { weight := 1 } (p :: rest) entry with
      | .error e => .error e
      | .ok child => .ok (n.withStatic p.byte child)
termination_by 2 * route.length + 1

end

/-- The number of pieces that two lists have in common at their start. -/
def commonLead : Pieces → Pieces → Nat
  | p :: ps, q :: qs => if p = q then commonLead ps qs + 1 else 0
  | _, _ => 0

namespace Node

/-- Add the rest of a template as a new static child. -/
def addStatic (goal : Goal) (n : Node) (left : Pieces) : Except Error Node :=
  let conflicts :=
    match wildcard? (splitSegment left).1 with
    | .ok (some w) =>
      (!w.before.isEmpty && n.namedBeforeText) || (!endsHere w.after && n.namedBehindText)
    | _ => false
  if conflicts then .error (goal.refused left n)
  else
    match plant { weight := 1 } left goal.entry with
    | .error e => .error e
    | .ok child => .ok (n.withStatic ((left.head?.map Piece.byte).getD slash) child)

/-- Add the rest of a template, which begins with a wildcard, to a node without one. -/
def addWildcard (goal : Goal) (n : Node) (left : Pieces) : Except Error Node :=
  let conflicts :=
    match wildcard? left with
    | .ok (some w) =>
      (!endsHere w.after && n.namedBehindText) || (!n.endsSegment && n.namedBeforeText)
    | _ => false
  if conflicts then .error (goal.refused left n) else plant n left goal.entry

/-- Add the rest of a template at a node without a child for it. -/
def addNew (goal : Goal) (n : Node) (left : Pieces) : Except Error Node :=
  if startsWildcard left then n.addWildcard goal left else n.addStatic goal left

/-- Add the rest of a template as something more that may stand behind a named wildcard.  `above` is the node
whose last child the wildcard is. -/
def addSuffix (goal : Goal) (above : Option Node) (n : Node) (left : Pieces) : Except Error Node :=
  let (suffix, beyond) := splitSegment left
  let slashed := n.children.any fun c =>
    Pieces.bytes c.lead ++ [slash] == Pieces.bytes suffix ||
      Pieces.bytes c.lead == Pieces.bytes suffix ++ [slash]
  if !slashed && !endsHere suffix && above.any namedBehindText then
    -- The node above is refused, so the wildcard counts among what is left.
    .error (goal.refused (n.lead ++ left) (above.getD n))
  else
    match wildcard? suffix with
    | .ok (some _) => .error .crowdedSegment
    | _ =>
      match plantBelow { lead := suffix, weight := 1 } beyond goal.entry with
      | .error e => .error e
      | .ok child =>
        .ok { n.withSuffix child with shape := if endsHere suffix then n.shape else .named true }

/-- The refusal of a template whose part `left` begins with a wildcard, where the node `above` has the
wildcard `n` already and it cannot be the same.  Behind static text, a template that ends with the wildcard
cannot stand beside one in which more static text follows it. -/
def wildcardConflict (goal : Goal) (above n : Node) (left : Pieces) : Option Error :=
  let differs := n.lead.length ≤ left.length &&
    Pieces.bytes (left.take n.lead.length) != Pieces.bytes n.lead
  if differs || n.shape == .rest then some (goal.refused left n)
  else if !above.endsSegment && n.shape == .named true then
    match wildcard? left with
    | .ok (some w) =>
      if endsHere w.after then some (goal.refused left above) else none
    | _ => none
  else none

/-- The node with its lead cut off after `k` pieces and what it was as the only child behind them. -/
def fork (n : Node) (k : Nat) : Node :=
  let lower : Node := { n with lead := n.lead.drop k, shape := .static, weight := n.weight - 1 }
  { lead := n.lead.take k, shape := n.shape, weight := n.weight
    firsts := (Pieces.bytes lower.lead).take 1, children := [lower] }

mutual

/-- Add the part of a template that is left to a node.  `above` is the node whose child this one is. -/
def insert (goal : Goal) (above : Option Node) : Node → Pieces → Except Error Node
  | ⟨lead, shape, weight, hasWildcard, firsts, children, entry⟩, left =>
    let n : Node := ⟨lead, shape, weight + 1, hasWildcard, firsts, children, entry⟩
    let k := commonLead left lead
    let beyond := left.drop k
    if k < lead.length then
      -- The template leaves the lead of the node before its end.
      if beyond.isEmpty then .ok { n.fork k with entry := some goal.entry }
      else (n.fork k).addNew goal beyond
    else if beyond.isEmpty then
      if entry.isSome then .error (goal.refused left n)
      else .ok { n with entry := some goal.entry }
    else if n.isNamed then
      -- Behind a named wildcard the rest of the segment has to be found as a whole.
      let suffix := Pieces.bytes (splitSegment beyond).1
      match children.findIdx? fun c => Pieces.bytes c.lead == suffix with
      | some i =>
        match insertAt goal (some n) children i beyond with
        | .error e => .error e
        | .ok child => .ok { n with children := children.set i child }
      | none => n.addSuffix goal above beyond
    else
      let found := if startsWildcard beyond then none
        else firsts.findIdx? fun b => some b == beyond.head?.map Piece.byte
      match found with
      | some i =>
        match insertAt goal (some n) children i beyond with
        | .error e => .error e
        | .ok child => .ok (n.promote i child)
      | none =>
        if startsWildcard beyond && hasWildcard then
          -- A wildcard is the last child.
          let last := children.length - 1
          match (children[last]?).bind fun c => n.wildcardConflict goal c beyond with
          | some e => .error e
          | none =>
            match insertAt goal (some n) children last beyond with
            | .error e => .error e
            | .ok child => .ok { n with children := children.set last child }
        else n.addNew goal beyond

/-- Add the part of a template that is left to the `i`-th of several nodes. -/
def insertAt (goal : Goal) (above : Option Node) : List Node → Nat → Pieces → Except Error Node
  | [], _, _ => .error .invalidName
  | n :: _, 0, left => insert goal above n left
  | _ :: rest, i + 1, left => insertAt goal above rest i left

end

end Node

/-- The routes of a group. -/
structure Router where
  root : Node := {}
  deriving Inhabited

namespace Router

def empty : Router := {}

/-- Add a template with the handler that it serves. -/
def insert (r : Router) (template handler : String) : Except Error Router :=
  match normalize 0 (piecesOf (bytesOf template)) with
  | .error e => .error e
  | .ok (route, names) =>
    let goal : Goal := ⟨route, handler, names⟩
    let added :=
      if r.root.lead.isEmpty && r.root.children.isEmpty then
        plant { r.root with weight := r.root.weight + 1 } route goal.entry
      else r.root.insert goal none route
    match added with
    | .error e => .error e
    | .ok root => .ok ⟨root⟩

end Router

end RouteBinding.Route
