import RouteBinding.Route.Tree

/-!
# Looking up a path

A path is followed down the tree of routes.  A static child is tried before a wildcard, and the wildcard of
the nearest node above is tried when the way below fails.  A named wildcard takes at least one byte and no
slash; of what may stand behind it in its segment, the longest that fits decides.
-/

namespace RouteBinding.Route

/-- What is served for a path, and the bytes that the named wildcards and the one for the rest took. -/
structure Hit where
  entry : Entry
  /-- What the named wildcards took, in the order of the path. -/
  taken : List (List UInt8)
  /-- The name of the wildcard for the rest of the path and what it took. -/
  rest : Option (List UInt8 × List UInt8)
  deriving DecidableEq, Inhabited

namespace Hit

/-- The hit with what one more named wildcard in front took. -/
def behind (h : Hit) (bytes : List UInt8) : Hit := { h with taken := bytes :: h.taken }

/-- The names of the wildcards with the texts they took. -/
def parameters (h : Hit) : List (String × String) :=
  (h.entry.names.zip h.taken ++ h.rest.toList).map fun (name, bytes) => (textOf name, textOf bytes)

end Hit

/-- The bytes of a path up to the end of its segment, the slash included, and those that follow. -/
def cutSegment (path : List UInt8) : List UInt8 × List UInt8 :=
  match path.dropWhile (· != slash) with
  | [] => (path, [])
  | b :: beyond => (path.takeWhile (· != slash) ++ [b], beyond)

namespace Node

/-- Whether the bytes of a lead may stand at the end of a segment with something in front of them. -/
def fitsEnd (lead segment : List UInt8) : Bool :=
  lead.length < segment.length && lead.isSuffixOf segment

mutual

/-- What is served for a path from a node on. -/
def find (n : Node) (path : List UInt8) : Option Hit :=
  match n with
  | ⟨lead, _, _, hasWildcard, firsts, children, entry⟩ =>
    let bytes := Pieces.bytes lead
    if path.length ≤ bytes.length then
      if path == bytes then entry.map fun e => ⟨e, [], none⟩ else none
    else if bytes.isPrefixOf path then
      let below := path.drop bytes.length
      -- Static text is tried before a wildcard.
      let viaText :=
        match firsts.findIdx? fun b => some b == below.head? with
        | some i => findAt children i below
        | none => none
      match viaText with
      | some hit => some hit
      | none => if hasWildcard then findLast children below else none
    else none

/-- What is served for a path from the `i`-th of several nodes on. -/
def findAt (nodes : List Node) (i : Nat) (path : List UInt8) : Option Hit :=
  match nodes, i with
  | [], _ => none
  | n :: _, 0 => find n path
  | _ :: rest, i + 1 => findAt rest i path

/-- What is served for a path from the last of several nodes on, which is a wildcard. -/
def findLast (nodes : List Node) (path : List UInt8) : Option Hit :=
  match nodes with
  | [] => none
  | [n] => findWildcard n path
  | _ :: rest => findLast rest path

/-- What is served for a path from a wildcard on. -/
def findWildcard (n : Node) (path : List UInt8) : Option Hit :=
  match n with
  | ⟨lead, shape, _, _, _, children, entry⟩ =>
    match shape with
    | .rest =>
      entry.map fun e => ⟨e, [], some (Pieces.bytes ((lead.drop 2).dropLast), path)⟩
    | .static => none
    | .named followed =>
      -- A named wildcard takes at least one byte.
      if path.head? == some slash then none
      else if followed then
        match findSuffix children path with
        | some result => result
        | none => if path.contains slash then none else entry.map fun e => ⟨e, [path], none⟩
      else if path.contains slash then
        let bytes := path.takeWhile (· != slash)
        findOnly children bytes (path.drop bytes.length)
      else entry.map fun e => ⟨e, [path], none⟩

/-- What is served for a path whose segment ends with the lead of one of several nodes; nothing if there is
no such node. -/
def findSuffix (nodes : List Node) (path : List UInt8) : Option (Option Hit) :=
  match nodes with
  | [] => none
  | n :: rest =>
    let segment := (cutSegment path).1
    let lead := Pieces.bytes n.lead
    if fitsEnd lead segment then
      let bytes := segment.take (segment.length - lead.length)
      some ((find n (path.drop bytes.length)).map fun h => h.behind bytes)
    else findSuffix rest path

/-- What is served for a path from the only node of a list on, behind a wildcard that took some bytes. -/
def findOnly (nodes : List Node) (bytes path : List UInt8) : Option Hit :=
  match nodes with
  | [n] => (find n path).map fun h => h.behind bytes
  | _ => none

end

end Node

namespace Router

/-- What is served for a path. -/
def find? (r : Router) (path : String) : Option Hit := r.root.find (bytesOf path)

end Router

end RouteBinding.Route
