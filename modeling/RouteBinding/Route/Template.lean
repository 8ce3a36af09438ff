/-!
# Route templates

A route template is static text with wildcards in braces: `{name}` stands for part of one segment of a path
and `{*name}` for all the rest of it.  A doubled brace stands for a brace of the text.  Templates are handled
as bytes in UTF-8, where a piece remembers whether it was such a brace.  In a normalized template the names
are replaced by the letters `a`, `b`, … in their order, so that templates differing in names alone are equal.
A doubled brace directly behind a wildcard loses its mark when the name becomes shorter (`closeUp`).
-/

namespace RouteBinding.Route

/-- A byte of a template, and whether it is marked as standing for itself. -/
structure Piece where
  byte : UInt8
  /-- Whether the byte is marked, as a brace is that was written twice. -/
  literal : Bool
  deriving DecidableEq, Inhabited

def slash : UInt8 := 0x2F

def star : UInt8 := 0x2A

def opening : UInt8 := 0x7B

def closing : UInt8 := 0x7D

namespace Piece

/-- Whether a wildcard begins at this piece. -/
def opens (p : Piece) : Bool := p.byte == opening && !p.literal

/-- Whether a wildcard ends at this piece. -/
def closes (p : Piece) : Bool := p.byte == closing && !p.literal

def plain (b : UInt8) : Piece := ⟨b, false⟩

end Piece

/-- Pieces of a template. -/
abbrev Pieces := List Piece

/-- The bytes of a text in UTF-8. -/
def bytesOf (s : String) : List UInt8 := s.toUTF8.toList

/-- The text that bytes in UTF-8 hold; empty if they hold none. -/
def textOf (bytes : List UInt8) : String := (String.fromUTF8? ⟨bytes.toArray⟩).getD ""

def Pieces.bytes (ps : Pieces) : List UInt8 := ps.map Piece.byte

/-- The pieces of a template, where a doubled brace is one literal piece. -/
def piecesOf : List UInt8 → Pieces
  | [] => []
  | [b] => [.plain b]
  | b :: c :: rest =>
    if b == c && (b == opening || b == closing) then ⟨b, true⟩ :: piecesOf rest
    else .plain b :: piecesOf (c :: rest)

/-- Why a template cannot be used. -/
inductive Error where
  /-- It cannot be told apart from a template that is in use. -/
  | conflict (other : String)
  /-- A wildcard has no name, an improper name, or no end. -/
  | invalidName
  | crowdedSegment
  /-- Something follows the wildcard for the rest of a path. -/
  | misplacedRest
  /-- It has more wildcards than there are letters for them. -/
  | tooManyNames
  deriving DecidableEq, Inhabited

def Error.message : Error → String
  | conflict other =>
    "Insertion failed due to conflict with previously registered route: " ++ other
  | invalidName => "Parameters must be registered with a valid name"
  | crowdedSegment => "Only one parameter is allowed per path segment"
  | misplacedRest => "Catch-all parameters are only allowed at the end of a route"
  | tooManyNames => "Too many route parameters."

/-- The first wildcard of a template with what stands before and behind it. -/
structure Wildcard where
  before : Pieces
  self : Pieces
  after : Pieces
  deriving DecidableEq, Inhabited

/-- Whether a wildcard stands for all the rest of a path. -/
def Wildcard.isRest (w : Wildcard) : Bool := (w.self[1]?.map Piece.byte) == some star

/-- The name of a wildcard with its star, if it has one. -/
def Wildcard.name (w : Wildcard) : List UInt8 := Pieces.bytes ((w.self.drop 1).dropLast)

/-- The pieces up to the brace that closes a wildcard, and those behind it; a star or a slash before it is
improper. -/
def closeName : Pieces → Option (Pieces × Pieces)
  | [] => none
  | p :: rest =>
    if p.closes then some ([p], rest)
    else if p.byte == star || p.byte == slash then none
    else (closeName rest).map fun (name, after) => (p :: name, after)

theorem length_closeName {ps name after : Pieces} (h : closeName ps = some (name, after)) :
    after.length < ps.length := by
  induction ps generalizing name after with
  | nil => simp [closeName] at h
  | cons p rest ih =>
    simp only [closeName] at h
    split at h
    · simp only [Option.some.injEq, Prod.mk.injEq] at h
      simp [h.2]
    · split at h
      · simp at h
      · obtain ⟨⟨n, a⟩, hr, heq⟩ := Option.map_eq_some_iff.1 h
        simp only [Prod.mk.injEq] at heq
        have := ih hr
        simp only [List.length_cons, ← heq.2]
        omega

/-- The first wildcard of a template, if it has one. -/
def wildcard? : Pieces → Except Error (Option Wildcard)
  | [] => .ok none
  | p :: rest =>
    if p.closes then .error .invalidName
    else if p.opens then
      match rest with
      | [] => .error .invalidName
      | q :: more =>
        if q.byte == closing then .error .invalidName
        else if q.byte == star && (more.head?.any Piece.closes) then .error .invalidName
        else
          match closeName more with
          | some (name, after) => .ok (some ⟨[], p :: q :: name, after⟩)
          | none => .error .invalidName
    else
      match wildcard? rest with
      | .error e => .error e
      | .ok none => .ok none
      | .ok (some w) => .ok (some { w with before := p :: w.before })

theorem length_after_lt {ps : Pieces} {w : Wildcard} (h : wildcard? ps = .ok (some w)) :
    w.after.length < ps.length := by
  induction ps generalizing w with
  | nil => simp [wildcard?] at h
  | cons p rest ih =>
    simp only [wildcard?] at h
    split at h
    · simp at h
    · split at h
      · split at h
        · simp at h
        · split at h
          · simp at h
          · split at h
            · simp at h
            · split at h
              · next hc =>
                simp only [Except.ok.injEq, Option.some.injEq] at h
                have := length_closeName hc
                simp only [← h, List.length_cons]
                omega
              · simp at h
      · split at h
        · simp at h
        · simp at h
        · next hw =>
          simp only [Except.ok.injEq, Option.some.injEq] at h
          have := ih hw
          simp only [← h, List.length_cons]
          omega

/-- The wildcard that the `n`-th name is replaced by. -/
def letterWildcard (n : Nat) : Pieces :=
  [.plain opening, .plain (0x61 + UInt8.ofNat n), .plain closing]

/-- What stands behind a wildcard whose name has become `k` bytes shorter.  Marks move together with their
pieces, all but one directly behind the wildcard: that one stays at its place in the template, where it comes
upon the piece that is `k` further on. -/
def closeUp (k : Nat) : Pieces → Pieces
  | [] => []
  | p :: rest =>
    if p.literal && k > 0 then
      .plain p.byte :: rest.modify (k - 1) fun q => { q with literal := true }
    else p :: rest

theorem length_closeUp (k : Nat) (ps : Pieces) : (closeUp k ps).length = ps.length := by
  cases ps with
  | nil => rfl
  | cons p rest =>
    simp only [closeUp]
    split <;> simp

/-- How many named wildcards a template may have. -/
def maxNames : Nat := 25

/-- A template with its names replaced by letters, from the `n`-th letter on, and the names. -/
def normalize (n : Nat) (ps : Pieces) : Except Error (Pieces × List (List UInt8)) :=
  match _h : wildcard? ps with
  | .error e => .error e
  | .ok none => .ok (ps, [])
  | .ok (some w) =>
    if w.isRest then
      match normalize n w.after with
      | .error e => .error e
      | .ok (rest, names) => .ok (w.before ++ w.self ++ rest, names)
    else if n ≥ maxNames then .error .tooManyNames
    else
      match normalize (n + 1) (closeUp (w.self.length - (letterWildcard n).length) w.after) with
      | .error e => .error e
      | .ok (rest, names) => .ok (w.before ++ letterWildcard n ++ rest, w.name :: names)
termination_by ps.length
decreasing_by
  all_goals
    have := length_after_lt _h
    simpa only [length_closeUp] using this

/-- A template with its wildcards given these names, in their order, for as long as there are names. -/
def denormalize (ps : Pieces) : List (List UInt8) → Pieces
  | [] => ps
  | name :: names =>
    match wildcard? ps with
    | .ok (some w) =>
      w.before ++ .plain opening :: name.map .plain ++ .plain closing :: denormalize w.after names
    | _ => ps

/-- The first segment of some pieces with the slash that ends it, and what follows. -/
def splitSegment : Pieces → Pieces × Pieces
  | [] => ([], [])
  | p :: rest =>
    if p.byte == slash then ([p], rest)
    else
      let (segment, beyond) := splitSegment rest
      (p :: segment, beyond)

theorem length_splitSegment_le (ps : Pieces) : (splitSegment ps).2.length ≤ ps.length := by
  induction ps with
  | nil => simp [splitSegment]
  | cons p rest ih =>
    simp only [splitSegment]
    split
    · simp
    · simp only [List.length_cons]
      omega

end RouteBinding.Route
