import RouteBinding.Filter.Basic
import RouteBinding.Property.Map
import RouteBinding.Text.Lowercase

/-!
# Evaluating a filter

A test looks its key up in a property map and holds if some value below it, at any depth of lists, passes.
A value is compared as what it is: texts as texts, booleans by their words, integers by their number.
-/

namespace RouteBinding.Filter

open Text Property

/-- Whether a value has the text that a filter asks for. -/
def equalsText (wanted : String) : Value → Bool
  | .text s => s == wanted
  | .flag b => sameFold (trim wanted) (if b then "true" else "false")
  | .number i => int64? wanted == some i.toInt
  | .list _ => false

/-- A text without blanks and in lowercase. -/
def loose (s : String) : List Char := (s.toList.filter fun c => !isBlank c).flatMap lowercase

/-- Whether a value has the text that a filter asks for, up to case and blanks where it is a text. -/
def resembles (wanted : String) : Value → Bool
  | .text s => loose s == loose wanted
  | v => equalsText wanted v

/-- How a value compares with a bound: as integers if both are, else a text by its characters. -/
def compareBound (bound : String) : Value → Option Ordering
  | .number i => (int64? bound).map (compare i.toInt)
  | .text s =>
    match int64? s, int64? bound with
    | some i, some j => some (compare i j)
    | _, _ => some (compare s bound)
  | .flag _ | .list _ => none

/-- What follows the first occurrence of a part in a text. -/
def after? (part : List Char) : List Char → Option (List Char)
  | [] => if part.isEmpty then some [] else none
  | c :: rest =>
    if part.isPrefixOf (c :: rest) then some ((c :: rest).drop part.length) else after? part rest

/-- Whether a text holds some parts one behind the other, each at its first place, and ends with a last. -/
def globRest : List (List Char) → List Char → Bool
  | [], s => s.isEmpty
  | [last], s => last.isSuffixOf s
  | p :: ps, s =>
    match after? p s with
    | some rest => globRest ps rest
    | none => false

/-- Whether a text consists of the parts in order with any text between two of them. -/
def glob : List (List Char) → List Char → Bool
  | [], _ => false
  | [only], s => s == only
  | first :: rest, s => first.isPrefixOf s && globRest rest (s.drop first.length)

/-- Whether a value is a text that consists of the parts. -/
def globs (parts : List String) : Value → Bool
  | .text s => glob (parts.map String.toList) s.toList
  | _ => false

/-- Whether some value under a key passes a test. -/
def holds (props : Map) (key : String) (p : Value → Bool) : Bool :=
  match props.get? key with
  | some v => v.anyScalar p
  | none => false

mutual

/-- Whether a property map meets a filter. -/
def accepts (props : Map) : Filter → Bool
  | equal k v => holds props k (equalsText v)
  | approx k v => holds props k (resembles v)
  | present k => props.contains k
  | substring k parts => holds props k (globs parts)
  | atLeast k v => holds props k fun x => (compareBound v x).any Ordering.isGE
  | atMost k v => holds props k fun x => (compareBound v x).any Ordering.isLE
  | all fs => acceptsAll props fs
  | any fs => acceptsAny props fs
  | negate f => !accepts props f

/-- Whether a property map meets every filter of a list. -/
def acceptsAll (props : Map) : List Filter → Bool
  | [] => true
  | f :: fs => accepts props f && acceptsAll props fs

/-- Whether a property map meets some filter of a list. -/
def acceptsAny (props : Map) : List Filter → Bool
  | [] => false
  | f :: fs => accepts props f || acceptsAny props fs

end

end RouteBinding.Filter
