import RouteBinding.Filter.Basic
import RouteBinding.Filter.Error
import RouteBinding.Text.Blank

/-!
# Reading a filter

A reader takes the characters that are left and returns what it read with the characters behind it, or a
fault with the characters behind the place of the fault.  The reader of a filter takes the nesting that is
still allowed, which is what its recursion is on; the readers of lists and groups take the reader of the
filters inside them.
-/

namespace RouteBinding.Filter

open Text

/-- Why reading stopped, and the characters that were left then. -/
structure Fault where
  cause : Cause
  /-- The characters behind the place where reading stopped. -/
  rest : List Char
  deriving Inhabited

/-- What a reader makes of the characters in front of it. -/
abbrev Reading (α : Type) := Except Fault (α × List Char)

/-- Read one given character.  Another character counts as read when the fault is found. -/
def expect (c : Char) : List Char → Reading Unit
  | [] => .error ⟨.expected c, []⟩
  | d :: rest => if d = c then .ok ((), rest) else .error ⟨.expected c, rest⟩

/-- Whether a character ends the key of a test. -/
def endsKey (c : Char) : Bool :=
  c == '=' || c == '<' || c == '>' || c == '~' || c == '(' || c == ')'

/-- Put a character in front of the first part. -/
def consPart (c : Char) : List (List Char) → List (List Char)
  | [] => [[c]]
  | p :: ps => (c :: p) :: ps

/-- Read a value up to the parenthesis that ends it, as the parts between bare stars. -/
def value : List Char → Reading (List (List Char))
  | [] => .error ⟨.unterminated, []⟩
  | ')' :: rest => .ok ([[]], ')' :: rest)
  | '(' :: rest => .error ⟨.bareParenthesis, '(' :: rest⟩
  | ['\\'] => .error ⟨.danglingEscape, []⟩
  | '\\' :: c :: rest =>
    match value rest with
    | .ok (parts, after) => .ok (consPart c parts, after)
    | .error e => .error e
  | '*' :: rest =>
    match value rest with
    | .ok (parts, after) => .ok ([] :: parts, after)
    | .error e => .error e
  | c :: rest =>
    match value rest with
    | .ok (parts, after) => .ok (consPart c parts, after)
    | .error e => .error e

/-- The sign between the key and the value of a test. -/
inductive Operator where
  | equal
  | approx
  | atLeast
  | atMost
  deriving DecidableEq

def operator : List Char → Reading Operator
  | [] => .error ⟨.noOperator, []⟩
  | c :: rest =>
    let signed (op : Operator) : Reading Operator :=
      match expect '=' rest with
      | .ok ((), after) => .ok (op, after)
      | .error e => .error e
    if c = '=' then .ok (.equal, rest)
    else if c = '~' then signed .approx
    else if c = '>' then signed .atLeast
    else if c = '<' then signed .atMost
    else .error ⟨.noOperator, rest⟩

/-- The test that a key, a sign and the parts of a value make, if the sign allows so many parts. -/
def test? (key : String) : Operator → List String → Option Filter
  | .equal, [v] => some (.equal key v)
  | .equal, ["", ""] => some (.present key)
  | .equal, parts => some (.substring key parts)
  | .approx, [v] => some (.approx key v)
  | .atLeast, [v] => some (.atLeast key v)
  | .atMost, [v] => some (.atMost key v)
  | _, _ => none

def test (cs : List Char) : Reading Filter :=
  let key := trimmed (cs.takeWhile fun c => !endsKey c)
  let behind := cs.dropWhile fun c => !endsKey c
  if key.isEmpty then .error ⟨.noKey, behind⟩
  else
    match operator behind with
    | .error e => .error e
    | .ok (op, rest) =>
      match value rest with
      | .error e => .error e
      | .ok (parts, after) =>
        match test? (String.ofList key) op (parts.map String.ofList) with
        | some f => .ok (f, after)
        | none => .error ⟨.misplacedWildcard, after⟩

/-- Read filters, with blanks behind each, for as long as an opening parenthesis stands in front. -/
def operands (nested : List Char → Reading Filter) (cs : List Char) : Reading (List Filter) :=
  if cs.head? = some '(' then
    match nested cs with
    | .error e => .error e
    | .ok (f, rest) =>
      -- A filter takes at least its parentheses, so what is left is shorter.
      if (dropBlanks rest).length < cs.length then
        match operands nested (dropBlanks rest) with
        | .ok (fs, after) => .ok (f :: fs, after)
        | .error e => .error e
      else .ok ([f], dropBlanks rest)
  else .ok ([], cs)
termination_by cs.length

/-- Read the filters of a combination, of which there must be one. -/
def combination (nested : List Char → Reading Filter) (cs : List Char) : Reading (List Filter) :=
  match operands nested (dropBlanks cs) with
  | .ok ([], after) => .error ⟨.noOperand, after⟩
  | r => r

/-- Read what stands between the parentheses of a filter. -/
def body (nested : List Char → Reading Filter) : List Char → Reading Filter
  | [] => .error ⟨.unexpectedEnd, []⟩
  | '&' :: rest =>
    match combination nested rest with
    | .ok (fs, after) => .ok (.all fs, after)
    | .error e => .error e
  | '|' :: rest =>
    match combination nested rest with
    | .ok (fs, after) => .ok (.any fs, after)
    | .error e => .error e
  | '!' :: rest =>
    match nested (dropBlanks rest) with
    | .ok (f, after) => .ok (.negate f, after)
    | .error e => .error e
  | cs => test cs

/-- Read a filter with its parentheses. -/
def group (nested : List Char → Reading Filter) (cs : List Char) : Reading Filter :=
  match expect '(' cs with
  | .error e => .error e
  | .ok ((), inside) =>
    match body nested (dropBlanks inside) with
    | .error e => .error e
    | .ok (f, rest) =>
      match expect ')' (dropBlanks rest) with
      | .error e => .error e
      | .ok ((), after) => .ok (f, after)

/-- Read a filter that nests no deeper than allowed. -/
def filter : Nat → List Char → Reading Filter
  | 0, cs => .error ⟨.tooDeep, cs⟩
  | depth + 1, cs => group (filter depth) cs

/-- Read a text that holds one filter and blanks around it. -/
def parseChars (cs : List Char) : Except Fault Filter :=
  match filter maxDepth (dropBlanks cs) with
  | .error e => .error e
  | .ok (f, rest) =>
    match dropBlanks rest with
    | [] => .ok f
    | c :: more => .error ⟨.trailing, c :: more⟩

/-- The number of bytes of a text. -/
def byteCount : List Char → Nat
  | [] => 0
  | c :: rest => c.utf8Size + byteCount rest

/-- The filter that a text holds. -/
def parse (expression : String) : Except Error Filter :=
  match parseChars expression.toList with
  | .ok f => .ok f
  | .error e =>
    .error ⟨expression, byteCount expression.toList - byteCount e.rest, e.cause⟩

/-- The filter that a text holds, if it holds one. -/
def parse? (expression : String) : Option Filter := (parse expression).toOption

end RouteBinding.Filter
