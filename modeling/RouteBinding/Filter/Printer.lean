import RouteBinding.Filter.Basic

/-!
# The written form of a filter

A filter is written in parentheses: a combination with its sign in front, a test as key, sign and value.
Inside a value a backslash stands before each of the four characters that would end it or split it.
-/

namespace RouteBinding.Filter

/-- Whether a character of a value is written behind a backslash. -/
def needsEscape (c : Char) : Bool := c == '\\' || c == '*' || c == '(' || c == ')'

/-- The characters of a value as they are written. -/
def escape : List Char → List Char
  | [] => []
  | c :: rest => if needsEscape c then '\\' :: c :: escape rest else c :: escape rest

/-- The parts of a value as they are written, with a star between two of them. -/
def renderParts : List String → List Char
  | [] => []
  | [p] => escape p.toList
  | p :: rest => escape p.toList ++ '*' :: renderParts rest

mutual

/-- The characters of a written filter. -/
def renderChars : Filter → List Char
  | equal k v => '(' :: k.toList ++ '=' :: escape v.toList ++ [')']
  | approx k v => '(' :: k.toList ++ '~' :: '=' :: escape v.toList ++ [')']
  | present k => '(' :: k.toList ++ ['=', '*', ')']
  | substring k parts => '(' :: k.toList ++ '=' :: renderParts parts ++ [')']
  | atLeast k v => '(' :: k.toList ++ '>' :: '=' :: escape v.toList ++ [')']
  | atMost k v => '(' :: k.toList ++ '<' :: '=' :: escape v.toList ++ [')']
  | all fs => '(' :: '&' :: renderItems fs ++ [')']
  | any fs => '(' :: '|' :: renderItems fs ++ [')']
  | negate f => '(' :: '!' :: renderChars f ++ [')']

/-- The characters of several written filters, one behind the other. -/
def renderItems : List Filter → List Char
  | [] => []
  | f :: fs => renderChars f ++ renderItems fs

end

def render (f : Filter) : String := String.ofList (renderChars f)

end RouteBinding.Filter
