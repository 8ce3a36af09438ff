/-!
# Errors of a written filter

Where reading a filter stops, and what was wrong there.
-/

namespace RouteBinding.Filter

/-- What is wrong with a written filter. -/
inductive Cause where
  /-- More combinations stand around each other than are allowed. -/
  | tooDeep
  | expected (c : Char)
  /-- The text ends behind an opening parenthesis. -/
  | unexpectedEnd
  /-- A combination without a filter. -/
  | noOperand
  | noKey
  | noOperator
  | unterminated
  /-- An opening parenthesis stands bare in a value. -/
  | bareParenthesis
  | danglingEscape
  /-- A star stands in the value of a test other than for equality. -/
  | misplacedWildcard
  | trailing
  deriving DecidableEq, Inhabited

def Cause.message : Cause → String
  | tooDeep => "filter nested too deeply"
  | expected c => "expected `" ++ c.toString ++ "`"
  | unexpectedEnd => "unexpected end of filter"
  | noOperand => "expected at least one operand"
  | noKey => "expected attribute name"
  | noOperator => "expected comparison operator"
  | unterminated => "unterminated value"
  | bareParenthesis => "unescaped `(` in value"
  | danglingEscape => "dangling escape"
  | misplacedWildcard => "wildcards are only allowed with `=`"
  | trailing => "trailing characters after filter"

/-- A text that is no filter. -/
structure Error where
  expression : String
  /-- The number of bytes before the place where reading stopped. -/
  offset : Nat
  cause : Cause
  deriving DecidableEq, Inhabited

def Error.message (e : Error) : String :=
  "invalid filter `" ++ e.expression ++ "` at offset " ++ toString e.offset ++ ": " ++ e.cause.message

end RouteBinding.Filter
