import RouteBinding.Text.Case
import RouteBinding.Text.Integer

/-!
# Property values

What a provider or a host declares under one key: a boolean, an integer, a text, or a list of values to any
depth.  An integer value is a signed 64-bit word; an identity beyond its range is kept as text (`Value.ofNat`).
-/

namespace RouteBinding.Property

open Text

/-- The value of a property. -/
inductive Value where
  | flag (b : Bool)
  | number (i : Int64)
  | text (s : String)
  | list (items : List Value)
  deriving Inhabited

namespace Value

mutual

def same : Value → Value → Bool
  | flag a, flag b => a == b
  | number a, number b => a == b
  | text a, text b => a == b
  | list a, list b => sameItems a b
  | _, _ => false

/-- Whether two lists of values are equal, item by item. -/
def sameItems : List Value → List Value → Bool
  | [], [] => true
  | a :: as, b :: bs => same a b && sameItems as bs
  | _, _ => false

end

mutual

theorem same_iff : ∀ {a b : Value}, same a b = true ↔ a = b
  | flag _, b => by cases b <;> simp [same]
  | number _, b => by cases b <;> simp [same]
  | text _, b => by cases b <;> simp [same]
  | list items, b => by cases b <;> simp [same, @sameItems_iff items _]

theorem sameItems_iff : ∀ {as bs : List Value}, sameItems as bs = true ↔ as = bs
  | [], bs => by cases bs <;> simp [sameItems]
  | a :: as, bs => by
    cases bs <;> simp [sameItems, same_iff (a := a), @sameItems_iff as _]

end

instance : DecidableEq Value := fun _ _ => decidable_of_iff _ same_iff

/-- The value that holds a natural number: an integer, or its decimal digits where it is too large. -/
def ofNat (n : Nat) : Value :=
  if inInt64 n then number (.ofNat n) else text (toString n)

/-- Whether a value stands for yes: a true boolean, or the word `true` in any case. -/
def isTruthy : Value → Bool
  | flag b => b
  | text s => sameFold s "true"
  | number _ | list _ => false

def text? : Value → Option String
  | text s => some s
  | _ => none

/-- The integer a value holds or, as text, denotes. -/
def int? : Value → Option Int
  | number i => some i.toInt
  | text s => int64? s
  | flag _ | list _ => none

/-- An integer that is read from a value is in the range of integer values. -/
theorem inInt64_of_int? {v : Value} {i : Int} (h : v.int? = some i) : inInt64 i = true := by
  cases v with
  | flag _ | list _ => cases h
  | number w =>
      obtain rfl := Option.some.inj h
      exact inInt64_toInt w
  | text s => exact (Option.filter_eq_some_iff.1 h).2

/-- The texts of a value; of a list, those that stand in it directly. -/
def texts : Value → List String
  | text s => [s]
  | list items => items.filterMap text?
  | flag _ | number _ => []

mutual

def render : Value → String
  | flag b => if b then "true" else "false"
  | number i => toString i.toInt
  | text s => s
  | list items => "[" ++ ", ".intercalate (renderItems items) ++ "]"

def renderItems : List Value → List String
  | [] => []
  | v :: rest => render v :: renderItems rest

end

/-- Whether some value passes a test, where a list passes if one of its items does, to any depth. -/
def anyScalar (p : Value → Bool) : Value → Bool
  | list items => anyItem p items
  | v => p v
where
  /-- Whether one of several values passes a test, to any depth. -/
  anyItem (p : Value → Bool) : List Value → Bool
    | [] => false
    | v :: rest => anyScalar p v || anyItem p rest

end Value

end RouteBinding.Property
