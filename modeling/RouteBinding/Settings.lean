import RouteBinding.Property.Map

/-!
# Settings

How a dispatcher is set up: whether there is an implicit default group, its path, and how long closing waits
for a pass.  Settings are read from a property map, where a missing key leaves the usual value.
-/

namespace RouteBinding

open Property

/-- The settings of a dispatcher. -/
structure Settings where
  implicitDefault : Bool := true
  defaultPath : String := "/"
  /-- How many milliseconds closing waits for a pass. -/
  shutdownTimeout : Nat := 5000
  deriving DecidableEq, Inhabited

namespace Settings

/-- What can be set. -/
inductive Item where
  | implicitDefault
  | defaultPath
  | shutdownTimeout
  deriving DecidableEq, Inhabited

/-- The key under which an item is set. -/
def Item.key : Item → String
  | implicitDefault => "trellis.default.enabled"
  | defaultPath => "trellis.default.path"
  | shutdownTimeout => "trellis.shutdown.timeout.ms"

/-- The words for the values that an item takes. -/
def Item.expected : Item → String
  | implicitDefault => "a boolean"
  | defaultPath => "a string"
  | shutdownTimeout => "a non-negative integer"

/-- A value that its item does not take. -/
structure Error where
  item : Item
  value : String
  deriving DecidableEq, Inhabited

def Error.message (e : Error) : String :=
  "invalid value `" ++ e.value ++ "` for `" ++ e.item.key ++ "`: expected " ++ e.item.expected

/-- The truth value that a value holds, or names in any case. -/
def boolOf? : Value → Option Bool
  | .flag b => some b
  | .text s =>
    if Text.sameFold s "true" then some true
    else if Text.sameFold s "false" then some false
    else none
  | .number _ | .list _ => none

/-- The natural number that a value holds or denotes. -/
def natOf? (v : Value) : Option Nat := (v.int?.filter fun i => 0 ≤ i).map Int.toNat

/-- What a property map sets an item to; the usual value if it does not set it. -/
def read {α : Type} (props : Map) (item : Item) (usual : α) (convert : Value → Option α) :
    Except Error α :=
  match props.get? item.key with
  | none => .ok usual
  | some v =>
    match convert v with
    | some a => .ok a
    | none => .error ⟨item, v.render⟩

/-- The settings in a property map. -/
def ofProperties (props : Map) : Except Error Settings := do
  let usual : Settings := {}
  let implicitDefault ← read props .implicitDefault usual.implicitDefault boolOf?
  let defaultPath ← read props .defaultPath usual.defaultPath Value.text?
  let shutdownTimeout ← read props .shutdownTimeout usual.shutdownTimeout natOf?
  return ⟨implicitDefault, defaultPath, shutdownTimeout⟩

end Settings

end RouteBinding
