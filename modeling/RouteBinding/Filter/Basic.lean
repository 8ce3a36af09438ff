/-!
# Filters

A filter is a condition on a property map: a test of one key, or a combination of filters.  This module
holds the type, its equality and its nesting depth; reading, writing and evaluation stand in modules of
their own.
-/

namespace RouteBinding

/-- A condition on a property map. -/
inductive Filter where
  | equal (key value : String)
  /-- The key has the value up to case and blanks. -/
  | approx (key value : String)
  | present (key : String)
  /-- The value of the key consists of the parts in order with any text between two of them. -/
  | substring (key : String) (parts : List String)
  /-- The value of the key is not below the bound. -/
  | atLeast (key bound : String)
  /-- The value of the key is not above the bound. -/
  | atMost (key bound : String)
  | all (items : List Filter)
  | any (items : List Filter)
  | negate (item : Filter)
  deriving Inhabited

namespace Filter

/-- The deepest nesting that a written filter may have. -/
def maxDepth : Nat := 64

mutual

def same : Filter → Filter → Bool
  | equal k v, equal k' v' => k == k' && v == v'
  | approx k v, approx k' v' => k == k' && v == v'
  | present k, present k' => k == k'
  | substring k ps, substring k' ps' => k == k' && ps == ps'
  | atLeast k v, atLeast k' v' => k == k' && v == v'
  | atMost k v, atMost k' v' => k == k' && v == v'
  | all fs, all fs' => sameItems fs fs'
  | any fs, any fs' => sameItems fs fs'
  | negate f, negate f' => same f f'
  | _, _ => false

/-- Whether two lists of filters are equal, item by item. -/
def sameItems : List Filter → List Filter → Bool
  | [], [] => true
  | f :: fs, f' :: fs' => same f f' && sameItems fs fs'
  | _, _ => false

end

mutual

theorem same_iff : ∀ {f g : Filter}, same f g = true ↔ f = g
  | equal .., g => by cases g <;> simp [same]
  | approx .., g => by cases g <;> simp [same]
  | present _, g => by cases g <;> simp [same]
  | substring .., g => by cases g <;> simp [same]
  | atLeast .., g => by cases g <;> simp [same]
  | atMost .., g => by cases g <;> simp [same]
  | all fs, g => by cases g <;> simp [same, @sameItems_iff fs _]
  | any fs, g => by cases g <;> simp [same, @sameItems_iff fs _]
  | negate f, g => by cases g <;> simp [same, same_iff (f := f)]

theorem sameItems_iff : ∀ {fs gs : List Filter}, sameItems fs gs = true ↔ fs = gs
  | [], gs => by cases gs <;> simp [sameItems]
  | f :: fs, gs => by
    cases gs <;> simp [sameItems, same_iff (f := f), @sameItems_iff fs _]

end

instance : DecidableEq Filter := fun _ _ => decidable_of_iff _ same_iff

mutual

/-- How deep a filter nests: one for a test of a key, one more for each combination around it. -/
def depth : Filter → Nat
  | all fs | any fs => depthItems fs + 1
  | negate f => depth f + 1
  | _ => 1

/-- The greatest depth in a list of filters. -/
def depthItems : List Filter → Nat
  | [] => 0
  | f :: fs => max (depth f) (depthItems fs)

end

end Filter

end RouteBinding
