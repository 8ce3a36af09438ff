import RouteBinding.Property.Value
import RouteBinding.Table

/-!
# Property maps

A property map keeps each key in the spelling it was inserted with and finds it in any ASCII case.  No two of
its keys are equal without regard to case, and its entries stand in the order of their keys.
-/

namespace RouteBinding.Property

open Text

/-- Values under keys that differ without regard to ASCII case. -/
structure Map where
  /-- The values by the spelling of their keys. -/
  table : Table String Value
  /-- No two keys are spellings of one key. -/
  distinct : table.entries.Pairwise fun a b => fold a.1 ≠ fold b.1
  deriving DecidableEq

namespace Map

def empty : Map := ⟨∅, .nil⟩

instance : EmptyCollection Map := ⟨empty⟩

instance : Inhabited Map := ⟨empty⟩

def entries (m : Map) : List (String × Value) := m.table.entries

def size (m : Map) : Nat := m.table.size

def isEmpty (m : Map) : Bool := m.table.isEmpty

/-- The value under a key: that of the exact spelling, else that of the first spelling in key order. -/
def get? (m : Map) (key : String) : Option Value :=
  match m.table.get? key with
  | some v => some v
  | none => (m.entries.find? fun e => sameFold e.1 key).map (·.2)

def text? (m : Map) (key : String) : Option String := (m.get? key).bind Value.text?

def contains (m : Map) (key : String) : Bool := (m.get? key).isSome

/-- Whether a key is present with a value that stands for yes. -/
def isTruthy (m : Map) (key : String) : Bool := (m.get? key).any Value.isTruthy

/-- The map without the spellings of a key. -/
def erase (m : Map) (key : String) : Map :=
  ⟨m.table.filterKeys fun k => !sameFold k key, m.distinct.filter _⟩

/-- The map with a value under a key, in this spelling only. -/
def insert (m : Map) (key : String) (value : Value) : Map where
  table := (m.erase key).table.insert key value
  distinct := by
    refine Table.pairwise_place (R := fun a b => fold a ≠ fold b) Ne.symm ?_ (m.erase key).distinct
    intro e he heq
    have : sameFold e.1 key = false := by simpa [erase, Table.filterKeys] using (List.mem_filter.1 he).2
    simp [sameFold, heq] at this

/-- The value under a key, and the map without that key. -/
def remove (m : Map) (key : String) : Option Value × Map :=
  ((m.entries.find? fun e => sameFold e.1 key).map (·.2), m.erase key)

/-- The map that inserting some pairs one after the other yields. -/
def ofList (pairs : List (String × Value)) : Map :=
  pairs.foldl (fun m e => m.insert e.1 e.2) ∅

end Map

end RouteBinding.Property
