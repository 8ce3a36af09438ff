import RouteBinding.Property.Map
import Mathlib.Data.List.Nodup

/-!
# The spelling of keys

A property map answers for a key with the value of the one entry whose key is equal to it without regard to
ASCII case (`Map.get?_eq_some_iff`).  So maps that hold the same values under other spellings of the same keys
answer alike (`Map.Respells.get?_eq`), although their entries may stand in another order.
-/

namespace RouteBinding.Property.Map

open Text

variable {m m' : Map} {k k' key : String} {v : Value}

/-- The entries of a map with their keys in lowercase. -/
def folded (m : Map) : List (List Char × Value) := m.entries.map fun e => (fold e.1, e.2)

/-- Two maps hold the same values under the same keys, where spellings of a key that differ in ASCII case count
as one. -/
def Respells (m m' : Map) : Prop := m.folded.Perm m'.folded

theorem mem_folded {f : List Char} : (f, v) ∈ m.folded ↔ ∃ k, (k, v) ∈ m.entries ∧ fold k = f := by
  simp [folded]

theorem nodup_folded_keys : (m.entries.map fun e => fold e.1).Nodup := List.pairwise_map.2 m.distinct

/-- A key has one entry, in whatever spelling. -/
theorem entry_unique {d e : String × Value} (hd : d ∈ m.entries) (he : e ∈ m.entries)
    (hfold : fold d.1 = fold e.1) : d = e :=
  List.inj_on_of_nodup_map nodup_folded_keys hd he hfold

/-- No entry counts twice, so it is enough for maps to hold the same ones. -/
theorem respells_iff : m.Respells m' ↔ ∀ e, e ∈ m.folded ↔ e ∈ m'.folded := by
  have hnodup : ∀ n : Map, n.folded.Nodup := by
    intro n
    refine List.Nodup.of_map Prod.fst ?_
    rw [folded, List.map_map]
    exact nodup_folded_keys
  exact List.perm_ext_iff_of_nodup (hnodup m) (hnodup m')

/-- A key has one value, in whatever spellings it is asked for. -/
theorem value_unique {f : List Char} {w : Value} (hv : (f, v) ∈ m.folded) (hw : (f, w) ∈ m.folded) :
    v = w := by
  obtain ⟨k, hk, rfl⟩ := mem_folded.1 hv
  obtain ⟨k', hk', hfold⟩ := mem_folded.1 hw
  exact congrArg Prod.snd (entry_unique hk hk' hfold.symm)

/-- What a scan for the spellings of a key finds is an entry that spells it. -/
theorem mem_folded_of_find? {e : String × Value} (h : m.entries.find? (fun d => sameFold d.1 key) = some e) :
    (fold key, e.2) ∈ m.folded := by
  have hsame : sameFold e.1 key = true := by simpa using List.find?_some h
  exact mem_folded.2 ⟨e.1, List.mem_of_find?_eq_some h, sameFold_iff.1 hsame⟩

/-- A scan for the spellings of a key finds the value of the entry that spells it in some way. -/
theorem scan_eq_some_iff : (m.entries.find? fun e => sameFold e.1 key).map (·.2) = some v ↔
    (fold key, v) ∈ m.folded := by
  constructor
  · intro hfound
    obtain ⟨e, he, rfl⟩ := Option.map_eq_some_iff.1 hfound
    exact mem_folded_of_find? he
  · intro hv
    obtain ⟨k, hk, hfold⟩ := mem_folded.1 hv
    cases hscan : m.entries.find? fun d => sameFold d.1 key with
    | none => exact absurd (sameFold_iff.2 hfold) (List.find?_eq_none.1 hscan (k, v) hk)
    | some e => exact congrArg some (value_unique (mem_folded_of_find? hscan) hv)

/-- What is found under a key is the value of the entry that spells it in some way. -/
theorem get?_eq_some_iff : m.get? key = some v ↔ (fold key, v) ∈ m.folded := by
  rw [get?]
  cases hexact : m.table.get? key with
  | some w =>
      -- The exact spelling is one of those that the scan would find, and there is only one.
      have hw : (fold key, w) ∈ m.folded := mem_folded.2 ⟨key, (Table.mem_entries_iff _ _ _).2 hexact, rfl⟩
      constructor
      · rintro ⟨⟩
        exact hw
      · exact fun hv => congrArg some (value_unique hw hv)
  | none => exact scan_eq_some_iff

/-- Looking for the exact spelling first changes no answer. -/
theorem get?_eq_scan : m.get? key = (m.entries.find? fun e => sameFold e.1 key).map (·.2) :=
  Option.ext fun _ => get?_eq_some_iff.trans scan_eq_some_iff.symm

theorem text?_eq_some_iff {s : String} : m.text? key = some s ↔ m.get? key = some (.text s) := by
  have htext : ∀ v : Value, v.text? = some s ↔ v = .text s := by
    intro v
    cases v with
    | text t => exact Option.some_inj.trans ⟨congrArg Value.text, Value.text.inj⟩
    | flag _ | number _ | list _ => exact iff_of_false nofun nofun
  simp [text?, Option.bind_eq_some_iff, htext]

/-- Maps that differ in the spelling of their keys answer alike, for every spelling of a key. -/
theorem Respells.get?_eq (h : m.Respells m') (hkey : fold k = fold k') : m.get? k = m'.get? k' := by
  refine Option.ext fun v => ?_
  rw [get?_eq_some_iff, get?_eq_some_iff, hkey]
  exact h.mem_iff

section Respelled

variable (h : m.Respells m')
include h

theorem Respells.get?_congr : m'.get? = m.get? :=
  funext fun _ => (h.get?_eq rfl).symm

theorem Respells.text?_congr : m'.text? = m.text? := by
  funext key
  rw [text?, text?, h.get?_congr]

theorem Respells.isTruthy_congr : m'.isTruthy = m.isTruthy := by
  funext key
  rw [isTruthy, isTruthy, h.get?_congr]

end Respelled

end RouteBinding.Property.Map
