import RouteBinding.Proofs.Property.Spelling
import Mathlib.Data.Set.Card

/-!
# What a property map remembers

A property map is changed by insertions and removals, or collected anew from some pairs (`Map.Change`).  What it
holds after any such changes is, for each key in any of its spellings, the last insertion that was not removed
since (`Map.LastInsertion`), and all ways of reading it agree on that (`Map.Remembers`).  A table that is kept
without this invariant, and where an insertion makes room by taking out the first spelling that a scan finds,
holds the same entries (`Map.stored_eq`).
-/

namespace RouteBinding

namespace Text

variable {c d : Char} {a b : String}

/-- Two characters are equal, or they are an ASCII letter in its two cases. -/
def SameLetter (c d : Char) : Prop :=
  c = d ∨ ∃ i < 26, (c.toNat = 65 + i ∧ d.toNat = 97 + i) ∨ (c.toNat = 97 + i ∧ d.toNat = 65 + i)

theorem toNat_toLower (c : Char) :
    c.toLower.toNat = if 65 ≤ c.toNat ∧ c.toNat ≤ 90 then c.toNat + 32 else c.toNat := by
  have hrange : (c.val ≥ 'A'.val ∧ c.val ≤ 'Z'.val) ↔ 65 ≤ c.toNat ∧ c.toNat ≤ 90 := by
    rw [ge_iff_le, UInt32.le_iff_toNat_le, UInt32.le_iff_toNat_le]
    rfl
  delta Char.toLower
  split
  · next hupper =>
    have hsmall : c.val.toNat ≤ 90 := (hrange.1 hupper).2
    rw [if_pos (hrange.1 hupper)]
    exact (UInt32.toNat_add c.val 32).trans (Nat.mod_eq_of_lt (by change c.val.toNat + 32 < 2 ^ 32; omega))
  · next hother => rw [if_neg fun h => hother (hrange.2 h)]

theorem toLower_eq_iff : c.toLower = d.toLower ↔ SameLetter c d := by
  rw [← Char.toNat_inj, toNat_toLower, toNat_toLower, SameLetter, ← Char.toNat_inj]
  constructor
  · intro h
    by_cases heq : c.toNat = d.toNat
    · exact .inl heq
    · -- One of the two has been moved, so it is a capital and the other its small letter.
      by_cases hc : 65 ≤ c.toNat ∧ c.toNat ≤ 90
      · rw [if_pos hc] at h
        refine .inr ⟨c.toNat - 65, by omega, .inl ⟨by omega, ?_⟩⟩
        split at h <;> omega
      · rw [if_neg hc] at h
        refine .inr ⟨c.toNat - 97, ?_, .inr ?_⟩ <;> split at h <;> omega
  · rintro (h | ⟨i, hi, h | h⟩)
    · rw [h]
    · rw [if_pos (by omega), if_neg (by omega)]
      omega
    · rw [if_neg (by omega), if_pos (by omega)]
      omega

/-- Strings are equal without regard to ASCII case if they agree character by character up to the case of ASCII
letters. -/
theorem fold_eq_iff : fold a = fold b ↔ List.Forall₂ SameLetter a.toList b.toList := by
  rw [fold, fold, ← List.forall₂_eq_eq_eq, List.forall₂_map_left_iff, List.forall₂_map_right_iff]
  exact ⟨fun h => h.imp fun _ _ => toLower_eq_iff.1, fun h => h.imp fun _ _ => toLower_eq_iff.2⟩

end Text

namespace Property.Map

open Text

variable {m : Map} {k key : String} {v : Value} {e : String × Value}

/-! ### Entries after a change -/

theorem mem_erase : e ∈ (m.erase key).entries ↔ e ∈ m.entries ∧ fold e.1 ≠ fold key := by
  simp [erase, entries, Table.filterKeys, List.mem_filter, sameFold]

theorem mem_insert :
    e ∈ (m.insert key v).entries ↔ e = (key, v) ∨ e ∈ m.entries ∧ fold e.1 ≠ fold key := by
  obtain ⟨k, w⟩ := e
  rw [← mem_erase, insert, entries, entries, Table.mem_entries_iff, Table.get?_insert, Table.mem_entries_iff]
  by_cases hk : k = key
  · -- No entry is left under the key, so only the new one is there.
    have hnone : ¬(m.erase key).table.get? k = some w := by
      intro hw
      exact (mem_erase.1 ((Table.mem_entries_iff _ _ _).2 hw)).2 (congrArg fold hk)
    rw [if_pos hk, or_iff_left hnone, hk, Option.some.injEq, Prod.mk.injEq, eq_self, true_and]
    exact eq_comm
  · rw [if_neg hk]
    simp [hk]

/-! ### Changes and what is left of them -/

/-- A change of a property map. -/
inductive Change where
  /-- Put a value under a key, in a map that is there or in one that is being built. -/
  | insert (key : String) (value : Value)
  /-- Take a key out, in whatever spelling it is there. -/
  | remove (key : String)
  /-- Start again, with some pairs put in one after the other. -/
  | collect (pairs : List (String × Value))

/-- The map after one more change. -/
def change (m : Map) : Change → Map
  | .insert key value => m.insert key value
  | .remove key => (m.remove key).2
  | .collect pairs => .ofList pairs

/-- The map that changes make of an empty one. -/
def after (changes : List Change) : Map := changes.foldl change ∅

/-- A change of a single key, or of all keys at once. -/
inductive Edit where
  | put (key : String) (value : Value)
  | drop (key : String)
  | clear

/-- The edits that a change consists of. -/
def Change.edits : Change → List Edit
  | .insert key value => [.put key value]
  | .remove key => [.drop key]
  | .collect pairs => .clear :: pairs.map fun e => .put e.1 e.2

/-- An edit has to do with a key, in some spelling. -/
def Edit.Concerns (key : String) : Edit → Prop
  | .put k _ => fold k = fold key
  | .drop k => fold k = fold key
  | .clear => True

/-- The last insertion under a key in some spelling, where nothing later has to do with the key. -/
def LastInsertion (edits : List Edit) (key : String) (e : String × Value) : Prop :=
  ∃ before later, edits = before ++ .put e.1 e.2 :: later ∧ fold e.1 = fold key ∧
    ∀ x ∈ later, ¬x.Concerns key

/-- The map after one more edit. -/
def edit (m : Map) : Edit → Map
  | .put key value => m.insert key value
  | .drop key => m.erase key
  | .clear => ∅

theorem change_eq_foldl (m : Map) (c : Change) : m.change c = c.edits.foldl edit m := by
  cases c with
  | insert key value => rfl
  | remove key => rfl
  | collect pairs =>
      rw [change, ofList, Change.edits, List.foldl_cons, List.foldl_map]
      rfl

theorem after_eq_foldl (changes : List Change) : after changes = (changes.flatMap Change.edits).foldl edit ∅ := by
  rw [List.foldl_flatMap, after]
  congr
  funext m c
  exact change_eq_foldl m c

/-- Where there is one more edit, it is the last insertion itself, or it has nothing to do with the key. -/
theorem lastInsertion_concat {edits : List Edit} {x : Edit} : LastInsertion (edits ++ [x]) key e ↔
    (x = .put e.1 e.2 ∧ fold e.1 = fold key) ∨ (LastInsertion edits key e ∧ ¬x.Concerns key) := by
  constructor
  · rintro ⟨before, later, hedits, hkey, hlater⟩
    rcases List.eq_nil_or_concat later with rfl | ⟨init, y, rfl⟩
    · obtain ⟨-, hx⟩ := List.append_inj' hedits rfl
      exact .inl ⟨List.head_eq_of_cons_eq hx, hkey⟩
    · rw [List.concat_eq_append] at hedits hlater
      rw [← List.cons_append, ← List.append_assoc] at hedits
      obtain ⟨rfl, hx⟩ := List.append_inj' hedits rfl
      obtain rfl : x = y := List.head_eq_of_cons_eq hx
      refine .inr ⟨⟨before, init, rfl, hkey, fun z hz => hlater z ?_⟩, hlater x ?_⟩
      · exact List.mem_append_left _ hz
      · exact List.mem_append_right _ List.mem_cons_self
  · rintro (⟨rfl, hkey⟩ | ⟨⟨before, later, rfl, hkey, hlater⟩, hx⟩)
    · exact ⟨edits, [], rfl, hkey, by simp⟩
    · refine ⟨before, later ++ [x], by simp, hkey, fun y hy => ?_⟩
      rcases List.mem_append.1 hy with hy | hy
      · exact hlater y hy
      · rwa [List.mem_singleton.1 hy]

/-- What a map holds under a key in some spelling is the last insertion. -/
theorem mem_entries_iff_lastInsertion {edits : List Edit} :
    (e ∈ (edits.foldl edit ∅).entries ∧ fold e.1 = fold key) ↔ LastInsertion edits key e := by
  induction edits using List.reverseRecOn with
  | nil =>
      refine iff_of_false (fun h => List.not_mem_nil h.1) ?_
      rintro ⟨before, later, hedits, -⟩
      exact List.append_ne_nil_of_right_ne_nil before (List.cons_ne_nil _ later) hedits.symm
  | append_singleton edits x ih =>
      rw [List.foldl_concat, lastInsertion_concat, ← ih]
      cases x with
      | put k v =>
          have hnew : e = (k, v) ↔ Edit.put k v = .put e.1 e.2 := by
            rw [Edit.put.injEq, Prod.ext_iff, eq_comm, @eq_comm _ e.2]
          rw [edit, mem_insert, hnew, Edit.Concerns]
          grind
      | drop k =>
          rw [edit, mem_erase, Edit.Concerns]
          grind
      | clear => exact iff_of_false (fun h => List.not_mem_nil h.1) (by simp [Edit.Concerns])

/-! ### The table underneath -/

/-- The first spelling of a key in a table. -/
def spelling? (t : Table String Value) (key : String) : Option String := t.keys.find? fun k => sameFold k key

/-- A table without the first spelling of a key, and the value that stood under it. -/
def takeSpelling (t : Table String Value) (key : String) : Option Value × Table String Value :=
  match spelling? t key with
  | some k => (t.get? k, t.erase k)
  | none => (none, t)

/-- A table with a value under a key, which the first spelling of the key has made room for. -/
def putSpelling (t : Table String Value) (e : String × Value) : Table String Value :=
  (takeSpelling t e.1).2.insert e.1 e.2

/-- A table after one more change. -/
def store (t : Table String Value) : Change → Table String Value
  | .insert key value => putSpelling t (key, value)
  | .remove key => (takeSpelling t key).2
  | .collect pairs => pairs.foldl putSpelling ∅

/-- The table that changes make of an empty one. -/
def stored (changes : List Change) : Table String Value := changes.foldl store ∅

theorem table_get?_eq_none (h : ∀ w, (k, w) ∉ m.entries) : m.table.get? k = none :=
  Option.eq_none_iff_forall_ne_some.2 fun w hw => h w ((Table.mem_entries_iff _ _ _).2 hw)

/-- A key has one spelling at most, so taking out the first one takes out the key. -/
theorem takeSpelling_eq (m : Map) (key : String) :
    takeSpelling m.table key = ((m.remove key).1, (m.remove key).2.table) := by
  have hlookup : ∀ k, (m.remove key).2.table.get? k = if fold k = fold key then none else m.table.get? k := by
    intro k
    show (m.table.filterKeys fun k => !sameFold k key).get? k = _
    rw [Table.get?_filterKeys]
    by_cases hk : fold k = fold key <;> simp [sameFold, hk]
  rw [takeSpelling]
  cases hspelling : spelling? m.table key with
  | some k =>
      have hk : fold k = fold key := sameFold_iff.1 (by simpa using List.find?_some hspelling)
      obtain ⟨w, hw⟩ := Table.mem_keys.1 (List.mem_of_find?_eq_some hspelling)
      have hentry : (k, w) ∈ m.entries := (Table.mem_entries_iff _ _ _).2 hw
      refine Prod.ext ?_ (Table.ext_get? fun j => ?_)
      · exact hw.trans (scan_eq_some_iff.2 (mem_folded.2 ⟨k, hentry, hk⟩)).symm
      · show (m.table.erase k).get? j = _
        rw [Table.get?_erase, hlookup]
        by_cases hj : fold j = fold key
        · rw [if_pos hj]
          split
          · rfl
          · next hne =>
            refine table_get?_eq_none fun w hj' => hne ?_
            exact congrArg Prod.fst (entry_unique hj' hentry (hj.trans hk.symm))
        · rw [if_neg hj, if_neg fun heq : j = k => hj (heq ▸ hk)]
  | none =>
      have hnone : ∀ e ∈ m.entries, fold e.1 ≠ fold key := by
        intro e he hfold
        exact List.find?_eq_none.1 hspelling e.1 (List.mem_map_of_mem he) (sameFold_iff.2 hfold)
      refine Prod.ext ?_ (Table.ext_get? fun j => ?_)
      · show none = (m.entries.find? fun e => sameFold e.1 key).map (·.2)
        rw [List.find?_eq_none.2 fun e he hsame => hnone e he (sameFold_iff.1 hsame)]
        rfl
      · show m.table.get? j = _
        rw [hlookup]
        split
        · next hj => exact table_get?_eq_none fun w hw => hnone (j, w) hw hj
        · rfl

theorem putSpelling_eq (m : Map) (e : String × Value) : putSpelling m.table e = (m.insert e.1 e.2).table := by
  rw [putSpelling, takeSpelling_eq]
  rfl

theorem store_eq (m : Map) (c : Change) : store m.table c = (m.change c).table := by
  cases c with
  | insert key value => exact putSpelling_eq m (key, value)
  | remove key => exact congrArg Prod.snd (takeSpelling_eq m key)
  | collect pairs =>
      exact (List.foldl_hom table putSpelling_eq : pairs.foldl putSpelling (table ∅) = _)

theorem stored_eq (changes : List Change) : stored changes = (after changes).table :=
  (List.foldl_hom table store_eq : changes.foldl store (table ∅) = _)

/-! ### All ways of reading -/

/-- A map holds the last insertion under each key, and says so in every way in which it is read. -/
structure Remembers (m : Map) (edits : List Edit) : Prop where
  /-- No two stored keys are spellings of one key. -/
  distinct : m.entries.Pairwise fun d e => fold d.1 ≠ fold e.1
  /-- The entries come in the order of their spellings. -/
  ordered : m.entries.Pairwise fun d e => d.1 < e.1
  /-- What is stored under a key in some spelling is its last insertion, as it was spelled there. -/
  entry_iff : ∀ key e, (e ∈ m.entries ∧ fold e.1 = fold key) ↔ LastInsertion edits key e
  get?_iff : ∀ key v, m.get? key = some v ↔ ∃ k, LastInsertion edits key (k, v)
  /-- Looking for the exact spelling first finds nothing but what the scan finds. -/
  get?_scan : ∀ key, m.get? key = (m.entries.find? fun e => sameFold e.1 key).map (·.2)
  text?_iff : ∀ key s, m.text? key = some s ↔ ∃ k, LastInsertion edits key (k, .text s)
  contains_iff : ∀ key, m.contains key = true ↔ ∃ e, LastInsertion edits key e
  isTruthy_iff : ∀ key, m.isTruthy key = true ↔ ∃ e, LastInsertion edits key e ∧ e.2.isTruthy = true
  /-- Removing a key hands out its value and leaves all other entries as they are. -/
  remove_eq : ∀ key, (m.remove key).1 = m.get? key ∧
    (m.remove key).2.entries = m.entries.filter fun e => !sameFold e.1 key
  /-- There are as many entries as keys with an insertion left, where all spellings of a key count as one. -/
  size_eq : m.size = {f | ∃ key e, fold key = f ∧ LastInsertion edits key e}.ncard
  isEmpty_iff : m.isEmpty = true ↔ ∀ key e, ¬LastInsertion edits key e

/-- A map has as many entries as keys, since no two of its keys are spellings of one. -/
theorem size_eq_ncard (m : Map) : m.size = {f | ∃ e ∈ m.entries, fold e.1 = f}.ncard := by
  have hkeys : {f | ∃ e ∈ m.entries, fold e.1 = f} = ↑(m.entries.map fun e => fold e.1).toFinset := by
    ext f
    simp
  rw [hkeys, Set.ncard_coe_finset, List.toFinset_card_of_nodup nodup_folded_keys, List.length_map]
  rfl

section Read

variable {edits : List Edit} (h : ∀ key e, (e ∈ m.entries ∧ fold e.1 = fold key) ↔ LastInsertion edits key e)
include h

theorem get?_iff_lastInsertion : m.get? key = some v ↔ ∃ k, LastInsertion edits key (k, v) := by
  rw [get?_eq_some_iff, mem_folded]
  exact exists_congr fun k => h key (k, v)

/-- Every entry is the last insertion under its own spelling. -/
theorem folded_keys_eq : {f | ∃ e ∈ m.entries, fold e.1 = f} =
    {f | ∃ key e, fold key = f ∧ LastInsertion edits key e} := by
  ext f
  constructor
  · rintro ⟨e, he, hf⟩
    exact ⟨e.1, e, hf, (h e.1 e).1 ⟨he, rfl⟩⟩
  · rintro ⟨key, e, hf, hlast⟩
    obtain ⟨he, hkey⟩ := (h key e).2 hlast
    exact ⟨e, he, hkey.trans hf⟩

/-- All ways of reading a map agree with its entries, and so with the insertions that these are. -/
theorem remembers_of_entries : m.Remembers edits where
  distinct := m.distinct
  ordered := m.table.sorted
  entry_iff := h
  get?_iff _ _ := get?_iff_lastInsertion h
  get?_scan _ := get?_eq_scan
  text?_iff _ _ := text?_eq_some_iff.trans (get?_iff_lastInsertion h)
  contains_iff key := by
    rw [contains, Option.isSome_iff_exists, Prod.exists, exists_comm]
    exact exists_congr fun v => get?_iff_lastInsertion h
  isTruthy_iff key := by
    simp only [isTruthy, Option.any_eq_true, get?_iff_lastInsertion h, Prod.exists]
    rw [exists_comm]
    exact exists_congr fun v => exists_and_right.symm
  remove_eq _ := ⟨get?_eq_scan.symm, rfl⟩
  size_eq := by rw [size_eq_ncard, folded_keys_eq h]
  isEmpty_iff := by
    rw [isEmpty, Table.isEmpty, List.isEmpty_iff, List.eq_nil_iff_forall_not_mem]
    constructor
    · exact fun hnone key e hlast => hnone e ((h key e).2 hlast).1
    · exact fun hnone e he => hnone e.1 e ((h e.1 e).1 ⟨he, rfl⟩)

end Read

/-- After any changes a map holds the last insertions, whether its table is kept by spellings or not; and a key is
the same in two spellings exactly if these agree up to the case of ASCII letters. -/
theorem changes_remembered (changes : List Change) :
    (after changes).Remembers (changes.flatMap Change.edits) ∧
      stored changes = (after changes).table ∧
      (∀ key, (takeSpelling (stored changes) key).1 = ((after changes).remove key).1) ∧
      ∀ a b, fold a = fold b ↔ List.Forall₂ SameLetter a.toList b.toList := by
  refine ⟨remembers_of_entries fun key e => ?_, stored_eq changes, fun key => ?_, fun a b => fold_eq_iff⟩
  · rw [after_eq_foldl]
    exact mem_entries_iff_lastInsertion
  · rw [stored_eq, takeSpelling_eq]

end Property.Map

end RouteBinding
