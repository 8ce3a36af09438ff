/-!
# Tables in key order

A table is a finite map kept as a list of entries in strictly increasing key order, so a key occurs at
most once and two tables with the same lookups are the same value (`Table.ext_get?`).  Each operation has
one equation that says what it does to a lookup (`Table.get?_insert`, `Table.get?_erase`).
-/

namespace RouteBinding

/-- A finite map whose entries are in strictly increasing key order. -/
structure Table (κ α : Type) [LT κ] where
  /-- The entries, one for each key. -/
  entries : List (κ × α)
  /-- The keys increase strictly. -/
  sorted : entries.Pairwise fun a b => a.1 < b.1

namespace Table

variable {κ α : Type} [LT κ]

def empty : Table κ α := ⟨[], .nil⟩

instance : EmptyCollection (Table κ α) := ⟨empty⟩

instance : Inhabited (Table κ α) := ⟨empty⟩

def keys (t : Table κ α) : List κ := t.entries.map (·.1)

/-- The values in the order of their keys. -/
def values (t : Table κ α) : List α := t.entries.map (·.2)

def size (t : Table κ α) : Nat := t.entries.length

def isEmpty (t : Table κ α) : Bool := t.entries.isEmpty

/-- The entries whose key passes a test. -/
def filterKeys (t : Table κ α) (p : κ → Bool) : Table κ α :=
  ⟨t.entries.filter fun e => p e.1, t.sorted.filter _⟩

/-- The table with every value replaced by its image. -/
def map {β : Type} (f : α → β) (t : Table κ α) : Table κ β :=
  ⟨t.entries.map fun e => (e.1, f e.2), List.pairwise_map.2 t.sorted⟩

instance [DecidableEq κ] [DecidableEq α] : DecidableEq (Table κ α) := fun s t =>
  decidable_of_iff (s.entries = t.entries) (by cases s; cases t; simp)

variable [DecidableEq κ]

/-- The value of the first entry with this key. -/
def find? (k : κ) : List (κ × α) → Option α
  | [] => none
  | (j, a) :: rest => if k = j then some a else find? k rest

/-- The value stored under a key. -/
def get? (t : Table κ α) (k : κ) : Option α := find? k t.entries

/-- Whether a value is stored under a key. -/
def contains (t : Table κ α) (k : κ) : Bool := (t.get? k).isSome

/-- Forget what is stored under a key. -/
def erase (t : Table κ α) (k : κ) : Table κ α := t.filterKeys (· ≠ k)

/-- Put a value in its place by key, replacing the entry with the same key. -/
def place [DecidableLT κ] (k : κ) (a : α) : List (κ × α) → List (κ × α)
  | [] => [(k, a)]
  | (j, b) :: rest =>
    if k < j then (k, a) :: (j, b) :: rest
    else if k = j then (k, a) :: rest
    else (j, b) :: place k a rest

theorem mem_place [DecidableLT κ] {k : κ} {a : α} {e : κ × α} {l : List (κ × α)}
    (h : e ∈ place k a l) : e = (k, a) ∨ e ∈ l := by
  induction l with
  | nil => simpa [place] using h
  | cons d rest ih =>
    obtain ⟨j, b⟩ := d
    simp only [place] at h
    split at h
    · simpa using h
    · split at h <;> simp only [List.mem_cons] at h ⊢ <;> grind

theorem pairwise_place [DecidableLT κ] {R : κ → κ → Prop} (hR : ∀ {i j}, R i j → R j i)
    {k : κ} {a : α} {l : List (κ × α)} (hk : ∀ e ∈ l, R k e.1)
    (hl : l.Pairwise fun a b => R a.1 b.1) : (place k a l).Pairwise fun a b => R a.1 b.1 := by
  induction l with
  | nil => simp [place]
  | cons d rest ih =>
    obtain ⟨j, b⟩ := d
    have hj := (List.pairwise_cons.1 hl).1
    have hrest := (List.pairwise_cons.1 hl).2
    have hkrest : ∀ e ∈ rest, R k e.1 := fun e he => hk e (List.mem_cons_of_mem _ he)
    simp only [place]
    split
    · exact List.pairwise_cons.2 ⟨hk, hl⟩
    · split
      · exact List.pairwise_cons.2 ⟨hkrest, hrest⟩
      · refine List.pairwise_cons.2 ⟨?_, ih hkrest hrest⟩
        intro e he
        rcases mem_place he with rfl | he
        · exact hR (hk _ (List.mem_cons_self ..))
        · exact hj e he

theorem find?_place [DecidableLT κ] (k j : κ) (a : α) (l : List (κ × α)) :
    find? j (place k a l) = if j = k then some a else find? j l := by
  induction l with
  | nil => simp [place, find?]
  | cons d rest ih =>
    obtain ⟨i, b⟩ := d
    simp only [place]
    split
    · simp [find?]
    · split
      · next h => subst h; simp only [find?]; split <;> simp_all
      · simp only [find?, ih]
        grind

omit [LT κ] in
theorem find?_filter (p : κ → Bool) (k : κ) (l : List (κ × α)) :
    find? k (l.filter fun e => p e.1) = if p k = true then find? k l else none := by
  induction l with
  | nil => simp [find?]
  | cons d rest ih =>
    obtain ⟨i, b⟩ := d
    by_cases hi : p i = true <;> simp only [List.filter_cons, hi, find?] <;> grind [find?]

omit [LT κ] in
theorem mem_of_find?_eq_some {k : κ} {a : α} {l : List (κ × α)} (h : find? k l = some a) :
    (k, a) ∈ l := by
  induction l with
  | nil => simp [find?] at h
  | cons d rest ih =>
    obtain ⟨j, b⟩ := d
    simp only [find?] at h
    split at h <;> simp_all

variable [LE κ] [Std.IsLinearOrder κ] [Std.LawfulOrderLT κ]

theorem sorted_place [DecidableLT κ] (k : κ) (a : α) {l : List (κ × α)}
    (h : l.Pairwise fun a b => a.1 < b.1) : (place k a l).Pairwise fun a b => a.1 < b.1 := by
  induction l with
  | nil => simp [place]
  | cons d rest ih =>
    obtain ⟨j, b⟩ := d
    have hj := (List.pairwise_cons.1 h).1
    have hrest := (List.pairwise_cons.1 h).2
    simp only [place]
    split
    · next hlt =>
      refine List.pairwise_cons.2 ⟨?_, h⟩
      intro e he
      rcases List.mem_cons.1 he with rfl | he
      · exact hlt
      · exact Std.lt_trans hlt (hj e he)
    · next hnlt =>
      split
      · next heq => subst heq; exact List.pairwise_cons.2 ⟨hj, hrest⟩
      · next hne =>
        refine List.pairwise_cons.2 ⟨?_, ih hrest⟩
        intro e he
        rcases mem_place he with rfl | he
        · exact Std.lt_of_le_of_ne (Std.not_lt.1 hnlt) (Ne.symm hne)
        · exact hj e he

def insert [DecidableLT κ] (t : Table κ α) (k : κ) (a : α) : Table κ α :=
  ⟨place k a t.entries, sorted_place k a t.sorted⟩

omit [LE κ] [Std.IsLinearOrder κ] [Std.LawfulOrderLT κ] in
@[simp] theorem get?_empty (k : κ) : (empty : Table κ α).get? k = none := rfl

theorem get?_insert [DecidableLT κ] (t : Table κ α) (k j : κ) (a : α) :
    (t.insert k a).get? j = if j = k then some a else t.get? j :=
  find?_place k j a t.entries

omit [LE κ] [Std.IsLinearOrder κ] [Std.LawfulOrderLT κ] in
theorem get?_filterKeys (t : Table κ α) (p : κ → Bool) (k : κ) :
    (t.filterKeys p).get? k = if p k = true then t.get? k else none :=
  find?_filter p k t.entries

omit [LE κ] [Std.IsLinearOrder κ] [Std.LawfulOrderLT κ] in
theorem get?_erase (t : Table κ α) (k j : κ) :
    (t.erase k).get? j = if j = k then none else t.get? j := by
  rw [erase, get?_filterKeys]
  by_cases hj : j = k <;> simp [hj]

omit [Std.IsLinearOrder κ] in
theorem find?_eq_none_of_lt {k : κ} {l : List (κ × α)} (h : ∀ e ∈ l, k < e.1) :
    find? k l = none := by
  cases hf : find? k l with
  | none => rfl
  | some a => exact absurd (h _ (mem_of_find?_eq_some hf)) Std.lt_irrefl

omit [Std.IsLinearOrder κ] in
theorem mem_entries_iff (t : Table κ α) (k : κ) (a : α) :
    (k, a) ∈ t.entries ↔ t.get? k = some a := by
  refine ⟨fun h => ?_, mem_of_find?_eq_some⟩
  have hs := t.sorted
  unfold get?
  revert h hs
  induction t.entries with
  | nil => simp
  | cons d rest ih =>
    intro h hs
    obtain ⟨j, b⟩ := d
    rcases List.mem_cons.1 h with heq | hmem
    · cases heq; simp [find?]
    · have hlt : j < k := (List.pairwise_cons.1 hs).1 _ hmem
      have hne : k ≠ j := fun he => absurd (he ▸ hlt) Std.lt_irrefl
      simpa [find?, hne] using ih hmem (List.pairwise_cons.1 hs).2

/-- Tables that answer every lookup alike are equal. -/
theorem ext_get? {s t : Table κ α} (h : ∀ k, s.get? k = t.get? k) : s = t := by
  obtain ⟨l, hl⟩ := s
  obtain ⟨m, hm⟩ := t
  suffices l = m by subst this; rfl
  simp only [get?] at h
  induction l generalizing m with
  | nil =>
    cases m with
    | nil => rfl
    | cons d rest => simpa [find?] using h d.1
  | cons d rest ih =>
    obtain ⟨j, b⟩ := d
    cases m with
    | nil => simpa [find?] using h j
    | cons e more =>
      obtain ⟨i, c⟩ := e
      have hjr := (List.pairwise_cons.1 hl).1
      have him := (List.pairwise_cons.1 hm).1
      have hji : j = i := by
        have h₁ := mem_of_find?_eq_some ((h j).symm.trans (by simp [find?] : find? j _ = some b))
        have h₂ := mem_of_find?_eq_some ((h i).trans (by simp [find?] : find? i _ = some c))
        rcases List.mem_cons.1 h₁ with h₁ | h₁
        · exact congrArg Prod.fst h₁
        · rcases List.mem_cons.1 h₂ with h₂ | h₂
          · exact (congrArg Prod.fst h₂).symm
          · exact absurd (Std.lt_trans (hjr _ h₂) (him _ h₁)) Std.lt_irrefl
      subst hji
      have hbc : b = c := by simpa [find?] using h j
      subst hbc
      have hrest : rest = more := by
        refine ih (List.pairwise_cons.1 hl).2 more (List.pairwise_cons.1 hm).2 fun k => ?_
        by_cases hk : k = j
        · subst hk; rw [find?_eq_none_of_lt hjr, find?_eq_none_of_lt him]
        · simpa [find?, hk] using h k
      rw [hrest]

omit [Std.IsLinearOrder κ] in
theorem mem_values {t : Table κ α} {a : α} : a ∈ t.values ↔ ∃ k, t.get? k = some a := by
  simp only [values, List.mem_map, Prod.exists, exists_eq_right, mem_entries_iff]

omit [Std.IsLinearOrder κ] in
theorem mem_keys {t : Table κ α} {k : κ} : k ∈ t.keys ↔ ∃ a, t.get? k = some a := by
  simp only [keys, List.mem_map, Prod.exists, exists_and_right, exists_eq_right, mem_entries_iff]

omit [DecidableEq κ] [LE κ] [Std.IsLinearOrder κ] [Std.LawfulOrderLT κ] in
theorem pairwise_keys (t : Table κ α) : t.keys.Pairwise (· < ·) :=
  List.pairwise_map.2 t.sorted

omit [Std.IsLinearOrder κ] in
/-- Where every value knows its key, the values in order have the keys in order. -/
theorem map_values_eq_keys {t : Table κ α} {key : α → κ}
    (h : ∀ k a, t.get? k = some a → key a = k) : t.values.map key = t.keys := by
  rw [values, keys, List.map_map]
  refine List.map_congr_left fun e he => ?_
  exact h e.1 e.2 ((mem_entries_iff t e.1 e.2).1 he)

omit [DecidableEq κ] [LE κ] [Std.IsLinearOrder κ] [Std.LawfulOrderLT κ] in
theorem values_map {β : Type} (f : α → β) (t : Table κ α) : (t.map f).values = t.values.map f := by
  simp [map, values]

omit [LE κ] [Std.IsLinearOrder κ] [Std.LawfulOrderLT κ] in
theorem get?_map {β : Type} (f : α → β) (t : Table κ α) (k : κ) :
    (t.map f).get? k = (t.get? k).map f := by
  simp only [get?, map]
  induction t.entries with
  | nil => rfl
  | cons e rest ih =>
    simp only [List.map_cons, find?, ih]
    split <;> rfl

omit [DecidableEq κ] [LE κ] [Std.IsLinearOrder κ] [Std.LawfulOrderLT κ] in
theorem keys_map {β : Type} (f : α → β) (t : Table κ α) : (t.map f).keys = t.keys := by
  simp [map, keys]

/-- Tables that have a value under the same keys have the same keys in order. -/
theorem keys_eq {β : Type} {s : Table κ α} {t : Table κ β}
    (h : ∀ k, (s.get? k).isSome = (t.get? k).isSome) : s.keys = t.keys := by
  have hunits : s.map (fun _ => ()) = t.map (fun _ => ()) := by
    refine ext_get? fun k => ?_
    rw [get?_map, get?_map]
    have hk := h k
    cases hs : s.get? k with
    | none =>
      rw [hs] at hk
      rw [Option.isSome_eq_false_iff.1 hk.symm |> Option.isNone_iff_eq_none.1]
      rfl
    | some a =>
      rw [hs] at hk
      obtain ⟨b, hb⟩ := Option.isSome_iff_exists.1 hk.symm
      rw [hb]
      rfl
  rw [← keys_map (fun _ => ()) s, hunits, keys_map]

/-- Tables that agree on the keys that pass a test have the same such keys in order. -/
theorem filter_keys_congr {s t : Table κ α} {p : κ → Bool} (h : ∀ k, p k = true → s.get? k = t.get? k) :
    s.keys.filter p = t.keys.filter p := by
  have hfilter : ∀ t : Table κ α, t.keys.filter p = (t.filterKeys p).keys := by
    intro t
    rw [keys, keys, filterKeys, List.filter_map]
    rfl
  rw [hfilter, hfilter]
  refine keys_eq fun k => ?_
  rw [get?_filterKeys, get?_filterKeys]
  split
  · next hk => rw [h k hk]
  · rfl

end Table

end RouteBinding
