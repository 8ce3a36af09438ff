import RouteBinding.Filter.Basic
import RouteBinding.Text.Blank
import Mathlib.Data.List.Basic

/-!
# The grammar of written filters

Which texts are written filters, and which filter each of them is, without regard to how they are read.  There
is one relation for each part of the grammar: the pieces of a value, a test, what stands between the parentheses
of a filter, a filter that nests at most some levels, and a filter with blanks around it.  Besides, the filters
that can be written at all (`Filter.WellFormed`): no text is another one (`Grammar.Written.formed`).
-/

namespace RouteBinding.Filter

open Text

/-- A key that a test can be written with: there is something in it, no blank at its ends and none of the
characters that end a key, and it does not start with the sign of a combination. -/
structure IsKey (key : String) : Prop where
  nonempty : key.toList ≠ []
  front : ∀ c ∈ key.toList.head?, isBlank c = false
  back : ∀ c ∈ key.toList.getLast?, isBlank c = false
  plain : ∀ c ∈ key.toList, c ∉ ['=', '<', '>', '~', '(', ')']
  unsigned : ∀ c ∈ key.toList.head?, c ∉ ['&', '|', '!']

theorem isKey_iff {key : String} : IsKey key ↔ key.toList ≠ [] ∧
    (key.toList.head?.all fun c => !isBlank c && decide (c ∉ ['&', '|', '!'])) = true ∧
      (key.toList.getLast?.all fun c => !isBlank c) = true ∧
        (key.toList.all fun c => decide (c ∉ ['=', '<', '>', '~', '(', ')'])) = true := by
  simp only [Option.all_eq_true, List.all_eq_true, Bool.and_eq_true, Bool.not_eq_true', decide_eq_true_eq]
  exact ⟨fun h => ⟨h.nonempty, fun c hc => ⟨h.front c hc, h.unsigned c hc⟩, h.back, h.plain⟩,
    fun ⟨h, k, l, m⟩ => ⟨h, fun c hc => (k c hc).1, l, m, fun c hc => (k c hc).2⟩⟩

instance (key : String) : Decidable (IsKey key) := decidable_of_iff' _ isKey_iff

/-! ### Filters that can be written -/

mutual

/-- Whether every key of a filter can be written, every combination has an operand, and the parts of every test
for parts have a star between them and are no test for presence. -/
def Formed : Filter → Prop
  | equal k _ | approx k _ | present k | atLeast k _ | atMost k _ => IsKey k
  | substring k parts => IsKey k ∧ 2 ≤ parts.length ∧ parts ≠ ["", ""]
  | all fs | any fs => fs ≠ [] ∧ FormedItems fs
  | negate f => Formed f

/-- Whether all filters of a list are formed. -/
def FormedItems : List Filter → Prop
  | [] => True
  | f :: fs => Formed f ∧ FormedItems fs

end

mutual

def decideFormed : (f : Filter) → Decidable f.Formed
  | equal k _ | approx k _ | present k | atLeast k _ | atMost k _ => inferInstanceAs (Decidable (IsKey k))
  | substring k parts => inferInstanceAs (Decidable (IsKey k ∧ 2 ≤ parts.length ∧ parts ≠ ["", ""]))
  | all fs | any fs =>
    have := decideFormedItems fs
    inferInstanceAs (Decidable (fs ≠ [] ∧ FormedItems fs))
  | negate f => decideFormed f

def decideFormedItems : (fs : List Filter) → Decidable (FormedItems fs)
  | [] => inferInstanceAs (Decidable True)
  | f :: fs =>
    have := decideFormed f
    have := decideFormedItems fs
    inferInstanceAs (Decidable (f.Formed ∧ FormedItems fs))

end

instance (f : Filter) : Decidable f.Formed := decideFormed f

theorem formedItems_iff {fs : List Filter} : FormedItems fs ↔ ∀ f ∈ fs, f.Formed := by
  induction fs with
  | nil => simp [FormedItems]
  | cons f fs ih => simp [FormedItems, ih]

/-- A filter that can be written: it is formed, and nests no deeper than is allowed. -/
structure WellFormed (f : Filter) : Prop where
  formed : f.Formed
  shallow : f.depth ≤ maxDepth

instance (f : Filter) : Decidable f.WellFormed :=
  decidable_of_iff (f.Formed ∧ f.depth ≤ maxDepth)
    ⟨fun ⟨h, k⟩ => ⟨h, k⟩, fun ⟨h, k⟩ => ⟨h, k⟩⟩

theorem depthItems_le_iff {fs : List Filter} {n : Nat} : depthItems fs ≤ n ↔ ∀ f ∈ fs, f.depth ≤ n := by
  induction fs with
  | nil => simp [depthItems]
  | cons f fs ih => rw [depthItems, Nat.max_le, ih, List.forall_mem_cons]

namespace Grammar

/-! ### Values and tests -/

/-- Blanks, of any number. -/
def Blanks (text : List Char) : Prop := ∀ c ∈ text, isBlank c = true

/-- A text without bare stars, and the characters that it stands for. -/
inductive Literal : List Char → List Char → Prop where
  | nil : Literal [] []
  | plain {c : Char} {text chars : List Char} (hc : c ∉ ['(', ')', '*', '\\']) (h : Literal text chars) :
      Literal (c :: text) (c :: chars)
  /-- Behind a backslash every character stands for itself. -/
  | escaped (c : Char) {text chars : List Char} (h : Literal text chars) :
      Literal ('\\' :: c :: text) (c :: chars)

/-- A value, and its pieces between bare stars. -/
inductive Value : List Char → List (List Char) → Prop where
  | last {text piece : List Char} (h : Literal text piece) : Value text [piece]
  | star {text piece rest : List Char} {pieces : List (List Char)} (h : Literal text piece)
      (hrest : Value rest pieces) : Value (text ++ '*' :: rest) (piece :: pieces)

/-- A key with blanks behind it. -/
def KeyText (text : List Char) (key : String) : Prop :=
  IsKey key ∧ ∃ blanks, Blanks blanks ∧ text = key.toList ++ blanks

/-- A test: a key, a sign and a value.  Bare stars are allowed behind the sign for equality only. -/
inductive Test : List Char → Filter → Prop where
  | equal {k v : List Char} {key value : String} (hkey : KeyText k key) (hvalue : Literal v value.toList) :
      Test (k ++ '=' :: v) (.equal key value)
  | present {k : List Char} {key : String} (hkey : KeyText k key) : Test (k ++ ['=', '*']) (.present key)
  /-- There is a star, and it does not stand alone. -/
  | substring {k v : List Char} {key : String} {parts : List String} (hkey : KeyText k key)
      (hvalue : Value v (parts.map String.toList)) (hstar : 2 ≤ parts.length) (halone : v ≠ ['*']) :
      Test (k ++ '=' :: v) (.substring key parts)
  | approx {k v : List Char} {key value : String} (hkey : KeyText k key) (hvalue : Literal v value.toList) :
      Test (k ++ '~' :: '=' :: v) (.approx key value)
  | atLeast {k v : List Char} {key bound : String} (hkey : KeyText k key)
      (hvalue : Literal v bound.toList) : Test (k ++ '>' :: '=' :: v) (.atLeast key bound)
  | atMost {k v : List Char} {key bound : String} (hkey : KeyText k key)
      (hvalue : Literal v bound.toList) : Test (k ++ '<' :: '=' :: v) (.atMost key bound)

/-! ### Filters -/

/-- A filter inside a combination. -/
structure Operand where
  text : List Char
  filter : Filter
  /-- The blanks behind it. -/
  behind : List Char

def Operand.chars (o : Operand) : List Char := o.text ++ o.behind

/-- Operands that are written in a language, with blanks behind them. -/
structure Operands (written : List Char → Filter → Prop) (operands : List Operand) : Prop where
  written : ∀ o ∈ operands, written o.text o.filter
  behind : ∀ o ∈ operands, Blanks o.behind

/-- What stands between the parentheses of a filter, given how the filters inside it are written. -/
inductive Body (written : List Char → Filter → Prop) : List Char → Filter → Prop where
  | test {text : List Char} {f : Filter} (h : Test text f) : Body written text f
  | all {blanks : List Char} {operands : List Operand} (hblanks : Blanks blanks) (hsome : operands ≠ [])
      (h : Operands written operands) :
      Body written ('&' :: blanks ++ operands.flatMap Operand.chars) (.all (operands.map Operand.filter))
  | any {blanks : List Char} {operands : List Operand} (hblanks : Blanks blanks) (hsome : operands ≠ [])
      (h : Operands written operands) :
      Body written ('|' :: blanks ++ operands.flatMap Operand.chars) (.any (operands.map Operand.filter))
  | negate {blanks text behind : List Char} {f : Filter} (hblanks : Blanks blanks) (h : written text f)
      (hbehind : Blanks behind) : Body written ('!' :: blanks ++ text ++ behind) (.negate f)

/-- A filter in parentheses, given how the filters inside it are written. -/
def Enclosed (written : List Char → Filter → Prop) (text : List Char) (f : Filter) : Prop :=
  ∃ blanks body, Blanks blanks ∧ Body written body f ∧ text = '(' :: blanks ++ body ++ [')']

/-- A filter that nests at most some levels. -/
def Written : Nat → List Char → Filter → Prop
  | 0 => fun _ _ => False
  | n + 1 => Enclosed (Written n)

/-- A filter that nests no deeper than is allowed, with blanks around it. -/
def Expression (text : List Char) (f : Filter) : Prop :=
  ∃ before written behind, Blanks before ∧ Written maxDepth written f ∧ Blanks behind ∧
    text = before ++ written ++ behind

/-! ### What is written is well formed -/

theorem Blanks.nil : Blanks [] := List.forall_mem_nil _

/-- A value with two empty pieces is a star that stands alone. -/
theorem Value.eq_star {text : List Char} (h : Value text [[], []]) : text = ['*'] := by
  cases h with
  | star hfirst hrest =>
      cases hfirst
      cases hrest with
      | last hlast =>
          cases hlast
          rfl
      | star _ hnone => cases hnone

theorem Test.formed {text : List Char} {f : Filter} (h : Test text f) : f.Formed ∧ f.depth = 1 := by
  cases h with
  | equal hkey _ => exact ⟨hkey.1, rfl⟩
  | present hkey => exact ⟨hkey.1, rfl⟩
  | substring hkey hvalue hstar halone =>
      refine ⟨⟨hkey.1, hstar, ?_⟩, rfl⟩
      rintro rfl
      exact halone hvalue.eq_star
  | approx hkey _ => exact ⟨hkey.1, rfl⟩
  | atLeast hkey _ => exact ⟨hkey.1, rfl⟩
  | atMost hkey _ => exact ⟨hkey.1, rfl⟩

/-- What holds of the filters inside holds of all operands. -/
theorem Operands.forall {written : List Char → Filter → Prop} {operands : List Operand} {p : Filter → Prop}
    (h : Operands written operands) (hp : ∀ {text f}, written text f → p f) :
    ∀ f ∈ operands.map Operand.filter, p f := by
  intro f hf
  obtain ⟨o, ho, rfl⟩ := List.mem_map.1 hf
  exact hp (h.written o ho)

theorem Body.formed {written : List Char → Filter → Prop} {text : List Char} {f : Filter} {n : Nat}
    (h : Body written text f) (hformed : ∀ {text f}, written text f → f.Formed ∧ f.depth ≤ n) :
    f.Formed ∧ f.depth ≤ n + 1 := by
  have hsome : ∀ {operands : List Operand}, operands ≠ [] → Operands written operands →
      (operands.map Operand.filter ≠ [] ∧ FormedItems (operands.map Operand.filter)) ∧
        depthItems (operands.map Operand.filter) ≤ n := by
    intro operands hsome hoperands
    refine ⟨⟨by simpa using hsome, formedItems_iff.2 ?_⟩, depthItems_le_iff.2 ?_⟩
    · exact hoperands.forall fun hf => (hformed hf).1
    · exact hoperands.forall fun hf => (hformed hf).2
  cases h with
  | test h =>
      obtain ⟨hf, hdepth⟩ := h.formed
      exact ⟨hf, by omega⟩
  | all _ hne hoperands =>
      obtain ⟨hf, hdepth⟩ := hsome hne hoperands
      exact ⟨hf, Nat.succ_le_succ hdepth⟩
  | any _ hne hoperands =>
      obtain ⟨hf, hdepth⟩ := hsome hne hoperands
      exact ⟨hf, Nat.succ_le_succ hdepth⟩
  | negate _ hwritten _ =>
      obtain ⟨hf, hdepth⟩ := hformed hwritten
      exact ⟨hf, Nat.succ_le_succ hdepth⟩

/-- Every filter that is written is formed, and nests no deeper than it is written. -/
theorem Written.formed {n : Nat} {text : List Char} {f : Filter} (h : Written n text f) :
    f.Formed ∧ f.depth ≤ n := by
  induction n generalizing text f with
  | zero => cases h
  | succ n ih =>
      obtain ⟨blanks, body, -, hbody, -⟩ := h
      exact hbody.formed ih

end Grammar

end RouteBinding.Filter
