import RouteBinding.Filter.Parser
import RouteBinding.Proofs.Filter.Grammar
import Mathlib.Data.List.DropRight

/-!
# Reading the parts of a test

The readers below the reader of filters: what they read is written as the grammar has it (`.._sound`), what is
written so they read whatever stands behind (`.._complete`), and they leave some end of what was given, also where
they fail (`.._left`).  A test is made of a key, a sign and a value (`test_of_parts`, `exists_parts`).
-/

namespace RouteBinding.Filter

open Text Grammar

/-! ### Blanks -/

theorem exists_blanks (cs : List Char) : ∃ blanks, Blanks blanks ∧ cs = blanks ++ dropBlanks cs :=
  ⟨cs.takeWhile isBlank, fun _ hc => List.mem_takeWhile_imp hc, List.takeWhile_append_dropWhile.symm⟩

theorem dropBlanks_head (cs : List Char) : ∀ c ∈ (dropBlanks cs).head?, isBlank c = false := by
  have hhead := List.head?_dropWhile_not isBlank cs
  intro c hc
  have hc : (cs.dropWhile isBlank).head? = some c := hc
  rw [hc] at hhead
  exact hhead

/-- Blanks in front of a text that starts with something else are dropped, and nothing besides. -/
theorem dropBlanks_append {blanks text : List Char} (hblanks : Blanks blanks)
    (htext : ∀ c ∈ text.head?, isBlank c = false) : dropBlanks (blanks ++ text) = text := by
  unfold dropBlanks
  rw [List.dropWhile_append_of_pos hblanks]
  cases text with
  | nil => rfl
  | cons c rest => rw [List.dropWhile_cons_of_neg (by simp [htext c rfl])]

theorem dropBlanks_of_head {text : List Char} (h : ∀ c ∈ text.head?, isBlank c = false) :
    dropBlanks text = text := by
  have hdrop : dropBlanks ([] ++ text) = text := dropBlanks_append Blanks.nil h
  exact hdrop

theorem dropBlanks_blanks {blanks : List Char} (h : Blanks blanks) : dropBlanks blanks = [] := by
  have hdrop : dropBlanks (blanks ++ []) = [] := dropBlanks_append h fun c hc => nomatch hc
  rwa [List.append_nil] at hdrop

theorem dropBlanks_suffix (cs : List Char) : dropBlanks cs <:+ cs := List.dropWhile_suffix _

/-- What is left does not end in what is dropped from the end. -/
theorem rdropWhile_getLast? {α : Type} {p : α → Bool} (l : List α) :
    ∀ a ∈ (l.rdropWhile p).getLast?, p a = false := by
  intro a ha
  have hne : l.rdropWhile p ≠ [] := by
    rintro hnil
    rw [hnil] at ha
    cases ha
  rw [List.getLast?_eq_some_getLast hne] at ha
  obtain rfl := Option.some.inj ha
  exact Bool.eq_false_iff.2 (List.rdropWhile_last_not p l hne)

theorem endsKey_iff {c : Char} : endsKey c = true ↔ c ∈ ['=', '<', '>', '~', '(', ')'] := by
  simp [endsKey, or_assoc]

theorem isBlank_of_endsKey {c : Char} (h : endsKey c = true) : isBlank c = false := by
  have hnone : (['=', '<', '>', '~', '(', ')'].all fun d => !isBlank d) = true := rfl
  simpa using List.all_eq_true.1 hnone c (endsKey_iff.1 h)

/-! ### One reader behind the other -/

/-- What a reader leaves, also where it fails. -/
def leftOf {α : Type} : Reading α → List Char
  | .ok r => r.2
  | .error e => e.rest

theorem bind_ok_iff {α β : Type} {r : Except Fault α} {next : α → Except Fault β} {b : β} :
    r.bind next = .ok b ↔ ∃ a, r = .ok a ∧ next a = .ok b := by
  cases r <;> simp [Except.bind]

/-- Readers one behind the other leave some end of what was given if each of them does. -/
theorem leftOf_bind {α β : Type} {cs : List Char} {r : Reading α} {next : α × List Char → Reading β}
    (hr : leftOf r <:+ cs) (hnext : ∀ p, leftOf (next p) <:+ p.2) : leftOf (r.bind next) <:+ cs := by
  cases r with
  | error e => exact hr
  | ok p => exact (hnext p).trans hr

/-! ### Keys -/

/-- A run of characters is a key with blanks behind it where it starts neither with a blank nor with the sign of
a combination. -/
theorem keyText_of_run {run : List Char} (hplain : ∀ c ∈ run, endsKey c = false)
    (hfront : ∀ c ∈ run.head?, isBlank c = false ∧ c ∉ ['&', '|', '!']) (hsome : trimmed run ≠ []) :
    KeyText run (String.ofList (trimmed run)) := by
  have htrimmed : trimmed run = run.rdropWhile isBlank := by
    have hnone : dropBlanks run = run := dropBlanks_of_head fun c hc => (hfront c hc).1
    rw [trimmed, dropBlanksRight, hnone]
    rfl
  rw [htrimmed] at hsome ⊢
  have hsplit : run.rdropWhile isBlank ++ run.rtakeWhile isBlank = run := List.rdropWhile_append_rtakeWhile
  have hhead : (run.rdropWhile isBlank).head? = run.head? := by
    rw [← List.head?_append_of_ne_nil _ hsome, hsplit]
  refine ⟨?_, run.rtakeWhile isBlank, fun c hc => List.mem_rtakeWhile_imp hc, ?_⟩
  · constructor <;> rw [String.toList_ofList]
    case nonempty => exact hsome
    case front => exact fun c hc => (hfront c (hhead ▸ hc)).1
    case back => exact rdropWhile_getLast? run
    case plain =>
      intro c hc
      have hmem : c ∈ run := hsplit ▸ List.mem_append_left _ hc
      exact fun h => Bool.eq_false_iff.1 (hplain c hmem) (endsKey_iff.2 h)
    case unsigned => exact fun c hc => (hfront c (hhead ▸ hc)).2
  · rw [String.toList_ofList, hsplit]

/-- The blanks behind a key are not part of it. -/
theorem trimmed_key {key : String} {blanks : List Char} (hkey : IsKey key) (hblanks : Blanks blanks) :
    trimmed (key.toList ++ blanks) = key.toList := by
  have hfront : dropBlanks (key.toList ++ blanks) = key.toList ++ blanks := by
    refine dropBlanks_of_head fun c hc => hkey.front c ?_
    rwa [← List.head?_append_of_ne_nil key.toList hkey.nonempty]
  have hback : dropBlanks (blanks.reverse ++ key.toList.reverse) = key.toList.reverse := by
    refine dropBlanks_append (fun c hc => hblanks c (List.mem_reverse.1 hc)) fun c hc => hkey.back c ?_
    rwa [List.head?_reverse] at hc
  rw [trimmed, hfront, dropBlanksRight, List.reverse_append]
  exact List.reverse_eq_iff.2 hback

/-- A key ends where a character ends it. -/
theorem key_plain {k : List Char} {key : String} (h : KeyText k key) : ∀ c ∈ k, endsKey c = false := by
  obtain ⟨hkey, blanks, hblanks, rfl⟩ := h
  intro c hc
  refine Bool.eq_false_iff.2 fun hends => ?_
  rcases List.mem_append.1 hc with hc | hc
  · exact hkey.plain c hc (endsKey_iff.1 hends)
  · have hblank := hblanks c hc
    rw [isBlank_of_endsKey hends] at hblank
    cases hblank

/-! ### Values -/

/-- A character in front of a value, written in some way, belongs to the first piece. -/
theorem value_cons {c : Char} {text : List Char} {pieces : List (List Char)} (front : List Char)
    (hfront : ∀ {text chars}, Literal text chars → Literal (front ++ text) (c :: chars))
    (h : Value text pieces) : Value (front ++ text) (consPart c pieces) := by
  cases h with
  | last h => exact .last (hfront h)
  | star h hrest =>
      rw [← List.append_assoc]
      exact .star (hfront h) hrest

theorem value_sound {cs rest : List Char} {pieces : List (List Char)} (h : value cs = .ok (pieces, rest)) :
    ∃ text, cs = text ++ rest ∧ Value text pieces ∧ ∃ more, rest = ')' :: more := by
  fun_induction value cs generalizing pieces rest with
  | case1 | case3 | case4 | case6 | case8 | case10 => cases h
  | case2 more =>
      cases h
      exact ⟨[], rfl, .last .nil, more, rfl⟩
  | case5 c cs parts after hread ih =>
      cases h
      obtain ⟨text, rfl, hvalue, hmore⟩ := ih hread
      exact ⟨'\\' :: c :: text, rfl, value_cons ['\\', c] (.escaped c) hvalue, hmore⟩
  | case7 cs parts after hread ih =>
      cases h
      obtain ⟨text, rfl, hvalue, hmore⟩ := ih hread
      exact ⟨'*' :: text, rfl, .star .nil hvalue, hmore⟩
  | case9 c cs hclose hopen hend hescape hstar parts after hread ih =>
      cases h
      have hc : c ∉ ['(', ')', '*', '\\'] := by
        simp only [List.mem_cons, List.not_mem_nil, or_false]
        rintro (rfl | rfl | rfl | rfl)
        · exact hopen rfl
        · exact hclose rfl
        · exact hstar rfl
        · cases cs with
          | nil => exact hend rfl rfl
          | cons d cs => exact hescape d cs rfl rfl
      obtain ⟨text, rfl, hvalue, hmore⟩ := ih hread
      exact ⟨c :: text, rfl, value_cons [c] (.plain hc) hvalue, hmore⟩

/-- A text without bare stars in front of a value belongs to the first piece. -/
theorem value_literal {text chars tail rest piece : List Char} {pieces : List (List Char)}
    (h : Literal text chars) (htail : value tail = .ok (piece :: pieces, rest)) :
    value (text ++ tail) = .ok ((chars ++ piece) :: pieces, rest) := by
  induction h with
  | nil => exact htail
  | @plain c text chars hc _ ih =>
      rw [List.cons_append, value, ih]
      · rfl
      -- The character is none of those that are read in another way.
      all_goals
        intros
        simp_all
  | escaped c _ ih =>
      rw [List.cons_append, List.cons_append, value, ih]
      rfl

theorem value_complete {text rest : List Char} {pieces : List (List Char)} (h : Value text pieces) :
    value (text ++ ')' :: rest) = .ok (pieces, ')' :: rest) := by
  induction h with
  | @last text piece h =>
      have hend : value (')' :: rest) = .ok ([[]], ')' :: rest) := rfl
      have hread := value_literal h hend
      rwa [List.append_nil] at hread
  | @star text piece more pieces h _ ih =>
      have hstar : value ('*' :: (more ++ ')' :: rest)) = .ok ([] :: pieces, ')' :: rest) := by rw [value, ih]
      have hread := value_literal h hstar
      rwa [List.append_nil, ← List.cons_append, ← List.append_assoc] at hread

theorem value_left (cs : List Char) : leftOf (value cs) <:+ cs := by
  fun_induction value cs with
  | case1 | case2 | case3 => exact List.suffix_rfl
  | case4 => exact List.nil_suffix
  | case5 c cs parts after hread ih =>
      rw [hread] at ih
      exact ih.trans (List.suffix_append ['\\', c] cs)
  | case6 c cs e hread ih =>
      rw [hread] at ih
      exact ih.trans (List.suffix_append ['\\', c] cs)
  | case7 cs parts after hread ih =>
      rw [hread] at ih
      exact ih.trans (List.suffix_cons '*' cs)
  | case8 cs e hread ih =>
      rw [hread] at ih
      exact ih.trans (List.suffix_cons '*' cs)
  | case9 c cs _ _ _ _ _ parts after hread ih =>
      rw [hread] at ih
      exact ih.trans (List.suffix_cons c cs)
  | case10 c cs _ _ _ _ _ e hread ih =>
      rw [hread] at ih
      exact ih.trans (List.suffix_cons c cs)

/-! ### Signs -/

theorem expect_iff {c : Char} {cs rest : List Char} : expect c cs = .ok ((), rest) ↔ cs = c :: rest := by
  cases cs with
  | nil => simp [expect]
  | cons d cs => by_cases hd : d = c <;> simp [expect, hd]

theorem expect_left (c : Char) (cs : List Char) : leftOf (expect c cs) <:+ cs := by
  cases cs with
  | nil => exact List.suffix_rfl
  | cons d cs =>
      rw [expect]
      split
      · exact List.suffix_cons d cs
      · exact List.suffix_cons d cs

/-- How the sign of a test is written. -/
def Operator.sign : Operator → List Char
  | equal => ['=']
  | approx => ['~', '=']
  | atLeast => ['>', '=']
  | atMost => ['<', '=']

theorem operator_complete (op : Operator) (rest : List Char) : operator (op.sign ++ rest) = .ok (op, rest) := by
  cases op <;> rfl

theorem operator_cons (c : Char) (cs : List Char) : operator (c :: cs) =
    if c = '=' then .ok (.equal, cs)
    else if c = '~' then (expect '=' cs).bind fun p => .ok (.approx, p.2)
    else if c = '>' then (expect '=' cs).bind fun p => .ok (.atLeast, p.2)
    else if c = '<' then (expect '=' cs).bind fun p => .ok (.atMost, p.2)
    else .error ⟨.noOperator, cs⟩ := by
  simp only [operator]
  cases expect '=' cs <;> rfl

theorem operator_sound {cs rest : List Char} {op : Operator} (h : operator cs = .ok (op, rest)) :
    cs = op.sign ++ rest := by
  cases cs with
  | nil => cases h
  | cons c cs =>
      have hsigned : ∀ {op' : Operator}, ((expect '=' cs).bind fun p => .ok (op', p.2)) = .ok (op, rest) →
          op' = op ∧ cs = '=' :: rest := by
        intro op' h
        obtain ⟨⟨⟨⟩, after⟩, hequal, h⟩ := bind_ok_iff.1 h
        cases h
        exact ⟨rfl, expect_iff.1 hequal⟩
      rw [operator_cons] at h
      split_ifs at h with hc hc hc hc
      · cases h
        rw [hc]
        rfl
      all_goals
        obtain ⟨rfl, rfl⟩ := hsigned h
        rw [hc]
        rfl

theorem operator_left (cs : List Char) : leftOf (operator cs) <:+ cs := by
  cases cs with
  | nil => exact List.suffix_rfl
  | cons c cs =>
      refine List.IsSuffix.trans ?_ (List.suffix_cons c cs)
      have hsigned : ∀ op : Operator, leftOf ((expect '=' cs).bind fun p => .ok (op, p.2)) <:+ cs :=
        fun op => leftOf_bind (expect_left '=' cs) fun p => List.suffix_rfl
      rw [operator_cons]
      split_ifs
      · exact List.suffix_rfl
      · exact hsigned .approx
      · exact hsigned .atLeast
      · exact hsigned .atMost
      · exact List.suffix_rfl

/-! ### Tests -/

theorem literal_of_value {text piece : List Char} (h : Value text [piece]) : Literal text piece := by
  cases h with
  | last h => exact h
  | star _ hnone => cases hnone

/-- A star that stands alone has two empty pieces and no others. -/
theorem value_star {pieces : List (List Char)} (h : Value ['*'] pieces) : pieces = [[], []] := by
  have hread : value ['*', ')'] = .ok (pieces, [')']) := value_complete h
  have halone : value ['*', ')'] = .ok ([[], []], [')']) := rfl
  rw [halone] at hread
  cases hread
  rfl

/-- What a key, a sign and a value make is a test. -/
theorem test_of_parts {k v : List Char} {key : String} {op : Operator} {pieces : List (List Char)} {f : Filter}
    (hkey : KeyText k key) (hvalue : Value v pieces)
    (h : test? key op (pieces.map String.ofList) = some f) : Test (k ++ op.sign ++ v) f := by
  obtain ⟨parts, rfl⟩ : ∃ parts : List String, pieces = parts.map String.toList :=
    ⟨pieces.map String.ofList, by simp⟩
  have hparts : (parts.map String.toList).map String.ofList = parts := by simp
  rw [hparts] at h
  rw [List.append_assoc]
  unfold test? at h
  split at h <;> cases h
  · exact .equal hkey (literal_of_value hvalue)
  · rw [Value.eq_star hvalue]
    exact .present hkey
  · next hone htwo =>
    refine .substring hkey hvalue ?_ ?_
    · match parts, hvalue, hone with
      | [only], _, hone => exact absurd rfl (hone only)
      | _ :: _ :: _, _, _ => exact Nat.le_add_left 2 _
    · rintro rfl
      have hempty : parts = ["", ""] :=
        List.map_injective_iff.2 (fun _ _ h => String.toList_injective h) (value_star hvalue)
      exact htwo hempty
  · exact .approx hkey (literal_of_value hvalue)
  · exact .atLeast hkey (literal_of_value hvalue)
  · exact .atMost hkey (literal_of_value hvalue)

theorem test?_substring {key : String} {parts : List String} (hstar : 2 ≤ parts.length)
    (halone : parts ≠ ["", ""]) : test? key .equal parts = some (.substring key parts) := by
  unfold test?
  split <;> simp_all

/-- Every test is made of a key, a sign and a value. -/
theorem exists_parts {text : List Char} {f : Filter} (h : Test text f) :
    ∃ k key op v pieces, text = k ++ Operator.sign op ++ v ∧ KeyText k key ∧ Value v pieces ∧
      test? key op (pieces.map String.ofList) = some f := by
  cases h with
  | @equal k v key value hkey hvalue =>
      exact ⟨k, key, .equal, v, [value.toList], by simp [Operator.sign], hkey, .last hvalue, by simp [test?]⟩
  | @present k key hkey =>
      exact ⟨k, key, .equal, ['*'], [[], []], by simp [Operator.sign], hkey, .star .nil (.last .nil), rfl⟩
  | @substring k v key parts hkey hvalue hstar halone =>
      refine ⟨k, key, .equal, v, parts.map String.toList, by simp [Operator.sign], hkey, hvalue, ?_⟩
      have hparts : (parts.map String.toList).map String.ofList = parts := by simp
      rw [hparts]
      refine test?_substring hstar ?_
      rintro rfl
      exact halone hvalue.eq_star
  | @approx k v key value hkey hvalue =>
      exact ⟨k, key, .approx, v, [value.toList], by simp [Operator.sign], hkey, .last hvalue, by simp [test?]⟩
  | @atLeast k v key bound hkey hvalue =>
      exact ⟨k, key, .atLeast, v, [bound.toList], by simp [Operator.sign], hkey, .last hvalue, by simp [test?]⟩
  | @atMost k v key bound hkey hvalue =>
      exact ⟨k, key, .atMost, v, [bound.toList], by simp [Operator.sign], hkey, .last hvalue, by simp [test?]⟩

/-- A test is read as a key up to the first character that ends one, a sign and a value. -/
theorem test_eq (cs : List Char) :
    test cs =
      if (trimmed (cs.takeWhile fun c => !endsKey c)).isEmpty then
        .error ⟨.noKey, cs.dropWhile fun c => !endsKey c⟩
      else
        (operator (cs.dropWhile fun c => !endsKey c)).bind fun p => (value p.2).bind fun q =>
          (test? (String.ofList (trimmed (cs.takeWhile fun c => !endsKey c))) p.1 (q.1.map String.ofList)).elim
            (.error ⟨.misplacedWildcard, q.2⟩) fun f => .ok (f, q.2) := by
  unfold test
  generalize (cs.takeWhile fun c => !endsKey c) = run
  generalize (cs.dropWhile fun c => !endsKey c) = behind
  dsimp only
  split
  · rfl
  · cases operator behind with
    | error e => rfl
    | ok p =>
        simp only [Except.bind]
        cases value p.2 with
        | error e => rfl
        | ok q =>
            dsimp only
            cases test? (String.ofList (trimmed run)) p.1 (q.1.map String.ofList) <;> rfl

theorem test_complete {text : List Char} {f : Filter} (h : Test text f) (rest : List Char) :
    test (text ++ ')' :: rest) = .ok (f, ')' :: rest) := by
  obtain ⟨k, key, op, v, pieces, rfl, hkey, hvalue, hmade⟩ := exists_parts h
  have hplain : ∀ c ∈ k, (!endsKey c) = true := fun c hc => by rw [key_plain hkey c hc]; rfl
  obtain ⟨hkey, blanks, hblanks, rfl⟩ := hkey
  have hsome : key.toList.isEmpty = false := by simpa using hkey.nonempty
  have hrun : ((op.sign ++ (v ++ ')' :: rest)).takeWhile fun c => !endsKey c) = [] := by cases op <;> rfl
  have hbehind : ((op.sign ++ (v ++ ')' :: rest)).dropWhile fun c => !endsKey c) =
      op.sign ++ (v ++ ')' :: rest) := by cases op <;> rfl
  rw [List.append_assoc, List.append_assoc, test_eq, List.takeWhile_append_of_pos hplain,
    List.dropWhile_append_of_pos hplain, hrun, hbehind, List.append_nil, trimmed_key hkey hblanks, hsome,
    if_neg Bool.false_ne_true, operator_complete]
  simp only [Except.bind, value_complete hvalue, String.ofList_toList, hmade, Option.elim]

theorem test_sound {cs rest : List Char} {f : Filter} (h : test cs = .ok (f, rest))
    (hfront : ∀ c ∈ cs.head?, isBlank c = false ∧ c ∉ ['&', '|', '!']) :
    ∃ text, cs = text ++ rest ∧ Test text f ∧ ∃ more, rest = ')' :: more := by
  have hsplit : (cs.takeWhile fun c => !endsKey c) ++ (cs.dropWhile fun c => !endsKey c) = cs :=
    List.takeWhile_append_dropWhile
  have hplain : ∀ c ∈ cs.takeWhile fun c => !endsKey c, endsKey c = false := fun c hc => by
    simpa using List.mem_takeWhile_imp hc
  rw [test_eq] at h
  generalize (cs.takeWhile fun c => !endsKey c) = run at h hsplit hplain
  generalize (cs.dropWhile fun c => !endsKey c) = behind at h hsplit
  subst hsplit
  simp only [List.isEmpty_iff] at h
  split_ifs at h with hnone
  obtain ⟨⟨op, after⟩, hop, h⟩ := bind_ok_iff.1 h
  obtain ⟨⟨pieces, left⟩, hvalue, h⟩ := bind_ok_iff.1 h
  cases hmade : test? (String.ofList (trimmed run)) op (pieces.map String.ofList) with
  | none =>
      rw [hmade] at h
      cases h
  | some g =>
      rw [hmade] at h
      cases h
      obtain rfl := operator_sound hop
      obtain ⟨v, rfl, hv, hmore⟩ := value_sound hvalue
      have hhead : run.head? = (run ++ (op.sign ++ (v ++ left))).head? := by
        rw [List.head?_append_of_ne_nil]
        rintro rfl
        exact hnone rfl
      have hkey : KeyText run (String.ofList (trimmed run)) :=
        keyText_of_run hplain (fun c hc => hfront c (hhead ▸ hc)) hnone
      exact ⟨run ++ op.sign ++ v, by simp, test_of_parts hkey hv hmade, hmore⟩

theorem test_left (cs : List Char) : leftOf (test cs) <:+ cs := by
  have hbehind : (cs.dropWhile fun c => !endsKey c) <:+ cs := List.dropWhile_suffix _
  rw [test_eq]
  split
  · exact hbehind
  · refine leftOf_bind ((operator_left _).trans hbehind) fun p => leftOf_bind (value_left p.2) fun q => ?_
    generalize test? _ p.1 (q.1.map String.ofList) = made
    cases made <;> exact List.suffix_rfl

end RouteBinding.Filter
