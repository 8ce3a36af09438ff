import RouteBinding.Proofs.Filter.Parts

/-!
# What is read is what is written

The reader of a filter reads exactly the texts of the grammar that nest no deeper than it may read, whatever
stands behind them, and leaves some end of what was given, also where it fails (`Reads`).  This follows by
induction on the nesting (`filter_reads`), from what one pair of parentheses adds (`group_reads`).
-/

namespace RouteBinding.Filter

open Text Grammar

/-! ### Readers of filters -/

/-- A reader reads a language: what it reads is written so, what is written so it reads whatever stands behind,
and it leaves some end of what was given.  What is written starts with a parenthesis. -/
structure Reads (read : List Char → Reading Filter) (written : List Char → Filter → Prop) : Prop where
  sound : ∀ {cs rest f}, read cs = .ok (f, rest) → ∃ text, cs = text ++ rest ∧ written text f
  complete : ∀ {text f}, written text f → ∀ rest, read (text ++ rest) = .ok (f, rest)
  left : ∀ cs, leftOf (read cs) <:+ cs
  front : ∀ {text f}, written text f → text.head? = some '('

section Readers

variable {nested : List Char → Reading Filter} {written : List Char → Filter → Prop}

theorem Reads.head?_append (h : Reads nested written) {text : List Char} {f : Filter} (hwritten : written text f)
    (rest : List Char) : (text ++ rest).head? = some '(' := by
  rw [List.head?_append, h.front hwritten]
  rfl

/-- What is written and dropped behind a filter is shorter than the filter with it. -/
theorem Reads.shorter (h : Reads nested written) {cs rest : List Char} {f : Filter}
    (hread : nested cs = .ok (f, rest)) : (dropBlanks rest).length < cs.length := by
  obtain ⟨text, rfl, hwritten⟩ := h.sound hread
  have hsome : text ≠ [] := by
    rintro rfl
    cases h.front hwritten
  have hlength := List.length_pos_iff.2 hsome
  have hdrop := length_dropBlanks_le rest
  rw [List.length_append]
  omega

/-! ### Operands -/

theorem operands_sound (h : Reads nested written) {cs rest : List Char} {fs : List Filter}
    (hread : operands nested cs = .ok (fs, rest)) (hfront : ∀ c ∈ cs.head?, isBlank c = false) :
    ∃ os, Operands written os ∧ fs = os.map Operand.filter ∧ cs = os.flatMap Operand.chars ++ rest ∧
      ∀ c ∈ rest.head?, isBlank c = false := by
  fun_induction operands nested cs generalizing fs rest with
  | case1 => cases hread
  | case2 cs hopen f after hf hshort fs' rest' hrest ih =>
      cases hread
      obtain ⟨os, hos, rfl, hchars, hback⟩ := ih hrest (dropBlanks_head after)
      obtain ⟨text, rfl, htext⟩ := h.sound hf
      obtain ⟨blanks, hblanks, hafter⟩ := exists_blanks after
      refine ⟨⟨text, f, blanks⟩ :: os, ⟨?_, ?_⟩, rfl, ?_, hback⟩
      · exact List.forall_mem_cons.2 ⟨htext, hos.written⟩
      · exact List.forall_mem_cons.2 ⟨hblanks, hos.behind⟩
      · rw [hafter, hchars]
        simp [Operand.chars]
  | case3 => cases hread
  | case4 cs hopen f after hf hlong => exact absurd (h.shorter hf) hlong
  | case5 cs hopen =>
      cases hread
      exact ⟨[], ⟨List.forall_mem_nil _, List.forall_mem_nil _⟩, rfl, rfl, hfront⟩

/-- In front of operands and the parenthesis behind them no blank stands. -/
theorem operands_head (h : Reads nested written) {os : List Operand} (hos : Operands written os)
    (rest : List Char) : ∀ c ∈ (os.flatMap Operand.chars ++ ')' :: rest).head?, isBlank c = false := by
  cases os with
  | nil =>
      intro c hc
      cases hc
      rfl
  | cons o os =>
      have hhead := h.head?_append (hos.written o List.mem_cons_self)
        (o.behind ++ (os.flatMap Operand.chars ++ ')' :: rest))
      simp only [List.flatMap_cons, Operand.chars, List.append_assoc, hhead]
      intro c hc
      cases hc
      rfl

theorem operands_complete (h : Reads nested written) {os : List Operand} (hos : Operands written os)
    (rest : List Char) :
    operands nested (os.flatMap Operand.chars ++ ')' :: rest) = .ok (os.map Operand.filter, ')' :: rest) := by
  induction os with
  | nil =>
      rw [operands]
      rfl
  | cons o os ih =>
      have htail : Operands written os :=
        ⟨fun p hp => hos.written p (List.mem_cons_of_mem _ hp),
          fun p hp => hos.behind p (List.mem_cons_of_mem _ hp)⟩
      have ho := hos.written o List.mem_cons_self
      have hread := h.complete ho (o.behind ++ (os.flatMap Operand.chars ++ ')' :: rest))
      have hdrop := dropBlanks_append (hos.behind o List.mem_cons_self) (operands_head h htail rest)
      have hshort := h.shorter hread
      rw [hdrop] at hshort
      simp only [List.flatMap_cons, Operand.chars, List.append_assoc]
      rw [operands, if_pos (h.head?_append ho _), hread]
      simp only [hdrop, if_pos hshort, ih htail, List.map_cons]

theorem operands_left (h : Reads nested written) (cs : List Char) : leftOf (operands nested cs) <:+ cs := by
  fun_induction operands nested cs with
  | case1 cs hopen e hf =>
      have hleft := h.left cs
      rwa [hf] at hleft
  | case2 cs hopen f after hf hshort fs rest hrest ih =>
      have hleft := h.left cs
      rw [hf] at hleft
      rw [hrest] at ih
      exact ih.trans ((dropBlanks_suffix after).trans hleft)
  | case3 cs hopen f after hf hshort e hrest ih =>
      have hleft := h.left cs
      rw [hf] at hleft
      rw [hrest] at ih
      exact ih.trans ((dropBlanks_suffix after).trans hleft)
  | case4 cs hopen f after hf hlong => exact absurd (h.shorter hf) hlong
  | case5 => exact List.suffix_rfl

theorem combination_sound (h : Reads nested written) {cs rest : List Char} {fs : List Filter}
    (hread : combination nested cs = .ok (fs, rest)) :
    ∃ blanks os, Blanks blanks ∧ os ≠ [] ∧ Operands written os ∧ fs = os.map Operand.filter ∧
      cs = blanks ++ os.flatMap Operand.chars ++ rest ∧ dropBlanks rest = rest := by
  obtain ⟨blanks, hblanks, hcs⟩ := exists_blanks cs
  unfold combination at hread
  split at hread
  · cases hread
  · next hnone =>
    obtain ⟨os, hos, rfl, hchars, hback⟩ := operands_sound h hread (dropBlanks_head cs)
    refine ⟨blanks, os, hblanks, ?_, hos, rfl, ?_, dropBlanks_of_head hback⟩
    · rintro rfl
      exact hnone rest hread
    · rw [List.append_assoc, ← hchars, ← hcs]

theorem combination_complete (h : Reads nested written) {blanks : List Char} {os : List Operand}
    (hblanks : Blanks blanks) (hsome : os ≠ []) (hos : Operands written os) (rest : List Char) :
    combination nested (blanks ++ (os.flatMap Operand.chars ++ ')' :: rest)) =
      .ok (os.map Operand.filter, ')' :: rest) := by
  unfold combination
  rw [dropBlanks_append hblanks (operands_head h hos rest), operands_complete h hos]
  cases os with
  | nil => exact absurd rfl hsome
  | cons o os => rfl

theorem combination_left (h : Reads nested written) (cs : List Char) : leftOf (combination nested cs) <:+ cs := by
  have hleft := (operands_left h (dropBlanks cs)).trans (dropBlanks_suffix cs)
  unfold combination
  split
  · next after hnone => rwa [hnone] at hleft
  · exact hleft

/-! ### What stands between parentheses -/

/-- A test starts neither with a blank nor with the sign of a combination. -/
theorem test_head {text : List Char} {f : Filter} (h : Test text f) :
    ∃ c more, text = c :: more ∧ isBlank c = false ∧ c ∉ ['&', '|', '!'] := by
  obtain ⟨k, key, op, v, pieces, rfl, ⟨hkey, blanks, -, rfl⟩, -, -⟩ := exists_parts h
  cases hchars : key.toList with
  | nil => exact absurd hchars hkey.nonempty
  | cons c more =>
      have hhead : key.toList.head? = some c := by rw [hchars]; rfl
      exact ⟨c, more ++ blanks ++ op.sign ++ v, by simp, hkey.front c hhead, hkey.unsigned c hhead⟩

theorem body_all (nested : List Char → Reading Filter) (cs : List Char) :
    body nested ('&' :: cs) = (combination nested cs).bind fun p => .ok (.all p.1, p.2) := by
  rw [body]
  cases combination nested cs <;> rfl

theorem body_any (nested : List Char → Reading Filter) (cs : List Char) :
    body nested ('|' :: cs) = (combination nested cs).bind fun p => .ok (.any p.1, p.2) := by
  rw [body]
  cases combination nested cs <;> rfl

theorem body_negate (nested : List Char → Reading Filter) (cs : List Char) :
    body nested ('!' :: cs) = (nested (dropBlanks cs)).bind fun p => .ok (.negate p.1, p.2) := by
  rw [body]
  cases nested (dropBlanks cs) <;> rfl

theorem body_test {c : Char} {cs : List Char} (hc : c ∉ ['&', '|', '!']) :
    body nested (c :: cs) = test (c :: cs) := by
  rw [body] <;> intros <;> simp_all

theorem body_sound (h : Reads nested written) {cs rest : List Char} {f : Filter}
    (hread : body nested cs = .ok (f, rest)) (hfront : ∀ c ∈ cs.head?, isBlank c = false) :
    ∃ text, cs = text ++ dropBlanks rest ∧ Body written text f := by
  cases cs with
  | nil => cases hread
  | cons c cs =>
      by_cases hsign : c ∈ ['&', '|', '!']
      · simp only [List.mem_cons, List.not_mem_nil, or_false] at hsign
        rcases hsign with rfl | rfl | rfl
        · rw [body_all] at hread
          obtain ⟨⟨fs, left⟩, hfs, hread⟩ := bind_ok_iff.1 hread
          cases hread
          obtain ⟨blanks, os, hblanks, hsome, hos, rfl, rfl, hback⟩ := combination_sound h hfs
          rw [hback]
          exact ⟨_, rfl, .all hblanks hsome hos⟩
        · rw [body_any] at hread
          obtain ⟨⟨fs, left⟩, hfs, hread⟩ := bind_ok_iff.1 hread
          cases hread
          obtain ⟨blanks, os, hblanks, hsome, hos, rfl, rfl, hback⟩ := combination_sound h hfs
          rw [hback]
          exact ⟨_, rfl, .any hblanks hsome hos⟩
        · rw [body_negate] at hread
          obtain ⟨⟨g, left⟩, hg, hread⟩ := bind_ok_iff.1 hread
          cases hread
          obtain ⟨text, htext, hwritten⟩ := h.sound hg
          obtain ⟨blanks, hblanks, hcs⟩ := exists_blanks cs
          obtain ⟨behind, hbehind, hleft⟩ := exists_blanks left
          refine ⟨'!' :: blanks ++ text ++ behind, ?_, .negate hblanks hwritten hbehind⟩
          rw [List.append_assoc, ← hleft, List.append_assoc, ← htext, List.cons_append, ← hcs]
      · rw [body_test hsign] at hread
        have hhead : ∀ d ∈ (c :: cs).head?, isBlank d = false ∧ d ∉ ['&', '|', '!'] := by
          rintro d hd
          cases hd
          exact ⟨hfront c rfl, hsign⟩
        obtain ⟨text, htext, htest, more, rfl⟩ := test_sound hread hhead
        exact ⟨text, htext, .test htest⟩

/-- In front of the parenthesis behind a filter there may be blanks left. -/
theorem body_complete (h : Reads nested written) {text : List Char} {f : Filter} (hbody : Body written text f)
    (rest : List Char) :
    ∃ behind, Blanks behind ∧ body nested (text ++ ')' :: rest) = .ok (f, behind ++ ')' :: rest) := by
  cases hbody with
  | test htest =>
      obtain ⟨c, more, rfl, -, hc⟩ := test_head htest
      refine ⟨[], Blanks.nil, ?_⟩
      rw [List.cons_append, body_test hc, ← List.cons_append, test_complete htest]
      rfl
  | all hblanks hsome hos =>
      refine ⟨[], Blanks.nil, ?_⟩
      rw [List.cons_append, List.cons_append, List.append_assoc, body_all,
        combination_complete h hblanks hsome hos]
      rfl
  | any hblanks hsome hos =>
      refine ⟨[], Blanks.nil, ?_⟩
      rw [List.cons_append, List.cons_append, List.append_assoc, body_any,
        combination_complete h hblanks hsome hos]
      rfl
  | @negate blanks text behind f hblanks hwritten hbehind =>
      refine ⟨behind, hbehind, ?_⟩
      have hdrop : dropBlanks (blanks ++ (text ++ (behind ++ ')' :: rest))) = text ++ (behind ++ ')' :: rest) := by
        refine dropBlanks_append hblanks fun c hc => ?_
        rw [h.head?_append hwritten] at hc
        cases hc
        rfl
      simp only [List.cons_append, List.append_assoc]
      rw [body_negate, hdrop, h.complete hwritten]
      rfl

theorem body_head {text : List Char} {f : Filter} (hbody : Body written text f) (rest : List Char) :
    ∀ c ∈ (text ++ rest).head?, isBlank c = false := by
  cases hbody with
  | test htest =>
      obtain ⟨c, more, rfl, hc, -⟩ := test_head htest
      intro d hd
      cases hd
      exact hc
  | all | any | negate =>
      intro c hc
      cases hc
      rfl

theorem body_left (h : Reads nested written) (cs : List Char) : leftOf (body nested cs) <:+ cs := by
  cases cs with
  | nil => exact List.suffix_rfl
  | cons c cs =>
      by_cases hsign : c ∈ ['&', '|', '!']
      · refine List.IsSuffix.trans ?_ (List.suffix_cons c cs)
        simp only [List.mem_cons, List.not_mem_nil, or_false] at hsign
        rcases hsign with rfl | rfl | rfl
        · rw [body_all]
          exact leftOf_bind (combination_left h cs) fun p => List.suffix_rfl
        · rw [body_any]
          exact leftOf_bind (combination_left h cs) fun p => List.suffix_rfl
        · rw [body_negate]
          exact leftOf_bind ((h.left _).trans (dropBlanks_suffix cs)) fun p => List.suffix_rfl
      · rw [body_test hsign]
        exact test_left _

/-! ### Filters -/

theorem group_eq (nested : List Char → Reading Filter) (cs : List Char) :
    group nested cs = (expect '(' cs).bind fun p => (body nested (dropBlanks p.2)).bind fun q =>
      (expect ')' (dropBlanks q.2)).bind fun r => .ok (q.1, r.2) := by
  unfold group
  cases expect '(' cs with
  | error e => rfl
  | ok p =>
      simp only [Except.bind]
      cases body nested (dropBlanks p.2) with
      | error e => rfl
      | ok q =>
          dsimp only
          cases expect ')' (dropBlanks q.2) <;> rfl

/-- A pair of parentheses around what is read reads one more pair of what is written. -/
theorem group_reads (h : Reads nested written) : Reads (group nested) (Enclosed written) := by
  constructor
  case sound =>
    intro cs rest f hread
    rw [group_eq] at hread
    obtain ⟨⟨⟨⟩, inside⟩, hopen, hread⟩ := bind_ok_iff.1 hread
    obtain ⟨⟨g, after⟩, hbody, hread⟩ := bind_ok_iff.1 hread
    obtain ⟨⟨⟨⟩, left⟩, hclose, hread⟩ := bind_ok_iff.1 hread
    cases hread
    obtain ⟨body, hinside, hwritten⟩ := body_sound h hbody (dropBlanks_head inside)
    obtain ⟨blanks, hblanks, hdrop⟩ := exists_blanks inside
    refine ⟨'(' :: blanks ++ body ++ [')'], ?_, blanks, body, hblanks, hwritten, rfl⟩
    rw [expect_iff.1 hclose] at hinside
    rw [expect_iff.1 hopen, hdrop, hinside]
    simp
  case complete =>
    rintro text f ⟨blanks, body, hblanks, hbody, rfl⟩ rest
    obtain ⟨behind, hbehind, hread⟩ := body_complete h hbody rest
    have hinside : dropBlanks (blanks ++ (body ++ ')' :: rest)) = body ++ ')' :: rest :=
      dropBlanks_append hblanks (body_head hbody _)
    have hafter : dropBlanks (behind ++ ')' :: rest) = ')' :: rest :=
      dropBlanks_append hbehind fun c hc => by cases hc; rfl
    have hopen := expect_iff.2 (rfl : '(' :: (blanks ++ (body ++ ')' :: rest)) = _)
    have hclose := expect_iff.2 (rfl : ')' :: rest = _)
    simp only [List.cons_append, List.append_assoc, List.nil_append]
    simp only [group_eq, Except.bind, hopen, hinside, hread, hafter, hclose]
  case left =>
    intro cs
    rw [group_eq]
    refine leftOf_bind (expect_left '(' cs) fun p => ?_
    refine leftOf_bind ((body_left h _).trans (dropBlanks_suffix p.2)) fun q => ?_
    exact leftOf_bind ((expect_left ')' _).trans (dropBlanks_suffix q.2)) fun r => List.suffix_rfl
  case front =>
    rintro text f ⟨blanks, body, -, -, rfl⟩
    rfl

end Readers

/-- The reader that may read some nesting reads the filters that nest no deeper. -/
theorem filter_reads (n : Nat) : Reads (filter n) (Written n) := by
  induction n with
  | zero =>
      constructor
      case sound => intro cs rest f hread; cases hread
      case complete => intro text f hnone; cases hnone
      case left => exact fun cs => List.suffix_rfl
      case front => intro text f hnone; cases hnone
  | succ n ih => exact group_reads ih

theorem parseChars_iff {cs : List Char} {f : Filter} : parseChars cs = .ok f ↔ Expression cs f := by
  have hreads := filter_reads maxDepth
  constructor
  · intro hread
    unfold parseChars at hread
    split at hread
    · cases hread
    · next g rest hfilter =>
      split at hread
      · next hend =>
        cases hread
        obtain ⟨text, htext, hwritten⟩ := hreads.sound hfilter
        obtain ⟨before, hbefore, hcs⟩ := exists_blanks cs
        obtain ⟨behind, hbehind, hrest⟩ := exists_blanks rest
        rw [hend, List.append_nil] at hrest
        refine ⟨before, text, behind, hbefore, hwritten, hbehind, ?_⟩
        rw [List.append_assoc, ← hrest, ← htext, ← hcs]
      · cases hread
  · rintro ⟨before, text, behind, hbefore, hwritten, hbehind, rfl⟩
    have hfront : dropBlanks (before ++ (text ++ behind)) = text ++ behind := by
      refine dropBlanks_append hbefore fun c hc => ?_
      rw [hreads.head?_append hwritten] at hc
      cases hc
      rfl
    rw [parseChars, List.append_assoc, hfront, hreads.complete hwritten]
    simp only [dropBlanks_blanks hbehind]

theorem parseChars_left {cs : List Char} {e : Fault} (h : parseChars cs = .error e) : e.rest <:+ cs := by
  have hleft := ((filter_reads maxDepth).left (dropBlanks cs)).trans (dropBlanks_suffix cs)
  unfold parseChars at h
  split at h
  · next fault hread =>
    cases h
    rwa [hread] at hleft
  · next f rest hread =>
    rw [hread] at hleft
    split at h
    · cases h
    · next c more hdrop =>
      cases h
      rw [← hdrop]
      exact (dropBlanks_suffix rest).trans hleft

/-! ### Texts -/

theorem parse_ok_iff {s : String} {f : Filter} : parse s = .ok f ↔ Expression s.toList f := by
  rw [← parseChars_iff]
  unfold parse
  split
  · next g hread => simp [hread]
  · next e hread => simp [hread]

theorem byteCount_eq (cs : List Char) : byteCount cs = (String.ofList cs).utf8ByteSize := by
  induction cs with
  | nil => rfl
  | cons c cs ih =>
      rw [byteCount, ih, String.ofList_cons, String.utf8ByteSize_append, String.utf8ByteSize_singleton]

/-- A fault of a text stands between two characters of it. -/
theorem parse_offset {s : String} {e : Error} (h : parse s = .error e) :
    e.expression = s ∧ ∃ front behind, s = front ++ behind ∧ e.offset = front.utf8ByteSize := by
  unfold parse at h
  split at h
  · cases h
  · next fault hread =>
    cases h
    obtain ⟨front, hfront⟩ := parseChars_left hread
    have hs : s = String.ofList front ++ String.ofList fault.rest := by
      rw [← String.ofList_append, hfront, String.ofList_toList]
    have hcount : byteCount s.toList = (String.ofList front).utf8ByteSize + byteCount fault.rest := by
      rw [byteCount_eq, byteCount_eq, String.ofList_toList, ← String.utf8ByteSize_append, ← hs]
    refine ⟨rfl, String.ofList front, String.ofList fault.rest, hs, ?_⟩
    simp only [hcount, Nat.add_sub_cancel_right]

/-- A text is read as a filter exactly where the grammar has it as that filter.  Every other text is rejected, at
a place in it that stands between two of its characters. -/
theorem parse_exact (s : String) :
    (∀ f, parse s = .ok f ↔ Expression s.toList f) ∧
      ((¬∃ f, Expression s.toList f) → ∃ e, parse s = .error e ∧ e.expression = s ∧
        e.offset ≤ s.utf8ByteSize ∧ (⟨e.offset⟩ : String.Pos.Raw).IsValid s) := by
  refine ⟨fun f => parse_ok_iff, fun hnone => ?_⟩
  cases hread : parse s with
  | ok f => exact absurd ⟨f, parse_ok_iff.1 hread⟩ hnone
  | error e =>
      obtain ⟨hexpression, front, behind, hs, hoffset⟩ := parse_offset hread
      refine ⟨e, rfl, hexpression, ?_, ?_⟩
      · rw [hs, String.utf8ByteSize_append, hoffset]
        exact Nat.le_add_right _ _
      · exact String.Pos.Raw.isValid_iff_exists_append.2 ⟨front, behind, hs, by rw [hoffset]; rfl⟩

/-- A value that no parenthesis ends is rejected at the end of the text, which stands behind five bytes where the
key takes two. -/
theorem parse_exact_unterminated :
    (¬∃ f, Expression "(é=b".toList f) ∧ ∃ e, parse "(é=b" = .error e ∧ e.offset = 5 ∧
      e.offset ≤ "(é=b".utf8ByteSize ∧ (⟨e.offset⟩ : String.Pos.Raw).IsValid "(é=b" := by
  have hread : parse "(é=b" = .error ⟨"(é=b", 5, .unterminated⟩ := by decide +kernel
  have hnone : ¬∃ f, Expression "(é=b".toList f := by
    rintro ⟨f, hf⟩
    rw [← (parse_exact "(é=b").1 f, hread] at hf
    cases hf
  obtain ⟨e, he, -, hle, hvalid⟩ := (parse_exact "(é=b").2 hnone
  rw [hread] at he
  cases he
  exact ⟨hnone, _, hread, rfl, hle, hvalid⟩

end RouteBinding.Filter
