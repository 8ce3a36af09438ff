import RouteBinding.Filter.Printer
import RouteBinding.Proofs.Filter.Reading

/-!
# Reading what was written

A filter is written as the grammar has it exactly if it is well formed (`written_render`), so that reading what
was written gives it back (`parse_render_iff`).
-/

namespace RouteBinding.Filter

open Text Grammar

/-! ### Values -/

theorem needsEscape_iff {c : Char} : needsEscape c = true ↔ c ∈ ['(', ')', '*', '\\'] := by
  simp only [needsEscape, Bool.or_eq_true, beq_iff_eq, List.mem_cons, List.not_mem_nil, or_false]
  tauto

theorem literal_escape (cs : List Char) : Literal (escape cs) cs := by
  induction cs with
  | nil => exact .nil
  | cons c cs ih =>
      rw [escape]
      split_ifs with hc
      · exact .escaped c ih
      · exact .plain (fun hmem => hc (needsEscape_iff.2 hmem)) ih

theorem value_renderParts {parts : List String} (hsome : parts ≠ []) :
    Value (renderParts parts) (parts.map String.toList) := by
  induction parts with
  | nil => exact absurd rfl hsome
  | cons p parts ih =>
      cases parts with
      | nil => exact .last (literal_escape p.toList)
      | cons q parts => exact .star (literal_escape p.toList) (ih (List.cons_ne_nil q parts))

/-! ### Filters -/

theorem IsKey.keyText {key : String} (h : IsKey key) : KeyText key.toList key :=
  ⟨h, [], Blanks.nil, (List.append_nil _).symm⟩

/-- A filter inside a combination, with no blanks behind it. -/
def rendered (f : Filter) : Operand := ⟨renderChars f, f, []⟩

theorem flatMap_rendered (fs : List Filter) : (fs.map rendered).flatMap Operand.chars = renderItems fs := by
  induction fs with
  | nil => rfl
  | cons f fs ih => simp [renderItems, ← ih, rendered, Operand.chars]

theorem map_rendered (fs : List Filter) : (fs.map rendered).map Operand.filter = fs := by
  induction fs with
  | nil => rfl
  | cons f fs ih => rw [List.map_cons, List.map_cons, ih]; rfl

theorem test_substring {key : String} {parts : List String} (hkey : IsKey key) (hstar : 2 ≤ parts.length)
    (halone : parts ≠ ["", ""]) : Test (key.toList ++ '=' :: renderParts parts) (.substring key parts) := by
  have hvalue : Value (renderParts parts) (parts.map String.toList) := by
    refine value_renderParts ?_
    rintro rfl
    exact absurd hstar (by decide)
  refine .substring hkey.keyText hvalue hstar fun hstars => halone ?_
  rw [hstars] at hvalue
  have hinjective := List.map_injective_iff.2 fun _ _ h => String.toList_injective h
  exact hinjective (value_star hvalue)

theorem operands_rendered {written : List Char → Filter → Prop} {fs : List Filter}
    (h : ∀ f ∈ fs, written (renderChars f) f) : Operands written (fs.map rendered) := by
  constructor
  case written =>
    intro o ho
    obtain ⟨f, hf, rfl⟩ := List.mem_map.1 ho
    exact h f hf
  case behind =>
    intro o ho
    obtain ⟨f, -, rfl⟩ := List.mem_map.1 ho
    exact Blanks.nil

/-- A formed filter is written in parentheses, given that the filters inside it are written as the grammar has
them. -/
theorem body_render {written : List Char → Filter → Prop} {f : Filter} {n : Nat} (hformed : f.Formed)
    (hdepth : f.depth ≤ n + 1)
    (hinside : ∀ {g : Filter}, g.Formed → g.depth ≤ n → written (renderChars g) g) :
    ∃ text, Body written text f ∧ renderChars f = '(' :: text ++ [')'] := by
  have hoperands : ∀ {fs : List Filter}, FormedItems fs → depthItems fs + 1 ≤ n + 1 →
      Operands written (fs.map rendered) := fun hfs hdepths =>
    operands_rendered fun g hg =>
      hinside (formedItems_iff.1 hfs g hg) (depthItems_le_iff.1 (Nat.le_of_succ_le_succ hdepths) g hg)
  cases f with
  | equal k v =>
      have hkey : KeyText k.toList k := IsKey.keyText hformed
      exact ⟨_, .test (.equal hkey (literal_escape v.toList)), by simp [renderChars]⟩
  | approx k v =>
      have hkey : KeyText k.toList k := IsKey.keyText hformed
      exact ⟨_, .test (.approx hkey (literal_escape v.toList)), by simp [renderChars]⟩
  | present k =>
      have hkey : KeyText k.toList k := IsKey.keyText hformed
      exact ⟨_, .test (.present hkey), by simp [renderChars]⟩
  | substring k parts =>
      obtain ⟨hkey, hstar, halone⟩ := hformed
      exact ⟨_, .test (test_substring hkey hstar halone), by simp [renderChars]⟩
  | atLeast k v =>
      have hkey : KeyText k.toList k := IsKey.keyText hformed
      exact ⟨_, .test (.atLeast hkey (literal_escape v.toList)), by simp [renderChars]⟩
  | atMost k v =>
      have hkey : KeyText k.toList k := IsKey.keyText hformed
      exact ⟨_, .test (.atMost hkey (literal_escape v.toList)), by simp [renderChars]⟩
  | all fs =>
      obtain ⟨hsome, hfs⟩ := hformed
      have hbody := Body.all Blanks.nil (by simpa using hsome) (hoperands hfs hdepth)
      rw [flatMap_rendered, map_rendered] at hbody
      exact ⟨_, hbody, rfl⟩
  | any fs =>
      obtain ⟨hsome, hfs⟩ := hformed
      have hbody := Body.any Blanks.nil (by simpa using hsome) (hoperands hfs hdepth)
      rw [flatMap_rendered, map_rendered] at hbody
      exact ⟨_, hbody, rfl⟩
  | negate g =>
      have hg : written (renderChars g) g := hinside hformed (Nat.le_of_succ_le_succ hdepth)
      have hbody := Body.negate Blanks.nil hg Blanks.nil
      rw [List.append_nil] at hbody
      exact ⟨_, hbody, rfl⟩

theorem written_render {n : Nat} {f : Filter} (hformed : f.Formed) (hdepth : f.depth ≤ n) :
    Written n (renderChars f) f := by
  induction n generalizing f with
  | zero => cases f <;> cases hdepth
  | succ n ih =>
      obtain ⟨text, hbody, htext⟩ := body_render hformed hdepth ih
      exact ⟨[], text, Blanks.nil, hbody, htext⟩

/-- What a text is read as can be written. -/
theorem wellFormed_of_parse {s : String} {f : Filter} (h : parse s = .ok f) : f.WellFormed := by
  obtain ⟨-, text, -, -, hwritten, -, -⟩ := parse_ok_iff.1 h
  obtain ⟨hformed, hdepth⟩ := hwritten.formed
  exact ⟨hformed, hdepth⟩

theorem parse_render {f : Filter} (h : f.WellFormed) : parse (render f) = .ok f := by
  rw [parse_ok_iff, render, String.toList_ofList]
  have hwritten := written_render h.formed h.shallow
  exact ⟨[], renderChars f, [], Blanks.nil, hwritten, Blanks.nil, (List.append_nil _).symm⟩

/-- Reading what was written gives the filter back exactly if it is well formed, and every filter that is read is
well formed. -/
theorem parse_render_iff (f : Filter) :
    (parse (render f) = .ok f ↔ f.WellFormed) ∧ ∀ s g, parse s = .ok g → g.WellFormed :=
  ⟨⟨wellFormed_of_parse, parse_render⟩, fun _ _ => wellFormed_of_parse⟩

/-- A star in a value comes back as a star.  A filter without operands is written but not read, and one with a
blank before its key is read as another. -/
theorem parse_render_iff_star :
    parse (render (.negate (.substring "path" ["/a*", "\\", ""]))) =
        .ok (.negate (.substring "path" ["/a*", "\\", ""])) ∧
      parse (render (.all [])) ≠ .ok (.all []) ∧ parse (render (.present " key")) ≠ .ok (.present " key") ∧
        parse "( key =*)" = .ok (.present "key") ∧ WellFormed (.present "key") := by
  have hread : parse "( key =*)" = .ok (.present "key") := by decide +kernel
  have hkey := (parse_render_iff (.present "key")).2 _ _ hread
  refine ⟨(parse_render_iff _).1.2 (by decide +kernel), ?_, ?_, hread, hkey⟩
  · rw [ne_eq, (parse_render_iff _).1]
    decide +kernel
  · rw [ne_eq, (parse_render_iff _).1]
    decide +kernel

end RouteBinding.Filter
