import RouteBinding.Filter.Matching
import Mathlib.Data.List.Infix

/-!
# Wildcards

A text matches some parts if it is made of them in order with any text between two (`Decomposes`).  Matching
takes each part where it first occurs; as the rest of the text is then as long as it can be, nothing is missed
(`after?_leftmost`, `globRest_iff`).  The same search by byte offsets cuts the text at offsets inside it and
between two characters only (`scan_eq`).
-/

namespace RouteBinding

namespace Property.Value

/-- A text stands in a value, at some depth of lists. -/
inductive HasText (s : String) : Value → Prop where
  | here : HasText s (.text s)
  | item {v : Value} {items : List Value} (hv : v ∈ items) (h : HasText s v) : HasText s (.list items)

variable {p : Value → Bool} {q : String → Prop}

mutual

/-- Where only texts can pass a test, a value passes it if some text in it does. -/
theorem anyScalar_iff_hasText (htext : ∀ s, p (.text s) = true ↔ q s) (hflag : ∀ b, p (.flag b) = false)
    (hnumber : ∀ i, p (.number i) = false) :
    ∀ v : Value, v.anyScalar p = true ↔ ∃ s, v.HasText s ∧ q s
  | .flag b => by
    show p (.flag b) = true ↔ _
    rw [hflag]
    exact iff_of_false (by simp) fun ⟨_, h, _⟩ => nomatch h
  | .number i => by
    show p (.number i) = true ↔ _
    rw [hnumber]
    exact iff_of_false (by simp) fun ⟨_, h, _⟩ => nomatch h
  | .text s => by
    show p (.text s) = true ↔ _
    rw [htext]
    exact ⟨fun h => ⟨s, .here, h⟩, fun ⟨_, .here, h⟩ => h⟩
  | .list items => by
    rw [anyScalar, anyItem_iff_hasText htext hflag hnumber items]
    exact ⟨fun ⟨_, hv, s, hs, hq⟩ => ⟨s, .item hv hs, hq⟩, fun ⟨s, .item hv hs, hq⟩ => ⟨_, hv, s, hs, hq⟩⟩

theorem anyItem_iff_hasText (htext : ∀ s, p (.text s) = true ↔ q s) (hflag : ∀ b, p (.flag b) = false)
    (hnumber : ∀ i, p (.number i) = false) :
    ∀ items : List Value, anyScalar.anyItem p items = true ↔ ∃ v ∈ items, ∃ s, v.HasText s ∧ q s
  | [] => by simp [anyScalar.anyItem]
  | v :: rest => by
    rw [anyScalar.anyItem, Bool.or_eq_true, anyScalar_iff_hasText htext hflag hnumber v,
      anyItem_iff_hasText htext hflag hnumber rest, List.exists_mem_cons_iff]

end

end Property.Value

namespace Filter

open Property

/-- A text is some parts in order with any text between two of them. -/
def Decomposes (first : String) (rest : List String) (s : String) : Prop :=
  ∃ gaps : List String, gaps.length = rest.length ∧
    s = first ++ String.join (List.zipWith (· ++ ·) gaps rest)

/-- A text is some parts in order with any text in front of each of them. -/
def Interleaved : List (List Char) → List Char → Prop
  | [], s => s = []
  | p :: ps, s => ∃ x rest, s = x ++ p ++ rest ∧ Interleaved ps rest

variable {p s t rest : List Char} {ps : List (List Char)}

/-! ### The first occurrence of a part -/

/-- The byte offset of the first occurrence of a part. -/
def offsetOf? (part : List Char) : List Char → Option Nat
  | [] => if part.isEmpty then some 0 else none
  | c :: rest =>
    if part.isPrefixOf (c :: rest) then some 0 else (offsetOf? part rest).map (c.utf8Size + ·)

/-- The first occurrence of a part starts behind the bytes of what is in front of it. -/
theorem offsetOf?_of_after? (h : after? p s = some rest) :
    ∃ x, s = x ++ p ++ rest ∧ offsetOf? p s = some (String.ofList x).utf8ByteSize := by
  fun_induction after? p s with
  | case1 hempty =>
      rw [List.isEmpty_iff.1 hempty]
      exact ⟨[], by simpa using h.symm, rfl⟩
  | case2 => cases h
  | case3 c tail hfront =>
      obtain ⟨later, hlater⟩ := List.isPrefixOf_iff_prefix.1 hfront
      rw [← hlater, List.drop_left, Option.some.injEq] at h
      refine ⟨[], ?_, ?_⟩
      · rw [← h, ← hlater]
        rfl
      · rw [offsetOf?, if_pos hfront]
        rfl
  | case4 c tail hfront ih =>
      obtain ⟨x, rfl, hoffset⟩ := ih h
      refine ⟨c :: x, rfl, ?_⟩
      rw [offsetOf?, if_neg hfront, hoffset, String.ofList_cons, String.utf8ByteSize_append,
        String.utf8ByteSize_singleton]
      rfl

theorem offsetOf?_eq_none (h : after? p s = none) : offsetOf? p s = none := by
  fun_induction after? p s with
  | case1 => cases h
  | case2 hempty => rw [offsetOf?, if_neg hempty]
  | case3 => cases h
  | case4 c tail hfront ih => rw [offsetOf?, if_neg hfront, ih h, Option.map_none]

/-- Behind the first occurrence of a part the rest is the longest: what follows any other occurrence is an end
of it. -/
theorem after?_leftmost {x later : List Char} (hs : s = x ++ p ++ later) :
    ∃ rest, after? p s = some rest ∧ later <:+ rest := by
  induction s generalizing x with
  | nil =>
      obtain ⟨⟨-, rfl⟩, rfl⟩ : (x = [] ∧ p = []) ∧ later = [] := by simpa [and_assoc] using hs.symm
      exact ⟨[], rfl, List.suffix_rfl⟩
  | cons c tail ih =>
      rw [after?]
      by_cases hfront : p.isPrefixOf (c :: tail) = true
      · rw [if_pos hfront]
        refine ⟨_, rfl, ?_⟩
        -- The occurrence is no further to the front than the front itself.
        have hlater : later = (c :: tail).drop (x ++ p).length := by rw [hs, List.drop_left]
        rw [hlater, List.length_append, Nat.add_comm, ← List.drop_drop]
        exact List.drop_suffix _ _
      · rw [if_neg hfront]
        cases x with
        | nil =>
            refine absurd (List.isPrefixOf_iff_prefix.2 ?_) hfront
            exact ⟨later, hs.symm⟩
        | cons d y =>
            injection hs with _ hs
            exact ih hs

/-! ### The parts behind the first -/

theorem Interleaved.extend (hne : ps ≠ []) (h : Interleaved ps s) (hst : s <:+ t) : Interleaved ps t := by
  obtain ⟨front, rfl⟩ := hst
  cases ps with
  | nil => exact absurd rfl hne
  | cons p ps =>
      obtain ⟨x, rest, rfl, hrest⟩ := h
      exact ⟨front ++ x, rest, by simp only [List.append_assoc], hrest⟩

/-- Matching each part where it first occurs finds the parts if they are there. -/
theorem globRest_iff : globRest ps s = true ↔ Interleaved ps s := by
  fun_induction globRest ps s with
  | case1 s => exact List.isEmpty_iff
  | case2 s last =>
      rw [List.isSuffixOf_iff_suffix]
      constructor
      · rintro ⟨x, rfl⟩
        exact ⟨x, [], (List.append_nil _).symm, rfl⟩
      · rintro ⟨x, rest, rfl, rfl⟩
        exact ⟨x, (List.append_nil _).symm⟩
  | case3 p s ps hmore rest hafter ih =>
      rw [ih]
      constructor
      · intro h
        obtain ⟨x, rfl, -⟩ := offsetOf?_of_after? hafter
        exact ⟨x, rest, rfl, h⟩
      · -- Taking the part earlier leaves more text for the others, of which there is one at least.
        rintro ⟨x, later, hs, h⟩
        obtain ⟨rest', hafter', hlater⟩ := after?_leftmost hs
        obtain rfl : rest' = rest := Option.some.inj (hafter'.symm.trans hafter)
        exact h.extend (fun hnil => hmore hnil) hlater
  | case4 p s ps hmore hafter =>
      refine iff_of_false (by simp) ?_
      rintro ⟨x, later, hs, -⟩
      obtain ⟨rest, hafter', -⟩ := after?_leftmost hs
      cases hafter'.symm.trans hafter

theorem interleaved_iff {ps : List String} : Interleaved (ps.map String.toList) s ↔
    ∃ gaps : List String, gaps.length = ps.length ∧
      s = (String.join (List.zipWith (· ++ ·) gaps ps)).toList := by
  induction ps generalizing s with
  | nil =>
      constructor
      · rintro rfl
        exact ⟨[], rfl, rfl⟩
      · rintro ⟨gaps, -, rfl⟩
        rw [List.zipWith_nil_right]
        rfl
  | cons p ps ih =>
      constructor
      · rintro ⟨x, rest, rfl, hrest⟩
        obtain ⟨gaps, hlength, rfl⟩ := ih.1 hrest
        refine ⟨.ofList x :: gaps, congrArg Nat.succ hlength, ?_⟩
        simp [String.join_cons]
      · rintro ⟨_ | ⟨gap, gaps⟩, hlength, rfl⟩
        · cases hlength
        · refine ⟨gap.toList, _, ?_, ih.2 ⟨gaps, Nat.succ.inj hlength, rfl⟩⟩
          simp [String.join_cons]

/-- Two parts or more are matched by the first in front and the others behind it. -/
theorem glob_eq {first : String} {rest : List String} (hmore : rest ≠ []) (s : List Char) :
    glob ((first :: rest).map String.toList) s =
      (first.toList.isPrefixOf s && globRest (rest.map String.toList) (s.drop first.toList.length)) := by
  cases rest with
  | nil => exact absurd rfl hmore
  | cons p ps => rfl

/-- A text matches two parts or more exactly if it is made of them. -/
theorem glob_iff_decomposes {first : String} {rest : List String} (hmore : rest ≠ []) {s : String} :
    glob ((first :: rest).map String.toList) s.toList = true ↔ Decomposes first rest s := by
  rw [glob_eq hmore, Bool.and_eq_true, List.isPrefixOf_iff_prefix, globRest_iff, interleaved_iff, Decomposes]
  constructor
  · rintro ⟨⟨later, hlater⟩, gaps, hlength, hgaps⟩
    refine ⟨gaps, hlength, String.toList_inj.1 ?_⟩
    rw [← hlater, List.drop_left] at hgaps
    rw [← hlater, hgaps, String.toList_append]
  · rintro ⟨gaps, hlength, rfl⟩
    rw [String.toList_append, List.drop_left]
    exact ⟨List.prefix_append _ _, gaps, hlength, rfl⟩

/-! ### The search by byte offsets -/

/-- What stands behind a byte offset, which has to be inside the text and between two characters. -/
def restFrom? (s : String) (offset : Nat) : Option String :=
  if h : (⟨offset⟩ : String.Pos.Raw).IsValid s then some (s.sliceFrom ⟨⟨offset⟩, h⟩).copy else none

/-- Whether a text holds some parts one behind the other, each at its first place, from a byte offset on, and
ends with the last; nothing if the text is cut where it has no characters apart. -/
def scanRest (s : String) : List String → Nat → Option Bool
  | [], offset => (restFrom? s offset).map fun rest => rest.toList.isEmpty
  | [last], offset => (restFrom? s offset).map fun rest => last.toList.isSuffixOf rest.toList
  | p :: ps, offset =>
    match restFrom? s offset with
    | some rest =>
      match offsetOf? p.toList rest.toList with
      | some i => scanRest s ps (offset + (i + p.utf8ByteSize))
      | none => some false
    | none => none

/-- Whether a text consists of some parts, searched by byte offsets. -/
def scan : List String → String → Option Bool
  | [], _ => some false
  | [only], s => some (s == only)
  | first :: rest, s =>
    if first.toList.isPrefixOf s.toList then scanRest s rest first.utf8ByteSize else some false

/-- Behind the bytes of the front of a text stands what is behind the front. -/
theorem restFrom?_append (front rest : String) :
    restFrom? (front ++ rest) front.utf8ByteSize = some rest := by
  have hsplits := String.Pos.splits_ofEqAppend (rfl : front ++ rest = front ++ rest)
  have hvalid : (⟨front.utf8ByteSize⟩ : String.Pos.Raw).IsValid (front ++ rest) :=
    (String.Pos.ofEqAppend rfl).isValid
  rw [restFrom?, dif_pos hvalid]
  exact congrArg some hsplits.copy_sliceFrom_eq

/-- Behind the bytes of a front the parts are looked for in what follows this front. -/
theorem scanRest_append (front later : String) (ps : List String) :
    scanRest (front ++ later) ps front.utf8ByteSize =
      some (globRest (ps.map String.toList) later.toList) := by
  induction ps generalizing front later with
  | nil =>
      rw [scanRest, restFrom?_append]
      rfl
  | cons p ps ih =>
      cases ps with
      | nil =>
          rw [scanRest, restFrom?_append]
          rfl
      | cons q qs =>
          rw [scanRest, restFrom?_append]
          · cases hafter : after? p.toList later.toList with
            | none =>
                simp only [offsetOf?_eq_none hafter, List.map_cons, globRest, hafter]
            | some rest =>
                obtain ⟨x, hlater, hoffset⟩ := offsetOf?_of_after? hafter
                -- What has been read so far is a new front, and it ends where the part ends.
                have hfront : front ++ later = (front ++ String.ofList x ++ p) ++ String.ofList rest := by
                  rw [← String.ofList_toList (s := later), hlater]
                  simp only [String.ofList_append, String.ofList_toList, String.append_assoc]
                have hsize : front.utf8ByteSize + ((String.ofList x).utf8ByteSize + p.utf8ByteSize) =
                    (front ++ String.ofList x ++ p).utf8ByteSize := by
                  rw [String.utf8ByteSize_append, String.utf8ByteSize_append, Nat.add_assoc]
                simp only [hoffset, List.map_cons, globRest, hafter]
                rw [hfront, hsize, ih, String.toList_ofList]
                rfl
          · exact List.cons_ne_nil q qs

/-- Searched by byte offsets, a text is cut inside it and between two characters only, and the answer is the
same. -/
theorem scan_eq (parts : List String) (s : String) :
    scan parts s = some (glob (parts.map String.toList) s.toList) := by
  rcases parts with _ | ⟨first, _ | ⟨p, ps⟩⟩
  · rfl
  · have hsame : (s == first) = (s.toList == first.toList) := by
      rw [Bool.eq_iff_iff, beq_iff_eq, beq_iff_eq, String.toList_inj]
    exact congrArg some hsame
  · rw [scan, glob_eq (List.cons_ne_nil p ps)]
    · by_cases hfront : first.toList.isPrefixOf s.toList = true
      · obtain ⟨later, hlater⟩ := List.isPrefixOf_iff_prefix.1 hfront
        have hs : s = first ++ String.ofList later := by
          rw [← String.toList_inj, ← hlater, String.toList_append, String.toList_ofList]
        rw [if_pos hfront, hfront, Bool.true_and, ← hlater, List.drop_left]
        conv_lhs => rw [hs]
        rw [scanRest_append, String.toList_ofList]
      · rw [if_neg hfront, Bool.eq_false_iff.2 hfront, Bool.false_and]
    · exact List.cons_ne_nil p ps

/-- A test for parts looks for a text in the value of its key, at any depth of lists. -/
theorem accepts_substring_iff {props : Map} {k : String} {parts : List String} :
    accepts props (.substring k parts) = true ↔ ∃ v, props.get? k = some v ∧
      ∃ s, v.HasText s ∧ glob (parts.map String.toList) s.toList = true := by
  rw [accepts, holds]
  cases props.get? k with
  | none => simp
  | some v =>
      simp only [Option.some.injEq, exists_eq_left']
      exact Value.anyScalar_iff_hasText (fun _ => Iff.rfl) (fun _ => rfl) (fun _ => rfl) v

/-- Matching finds two parts or more exactly where a text is made of them, cuts the text between characters only,
and so a test for parts holds exactly if some text in the value of its key is made of them. -/
theorem wildcard_complete {first : String} {rest : List String} (hmore : rest ≠ []) :
    (∀ s : String, (glob ((first :: rest).map String.toList) s.toList = true ↔ Decomposes first rest s) ∧
      scan (first :: rest) s = some (glob ((first :: rest).map String.toList) s.toList)) ∧
    ∀ (props : Map) (k : String), accepts props (.substring k (first :: rest)) = true ↔
      ∃ v, props.get? k = some v ∧ ∃ s, v.HasText s ∧ Decomposes first rest s := by
  refine ⟨fun s => ⟨glob_iff_decomposes hmore, scan_eq _ s⟩, fun props k => ?_⟩
  rw [accepts_substring_iff]
  exact exists_congr fun v => and_congr_right fun _ => exists_congr fun s =>
    and_congr_right fun _ => glob_iff_decomposes hmore

/-- Two parts that could share an arrow need two of them. -/
theorem arrows_wildcard_complete : ["é→", "→é"] ≠ [] ∧ Decomposes "é" ["é→", "→é"] "éxé→→é" ∧
    ¬Decomposes "é" ["é→", "→é"] "éxé→é" ∧
      scan ["é", "é→", "→é"] "éxé→→é" = some true ∧ scan ["é", "é→", "→é"] "éxé→é" = some false := by
  obtain ⟨htwo, htwo'⟩ := (@wildcard_complete "é" ["é→", "→é"] (by decide)).1 "éxé→→é"
  obtain ⟨hone, hone'⟩ := (@wildcard_complete "é" ["é→", "→é"] (by decide)).1 "éxé→é"
  have hmatch : glob (["é", "é→", "→é"].map String.toList) "éxé→→é".toList = true := by decide +kernel
  have hmiss : glob (["é", "é→", "→é"].map String.toList) "éxé→é".toList = false := by decide +kernel
  refine ⟨by decide, htwo.1 hmatch, fun h => ?_, htwo'.trans (congrArg some hmatch),
    hone'.trans (congrArg some hmiss)⟩
  exact absurd (hone.2 h) (by rw [hmiss]; decide)

end Filter

end RouteBinding
