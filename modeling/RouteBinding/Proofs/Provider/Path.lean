import RouteBinding.Provider.Group
import RouteBinding.Proofs.Conflict.Claim
import RouteBinding.Proofs.Filter.Parts
import Mathlib.Logic.Function.Iterate

/-!
# Spellings of a path

A path may be written with blanks in front, with blanks and slashes behind and without the slash in front; it is
the same path, and has one canonical spelling.  Normalizing keeps the path that is written
(`canonicalPath_normalizePath`) and changes nothing exactly where it is written canonically
(`normalizePath_eq_self_iff`).  Blanks and slashes at the end are dropped once each, so a blank that stands in
front of the last slashes is left at the end (`HidesBlank`).  All other spellings are normalized at once to the
canonical one, and these after some more rounds (`path_normalized`).
-/

namespace RouteBinding

open Text Filter.Grammar

/-! ### Dropping from the end -/

section Dropping

variable {α : Type} {p q : α → Bool}

/-- What is dropped first from the end may as well be dropped together with more. -/
theorem rdropWhile_absorbs (h : ∀ a, p a = true → q a = true) (l : List α) :
    (l.rdropWhile p).rdropWhile q = l.rdropWhile q := by
  induction l using List.reverseRecOn with
  | nil => rfl
  | append_singleton l a ih =>
      by_cases ha : p a = true
      · rw [List.rdropWhile_concat_pos p l a ha, List.rdropWhile_concat_pos q l a (h a ha), ih]
      · rw [List.rdropWhile_concat_neg p l a ha]

theorem rdropWhile_append_of_all {l : List α} (hl : ∀ a ∈ l, p a = true) (front : List α) :
    (front ++ l).rdropWhile p = front.rdropWhile p := by
  induction l using List.reverseRecOn with
  | nil => rw [List.append_nil]
  | append_singleton l a ih =>
      have ha : p a = true := hl a (by simp)
      rw [← List.append_assoc, List.rdropWhile_concat_pos p _ a ha]
      exact ih fun b hb => hl b (List.mem_append_left _ hb)

theorem rdropWhile_eq_self {l : List α} (h : ∀ a ∈ l.getLast?, p a = false) : l.rdropWhile p = l := by
  refine List.rdropWhile_eq_self_iff.2 fun hl => Bool.eq_false_iff.1 (h _ ?_)
  exact List.getLast?_eq_some_getLast hl

/-- An item in front is dropped only if all others are. -/
theorem rdropWhile_cons (a : α) (l : List α) (h : l.rdropWhile p ≠ []) :
    (a :: l).rdropWhile p = a :: l.rdropWhile p := by
  have hsplit : a :: l = (a :: l.rdropWhile p) ++ l.rtakeWhile p := by
    rw [List.cons_append, List.rdropWhile_append_rtakeWhile]
  have hlast : ∀ b ∈ (a :: l.rdropWhile p).getLast?, p b = false := by
    rw [List.getLast?_cons_of_ne_nil h]
    exact Filter.rdropWhile_getLast? l
  conv_lhs => rw [hsplit]
  rw [rdropWhile_append_of_all (fun b hb => List.mem_rtakeWhile_imp hb), rdropWhile_eq_self hlast]

end Dropping

/-! ### The canonical spelling -/

/-- A text with a slash in front. -/
def rooted (cs : List Char) : List Char :=
  match cs with
  | '/' :: _ => cs
  | _ => '/' :: cs

/-- Whether a character at the end of a path is a matter of spelling: a blank or a slash. -/
def isPadding (c : Char) : Bool := isBlank c || c == '/'

/-- The canonical spelling of a path: without blanks in front, without blanks and slashes behind however they are
mixed, and with a slash in front. -/
def canonicalPath (raw : String) : String :=
  String.ofList (rooted ((dropBlanks raw.toList).rdropWhile isPadding))

/-- A path that is written canonically. -/
structure IsCanonical (path : String) : Prop where
  front : path.toList.head? = some '/'
  back : path = "/" ∨ ∀ c ∈ path.toList.getLast?, isPadding c = false

theorem rooted_of_head {cs : List Char} (h : cs.head? = some '/') : rooted cs = cs := by
  obtain ⟨rest, rfl⟩ := List.head?_eq_some_iff.1 h
  rfl

theorem rooted_of_head_ne {cs : List Char} (h : cs.head? ≠ some '/') : rooted cs = '/' :: cs := by
  unfold rooted
  split
  · exact absurd rfl h
  · rfl

theorem head?_rooted (cs : List Char) : (rooted cs).head? = some '/' := by
  by_cases h : cs.head? = some '/'
  · rw [rooted_of_head h, h]
  · rw [rooted_of_head_ne h, List.head?_cons]

/-- A text with a slash in front is the slash alone, or ends as the text does. -/
theorem rooted_back (cs : List Char) : cs = [] ∨ (rooted cs).getLast? = cs.getLast? := by
  by_cases hne : cs = []
  · exact .inl hne
  · refine .inr ?_
    by_cases h : cs.head? = some '/'
    · rw [rooted_of_head h]
    · rw [rooted_of_head_ne h, List.getLast?_cons_of_ne_nil hne]

theorem dropBlanks_of_front {cs : List Char} (front : cs.head? = some '/') : dropBlanks cs = cs := by
  refine Filter.dropBlanks_of_head fun c hc => ?_
  obtain rfl : '/' = c := Option.some.inj (front.symm.trans hc)
  rfl

/-- The slash in front may be added before the padding is dropped. -/
theorem rooted_rdropWhile_rooted (cs : List Char) :
    rooted ((rooted cs).rdropWhile isPadding) = rooted (cs.rdropWhile isPadding) := by
  by_cases hhead : cs.head? = some '/'
  · rw [rooted_of_head hhead]
  · rw [rooted_of_head_ne hhead]
    by_cases hnil : cs.rdropWhile isPadding = []
    · -- All of the text is padding, and so is the slash.
      have hall : ∀ c ∈ '/' :: cs, isPadding c = true :=
        List.forall_mem_cons.2 ⟨rfl, List.rdropWhile_eq_nil_iff.1 hnil⟩
      rw [hnil, List.rdropWhile_eq_nil_iff.2 hall]
    · have hsame : (cs.rdropWhile isPadding).head? ≠ some '/' := by
        rw [← List.head?_append_of_ne_nil _ hnil, List.rdropWhile_append_rtakeWhile]
        exact hhead
      rw [rdropWhile_cons '/' cs hnil, rooted_of_head rfl, rooted_of_head_ne hsame]

theorem isCanonical_canonicalPath (raw : String) : IsCanonical (canonicalPath raw) := by
  constructor
  · rw [canonicalPath, String.toList_ofList]
    exact head?_rooted _
  · rw [canonicalPath, String.toList_ofList]
    rcases rooted_back ((dropBlanks raw.toList).rdropWhile isPadding) with hnil | hlast
    · rw [hnil]
      exact .inl rfl
    · rw [hlast]
      exact .inr (Filter.rdropWhile_getLast? _)

namespace IsCanonical

variable {path : String} (h : IsCanonical path)
include h

/-- The last character of a path that is written canonically is no blank. -/
theorem unblank : ∀ c ∈ path.toList.getLast?, isBlank c = false := by
  intro c hc
  rcases h.back with rfl | hback
  · obtain rfl := Option.some.inj hc
    rfl
  · exact (Bool.or_eq_false_iff.1 (hback c hc)).1

theorem canonicalPath_eq : canonicalPath path = path := by
  rcases h.back with rfl | hback
  · rfl
  · rw [canonicalPath, dropBlanks_of_front h.front, rdropWhile_eq_self hback, rooted_of_head h.front,
      String.ofList_toList]

end IsCanonical

/-! ### Normalizing -/

/-- The text that is left of the spelling of a path: without the blanks at its ends, and then without the slashes
behind. -/
def pathBody (raw : String) : List Char := (trimmed raw.toList).rdropWhile (· == '/')

theorem normalizePath_eq (raw : String) : normalizePath raw = String.ofList (rooted (pathBody raw)) := by
  have hbody : ((trimmed raw.toList).reverse.dropWhile (· == '/')).reverse = pathBody raw := rfl
  simp only [normalizePath, hbody]
  split
  · next hnil =>
    rw [hnil]
    rfl
  · next hslash =>
    rw [hslash]
    rfl
  · next hslash =>
    rw [rooted_of_head_ne fun h => hslash _ (List.head?_eq_some_iff.1 h).choose_spec]

theorem normalizePath_of_nil {raw : String} (h : pathBody raw = []) : normalizePath raw = "/" := by
  rw [normalizePath_eq, h]
  rfl

theorem toList_normalizePath (raw : String) : (normalizePath raw).toList = rooted (pathBody raw) := by
  rw [normalizePath_eq, String.toList_ofList]

theorem normalizePath_front (raw : String) : (normalizePath raw).toList.head? = some '/' := by
  rw [toList_normalizePath]
  exact head?_rooted _

/-- A path in its normal spelling is the slash alone, or ends as what was left of it does. -/
theorem normalizePath_last (raw : String) :
    normalizePath raw = "/" ∨ (normalizePath raw).toList.getLast? = (pathBody raw).getLast? := by
  rw [toList_normalizePath]
  exact (rooted_back (pathBody raw)).imp_left normalizePath_of_nil

theorem normalizePath_back (raw : String) (h : (normalizePath raw).toList.getLast? = some '/') :
    normalizePath raw = "/" := by
  refine (normalizePath_last raw).resolve_right fun hlast => ?_
  have hbody := Filter.rdropWhile_getLast? (trimmed raw.toList) '/' (hlast.symm.trans h)
  cases hbody

/-- A path in its normal spelling is written canonically exactly if it does not end in a blank. -/
theorem isCanonical_normalizePath_iff_unblank (raw : String) :
    IsCanonical (normalizePath raw) ↔ ∀ c ∈ (normalizePath raw).toList.getLast?, isBlank c = false := by
  refine ⟨IsCanonical.unblank, fun hback => ⟨normalizePath_front raw, ?_⟩⟩
  by_cases hroot : normalizePath raw = "/"
  · exact .inl hroot
  · refine .inr fun c hc => Bool.or_eq_false_iff.2 ⟨hback c hc, ?_⟩
    -- Only the slash alone ends with a slash.
    refine beq_eq_false_iff_ne.2 ?_
    rintro rfl
    exact hroot (normalizePath_back raw hc)

/-- Normalizing keeps the path that is written. -/
theorem canonicalPath_normalizePath (raw : String) : canonicalPath (normalizePath raw) = canonicalPath raw := by
  have hslashes : ∀ c, (c == '/') = true → isPadding c = true := fun c hc => Bool.or_eq_true_iff.2 (.inr hc)
  have hblanks : ∀ c, isBlank c = true → isPadding c = true := fun c hc => Bool.or_eq_true_iff.2 (.inl hc)
  have hbody : (pathBody raw).rdropWhile isPadding = (dropBlanks raw.toList).rdropWhile isPadding :=
    (rdropWhile_absorbs hslashes _).trans (rdropWhile_absorbs hblanks _)
  rw [canonicalPath, toList_normalizePath, dropBlanks_of_front (head?_rooted _), rooted_rdropWhile_rooted, hbody]
  rfl

section Rooted

variable {path : String} (front : path.toList.head? = some '/')
include front

theorem trimmed_of_front : trimmed path.toList = path.toList.rdropWhile isBlank := by
  rw [trimmed, dropBlanks_of_front front]
  rfl

/-- What is left of a path that starts with a slash is nothing or its normal spelling. -/
theorem normalizePath_of_front : normalizePath path = "/" ∨ (normalizePath path).toList = pathBody path := by
  have htrimmed : pathBody path <+: trimmed path.toList := List.rdropWhile_prefix _ _
  have hbody : pathBody path <+: path.toList := by
    rw [trimmed_of_front front] at htrimmed
    exact htrimmed.trans (List.rdropWhile_prefix _ _)
  obtain ⟨rest, hrest⟩ := hbody
  by_cases hnil : pathBody path = []
  · exact .inl (normalizePath_of_nil hnil)
  · rw [← hrest, List.head?_append_of_ne_nil _ hnil] at front
    exact .inr (by rw [toList_normalizePath, rooted_of_head front])

/-- A path that starts with a slash is cut off at its end, if it is changed at all. -/
theorem normalizePath_shortens : (normalizePath path).toList <+: path.toList := by
  rcases normalizePath_of_front front with hroot | hbody
  · obtain ⟨rest, hrest⟩ := List.head?_eq_some_iff.1 front
    rw [hroot, hrest]
    exact ⟨rest, rfl⟩
  · rw [hbody, pathBody, trimmed_of_front front]
    exact (List.rdropWhile_prefix _ _).trans (List.rdropWhile_prefix _ _)

end Rooted

theorem isCanonical_root : IsCanonical "/" := ⟨rfl, .inl rfl⟩

/-- Normalizing changes nothing exactly where the path is written canonically. -/
theorem normalizePath_eq_self_iff {path : String} : normalizePath path = path ↔ IsCanonical path := by
  constructor
  · intro hself
    have front : path.toList.head? = some '/' := hself ▸ normalizePath_front path
    rcases normalizePath_of_front front with hroot | hbody
    · rw [← hself, hroot]
      exact isCanonical_root
    · -- Nothing was dropped, so there was no blank to be dropped.
      have hkept : path.toList.rdropWhile isBlank = path.toList := by
        refine (List.rdropWhile_prefix _ _).eq_of_length_le ?_
        rw [hself, pathBody, trimmed_of_front front] at hbody
        conv_lhs => rw [hbody]
        exact (List.rdropWhile_prefix _ _).length_le
      rw [← hself, isCanonical_normalizePath_iff_unblank, hself, ← hkept]
      exact Filter.rdropWhile_getLast? _
  · intro h
    have htrimmed : trimmed path.toList = path.toList := by
      rw [trimmed_of_front h.front, rdropWhile_eq_self h.unblank]
    rcases h.back with rfl | hback
    · rfl
    · have hslash : ∀ c ∈ path.toList.getLast?, (c == '/') = false := fun c hc =>
        (Bool.or_eq_false_iff.1 (hback c hc)).2
      rw [normalizePath_eq, pathBody, htrimmed, rdropWhile_eq_self hslash, rooted_of_head h.front,
        String.ofList_toList]

/-! ### Blanks that slashes hide -/

/-- A blank stands in front of the slashes at the end of a path, and the path does not start there: blanks are
dropped before slashes, and so this one is not. -/
def HidesBlank (raw : String) : Prop :=
  ∃ front blank slashes behind, raw.toList = front ++ blank :: slashes ++ behind ∧ ¬Blanks front ∧
    isBlank blank = true ∧ slashes ≠ [] ∧ (∀ c ∈ slashes, c = '/') ∧ Blanks behind

/-- Blanks in front of a text are dropped from its first part alone, unless this is nothing but blanks. -/
theorem dropBlanks_append_of_not {front : List Char} (h : ¬Blanks front) (text : List Char) :
    dropBlanks (front ++ text) = dropBlanks front ++ text := by
  obtain ⟨blanks, hblanks, hsplit⟩ := Filter.exists_blanks front
  have hsome : dropBlanks front ≠ [] := by
    intro hnil
    rw [hnil, List.append_nil] at hsplit
    exact h (hsplit ▸ hblanks)
  conv_lhs => rw [hsplit, List.append_assoc]
  refine Filter.dropBlanks_append hblanks fun c hc => ?_
  rw [List.head?_append_of_ne_nil _ hsome] at hc
  exact Filter.dropBlanks_head front c hc

/-- What is left where slashes hide a blank ends in the blank. -/
theorem HidesBlank.body {raw : String} (h : HidesBlank raw) :
    ∃ blank ∈ (pathBody raw).getLast?, isBlank blank = true := by
  obtain ⟨front, blank, slashes, behind, hraw, hfront, hblank, hsome, hslashes, hbehind⟩ := h
  have htrimmed : trimmed raw.toList = dropBlanks front ++ blank :: slashes := by
    have hback : ∀ c ∈ (dropBlanks front ++ blank :: slashes).getLast?, isBlank c = false := by
      intro c hc
      rw [List.append_cons, List.getLast?_append_of_ne_nil _ hsome] at hc
      obtain rfl := hslashes c (List.mem_of_getLast? hc)
      rfl
    rw [trimmed, hraw, List.append_assoc, dropBlanks_append_of_not hfront, ← List.append_assoc]
    exact (rdropWhile_append_of_all hbehind _).trans (rdropWhile_eq_self hback)
  have hnoslash : ¬(blank == '/') = true := by
    rintro hslash
    obtain rfl := beq_iff_eq.1 hslash
    cases hblank
  have hbody : pathBody raw = dropBlanks front ++ [blank] := by
    rw [pathBody, htrimmed, List.append_cons,
      rdropWhile_append_of_all (p := (· == '/')) (fun c hc => beq_iff_eq.2 (hslashes c hc)),
      List.rdropWhile_concat_neg (· == '/') _ blank hnoslash]
  exact ⟨blank, by rw [hbody, List.getLast?_concat]; rfl, hblank⟩

/-- A blank is left at the end only if slashes hid it. -/
theorem hidesBlank_of_body {raw : String} {blank : Char} (hlast : blank ∈ (pathBody raw).getLast?)
    (hblank : isBlank blank = true) : HidesBlank raw := by
  obtain ⟨front, hfront⟩ := List.getLast?_eq_some_iff.1 hlast
  obtain ⟨slashes, hslashes, htrimmed⟩ : ∃ slashes, (∀ c ∈ slashes, c = '/') ∧
      trimmed raw.toList = front ++ blank :: slashes := by
    refine ⟨(trimmed raw.toList).rtakeWhile (· == '/'), fun c hc => ?_, ?_⟩
    · exact beq_iff_eq.1 (List.mem_rtakeWhile_imp (p := (· == '/')) hc)
    · rw [List.append_cons, ← hfront]
      exact List.rdropWhile_append_rtakeWhile.symm
  obtain ⟨behind, hbehind, htext⟩ : ∃ behind, Blanks behind ∧
      dropBlanks raw.toList = front ++ blank :: slashes ++ behind := by
    refine ⟨(dropBlanks raw.toList).rtakeWhile isBlank, fun _ => List.mem_rtakeWhile_imp, ?_⟩
    rw [← htrimmed]
    exact List.rdropWhile_append_rtakeWhile.symm
  obtain ⟨before, -, hraw⟩ := Filter.exists_blanks raw.toList
  refine ⟨before ++ front, blank, slashes, behind, ?_, ?_, hblank, ?_, hslashes, hbehind⟩
  · rw [hraw, htext]
    simp only [List.append_assoc]
  · -- The text starts with something else than a blank.
    intro hall
    have hfirst := Filter.dropBlanks_head raw.toList
    rw [htext] at hfirst
    cases front with
    | nil => exact Bool.eq_false_iff.1 (hfirst blank rfl) hblank
    | cons c rest => exact Bool.eq_false_iff.1 (hfirst c rfl) (hall c (by simp))
  · -- The text does not end in a blank.
    rintro rfl
    have hend : blank ∈ (trimmed raw.toList).getLast? := by
      rw [htrimmed, List.getLast?_concat]
      rfl
    exact Bool.eq_false_iff.1 (Filter.rdropWhile_getLast? _ blank hend) hblank

/-- A path is written canonically once it is normalized, exactly if slashes do not hide a blank. -/
theorem isCanonical_normalizePath_iff (raw : String) :
    IsCanonical (normalizePath raw) ↔ ¬HidesBlank raw := by
  have hbody : HidesBlank raw ↔ ∃ c ∈ (pathBody raw).getLast?, isBlank c = true :=
    ⟨HidesBlank.body, fun ⟨_, hlast, hblank⟩ => hidesBlank_of_body hlast hblank⟩
  rw [hbody]
  rcases rooted_back (pathBody raw) with hnil | hlast
  · rw [normalizePath_of_nil hnil]
    refine iff_of_true isCanonical_root ?_
    rintro ⟨c, hc, -⟩
    rw [hnil] at hc
    cases hc
  · rw [isCanonical_normalizePath_iff_unblank, toList_normalizePath, hlast]
    simp

/-! ### Normalizing over and over -/

theorem iterate_of_front {path : String} (front : path.toList.head? = some '/') {n : Nat}
    (hn : path.toList.length ≤ n + 1) : normalizePath^[n] path = canonicalPath path := by
  induction n generalizing path with
  | zero =>
      obtain ⟨rest, hrest⟩ := List.head?_eq_some_iff.1 front
      obtain rfl : rest = [] := by
        rw [hrest] at hn
        exact List.eq_nil_of_length_eq_zero (by simpa using hn)
      have hroot : path = "/" := String.toList_inj.1 hrest
      rw [hroot]
      rfl
  | succ n ih =>
      by_cases hself : normalizePath path = path
      · rw [Function.iterate_fixed hself, (normalizePath_eq_self_iff.1 hself).canonicalPath_eq]
      · -- What is not canonical gets shorter.
        have hshorter : (normalizePath path).toList.length < path.toList.length := by
          refine (normalizePath_shortens front).length_le.lt_of_ne fun hlength => hself ?_
          exact String.toList_inj.1 ((normalizePath_shortens front).eq_of_length hlength)
        rw [Function.iterate_succ_apply, ih (normalizePath_front path) (by omega), canonicalPath_normalizePath]

theorem length_normalizePath_le (raw : String) : (normalizePath raw).toList.length ≤ raw.length + 1 := by
  have hrooted : ∀ cs : List Char, (rooted cs).length ≤ cs.length + 1 := by
    intro cs
    unfold rooted
    split
    · exact Nat.le_succ _
    · exact Nat.le_refl _
  have hbody : (pathBody raw).length ≤ raw.length :=
    calc (pathBody raw).length ≤ (trimmed raw.toList).length := (List.rdropWhile_prefix _ _).length_le
      _ ≤ (dropBlanks raw.toList).length := (List.rdropWhile_prefix _ _).length_le
      _ ≤ raw.toList.length := length_dropBlanks_le _
      _ = raw.length := String.length_toList
  rw [toList_normalizePath]
  exact (hrooted _).trans (Nat.succ_le_succ hbody)

/-- Normalizing as often as the spelling has characters, and once more, ends at the canonical spelling. -/
theorem iterate_normalizePath {raw : String} {n : Nat} (hn : raw.length < n) :
    normalizePath^[n] raw = canonicalPath raw := by
  obtain ⟨n, rfl⟩ : ∃ m, n = m + 1 := ⟨n - 1, by omega⟩
  have hlength : (normalizePath raw).toList.length ≤ n + 1 := by
    have hle := length_normalizePath_le raw
    omega
  rw [Function.iterate_succ_apply, iterate_of_front (normalizePath_front raw) hlength, canonicalPath_normalizePath]

/-! ### Groups -/

/-- A group that is read from a spelling of its path: a registered one, for which the root stands where it declares
no path, or the implicit default group. -/
inductive Group.ReadFrom (raw : String) : Group → Prop
  | registered (id : ServiceId) (revision : Nat) (payload : Payload) {props : Property.Map}
      (declared : (declaredPath props).getD "/" = raw) : ReadFrom raw (.ofProperties id revision payload props)
  | implicit (payload : Payload) : ReadFrom raw (.implicitDefault raw payload)

theorem Group.ReadFrom.path_eq {raw : String} {g : Group} (h : g.ReadFrom raw) : g.path = normalizePath raw := by
  cases h with
  | registered id revision payload declared => rw [ofProperties, declared]
  | implicit payload => rw [implicitDefault]

/-- Of two groups with one path at least one loses it. -/
theorem lost_of_same_path {groups : List Group} {g h : Group} (hg : g ∈ groups) (hh : h ∈ groups)
    (hne : g ≠ h) (hpath : g.path = h.path) : g ∈ (resolvePaths groups).2 ∨ h ∈ (resolvePaths groups).2 := by
  have hsplit : ∀ k ∈ groups, k ∈ (resolvePaths groups).1 ∨ k ∈ (resolvePaths groups).2 := fun k hk =>
    List.mem_append.1 ((resolvePaths_perm groups).mem_iff.2 hk)
  rcases hsplit g hg with hgkept | hglost
  · rcases hsplit h hh with hhkept | hhlost
    · exact absurd (List.inj_on_of_nodup_map (nodup_kept_paths groups) hgkept hhkept hpath) hne
    · exact .inr hhlost
  · exact .inl hglost

/-- What normalizing does with a spelling of a path. -/
structure PathNormalized (raw : String) : Prop where
  front : (normalizePath raw).toList.head? = some '/'
  /-- Nothing but the root ends with a slash. -/
  back : (normalizePath raw).toList.getLast? = some '/' → normalizePath raw = "/"
  /-- It is the path that was written. -/
  keeps : canonicalPath (normalizePath raw) = canonicalPath raw
  /-- The normal spelling is the canonical one exactly if slashes hide no blank. -/
  canonical : normalizePath raw = canonicalPath raw ↔ ¬HidesBlank raw
  /-- Normalizing again changes nothing exactly if slashes hide no blank. -/
  again : normalizePath (normalizePath raw) = normalizePath raw ↔ ¬HidesBlank raw
  /-- Normalizing over and over ends at the canonical spelling, and stays there. -/
  settles : ∀ n, raw.length < n → normalizePath^[n] raw = canonicalPath raw
  read : ∀ g : Group, g.ReadFrom raw → g.path = normalizePath raw
  /-- A group that is read from the path of a group has the same path exactly if slashes hide no blank. -/
  reread : ∀ g h : Group, g.path = normalizePath raw → h.ReadFrom g.path → (h.path = g.path ↔ ¬HidesBlank raw)
  /-- Where they hide one, both groups keep their path. -/
  undisputed : ∀ g h : Group, g.path = normalizePath raw → h.ReadFrom g.path →
    (resolvePaths [g, h] = ([g, h], []) ↔ HidesBlank raw)
  /-- Of two groups whose paths are spellings of one path, at least one loses it if slashes hide no blank. -/
  collide : ∀ other, canonicalPath other = canonicalPath raw → ¬HidesBlank raw → ¬HidesBlank other →
    ∀ groups : List Group, ∀ g ∈ groups, ∀ h ∈ groups, g ≠ h →
      g.path = normalizePath raw → h.path = normalizePath other →
        g ∈ (resolvePaths groups).2 ∨ h ∈ (resolvePaths groups).2

section Spelling

variable {raw : String}

theorem normalizePath_eq_canonicalPath_iff : normalizePath raw = canonicalPath raw ↔ ¬HidesBlank raw := by
  rw [← isCanonical_normalizePath_iff]
  constructor
  · intro h
    rw [h]
    exact isCanonical_canonicalPath raw
  · intro h
    rw [← h.canonicalPath_eq, canonicalPath_normalizePath]

theorem normalizePath_again_iff : normalizePath (normalizePath raw) = normalizePath raw ↔ ¬HidesBlank raw :=
  normalizePath_eq_self_iff.trans (isCanonical_normalizePath_iff raw)

variable {g h : Group} (hg : g.path = normalizePath raw) (hh : h.ReadFrom g.path)
include hg hh

theorem reread_path_iff : h.path = g.path ↔ ¬HidesBlank raw := by
  rw [hh.path_eq, hg]
  exact normalizePath_again_iff

theorem undisputed_iff : resolvePaths [g, h] = ([g, h], []) ↔ HidesBlank raw := by
  constructor
  · intro hkept
    by_contra hplain
    have hnodup := nodup_kept_paths [g, h]
    rw [hkept] at hnodup
    exact (List.nodup_cons.1 hnodup).1 (List.mem_singleton.2 ((reread_path_iff hg hh).2 hplain).symm)
  · intro hhides
    refine resolvePaths_of_nodup (List.nodup_cons.2 ⟨fun hmem => ?_, List.nodup_singleton _⟩)
    exact (reread_path_iff hg hh).1 (List.mem_singleton.1 hmem).symm hhides

end Spelling

/-- Normalizing ends every path as it should except for a blank that slashes hide, and with one it does not reach
the canonical spelling at once. -/
theorem path_normalized (raw : String) : PathNormalized raw where
  front := normalizePath_front raw
  back := normalizePath_back raw
  keeps := canonicalPath_normalizePath raw
  canonical := normalizePath_eq_canonicalPath_iff
  again := normalizePath_again_iff
  settles _ hn := iterate_normalizePath hn
  read _ hg := hg.path_eq
  reread _ _ hg hh := reread_path_iff hg hh
  undisputed _ _ hg hh := undisputed_iff hg hh
  collide other hsame hraw hother groups g hgmem h hhmem hne hg hh := by
    refine lost_of_same_path hgmem hhmem hne ?_
    calc g.path = normalizePath raw := hg
      _ = canonicalPath raw := normalizePath_eq_canonicalPath_iff.2 hraw
      _ = canonicalPath other := hsame.symm
      _ = normalizePath other := (normalizePath_eq_canonicalPath_iff.2 hother).symm
      _ = h.path := hh.symm

/-- A group with nothing but a path. -/
def groupAt (id : ServiceId) (path : String) : Group :=
  .ofProperties id 0 (.shared 1 .plain)
    (.ofList [(Property.Key.routeGroup, .flag true), (Property.Key.path, .text path)])

/-- A blank in front of a slash is left, and the group that is read from what is left has another path. -/
theorem hidden_blank_left : normalizePath "/a /" = "/a " ∧
    normalizePath (normalizePath "/a /") ≠ normalizePath "/a /" ∧
    (groupAt 2 (groupAt 1 "/a /").path).path ≠ (groupAt 1 "/a /").path ∧
    (resolvePaths [groupAt 1 "/a /", groupAt 2 (groupAt 1 "/a /").path]).1.map Group.id = [1, 2] := by
  refine ⟨?_, ?_, ?_, ?_⟩ <;> decide +kernel

example : (resolvePaths [groupAt 1 " a// ", groupAt 2 "/a"]).2.map Group.id = [2] := by decide +kernel

end RouteBinding
