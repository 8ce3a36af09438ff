import RouteBinding.Host.Memory
import Mathlib.Data.List.Infix
import Mathlib.Data.List.MinMax
import Mathlib.Data.Prod.Lex

/-!
# Where a request lands

A path covers a request in whole segments, and what is left of the request below it starts with a slash again
(`Covers`, `IsRemainder`).  Of the groups that cover a request, one is its owner: the group with the longest path,
and of several as long the last by identity (`Memory.Owns`).  A request lands in the group that owns it, which is
asked for the rest, and nowhere if no group covers it (`Memory.resolve_of_owns`, `Memory.resolve_eq_none_iff`).
-/

namespace RouteBinding.Host

variable {path path' request rest : String}

/-- The root covers every request with a slash in front; any other path covers itself and every request that goes
on behind it with a slash. -/
def Covers (path request : String) : Prop :=
  if path = "/" then ∃ tail, request = "/" ++ tail
  else request = path ∨ ∃ tail, request = path ++ ("/" ++ tail)

/-- What is left of a request below a path that covers it.  It starts with a slash, and the path in front of it gives
the request back, but for the root, below which all of the request is left, and for the request that is the path
itself, of which a slash is left. -/
structure IsRemainder (path request rest : String) : Prop where
  rooted : ∃ tail, rest = "/" ++ tail
  restores : if path = "/" then rest = request else if request = path then rest = "/" else path ++ rest = request

theorem exists_slash_append_iff {s : String} : (∃ tail, s = "/" ++ tail) ↔ s.toList.head? = some '/' := by
  constructor
  · rintro ⟨tail, rfl⟩
    rw [String.toList_append]
    rfl
  · intro h
    obtain ⟨cs, hcs⟩ := List.head?_eq_some_iff.1 h
    refine ⟨.ofList cs, String.toList_inj.1 ?_⟩
    rw [hcs, String.toList_append, String.toList_ofList (l := cs)]
    rfl

theorem isRemainder_iff : IsRemainder path request rest ↔ rest.toList.head? = some '/' ∧
    if path = "/" then rest = request else if request = path then rest = "/" else path ++ rest = request := by
  rw [← exists_slash_append_iff]
  exact ⟨fun h => ⟨h.rooted, h.restores⟩, fun h => ⟨h.1, h.2⟩⟩

/-- The search for what is left of a request finds just that. -/
theorem below?_eq_some_iff :
    below? path.toList request.toList = some rest.toList ↔ IsRemainder path request rest := by
  have hroot : path.toList = ['/'] ↔ path = "/" := (String.toList_inj : path.toList = "/".toList ↔ _)
  rw [isRemainder_iff, below?]
  simp only [hroot, String.toList_inj]
  by_cases hpath : path = "/"
  · rw [if_pos hpath, if_pos hpath, Option.ite_none_right_eq_some, Option.some.injEq, String.toList_inj]
    constructor
    · rintro ⟨hhead, rfl⟩
      exact ⟨hhead, rfl⟩
    · rintro ⟨hhead, rfl⟩
      exact ⟨hhead, rfl⟩
  · rw [if_neg hpath, if_neg hpath]
    by_cases hself : request = path
    · rw [if_pos hself, if_pos hself, Option.some.injEq]
      constructor
      · intro hrest
        exact ⟨by rw [← hrest]; rfl, String.toList_inj.1 hrest.symm⟩
      · rintro ⟨-, rfl⟩
        rfl
    · rw [if_neg hself, if_neg hself, Option.ite_none_right_eq_some, Option.ite_none_right_eq_some,
        Option.some.injEq, List.isPrefixOf_iff_prefix]
      constructor
      · rintro ⟨⟨tail, htail⟩, hhead, hrest⟩
        rw [← htail, List.drop_left] at hhead hrest
        refine ⟨hrest ▸ hhead, String.toList_inj.1 ?_⟩
        rw [String.toList_append, ← hrest, htail]
      · rintro ⟨hhead, rfl⟩
        rw [String.toList_append, List.drop_left]
        exact ⟨List.prefix_append _ _, hhead, rfl⟩

/-- A path covers a request exactly if something of it is left below the path. -/
theorem covers_iff : Covers path request ↔ ∃ rest, IsRemainder path request rest := by
  simp only [isRemainder_iff, Covers, ← exists_slash_append_iff]
  by_cases hroot : path = "/"
  · simp only [if_pos hroot, exists_eq_right]
  · simp only [if_neg hroot]
    by_cases hself : request = path
    · simp only [hself, if_true, true_or, true_iff]
      exact ⟨"/", ⟨"", rfl⟩, rfl⟩
    · simp only [hself, if_false, false_or]
      constructor
      · rintro ⟨tail, rfl⟩
        exact ⟨"/" ++ tail, ⟨tail, rfl⟩, rfl⟩
      · rintro ⟨rest, ⟨tail, rfl⟩, hrestores⟩
        exact ⟨tail, hrestores.symm⟩

/-- A path that covers a request is in front of it. -/
theorem Covers.isPrefix (h : Covers path request) : path.toList <+: request.toList := by
  unfold Covers at h
  split at h
  · next hroot =>
    obtain ⟨tail, rfl⟩ := h
    rw [hroot, String.toList_append]
    exact List.prefix_append _ _
  · rcases h with rfl | ⟨tail, rfl⟩
    · exact List.prefix_rfl
    · rw [String.toList_append]
      exact List.prefix_append _ _

/-- Of the paths that cover a request, no two have the same length. -/
theorem Covers.eq_of_size_eq (h : Covers path request) (h' : Covers path' request)
    (hsize : path.utf8ByteSize = path'.utf8ByteSize) : path = path' := by
  have hextend : ∀ {p q : String}, p.toList <+: q.toList → p.utf8ByteSize = q.utf8ByteSize → p = q := by
    rintro p q ⟨tail, htail⟩ heq
    obtain rfl : p ++ .ofList tail = q := by
      rw [← String.toList_inj, String.toList_append, String.toList_ofList, htail]
    rw [String.utf8ByteSize_append] at heq
    have hnothing : String.ofList tail = "" := String.utf8ByteSize_eq_zero_iff.1 (by omega)
    rw [hnothing, String.append_empty]
  rcases List.prefix_or_prefix_of_prefix h.isPrefix h'.isPrefix with hle | hle
  · exact hextend hle hsize
  · exact (hextend hle hsize.symm).symm

variable [Route.Routing]

namespace Memory

variable {m m' : Memory} {id : ServiceId} {s : Mounted}

/-- The group that a request is meant for: it covers the request, and of the others that do none has a longer path,
nor one as long and a later identity. -/
structure Owns (m : Memory) (request : String) (id : ServiceId) (s : Mounted) : Prop where
  serves : m.mounted.get? id = some s
  covers : Covers s.group.path request
  longest : ∀ j t, m.mounted.get? j = some t → Covers t.group.path request →
    t.group.path.utf8ByteSize < s.group.path.utf8ByteSize ∨
      t.group.path.utf8ByteSize = s.group.path.utf8ByteSize ∧ j ≤ id

/-- Two hosts that both serve the owners which each of them has for a request have the same one. -/
theorem Owns.eq_of_serves {j : ServiceId} {t : Mounted} (h : m.Owns request id s) (h' : m'.Owns request j t)
    (hserves : m.mounted.get? j = some t) (hserves' : m'.mounted.get? id = some s) : id = j := by
  rcases h.longest j t hserves h'.covers with hshorter | ⟨hsize, hle⟩
  · rcases h'.longest id s hserves' h.covers with hlonger | ⟨hsize, -⟩
    · exact absurd hshorter (Nat.lt_asymm hlonger)
    · exact absurd hsize (Nat.ne_of_gt hshorter)
  · rcases h'.longest id s hserves' h.covers with hlonger | ⟨-, hge⟩
    · exact absurd hsize (Nat.ne_of_gt hlonger)
    · exact Nat.le_antisymm hge hle

/-- A request that is covered has an owner. -/
theorem exists_owns (hserves : m.mounted.get? id = some s) (hcovers : Covers s.group.path request) :
    ∃ j t, m.Owns request j t := by
  classical
  let covering := m.mounted.entries.filter fun e => Covers e.2.group.path request
  have hcovering : ∀ e, e ∈ covering ↔ m.mounted.get? e.1 = some e.2 ∧ Covers e.2.group.path request := by
    intro e
    rw [List.mem_filter, Table.mem_entries_iff m.mounted e.1 e.2, decide_eq_true_iff]
  -- The greatest of them by length and then by identity.
  let rank (e : ServiceId × Mounted) : ℕ ×ₗ ℕ := toLex (e.2.group.path.utf8ByteSize, e.1)
  cases hmax : covering.argmax rank with
  | none =>
      rw [List.argmax_eq_none] at hmax
      exact absurd ((hcovering (id, s)).2 ⟨hserves, hcovers⟩) (hmax ▸ List.not_mem_nil)
  | some e =>
      obtain ⟨he, hecovers⟩ := (hcovering e).1 (List.argmax_mem hmax)
      refine ⟨e.1, e.2, he, hecovers, fun j t ht htcovers => ?_⟩
      have hle : rank (j, t) ≤ rank e := List.le_of_mem_argmax ((hcovering (j, t)).2 ⟨ht, htcovers⟩) hmax
      exact Prod.Lex.toLex_le_toLex.1 hle

/-! ### The search for the owner -/

/-- A group with what is left for it of a request that it covers. -/
def candidate? (request : String) (s : Mounted) : Option (Mounted × List Char) :=
  (below? s.group.path.toList request.toList).map fun rest => (s, rest)

theorem candidate?_eq_some_iff {c : Mounted × List Char} :
    candidate? request s = some c ↔ c.1 = s ∧ IsRemainder s.group.path request (.ofList c.2) := by
  rw [← below?_eq_some_iff, String.toList_ofList, candidate?, Option.map_eq_some_iff]
  constructor
  · rintro ⟨rest, hrest, rfl⟩
    exact ⟨rfl, hrest⟩
  · rintro ⟨rfl, hrest⟩
    exact ⟨c.2, hrest, rfl⟩

theorem mem_of_longest {l : List (Mounted × List Char)} {c : Mounted × List Char} (h : longest l = some c) :
    c ∈ l := by
  induction l generalizing c with
  | nil => cases h
  | cons d rest ih =>
      rw [longest] at h
      split at h
      · rw [← Option.some.inj h]
        exact List.mem_cons_self
      · next e he =>
        split at h
        · rw [← Option.some.inj h]
          exact List.mem_cons_self
        · exact List.mem_cons_of_mem _ (ih (h ▸ he))

/-- The search takes the last of the longest candidates, which in the order of identities is the owner. -/
theorem longest_eq_of_max {l : List (ServiceId × Mounted)} (hsorted : l.Pairwise fun a b => a.1 < b.1)
    (hmem : (id, s) ∈ l) (hrest : IsRemainder s.group.path request rest)
    (hmax : ∀ e ∈ l, Covers e.2.group.path request →
      e.2.group.path.utf8ByteSize < s.group.path.utf8ByteSize ∨
        e.2.group.path.utf8ByteSize = s.group.path.utf8ByteSize ∧ e.1 ≤ id) :
    longest ((l.map (·.2)).filterMap (candidate? request)) = some (s, rest.toList) := by
  have hcandidate : candidate? request s = some (s, rest.toList) :=
    candidate?_eq_some_iff.2 ⟨rfl, by rwa [String.ofList_toList]⟩
  induction l with
  | nil => cases hmem
  | cons e tail ih =>
      obtain ⟨hfirst, htail⟩ := List.pairwise_cons.1 hsorted
      have hmax' := fun e he => hmax e (List.mem_cons_of_mem _ he)
      rcases List.mem_cons.1 hmem with rfl | hmem
      · -- What comes behind the owner has a later identity, so its path is shorter.
        rw [List.map_cons, List.filterMap_cons_some hcandidate, longest]
        split
        · rfl
        · next d hd =>
          obtain ⟨t, ht, hcandidate'⟩ := List.mem_filterMap.1 (mem_of_longest hd)
          obtain ⟨⟨j, t⟩, hj, rfl⟩ := List.mem_map.1 ht
          obtain ⟨hd1, hremainder⟩ := candidate?_eq_some_iff.1 hcandidate'
          have hlater : id < j := hfirst (j, t) hj
          rcases hmax' (j, t) hj (covers_iff.2 ⟨_, hremainder⟩) with hshorter | ⟨-, hle⟩
          · rw [hd1, if_pos hshorter]
          · exact absurd hlater (Nat.not_lt.2 hle)
      · have hlongest := ih htail hmem hmax'
        rw [List.map_cons]
        cases hc : candidate? request e.2 with
        | none => rw [List.filterMap_cons_none hc, hlongest]
        | some c =>
            obtain ⟨hc1, hremainder⟩ := candidate?_eq_some_iff.1 hc
            have hle := hmax e List.mem_cons_self (covers_iff.2 ⟨_, hremainder⟩)
            have hnot : ¬s.group.path.utf8ByteSize < c.1.group.path.utf8ByteSize := by
              rw [hc1]
              rcases hle with hshorter | ⟨hsize, -⟩
              · exact Nat.not_lt.2 hshorter.le
              · exact Nat.not_lt.2 hsize.le
            rw [List.filterMap_cons_some hc, longest, hlongest]
            exact if_neg hnot

end Memory

/-- What a group answers for what is left of a request: the handler that its router finds, if it finds one. -/
def Mounted.answer (s : Mounted) (rest : String) : Resolved :=
  match Route.Routing.find? s.router rest with
  | some target => ⟨s.group.name, some target.handler, target.parameters⟩
  | none => ⟨s.group.name, none, []⟩

namespace Memory

variable {m m' : Memory} {id : ServiceId} {s : Mounted}

theorem resolve_eq (m : Memory) (request : String) : m.resolve request =
    (longest (m.mounted.values.filterMap (candidate? request))).map fun c => c.1.answer (.ofList c.2) :=
  rfl

/-- A request lands in the group that owns it, which answers for what is left of it. -/
theorem resolve_of_owns (h : m.Owns request id s) (hrest : IsRemainder s.group.path request rest) :
    m.resolve request = some (s.answer rest) := by
  have hlongest := longest_eq_of_max m.mounted.sorted ((Table.mem_entries_iff _ _ _).2 h.serves) hrest
    fun e he hcovers => h.longest e.1 e.2 ((Table.mem_entries_iff _ _ _).1 he) hcovers
  rw [resolve_eq, Table.values, hlongest, Option.map_some, String.ofList_toList]

/-- A request lands nowhere exactly if no group covers it. -/
theorem resolve_eq_none_iff : m.resolve request = none ↔
    ∀ id s, m.mounted.get? id = some s → ¬Covers s.group.path request := by
  constructor
  · intro hnone id s hserves hcovers
    obtain ⟨j, t, howns⟩ := exists_owns hserves hcovers
    obtain ⟨rest, hrest⟩ := covers_iff.1 howns.covers
    rw [resolve_of_owns howns hrest] at hnone
    cases hnone
  · intro huncovered
    rw [resolve_eq, List.filterMap_eq_nil_iff.2]
    · rfl
    · intro s hs
      obtain ⟨id, hserves⟩ := Table.mem_values.1 hs
      refine Option.eq_none_iff_forall_ne_some.2 fun c hc => huncovered id s hserves ?_
      exact covers_iff.2 ⟨_, (candidate?_eq_some_iff.1 hc).2⟩

/-- A group that owns a request neither before nor after does not matter for where it lands. -/
theorem resolve_eq_of_elsewhere (hsame : ∀ j, j ≠ id → m'.mounted.get? j = m.mounted.get? j)
    (hbefore : ∀ s, ¬m.Owns request id s) (hafter : ∀ s, ¬m'.Owns request id s) :
    m'.resolve request = m.resolve request := by
  by_cases howned : ∃ j t, m.Owns request j t
  · obtain ⟨j, t, h⟩ := howned
    have hj : j ≠ id := fun heq => hbefore t (heq ▸ h)
    have hserves' : m'.mounted.get? j = some t := (hsame j hj).trans h.serves
    obtain ⟨k, u, h'⟩ := exists_owns hserves' h.covers
    have hk : k ≠ id := fun heq => hafter u (heq ▸ h')
    obtain rfl := h.eq_of_serves h' ((hsame k hk).symm.trans h'.serves) hserves'
    obtain rfl : t = u := Option.some.inj (hserves'.symm.trans h'.serves)
    obtain ⟨rest, hrest⟩ := covers_iff.1 h.covers
    rw [resolve_of_owns h' hrest, resolve_of_owns h hrest]
  · -- Where a group covers the request now, the owner did so before.
    rw [resolve_eq_none_iff.2, resolve_eq_none_iff.2]
    · exact fun j t hserves hcovers => howned (exists_owns hserves hcovers)
    · intro j t hserves hcovers
      obtain ⟨k, u, h'⟩ := exists_owns hserves hcovers
      have hk : k ≠ id := fun heq => hafter u (heq ▸ h')
      exact howned (exists_owns ((hsame k hk).symm.trans h'.serves) h'.covers)

end Memory

end RouteBinding.Host
