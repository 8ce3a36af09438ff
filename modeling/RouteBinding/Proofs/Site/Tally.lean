import RouteBinding.Proofs.Site.Trail
import Mathlib.Data.List.Count
import Mathlib.Data.List.Nodup

/-!
# What a report counts

Each call of a pass is counted once, by its operation if it succeeds and as a failed one if it does not, so that
the counters add up to the number of calls (`Report.Tallies.total`).  Every part of a pass keeps this account
(`Site.unregisterEach_tallies`, `Site.advance_tallies`).

Where every call finds recorded what it takes for granted, a registration that succeeds adds one to the groups
that are recorded, one that unregisters takes one away, and all other calls leave their number as it is
(`Site.Trail.size`).
-/

namespace RouteBinding

open Host

/-! ### The size of a table -/

namespace Table

variable {κ α : Type} [LT κ]

theorem length_keys (t : Table κ α) : t.keys.length = t.size := List.length_map _

theorem length_values (t : Table κ α) : t.values.length = t.size := List.length_map _

variable [DecidableEq κ] [LE κ] [Std.IsLinearOrder κ] [Std.LawfulOrderLT κ] {s t : Table κ α} {k : κ}

omit [Std.IsLinearOrder κ] in
/-- What is erased is one entry, if there is one. -/
theorem size_erase (t : Table κ α) (k : κ) : (t.erase k).size + (t.get? k).toList.length = t.size := by
  have hnodup : t.keys.Nodup := (pairwise_keys t).imp fun hlt heq => absurd (heq ▸ hlt) Std.lt_irrefl
  have hkept : (t.erase k).keys = t.keys.filter (· ≠ k) := by
    rw [keys, keys, List.filter_map]
    rfl
  have hlost : t.keys.countP (· = k) = (t.get? k).toList.length := by
    have hcount : t.keys.countP (· = k) = if k ∈ t.keys then 1 else 0 := hnodup.count
    cases hget : t.get? k with
    | none => rw [hcount, if_neg (by simp [mem_keys, hget]), Option.toList_none, List.length_nil]
    | some a => rw [hcount, if_pos (mem_keys.2 ⟨a, hget⟩), Option.toList_some, List.length_singleton]
  rw [← length_keys, ← length_keys, hkept, ← List.countP_eq_length_filter, ← hlost, Nat.add_comm,
    List.length_eq_countP_add_countP (· = k)]
  simp

/-- Tables that differ under one key at most differ in size by what they have under it. -/
theorem size_of_other (h : ∀ j, j ≠ k → t.get? j = s.get? j) :
    t.size + (s.get? k).toList.length = s.size + (t.get? k).toList.length := by
  have hrest : t.erase k = s.erase k := by
    refine ext_get? fun j => ?_
    rw [get?_erase, get?_erase]
    split
    · rfl
    · next hj => exact h j hj
  have hs := s.size_erase k
  have ht := t.size_erase k
  rw [hrest] at ht
  omega

end Table

variable [Route.Routing]

/-! ### The counters -/

/-- The number of calls with an operation that have succeeded. -/
def succeeded (op : Operation) (l : List Ask) : Nat := l.countP fun k => k.op == op && !k.failed

/-- A report with one call more. -/
def Report.add (r : Report) (k : Ask) : Report :=
  if k.failed then { r with failedCalls := r.failedCalls + 1 } else r.count k.op

/-- A report that counts some calls: each by its operation if it has succeeded, and else as a failed one. -/
structure Report.Tallies (r : Report) (l : List Ask) : Prop where
  registered : r.registered = succeeded .register l
  reloaded : r.reloaded = succeeded .reload l
  unregistered : r.unregistered = succeeded .unregister l
  failedCalls : r.failedCalls = l.countP Ask.failed

variable {r : Report} {l : List Ask} {k : Ask} {op : Operation}

theorem succeeded_append (op : Operation) (l m : List Ask) : succeeded op (l ++ m) = succeeded op l + succeeded op m :=
  List.countP_append ..

theorem succeeded_cons (op : Operation) (k : Ask) (l : List Ask) :
    succeeded op (k :: l) = succeeded op l + if k.op = op ∧ k.failed = false then 1 else 0 := by
  simp [succeeded, List.countP_cons]

/-- A call has failed, or has succeeded with one of the three operations. -/
theorem length_eq_succeeded (l : List Ask) :
    l.length = succeeded .register l + succeeded .reload l + succeeded .unregister l + l.countP Ask.failed := by
  induction l with
  | nil => rfl
  | cons k rest ih =>
      rw [List.length_cons, ih, succeeded_cons, succeeded_cons, succeeded_cons, List.countP_cons]
      cases k.failed <;> cases k.op <;> simp <;> omega

namespace Report.Tallies

theorem nil : Tallies {} [] := ⟨rfl, rfl, rfl, rfl⟩

/-- The counters add up to the number of calls. -/
theorem total (h : r.Tallies l) :
    r.registered + r.reloaded + r.unregistered + r.failedCalls = l.length := by
  rw [length_eq_succeeded, h.registered, h.reloaded, h.unregistered, h.failedCalls]

/-- The number of failures of providers is none of these counters. -/
theorem withFailures (h : r.Tallies l) (n : Nat) : Tallies { r with failures := n } l :=
  ⟨h.registered, h.reloaded, h.unregistered, h.failedCalls⟩

theorem add (h : r.Tallies l) (k : Ask) : (r.add k).Tallies (l ++ [k]) := by
  obtain ⟨hregistered, hreloaded, hunregistered, hfailed⟩ := h
  unfold Report.add
  cases hk : k.failed with
  | true => constructor <;> simp [succeeded, *]
  | false => cases hop : k.op <;> constructor <;> simp [succeeded, Report.count, *]

end Report.Tallies

namespace Site

variable {s t u : Site} {g : Group} {id : ServiceId}

/-! ### The account of a site -/

theorem perform_report (s : Site) (op : Operation) (g : Group) :
    (s.perform op g).2.report = s.report.add ⟨s, op, g⟩ := by
  unfold perform Report.add Ask.failed Ask.result
  obtain ⟨result, h⟩ := s.host.perform op g
  cases result <;> rfl

theorem unregister_tallies (h : s.report.Tallies l) (id : ServiceId) :
    (s.unregister id).report.Tallies
      (l ++ (s.registered.get? id).toList.map fun g => ⟨s.announce .unregister g, .unregister, g⟩) := by
  cases hknown : s.registered.get? id with
  | none =>
      rw [unregister_absent hknown]
      simpa using h
  | some g =>
      have hadded := h.add ⟨s.announce .unregister g, .unregister, g⟩
      have hreport : (s.unregister id).report =
          ((s.announce .unregister g).perform .unregister g).2.report := by
        rw [unregister_eq hknown]
        split <;> rfl
      rw [hreport, perform_report]
      exact hadded

/-- Unregistering counts the calls that were asked for. -/
theorem unregisterEach_tallies (h : s.report.Tallies l) (ids : List ServiceId) :
    (s.unregisterEach ids).report.Tallies (l ++ s.unregisterAsks ids) := by
  induction ids generalizing s l with
  | nil =>
      rw [unregisterAsks, List.append_nil]
      exact h
  | cons id rest ih =>
      have hrest := ih (unregister_tallies h id)
      rw [List.append_assoc] at hrest
      exact hrest

theorem settle_tallies (h : s.report.Tallies l) (op : Operation) (g : Group) :
    (s.settle op g).report.Tallies (l ++ [⟨s, op, g.told⟩]) := by
  have hreport : (s.settle op g).report = (s.perform op g.told).2.report := by
    rw [settle_eq]
    split <;> rfl
  rw [hreport, perform_report]
  exact h.add _

/-- So does bringing groups to the host; a call that waits is not counted yet. -/
theorem advance_tallies (h : s.report.Tallies l) (plan : List Group) :
    (s.advance plan).1.report.Tallies (l ++ s.advanceAsks plan) := by
  induction plan generalizing s l with
  | nil =>
      rw [advanceAsks, List.append_nil]
      exact h
  | cons g rest ih =>
      rw [advance_cons, advanceAsks]
      cases s.operationFor g with
      | none => exact ih h
      | some op =>
          dsimp only
          by_cases hholds : (s.announce op g.told).host.holds op g = true
          · rw [if_pos hholds, if_pos hholds, List.append_nil]
            exact h
          · rw [if_neg hholds, if_neg hholds]
            have hsettled : ((s.announce op g.told).settle op g).report.Tallies _ :=
              settle_tallies (s := s.announce op g.told) h op g
            have hrest := ih hsettled
            rw [List.append_assoc] at hrest
            exact hrest

/-! ### The number of groups that are recorded -/

/-- One call changes the number of groups that are recorded by one, or not at all. -/
theorem size_of_call {k : Ask} (h : k.Done t) (hknown : k.known.isSome = !(k.op == .register)) :
    t.registered.size + succeeded .unregister [k] = k.site.registered.size + succeeded .register [k] := by
  -- What is recorded of other groups is as before.
  have hsize := Table.size_of_other (s := k.site.registered) (t := t.registered) (k := k.id) fun j hj => by
    rw [h.record, if_neg hj]
  have hbefore : k.site.registered.get? k.id = k.known := rfl
  rw [h.record, if_pos rfl, hbefore, Ask.leaves] at hsize
  cases hfailed : k.failed with
  | true =>
      rw [if_pos hfailed] at hsize
      simpa [succeeded, hfailed] using hsize
  | false =>
      rw [if_neg (by simp [hfailed]), Ask.applied] at hsize
      cases hop : k.op with
      | register =>
          obtain hnone : k.known = none := by simpa [hop] using hknown
          simpa [succeeded, hop, hfailed, hnone] using hsize
      | reload =>
          obtain ⟨g, hg⟩ := Option.isSome_iff_exists.1 (hknown.trans (by rw [hop]; rfl))
          simpa [succeeded, hop, hg] using hsize
      | unregister =>
          obtain ⟨g, hg⟩ := Option.isSome_iff_exists.1 (hknown.trans (by rw [hop]; rfl))
          simpa [succeeded, hop, hfailed, hg] using hsize

/-- Along a chain of such calls the number changes with the groups that are registered and unregistered. -/
theorem Trail.size (h : Trail s l u) (hknown : ∀ k ∈ l, k.known.isSome = !(k.op == .register)) :
    u.registered.size + succeeded .unregister l = s.registered.size + succeeded .register l := by
  induction h with
  | refl => rfl
  | rests hrests _ ih =>
      rw [← hrests.registered]
      exact ih hknown
  | @asks k t u l hdone _ ih =>
      obtain ⟨hfirst, hrest⟩ := List.forall_mem_cons.1 hknown
      have hstep := size_of_call hdone hfirst
      have hthen := ih hrest
      rw [← List.singleton_append, succeeded_append, succeeded_append]
      omega

end Site

end RouteBinding
