import RouteBinding.Proofs.Registry.Freshness

/-!
# Removals are handed over once

A registry keeps what is removed until it is drained.  Every operation is accounted for here: what it stores is
live from then on, in the place of what it replaces, and what it withdraws is pending until a drain delivers it
(`Registry.Kept.account`, `Registry.Kept.account_pending`).  Over a run these accounts add up, and no record is
stored twice, so each record that was ever stored is either live, replaced, pending or delivered, and a removal
is delivered by the first drain that follows it (`Registry.run_handsOver`).
-/

namespace RouteBinding

open Property

/-! ### Tables that differ in one place -/

namespace Table

variable {κ α : Type} [LT κ] [DecidableEq κ] [LE κ] [Std.IsLinearOrder κ] [Std.LawfulOrderLT κ]

omit [Std.IsLinearOrder κ] in
/-- The values of a table are the one under a key, if there is one, and those under the other keys. -/
theorem values_perm_erase (t : Table κ α) (k : κ) :
    t.values.Perm ((t.get? k).toList ++ (t.erase k).values) := by
  have hnodup : ∀ u : Table κ α, u.entries.Nodup := by
    intro u
    apply u.sorted.imp
    rintro a b hlt rfl
    exact Std.lt_irrefl hlt
  have hsplit : t.entries.Perm ((t.get? k).toList.map (k, ·) ++ (t.erase k).entries) := by
    apply (List.perm_ext_iff_of_nodup (hnodup t) ?_).2
    · rintro ⟨j, a⟩
      rw [List.mem_append, mem_entries_iff, mem_entries_iff, get?_erase]
      by_cases hj : j = k
      · subst hj
        simp
      · simp [hj, Ne.symm hj]
    · apply List.nodup_append.2
      refine ⟨?_, hnodup _, ?_⟩
      · cases t.get? k <;> simp
      · rintro ⟨j, a⟩ hkey ⟨j', a'⟩ hother heq
        rw [mem_entries_iff, get?_erase] at hother
        simp only [List.mem_map, Prod.mk.injEq] at hkey heq
        obtain ⟨b, -, rfl, -⟩ := hkey
        simp [← heq.1] at hother
  have hvalues := hsplit.map Prod.snd
  rw [List.map_append, List.map_map] at hvalues
  simpa [values, Function.comp_def] using hvalues

/-- Two tables that agree but for one key have the same values but for the ones under it. -/
theorem values_perm {s t : Table κ α} {k : κ} (h : ∀ j, j ≠ k → s.get? j = t.get? j) :
    ((s.get? k).toList ++ t.values).Perm ((t.get? k).toList ++ s.values) := by
  have herase : s.erase k = t.erase k := by
    apply ext_get?
    intro j
    rw [get?_erase, get?_erase]
    split
    · rfl
    · next hj => exact h j hj
  have hs := s.values_perm_erase k
  have ht := t.values_perm_erase k
  rw [herase] at hs
  calc (s.get? k).toList ++ t.values
      _ |>.Perm ((s.get? k).toList ++ ((t.get? k).toList ++ (t.erase k).values)) := ht.append_left _
      _ |>.Perm ((t.get? k).toList ++ ((s.get? k).toList ++ (t.erase k).values)) :=
        List.perm_append_comm_assoc ..
      _ |>.Perm ((t.get? k).toList ++ s.values) := hs.symm.append_left _

end Table

/-- Some records are the groups among them and the rest. -/
theorem Entry.perm_kinds (entries : List Entry) : entries.Perm
    ((entries.filterMap Entry.group?).map .group ++ (entries.filterMap Entry.content?).map .content) := by
  induction entries with
  | nil => exact .refl _
  | cons e rest ih =>
      cases e with
      | group g => exact ih.cons _
      | content c => exact (ih.cons _).trans List.perm_middle.symm

/-- The live providers of a kind that a drain lists. -/
def RegistryView.listed (v : RegistryView) : Kind → List Entry
  | .group => v.groups.map .group
  | .handler => v.handlers.map .content
  | .interceptor => v.interceptors.map .content

namespace Registry

/-- The records of a kind by their identity. -/
def tableOf (r : Registry) : Kind → Table ServiceId Entry
  | .group => r.groups.map .group
  | .handler => r.handlers.map .content
  | .interceptor => r.interceptors.map .content

/-- All live records. -/
def records (r : Registry) : List Entry := Kind.every.flatMap r.drain.1.listed

/-- Every removal that a run of operations makes reaches one drain, and nothing that it stores is lost. -/
structure HandsOver (ops : List Operation) : Prop where
  /-- A drain hands out the groups, and the handlers and interceptors, that were removed since the drain before
  it, in the order of their removal and as they were live then. -/
  ordered : ∀ earlier recent later, ops = earlier ++ recent ++ .drain :: later →
    (earlier = [] ∨ ∃ start, earlier = start ++ [.drain]) → .drain ∉ recent →
    (empty.run (earlier ++ recent)).drain.1.removedGroups =
        (gather Operation.withdrawn (empty.run earlier) recent).filterMap Entry.group? ∧
      (empty.run (earlier ++ recent)).drain.1.removedContent =
        (gather Operation.withdrawn (empty.run earlier) recent).filterMap Entry.content?
  /-- What an operation removes is the live record, and the first drain behind it is the one that hands this
  record out. -/
  first : ∀ before op later place, ops = before ++ op :: later →
    op.removes? (empty.run before) = some place → ∃ e, (empty.run before).at? place = some e ∧
      ∀ earlier after, ops = earlier ++ .drain :: after →
        (e ∈ (empty.run earlier).drain.1.removed ↔
          ∃ quiet, earlier = before ++ op :: quiet ∧ .drain ∉ quiet)
  /-- No record is handed out twice. -/
  once : (gather Operation.delivered empty ops).Nodup
  /-- A drain changes no live provider. -/
  spared : (empty.run ops).drain.2.recordOf = (empty.run ops).recordOf
  /-- A drain lists the live records of a kind, each once and in the order of their identities. -/
  listed : ∀ kind, ((empty.run ops).drain.1.listed kind).Pairwise (fun e f => e.id < f.id) ∧
    ∀ e, e ∈ (empty.run ops).drain.1.listed kind ↔ (empty.run ops).recordOf kind e.id = some e
  /-- Every record that was stored is live, replaced, pending or delivered. -/
  fates : (gather Operation.stored empty ops).Perm ((empty.run ops).records ++
    gather Operation.replaced empty ops ++ (empty.run ops).pending ++ gather Operation.delivered empty ops)
  /-- No record is stored twice, so each has one of these fates only. -/
  distinct : (gather Operation.stored empty ops).Nodup

variable {r s : Registry} {kind k : Kind} {id j : ServiceId} {e : Entry} {op : Operation}
  {ops : List Operation}

/-! ### The live records -/

theorem tableOf_get? (r : Registry) (kind : Kind) (id : ServiceId) :
    (r.tableOf kind).get? id = r.recordOf kind id := by
  cases kind <;> exact Table.get?_map ..

theorem listed_eq (r : Registry) (kind : Kind) : r.drain.1.listed kind = (r.tableOf kind).values := by
  cases kind <;> exact (Table.values_map ..).symm

theorem listed_congr (h : ∀ j, s.recordOf k j = r.recordOf k j) :
    s.drain.1.listed k = r.drain.1.listed k := by
  rw [listed_eq, listed_eq]
  congr 1
  apply Table.ext_get?
  intro j
  rw [tableOf_get?, tableOf_get?, h]

/-- Two registries whose records agree but for one place have the same records but for the ones in it. -/
theorem records_perm (h : ∀ k j, ¬(k = kind ∧ j = id) → s.recordOf k j = r.recordOf k j) :
    ((s.recordOf kind id).toList ++ r.records).Perm ((r.recordOf kind id).toList ++ s.records) := by
  have hkind : ((s.recordOf kind id).toList ++ r.drain.1.listed kind).Perm
      ((r.recordOf kind id).toList ++ s.drain.1.listed kind) := by
    rw [listed_eq, listed_eq, ← tableOf_get?, ← tableOf_get?]
    apply Table.values_perm
    intro j hj
    rw [tableOf_get?, tableOf_get?]
    exact h kind j fun hboth => hj hboth.2
  have hother : ∀ k, k ≠ kind → s.drain.1.listed k = r.drain.1.listed k := fun k hk =>
    listed_congr fun j => h k j fun hboth => hk hboth.1
  rw [List.perm_iff_count] at hkind ⊢
  intro e
  have hcount := hkind e
  simp only [records, Kind.every, List.flatMap_cons, List.flatMap_nil, List.count_append] at hcount ⊢
  cases kind with
  | group =>
      rw [hother .handler (by decide), hother .interceptor (by decide)]
      omega
  | handler =>
      rw [hother .group (by decide), hother .interceptor (by decide)]
      omega
  | interceptor =>
      rw [hother .group (by decide), hother .handler (by decide)]
      omega

/-- The records of a registry know the identity they are kept under. -/
theorem recordOf_id (h : (empty.run ops).recordOf kind id = some e) : e.id = id := by
  obtain ⟨before, payload, props, later, -, -, rfl, -⟩ := (recordOf_run_iff ops kind id e).1 h
  exact Entry.ofProperties_id ..

/-- What a drain lists is in the order of the identities. -/
theorem listed_ordered (ops : List Operation) (kind : Kind) :
    ((empty.run ops).drain.1.listed kind).Pairwise fun e f => e.id < f.id := by
  rw [listed_eq]
  apply List.pairwise_map.1
  rw [Table.map_values_eq_keys]
  · exact Table.pairwise_keys _
  · intro id e he
    rw [tableOf_get?] at he
    exact recordOf_id he

/-- What a drain lists is what is live. -/
theorem mem_listed : e ∈ (empty.run ops).drain.1.listed kind ↔
    (empty.run ops).recordOf kind e.id = some e := by
  rw [listed_eq, Table.mem_values]
  constructor
  · rintro ⟨id, he⟩
    rw [tableOf_get?] at he
    rwa [recordOf_id he]
  · intro he
    exact ⟨e.id, by rw [tableOf_get?, he]⟩

/-! ### The accounts of one operation -/

/-- Only a drain delivers anything. -/
theorem Operation.delivered_eq_nil (hdrain : op ≠ .drain) : op.delivered r = [] := by
  cases op with
  | drain => exact absurd rfl hdrain
  | _ => rfl

namespace Kept

/-- A record that an operation stores, and every record that is live before it, is live after it, or is replaced
or withdrawn by it. -/
theorem account (h : r.Kept) (op : Operation) (hclear : op ≠ .clear) :
    (op.stored r ++ r.records).Perm (op.replaced r ++ op.withdrawn r ++ (op.apply r).records) := by
  cases h.effect op with
  | registers kind id payload props op_eq place assigned nextId nextRevision records =>
      have hstored : op.stored r = ((op.apply r).recordOf kind id).toList := by
        simp [Operation.stored, place, at?]
      have hreplaced : op.replaced r = (r.recordOf kind id).toList := by
        simp [Operation.replaced, place, at?]
      have hwithdrawn : op.withdrawn r = [] := by
        simp [op_eq, Operation.withdrawn, Operation.removes?]
      rw [hstored, hreplaced, hwithdrawn, List.append_nil]
      exact records_perm fun k j hother => by rw [records, if_neg hother]
  | removes kind id e registers place delivered held nextId nextRevision records =>
      have hstored : op.stored r = ((op.apply r).recordOf kind id).toList := by
        simp [Operation.stored, registers, records]
      have hreplaced : op.replaced r = [] := by
        simp [Operation.replaced, registers]
      have hwithdrawn : op.withdrawn r = (r.recordOf kind id).toList := by
        simp [Operation.withdrawn, place, at?]
      rw [hstored, hreplaced, hwithdrawn, List.nil_append]
      exact records_perm fun k j hother => by rw [records, if_neg hother]
  | drains op_eq =>
      subst op_eq
      exact .refl _
  | clears op_eq => exact absurd op_eq hclear
  | idle registers removes delivered same =>
      simp [Operation.stored, Operation.replaced, Operation.withdrawn, registers, removes, same]

/-- An operation that is no drain puts what it withdraws at the end of the pending removals. -/
theorem apply_pending (h : r.Kept) (op : Operation) (hclear : op ≠ .clear) (hdrain : op ≠ .drain) :
    (op.apply r).removedGroups = r.removedGroups ++ (op.withdrawn r).filterMap Entry.group? ∧
      (op.apply r).removedContent = r.removedContent ++ (op.withdrawn r).filterMap Entry.content? := by
  cases h.effect op with
  | registers kind id payload props op_eq place assigned nextId nextRevision records groups content =>
      have hwithdrawn : op.withdrawn r = [] := by
        simp [op_eq, Operation.withdrawn, Operation.removes?]
      simp [hwithdrawn, groups, content]
  | removes kind id e registers place delivered held nextId nextRevision records groups content =>
      have hwithdrawn : op.withdrawn r = [e] := by
        simp [Operation.withdrawn, place, at?, held]
      rw [hwithdrawn, groups, content]
      cases e <;> exact ⟨rfl, rfl⟩
  | drains op_eq => exact absurd op_eq hdrain
  | clears op_eq => exact absurd op_eq hclear
  | idle registers removes delivered same => simp [Operation.withdrawn, removes, same]

/-- What an operation withdraws, and what is pending before it, is delivered by it or is pending after it. -/
theorem account_pending (h : r.Kept) (op : Operation) (hclear : op ≠ .clear) :
    (op.withdrawn r ++ r.pending).Perm (op.delivered r ++ (op.apply r).pending) := by
  by_cases hdrain : op = .drain
  · subst hdrain
    simp [Operation.withdrawn, Operation.removes?, Operation.delivered, Operation.apply, Registry.drain,
      pending, RegistryView.removed]
  · obtain ⟨hgroups, hcontent⟩ := h.apply_pending op hclear hdrain
    have hwithdrawn := Entry.perm_kinds (op.withdrawn r)
    rw [List.perm_iff_count] at hwithdrawn ⊢
    intro e
    have hcount := hwithdrawn e
    simp only [Operation.delivered_eq_nil hdrain, pending, hgroups, hcontent, List.map_append,
      List.nil_append, List.count_append] at hcount ⊢
    omega

end Kept

/-! ### The accounts of a run -/

/-- Every record that a run stored is live, or was replaced or withdrawn. -/
theorem run_account (hclear : .clear ∉ ops) : (gather Operation.stored empty ops).Perm
    ((empty.run ops).records ++ gather Operation.replaced empty ops ++
      gather Operation.withdrawn empty ops) := by
  induction ops using List.reverseRecOn with
  | nil => exact .refl _
  | append_singleton ops op ih =>
      have hstep := (Kept.empty.run ops).account op fun heq => hclear (by simp [heq])
      have hbefore := ih fun hmem => hclear (List.mem_append_left _ hmem)
      rw [List.perm_iff_count] at hstep hbefore ⊢
      intro e
      have hnow := hstep e
      have hsum := hbefore e
      simp only [gather_concat, run_concat, List.count_append] at hnow hsum ⊢
      omega

/-- Everything that a run withdrew was delivered or is pending. -/
theorem run_account_pending (hclear : .clear ∉ ops) : (gather Operation.withdrawn empty ops).Perm
    (gather Operation.delivered empty ops ++ (empty.run ops).pending) := by
  induction ops using List.reverseRecOn with
  | nil => exact .refl _
  | append_singleton ops op ih =>
      have hstep := (Kept.empty.run ops).account_pending op fun heq => hclear (by simp [heq])
      have hbefore := ih fun hmem => hclear (List.mem_append_left _ hmem)
      rw [List.perm_iff_count] at hstep hbefore ⊢
      intro e
      have hnow := hstep e
      have hsum := hbefore e
      simp only [gather_concat, run_concat, List.count_append] at hnow hsum ⊢
      omega

theorem withdrawn_nodup (hclear : .clear ∉ ops) : (gather Operation.withdrawn empty ops).Nodup := by
  have hstored := (run_account hclear).nodup_iff.1 (stored_nodup ops)
  exact (List.nodup_append.1 hstored).2.1

theorem delivered_nodup (hclear : .clear ∉ ops) : (gather Operation.delivered empty ops).Nodup := by
  have hwithdrawn := (run_account_pending hclear).nodup_iff.1 (withdrawn_nodup hclear)
  exact (List.nodup_append.1 hwithdrawn).1

/-- Operations without a drain put all that they withdraw at the end of the pending removals. -/
theorem Kept.run_pending (h : r.Kept) (hclear : .clear ∉ ops) (hdrain : .drain ∉ ops) :
    (r.run ops).removedGroups =
        r.removedGroups ++ (gather Operation.withdrawn r ops).filterMap Entry.group? ∧
      (r.run ops).removedContent =
        r.removedContent ++ (gather Operation.withdrawn r ops).filterMap Entry.content? := by
  induction ops using List.reverseRecOn with
  | nil => simp [Registry.run, gather]
  | append_singleton ops op ih =>
      obtain ⟨hgroups, hcontent⟩ := ih (fun hmem => hclear (List.mem_append_left _ hmem))
        fun hmem => hdrain (List.mem_append_left _ hmem)
      obtain ⟨hgroup, hcontents⟩ := (h.run ops).apply_pending op
        (fun heq => hclear (by simp [heq])) fun heq => hdrain (by simp [heq])
      rw [run_concat, gather_concat, hgroup, hcontents, hgroups, hcontent]
      simp

/-- An operation with no drain behind it is the last one, or one of those before it if the last one is no
drain. -/
theorem exists_quiet_concat {front : List Operation → Operation → Prop} :
    (∃ before o quiet, ops ++ [op] = before ++ o :: quiet ∧ .drain ∉ quiet ∧ front before o) ↔
      front ops op ∨
        op ≠ .drain ∧ ∃ before o quiet, ops = before ++ o :: quiet ∧ .drain ∉ quiet ∧ front before o := by
  constructor
  · rintro ⟨before, o, quiet, heq, hquiet, hfront⟩
    rcases List.eq_nil_or_concat quiet with rfl | ⟨quiet, last, rfl⟩
    · obtain ⟨rfl, hlast⟩ := List.append_inj' heq rfl
      cases hlast
      exact .inl hfront
    · rw [List.concat_eq_append, ← List.cons_append, ← List.append_assoc] at heq
      obtain ⟨rfl, hlast⟩ := List.append_inj' heq rfl
      cases hlast
      simp only [List.concat_eq_append, List.mem_append, List.mem_singleton, not_or] at hquiet
      exact .inr ⟨Ne.symm hquiet.2, before, o, quiet, rfl, hquiet.1, hfront⟩
  · rintro (hfront | ⟨hdrain, before, o, quiet, rfl, hquiet, hfront⟩)
    · exact ⟨ops, op, [], rfl, List.not_mem_nil, hfront⟩
    · refine ⟨before, o, quiet ++ [op], by simp, ?_, hfront⟩
      simp [hquiet, Ne.symm hdrain]

/-- A removal is pending as long as no drain follows it. -/
theorem mem_pending_run (hclear : .clear ∉ ops) : e ∈ (empty.run ops).pending ↔
    ∃ before op quiet, ops = before ++ op :: quiet ∧ .drain ∉ quiet ∧
      e ∈ op.withdrawn (empty.run before) := by
  induction ops using List.reverseRecOn with
  | nil => simp [run, empty, pending]
  | append_singleton ops op ih =>
      have hop : op ≠ .clear := fun heq => hclear (by simp [heq])
      rw [exists_quiet_concat, ← ih fun hmem => hclear (List.mem_append_left _ hmem), run_concat]
      by_cases hdrain : op = .drain
      · subst hdrain
        simp [Operation.withdrawn, Operation.removes?, Operation.apply, drain, pending]
      · have hperm := (Kept.empty.run ops).account_pending op hop
        rw [Operation.delivered_eq_nil hdrain, List.nil_append] at hperm
        rw [← hperm.mem_iff, List.mem_append]
        simp [hdrain]

/-- A removal is handed out by the first drain that follows it, and by no other one. -/
theorem removed_iff {before later earlier after : List Operation} (hclear : .clear ∉ ops)
    (hsplit : ops = before ++ op :: later) (he : e ∈ op.withdrawn (empty.run before))
    (hdrain : ops = earlier ++ .drain :: after) :
    e ∈ (empty.run earlier).drain.1.removed ↔
      ∃ quiet, earlier = before ++ op :: quiet ∧ .drain ∉ quiet := by
  have hearlier : .clear ∉ earlier := fun hmem => hclear (by simp [hdrain, hmem])
  refine (mem_pending_run hearlier).trans ?_
  constructor
  · rintro ⟨before', op', quiet, rfl, hquiet, he'⟩
    -- The record is withdrawn only once, so this is the same removal.
    rw [List.append_assoc, List.cons_append] at hdrain
    obtain ⟨rfl, rfl⟩ := gather_unique (withdrawn_nodup hclear) hsplit hdrain he he'
    exact ⟨quiet, rfl, hquiet⟩
  · rintro ⟨quiet, rfl, hquiet⟩
    exact ⟨before, op, quiet, rfl, hquiet, he⟩

/-- A removal that finds a provider withdraws its record. -/
theorem Kept.removes_record (h : r.Kept) {place : Kind × ServiceId} (hplace : op.removes? r = some place) :
    ∃ e, r.at? place = some e ∧ op.withdrawn r = [e] := by
  cases h.effect op with
  | registers kind id payload props op_eq => simp [op_eq, Operation.removes?] at hplace
  | removes kind id e registers place' delivered held =>
      obtain rfl := Option.some.inj (hplace.symm.trans place')
      exact ⟨e, held, by simp [Operation.withdrawn, hplace, at?, held]⟩
  | drains op_eq => simp [op_eq, Operation.removes?] at hplace
  | clears op_eq => simp [op_eq, Operation.removes?] at hplace
  | idle registers removes => simp [removes] at hplace

/-- Operations on a registry that never clear it hand every removal over once, and lose no record. -/
theorem run_handsOver (ops : List Operation) (hclear : .clear ∉ ops) : HandsOver ops where
  ordered := by
    rintro earlier recent later rfl hearlier hrecent
    have hdrained : (empty.run earlier).removedGroups = [] ∧ (empty.run earlier).removedContent = [] := by
      rcases hearlier with rfl | ⟨start, rfl⟩
      · exact ⟨rfl, rfl⟩
      · rw [run_concat]
        exact ⟨rfl, rfl⟩
    have hkept : .clear ∉ recent := fun hmem => hclear (by simp [hmem])
    have hpending := (Kept.empty.run earlier).run_pending hkept hrecent
    rw [hdrained.1, hdrained.2, List.nil_append, List.nil_append] at hpending
    rw [run_append]
    exact hpending
  first := by
    intro before op later place hsplit hplace
    obtain ⟨e, he, hwithdrawn⟩ := (Kept.empty.run before).removes_record hplace
    exact ⟨e, he, fun earlier after hdrain =>
      removed_iff hclear hsplit (hwithdrawn ▸ List.mem_singleton_self e) hdrain⟩
  once := delivered_nodup hclear
  spared := recordOf_congr rfl rfl rfl
  listed := fun kind => ⟨listed_ordered ops kind, fun e => mem_listed⟩
  fates := by
    have hstored := run_account hclear
    have hwithdrawn := run_account_pending hclear
    rw [List.perm_iff_count] at hstored hwithdrawn ⊢
    intro e
    have hlive := hstored e
    have hgone := hwithdrawn e
    simp only [List.count_append] at hlive hgone ⊢
    omega
  distinct := stored_nodup ops

/-- A group is removed, registered again and replaced before the drain, and the identity of a handler goes to an
interceptor that is removed after it. -/
def exchanging : List Operation :=
  let group : Map := .ofList [(Key.serviceId, .number 3), (Key.path, .text "/a")]
  let content : Map := .ofList [(Key.serviceId, .number 7)]
  [.upsert .group (.shared 1 .plain) group, .upsert .handler (.shared 2 .plain) content, .remove .group 3,
    .upsert .group (.shared 3 .plain) group, .removeAny 7, .upsert .group (.shared 4 .plain) group, .drain,
    .upsert .interceptor (.shared 5 .plain) content, .remove .handler 7, .removeAny 7, .drain,
    .remove .group 3]

theorem exchanging_handsOver : .clear ∉ exchanging ∧ HandsOver exchanging ∧
    (gather Operation.delivered empty exchanging).map Entry.revision = [1, 2, 5] ∧
    (gather Operation.replaced empty exchanging).map Entry.revision = [3] ∧
    (empty.run exchanging).pending.map Entry.revision = [4] ∧ (empty.run exchanging).records = [] := by
  have hclear : .clear ∉ exchanging := by simp [exchanging]
  exact ⟨hclear, run_handsOver exchanging hclear, by decide +kernel, by decide +kernel, by decide +kernel,
    by decide +kernel⟩

end Registry

end RouteBinding
