import RouteBinding.Proofs.Pass.Accounting
import RouteBinding.Proofs.Registry.Ledger
import RouteBinding.Proofs.Requirement.Greatest

/-!
# Why content is left out

Content that is valid, meant for the host and keeps its name is left out for one of four reasons, or held by a
planned group.  Each reason has a cause of its own (`Reading.Blames`): the content cannot be acquired; it is an
interceptor without a contract; no group is there for it; or what it requires is not there.  The last two depend
on the groups that the content is offered to (`Reading.offering`), interceptors before groups are dropped and
handlers after that.  An interceptor may be detached from one such group, dropped with another and held by a
third, so these two causes are told apart by all the groups together: from one group it was detached, or from
none (`Reading.reasons_exact`).
-/

namespace RouteBinding

open Property

namespace Reading

variable (r : Reading)

/-- Some planned group has content attached to it. -/
def Held (x : Content) : Prop := ∃ g ∈ r.plan, x ∈ g.attached

/-- A provider is reported, for one reason and once. -/
def Reports (p : Provider) (reason : Reason) : Prop := r.entries p = [p.failed reason]

/-- The identities of the content of a kind that is detached from a group because of what it requires. -/
def detachedFrom : Kind → Group → List ServiceId
  | .handler, g => (r.unmanned g).map Content.id
  | _, g => r.shed g

/-- Content is detached from a group because of what it requires. -/
def Detaches (g : Group) (x : Content) : Prop := x.id ∈ r.detachedFrom x.kind g

/-- What causes content that is valid, meant for the host and keeps its name to be left out, by reason. -/
def Blames (x : Content) : Reason → Prop
  | .notGettable => ∃ e, r.outcomes x.id = .error e
  | .notAnExtension => x.kind = .interceptor ∧
      ∃ contracts, r.outcomes x.id = .ok contracts ∧ contracts.isEmpty = true
  | .applicationUnavailable => r.Eligible x ∧
      ((∀ g ∈ r.offering x.kind, ¬x.selects g = true) ∨
        x.kind = .interceptor ∧ ¬r.Held x ∧ ∀ g ∈ r.offering x.kind, ¬r.Detaches g x)
  | .extensionsUnavailable => r.Eligible x ∧ (∃ g ∈ r.offering x.kind, x.selects g = true) ∧
      ¬r.Held x ∧ ∃ g ∈ r.offering x.kind, r.Detaches g x
  | _ => False

/-- What a pass reports about content that is valid, meant for the host and keeps its name. -/
structure ReasonsExact (x : Content) : Prop where
  /-- It is reported for a reason exactly if there is the cause of this reason. -/
  reported : ∀ reason, r.Reports x.provider reason ↔ r.Blames x reason
  /-- It is not reported exactly if a planned group holds it. -/
  silent : r.entries x.provider = [] ↔ r.Held x
  /-- It is detached from the groups that it is eligible for and selects and where something that it requires is
  matched by none of the other interceptors that stay, not by the group and not by the host. -/
  detaches : ∀ g, r.Detaches g x ↔ r.Eligible x ∧ x.selects g = true ∧
    ∃ f ∈ x.provider.requires, ¬Matched r.intake.host g ((r.kept g).filter fun y => y.id ≠ x.id) f
  /-- Where no group is there for it, every group that it selects keeps it and is dropped. -/
  dropped : r.Reports x.provider .applicationUnavailable →
    ∀ g ∈ r.offering x.kind, x.selects g = true → x ∈ r.staying x.kind g ∧ g ∉ r.served

variable {r}

section Groups

variable (h : r.intake.WellFormed)
include h

theorem nodup_offered (k : Kind) (g : Group) :
    ((Contest.choose r.outcomes (r.contest.roster.content k) g).map Content.id).Nodup :=
  (nodup_contest_content h k).sublist (List.filter_sublist.map _)

/-- What stays attached to a group is what it is offered and finds its requirements met. -/
theorem mem_staying_iff {k : Kind} {g : Group} {x : Content} : x ∈ r.staying k g ↔
    x ∈ Contest.choose r.outcomes (r.contest.roster.content k) g ∧
      requirementsMet r.contest.host g (r.kept g) x.provider = true := by
  cases k with
  | handler => exact List.mem_filter
  | group => exact mem_settle_iff (nodup_offered h .group g)
  | interceptor => exact mem_settle_iff (nodup_offered h .interceptor g)

/-- What is detached from a group is what it is offered and does not find its requirements met. -/
theorem mem_detachedFrom_iff {k : Kind} {g : Group} {id : ServiceId} : id ∈ r.detachedFrom k g ↔
    ∃ x ∈ Contest.choose r.outcomes (r.contest.roster.content k) g,
      ¬requirementsMet r.contest.host g (r.kept g) x.provider = true ∧ x.id = id := by
  cases k with
  | handler =>
      show id ∈ (r.unmanned g).map Content.id ↔ _
      simp only [unmanned, List.mem_map, List.mem_filter, Bool.not_eq_true', Bool.not_eq_true, and_assoc]
      rfl
  | group => exact mem_detached_iff (nodup_offered h .group g)
  | interceptor => exact mem_detached_iff (nodup_offered h .interceptor g)

variable {x : Content} (hk : x.kind ≠ .group) (hx : x ∈ r.intake.roster.content x.kind)
include hk hx

/-- Content that a group is offered under the identity of live content is this content. -/
theorem eq_of_offered {g : Group} {y : Content}
    (hy : y ∈ Contest.choose r.outcomes (r.contest.roster.content x.kind) g) (hid : y.id = x.id) : y = x :=
  contest_content_eq h hk hx (live_of_contest (mem_choose_iff.1 hy).1) hid

theorem detaches_iff {g : Group} : r.Detaches g x ↔
    x ∈ Contest.choose r.outcomes (r.contest.roster.content x.kind) g ∧
      ¬requirementsMet r.contest.host g (r.kept g) x.provider = true := by
  rw [Detaches, mem_detachedFrom_iff h]
  constructor
  · rintro ⟨y, hy, hunmet, hid⟩
    obtain rfl : y = x := eq_of_offered h hk hx hy hid
    exact ⟨hy, hunmet⟩
  · exact fun hoffered => ⟨x, hoffered.1, hoffered.2, rfl⟩

/-- Content that a group is offered stays there or is detached. -/
theorem mem_staying_or_detaches {g : Group} (heligible : r.Eligible x) (hselects : x.selects g = true) :
    x ∈ r.staying x.kind g ∨ r.Detaches g x := by
  have hoffered := (mem_offered_iff h).2 ⟨hx, heligible, hselects⟩
  rw [mem_staying_iff h, detaches_iff h hk hx, and_iff_right hoffered, and_iff_right hoffered]
  exact em _

omit hx in
theorem mem_attached_iff {g : Group} : x ∈ (r.formed g).attached ↔ x ∈ r.staying x.kind g := by
  have hinterceptor : x ∈ r.kept g → x.kind = .interceptor := fun hkept =>
    h.roster.interceptorKind x ((kept_sublist g).subset hkept)
  have hhandler : x ∈ r.manned g → x.kind = .handler := fun hmanned =>
    h.roster.handlerKind x ((manned_sublist g).subset hmanned)
  rw [mem_attached_formed]
  cases hkind : x.kind with
  | handler => exact or_iff_right fun hkept => by cases hkind.symm.trans (hinterceptor hkept)
  | group => exact absurd hkind hk
  | interceptor => exact or_iff_left fun hmanned => by cases hkind.symm.trans (hhandler hmanned)

omit hx in
theorem held_iff : r.Held x ↔ ∃ g ∈ r.served, x ∈ r.staying x.kind g := by
  constructor
  · rintro ⟨g, hg, hattached⟩
    obtain ⟨g₀, hserved, rfl⟩ := r.mem_plan_iff.1 hg
    exact ⟨g₀, hserved, (mem_attached_iff h hk).1 hattached⟩
  · rintro ⟨g, hserved, hstays⟩
    exact ⟨r.formed g, r.mem_plan_iff.2 ⟨g, hserved, rfl⟩, (mem_attached_iff h hk).2 hstays⟩

theorem mem_holding_iff_held : x.id ∈ r.holding x.kind ↔ r.Held x := by
  rw [mem_holding_iff, held_iff h hk]
  refine exists_congr fun g => and_congr_right fun _ => ?_
  constructor
  · rintro ⟨c, hc, hid⟩
    obtain rfl : c = x := eq_of_offered h hk hx (staying_subset x.kind g hc) hid
    exact hc
  · exact fun hstays => ⟨x, hstays, rfl⟩

omit h hk hx in
/-- Content is detached from the groups that it is offered to, and from no others. -/
theorem mem_detaching_iff : x.id ∈ r.detaching x.kind ↔ ∃ g ∈ r.offering x.kind, r.Detaches g x := by
  have heq : r.detaching x.kind = (r.offering x.kind).flatMap (r.detachedFrom x.kind) := by
    cases x.kind with
    | handler => exact r.detaching_handlers
    | group => exact r.detaching_interceptors
    | interceptor => exact r.detaching_interceptors
  rw [heq, List.mem_flatMap]
  rfl

end Groups

/-! ### Causes and reasons -/

section Reasons

variable (h : r.intake.WellFormed) {x : Content} (hk : x.kind ≠ .group)
  (hx : x ∈ r.intake.roster.content x.kind)
include h hk hx

/-- What is published about content is why it is left out. -/
theorem entries_content :
    r.entries x.provider = (r.contentReason x).toList.map x.provider.failed := by
  have hperm := (entries_perm x.provider).trans (.of_eq (about_content h hk hx))
  cases hreason : r.contentReason x with
  | none =>
      rw [hreason] at hperm
      exact List.perm_nil.1 hperm
  | some reason =>
      rw [hreason] at hperm
      exact List.perm_singleton.1 hperm

theorem reports_iff {reason : Reason} :
    r.Reports x.provider reason ↔ r.contentReason x = some reason := by
  rw [Reports, entries_content h hk hx]
  cases r.contentReason x with
  | none => simp
  | some why => simp [Provider.failed]

omit h hk hx in
theorem usageReason_of_eligible (heligible : r.Eligible x) : r.usageReason x =
    if (r.offering x.kind).any x.selects then
      if (r.holding x.kind).contains x.id then none
      else if (r.detaching x.kind).contains x.id then some .extensionsUnavailable
      else some .applicationUnavailable
    else some .applicationUnavailable := by
  obtain ⟨contracts, hok, hadvertises⟩ := heligible.acquired
  have hbare : ¬(x.kind == .interceptor && contracts.isEmpty) = true := by
    simpa using hadvertises
  rw [usageReason, hok]
  exact if_neg hbare

/-- A cause makes its reason the one that is reported, whatever else is so. -/
theorem usageReason_of_blames {reason : Reason} (hcause : r.Blames x reason) :
    r.usageReason x = some reason := by
  have hheld := mem_holding_iff_held h hk hx
  have hdetached := mem_detaching_iff (r := r) (x := x)
  cases reason with
  | notGettable =>
      obtain ⟨e, herror⟩ := hcause
      rw [usageReason, herror]
  | notAnExtension =>
      obtain ⟨hkind, contracts, hok, hbare⟩ := hcause
      simp [usageReason, hok, hkind, hbare]
  | applicationUnavailable =>
      obtain ⟨heligible, hnone | ⟨-, hnot, hstays⟩⟩ := hcause
      · have hoffer : (r.offering x.kind).any x.selects = false := by simpa using hnone
        rw [usageReason_of_eligible heligible, hoffer]
        rfl
      · have hholding : x.id ∉ r.holding x.kind := fun hid => hnot (hheld.1 hid)
        have hdetaching : x.id ∉ r.detaching x.kind := by simpa [hdetached] using hstays
        simp [usageReason_of_eligible heligible, hholding, hdetaching]
  | extensionsUnavailable =>
      obtain ⟨heligible, hselects, hnot, hdetaches⟩ := hcause
      have hoffer : (r.offering x.kind).any x.selects = true := List.any_eq_true.2 hselects
      have hholding : x.id ∉ r.holding x.kind := fun hid => hnot (hheld.1 hid)
      have hdetaching : x.id ∈ r.detaching x.kind := hdetached.2 hdetaches
      simp [usageReason_of_eligible heligible, hoffer, hholding, hdetaching]
  | invalid | validationFailed | shadowed | duplicateName => exact hcause.elim

variable (hvalid : x.provider.isValid = true) (htarget : x.provider.appliesTo r.intake.host = true)
  (hname : ¬r.intake.contenders.LosesName x.provider)
include hvalid htarget hname

/-- Content that no planned group holds has a cause for it. -/
theorem held_or_blamed : r.Held x ∨ ∃ reason, r.Blames x reason := by
  cases hout : r.outcomes x.id with
  | error e => exact .inr ⟨.notGettable, e, hout⟩
  | ok contracts =>
      by_cases hbare : x.kind = .interceptor ∧ contracts.isEmpty = true
      · exact .inr ⟨.notAnExtension, hbare.1, contracts, hout, hbare.2⟩
      · have heligible : r.Eligible x :=
          ⟨hvalid, htarget, hname, contracts, hout, fun hkind => by simpa [hkind] using hbare⟩
        by_cases hoffer : ∃ g ∈ r.offering x.kind, x.selects g = true
        · refine or_iff_not_imp_left.2 fun hnot => ?_
          by_cases hdetaches : ∃ g ∈ r.offering x.kind, r.Detaches g x
          · exact ⟨.extensionsUnavailable, heligible, hoffer, hnot, hdetaches⟩
          · push Not at hdetaches
            refine ⟨.applicationUnavailable, heligible, .inr ⟨?_, hnot, hdetaches⟩⟩
            -- A handler is offered to served groups alone, so one that is not detached is held.
            obtain ⟨g, hg, hselects⟩ := hoffer
            have hstays := (mem_staying_or_detaches h hk hx heligible hselects).resolve_right (hdetaches g hg)
            cases hkind : x.kind with
            | handler =>
                rw [hkind] at hg
                exact absurd ((held_iff h hk).2 ⟨g, hg, hstays⟩) hnot
            | group => exact absurd hkind hk
            | interceptor => rfl
        · push Not at hoffer
          exact .inr ⟨.applicationUnavailable, heligible, .inl hoffer⟩

omit hk hx in
/-- Where nothing is wrong with content itself, only its use can be. -/
theorem contentReason_eq_usageReason : r.contentReason x = r.usageReason x := by
  have hkeeps : x.provider ∉ r.intake.contenders.duplicates := fun hlost =>
    hname ((Roster.mem_duplicates_iff h.unique_contenders).1 hlost).2
  rw [Provider.isValid, Option.isNone_iff_eq_none] at hvalid
  simp [contentReason, hvalid, htarget, hkeeps]

omit hvalid hname in
theorem contentReason_eq_none_iff : r.contentReason x = none ↔ r.Held x := by
  rw [← mem_holding_iff_held h hk hx, mem_holding_iff_reason h hx hk, and_iff_right htarget]

theorem contentReason_eq_some_iff {reason : Reason} :
    r.contentReason x = some reason ↔ r.Blames x reason := by
  have husage := contentReason_eq_usageReason h hvalid htarget hname
  constructor
  · intro hreason
    rcases held_or_blamed h hk hx hvalid htarget hname with hheld | ⟨why, hcause⟩
    · rw [(contentReason_eq_none_iff h hk hx htarget).2 hheld] at hreason
      cases hreason
    · rw [husage, usageReason_of_blames h hk hx hcause] at hreason
      exact Option.some.inj hreason ▸ hcause
  · exact fun hcause => husage.trans (usageReason_of_blames h hk hx hcause)

end Reasons

/-- The reasons that are reported for content that is valid, meant for the host and keeps its name have exactly
the causes that they should have. -/
theorem reasons_exact (h : r.intake.WellFormed) {x : Content} (hk : x.kind ≠ .group)
    (hx : x ∈ r.intake.roster.content x.kind) (hvalid : x.provider.isValid = true)
    (htarget : x.provider.appliesTo r.intake.host = true)
    (hname : ¬r.intake.contenders.LosesName x.provider) : r.ReasonsExact x := by
  have hreported : ∀ reason, r.Reports x.provider reason ↔ r.Blames x reason := fun reason =>
    (reports_iff h hk hx).trans (contentReason_eq_some_iff h hk hx hvalid htarget hname)
  refine
    { reported := hreported
      silent := ?_
      detaches := fun g => ?_
      dropped := fun hreports g hg hselects => ?_ }
  · rw [entries_content h hk hx, ← contentReason_eq_none_iff h hk hx htarget]
    cases r.contentReason x <;> simp
  · rw [detaches_iff h hk hx, mem_offered_iff h, requirementsMet_iff_matched]
    push Not
    simp only [hx, true_and, and_assoc]
    rfl
  · obtain ⟨heligible, hnone | ⟨-, hnot, hstays⟩⟩ := (hreported _).1 hreports
    · exact absurd hselects (hnone g hg)
    · have hkept := (mem_staying_or_detaches h hk hx heligible hselects).resolve_right (hstays g hg)
      exact ⟨hkept, fun hserved => hnot ((held_iff h hk).2 ⟨g, hserved, hkept⟩)⟩

/-- Registrations of a group `/api`, a group `/old` that requires what nothing offers, and a group `/new`; of
interceptors that are dropped with `/old`, detached from `/api` as well, or held by `/new` all the same, that
select no group, are broken, or advertise no contract; and of handlers for `/old` and for `/api`. -/
def stranding : List Registry.Operation :=
  let group (path : String) (more : List (String × Value)) :=
    .upsert .group (.shared 0 .plain)
      (.ofList ((Key.routeGroup, .flag true) :: (Key.path, .text path) :: more))
  let interceptor (payload : Payload) (select : String) (more : List (String × Value)) :=
    .upsert .interceptor payload
      (.ofList ((Key.routeInterceptor, .flag true) :: (Key.select, .text select) :: more))
  let handler (select : String) (more : List (String × Value)) :=
    .upsert .handler (.shared 1 .plain)
      (.ofList ((Key.routeHandler, .flag true) :: (Key.select, .text select) :: more))
  let filter : Payload := .shared 2 (.marker (.ofList [.requestFilter]))
  [group "/api" [],
    group "/old" [(Key.requires, .text "(scheme=none)")],
    group "/new" [],
    interceptor filter "(path=/old)" [("scheme", .text "basic")],
    interceptor filter "(|(path=/api)(path=/old))" [(Key.requires, .text "(scheme=basic)")],
    interceptor filter "(|(path=/old)(path=/new))" [("scheme", .text "digest")],
    interceptor filter "(|(path=/api)(path=/old)(path=/new))" [(Key.requires, .text "(scheme=digest)")],
    interceptor filter "(path=/none)" [],
    interceptor (.made 0) "(path=/api)" [],
    interceptor (.shared 3 .plain) "(path=/api)" [],
    handler "(path=/old)" [],
    handler "(path=/api)" [(Key.requires, .text "(scheme=basic)")],
    handler "(path=/api)" []]

/-- A dispatcher with these providers, a broken factory and an implicit default group. -/
def strandedDispatcher : Dispatcher :=
  { Dispatcher.new {} {} (.shared 0 .plain) { factories := [⟨.broken, 0, 0⟩] } with
      registry := Registry.empty.run stranding }

theorem stranded_wellFormed : strandedDispatcher.reading.intake.WellFormed where
  roster := (Registry.Kept.empty.run stranding).toSound.live_wellFormed
  implicit := by
    intro g hg
    exact ⟨"/", .shared 0 .plain, (Option.some.inj hg).symm⟩

/-- There each of the four reasons is reported.  The groups hold 6, 7 and 13 alone, and 7 although it is
detached from `/api` and dropped with `/old`. -/
theorem stranded_reasons_exact : strandedDispatcher.reading.intake.WellFormed ∧
    strandedDispatcher.reading.snapshot.toList.map (fun f => (f.id, f.reason)) =
      [(2, .extensionsUnavailable), (11, .applicationUnavailable), (12, .extensionsUnavailable),
        (4, .applicationUnavailable), (5, .extensionsUnavailable), (8, .applicationUnavailable),
        (9, .notGettable), (10, .notAnExtension)] ∧
    ∀ x ∈ strandedDispatcher.reading.intake.roster.handlers ++
        strandedDispatcher.reading.intake.roster.interceptors,
      strandedDispatcher.reading.ReasonsExact x := by
  refine ⟨stranded_wellFormed, by decide +kernel, fun x hx => ?_⟩
  have hlive : ∀ y ∈ strandedDispatcher.reading.intake.roster.handlers ++
      strandedDispatcher.reading.intake.roster.interceptors, y.kind ≠ .group ∧
        y ∈ strandedDispatcher.reading.intake.roster.content y.kind ∧ y.provider.isValid = true ∧
        y.provider.appliesTo strandedDispatcher.reading.intake.host = true ∧
        y.provider.generated = true := by
    decide +kernel
  obtain ⟨hk, hcontent, hvalid, htarget, hgenerated⟩ := hlive x hx
  -- No name is declared here, so none is lost.
  have hname : ¬strandedDispatcher.reading.intake.contenders.LosesName x.provider := fun hlost => by
    cases hgenerated.symm.trans hlost.1
  exact reasons_exact stranded_wellFormed hk hcontent hvalid htarget hname

end Reading

end RouteBinding
