import RouteBinding.Proofs.Run.Asked

/-!
# Every call is justified

Where the host is left to the dispatcher, a pass makes no call without a reason and leaves none out
(`Pass.Justified`): it unregisters what was removed or is not wanted, registers what is wanted and not
registered, and reloads what differs from what the host was last told.  So no call can fail because a group
is registered already, or is not registered (`Ask.Excused`).  This holds over whole histories, in which every
call is one of a pass or of the closing of the dispatcher (`History.calls_justified`).
-/

namespace RouteBinding

open Host

/-- A group differs from what is recorded of it, in itself or in what is attached to it. -/
def Group.Differs (g old : Group) : Prop :=
  g.provider.revision ≠ old.provider.revision ∨
    (g.attached.map fun c => (c.kind, c.id, c.provider.revision)) ≠
      old.attached.map fun c => (c.kind, c.id, c.provider.revision)

instance (g old : Group) : Decidable (g.Differs old) := inferInstanceAs (Decidable (_ ∨ _))

/-- Groups of one revision have one path, so that a fingerprint tells no more than revisions do. -/
theorem Archive.Holds.fingerprint_eq_iff {A : Archive} {bound : Nat} {g old : Group} (hg : A.Holds bound g)
    (hold : A.Holds bound old) : old.fingerprint = g.fingerprint ↔ ¬g.Differs old := by
  unfold Group.Differs
  rw [not_or, not_not, not_not]
  refine ⟨fun h => ?_, fun ⟨hrevision, hcontent⟩ => ?_⟩
  · exact ⟨(congrArg Fingerprint.revision h).symm, (congrArg Fingerprint.content h).symm⟩
  · have hbare : g.bare = old.bare := by rw [← hg.bare, ← hold.bare, hrevision]
    have hpath : g.bare.path = old.bare.path := congrArg Group.path hbare
    have hpath : g.path = old.path := hpath
    simp only [Group.fingerprint, hrevision, hcontent, hpath]

/-- A route that cannot be served is not told apart from a registered group by chance. -/
theorem Host.routeError_ne (group template : String) (cause : Route.Refusal) (name : String) :
    routeError group template cause ≠ .notRegistered name ∧
      routeError group template cause ≠ .rejected name "already registered" := by
  have hreason : ∀ more : String, "route `" ++ template ++ "`: " ++ more ≠ "already registered" := by
    intro more h
    have hlist := congrArg (fun s => s.toList.head?) h
    simp [String.toList_append] at hlist
  cases cause with
  | refused reason => exact ⟨nofun, fun h => hreason _ (Host.Error.rejected.inj h).2⟩
  | gaveUp note => exact ⟨nofun, nofun⟩

section

variable [Route.Routing]

/-! ### Why a call may fail -/

/-- Why a call may fail although it is justified. -/
inductive Ask.Excused (k : Ask) : Host.Error → Prop where
  /-- The host follows a script. -/
  | script (s : Host.Script) (h : k.site.host.scripts.get? k.group.name = some s) : k.Excused s.error
  /-- The host was told to refuse the calls for the group. -/
  | refused (h : k.group.name ∈ k.site.host.refused) :
      k.Excused (.rejected k.group.name "injected failure")
  /-- A route of the group is refused by the router. -/
  | route (template : String) (cause : Route.Refusal) (hop : k.op ≠ .unregister)
      (h : Refused k.group template cause) : k.Excused (routeError k.group.name template cause)

namespace Ask

variable {k : Ask} {e : Host.Error}

/-- A call fails inside a host only because the group is not made ready to be served, if the host serves the
group just when it is not to be registered. -/
theorem inner_error (hserves : k.site.host.memory.serves k.id = !(k.op == .register))
    (h : k.site.host.inner k.op k.group = .error e) : k.op ≠ .unregister ∧ mount k.group = .error e := by
  obtain ⟨s, op, g⟩ := k
  have hserves : s.host.memory.serves g.id = !(op == .register) := hserves
  cases op with
  | unregister =>
      have hserves : s.host.memory.serves g.id = true := hserves
      simp [Recording.inner, Memory.unregister, hserves] at h
  | register =>
      have hserves : s.host.memory.serves g.id = false := hserves
      refine ⟨Operation.noConfusion, ?_⟩
      simp only [Recording.inner, Memory.register, hserves] at h
      cases hmount : mount g with
      | error e' => simpa [hmount] using h
      | ok m => simp [hmount] at h
  | reload =>
      have hserves : s.host.memory.serves g.id = true := hserves
      refine ⟨Operation.noConfusion, ?_⟩
      simp only [Recording.inner, Memory.reload, hserves] at h
      cases hmount : mount g with
      | error e' => simpa [hmount] using h
      | ok m => simp [hmount] at h

/-- Such a call can fail for few reasons only. -/
theorem excused_of_serves (hserves : k.site.host.memory.serves k.id = !(k.op == .register))
    (hfailed : k.result = .error e) : k.Excused e := by
  have houtcome : k.site.host.outcome k.op k.group = .error e := by
    unfold result Recording.perform at hfailed
    split at hfailed
    · cases hfailed
    · next e' h => rwa [Except.error.inj hfailed] at h
  unfold Recording.outcome at houtcome
  split at houtcome
  · next s hscript =>
    rw [← Except.error.inj houtcome]
    exact .script s hscript
  · split at houtcome
    · next hrefused =>
      rw [← Except.error.inj houtcome]
      exact .refused (by simpa using hrefused)
    · obtain ⟨hop, hmount⟩ := inner_error hserves houtcome
      obtain ⟨template, cause, hroute, rfl⟩ := mount_eq_error_iff.1 hmount
      exact .route template cause hop hroute

/-- None of these reasons is that the group is registered already, or is not registered. -/
theorem Excused.ne (h : k.Excused e) (name : String) :
    e ≠ .notRegistered name ∧ e ≠ .rejected name "already registered" := by
  cases h with
  | script s h => cases s <;> exact ⟨nofun, nofun⟩
  | refused h => exact ⟨nofun, fun h => absurd (Host.Error.rejected.inj h).2 (by decide)⟩
  | route template cause hop h => exact Host.routeError_ne _ _ _ _

end Ask

/-! ### The calls of a pass -/

/-- The calls of a pass have their reasons, and none is left out. -/
structure Pass.Justified (p : Pass) : Prop where
  /-- A group that is unregistered was registered, and was removed since the pass before or is not wanted. -/
  unregister : ∀ k ∈ p.asked, k.op = .unregister →
    k.known = some k.group ∧ (k.id ∈ p.removed ∨ k.id ∉ p.wanted.map Group.id)
  /-- A group that is registered is wanted, and was not registered. -/
  register : ∀ k ∈ p.asked, k.op = .register → k.known = none ∧ ∃ g ∈ p.wanted, k.group = g.told
  /-- A group that is reloaded is wanted, and differs from what is recorded of it. -/
  reload : ∀ k ∈ p.asked, k.op = .reload →
    ∃ g ∈ p.wanted, k.group = g.told ∧ ∃ old, k.known = some old ∧ g.Differs old
  /-- Groups leave the host before others are brought to it. -/
  order : ∃ l m, p.asked = l ++ m ∧ (∀ k ∈ l, k.op = .unregister) ∧ ∀ k ∈ m, k.op ≠ .unregister
  /-- A registered group that was not removed and is wanted is reloaded once if it differs, when its turn has
  come, and otherwise left alone. -/
  kept : ∀ g ∈ p.wanted, g.id ∉ p.removed → ∀ old, p.opening.site.registered.get? g.id = some old →
    (asksAbout g.id p.asked).map Ask.op =
      if g ∉ p.standing.left ∧ g.Differs old then [.reload] else []
  /-- A wanted group that was not registered is registered once, when its turn has come. -/
  added : ∀ g ∈ p.wanted, p.opening.site.registered.get? g.id = none →
    (asksAbout g.id p.asked).map Ask.op = if g ∉ p.standing.left then [.register] else []
  /-- What was removed or is not wanted is unregistered. -/
  cleared : ∀ id g, p.opening.site.registered.get? id = some g →
    id ∈ p.removed ∨ id ∉ p.wanted.map Group.id → ∃ k ∈ p.asked, k.id = id ∧ k.op = .unregister
  /-- A call that waits is for a wanted group that is not registered. -/
  waits : ∀ g ∈ p.standing.left.head?, g ∈ p.wanted ∧ p.standing.site.registered.get? g.id = none

namespace Pass.Traced

variable {p : Pass} {past : List Group} {served : List Ask} {k : Ask} {g : Group} {A : Archive}

/-- What is recorded of a group that a pass brings to the host was recorded before the pass began. -/
theorem known_served (h : p.Traced past served) (hs : p.opening.site.InStep)
    (hnodup : (p.wanted.map Group.id).Nodup) (hk : k ∈ served) {old : Group} (hknown : k.known = some old) :
    p.opening.site.registered.get? k.id = some old := by
  rw [h.serving.known (h.nodup_past hnodup) hk, Dispatcher.decided_site] at hknown
  exact Dispatcher.registered_of_cleared hs hknown

/-- A group is brought to the host because it is not registered, or because it differs. -/
theorem served_cases (h : p.Traced past served) (hs : p.opening.site.InStep)
    (hnodup : (p.wanted.map Group.id).Nodup) (hcovers : A.Covers p.opening) (hk : k ∈ served) :
    ∃ g ∈ p.wanted, k.group = g.told ∧ (k.op = .register ∧ k.known = none ∨
      k.op = .reload ∧ ∃ old, k.known = some old ∧ g.Differs old) := by
  obtain ⟨g, hpast, hgroup, hdue⟩ := h.serving.due (decided_inStep hs) hk
  have hg : g ∈ p.wanted := h.wanted ▸ List.mem_append_left _ hpast
  refine ⟨g, hg, hgroup, ?_⟩
  cases hknown : k.known with
  | none =>
      rw [hknown] at hdue
      exact .inl ⟨(Option.some.inj hdue).symm, rfl⟩
  | some old =>
      rw [hknown] at hdue
      have hold := (hcovers.registered k.id old (h.known_served hs hnodup hk hknown)).1
      have hdiffers := ((hcovers.plan g hg).fingerprint_eq_iff hold).not_left
      unfold Group.due at hdue
      dsimp only at hdue
      split at hdue
      · cases hdue
      · next hne => exact .inr ⟨(Option.some.inj hdue).symm, old, rfl, hdiffers.1 hne⟩

/-- A group that is wanted is registered or reloaded. -/
theorem served_brings (h : p.Traced past served) (hs : p.opening.site.InStep)
    (hnodup : (p.wanted.map Group.id).Nodup) (hcovers : A.Covers p.opening) (hk : k ∈ served) :
    k.op ≠ .unregister := by
  intro hop
  obtain ⟨g, -, -, ⟨hop', -⟩ | ⟨hop', -⟩⟩ := h.served_cases hs hnodup hcovers hk
  · rw [hop] at hop'
    cases hop'
  · rw [hop] at hop'
    cases hop'

/-- The calls of a pass that found host and dispatcher in step are justified. -/
theorem justified (h : p.Traced past served) (hs : p.opening.site.InStep)
    (hnodup : (p.wanted.map Group.id).Nodup) (hcovers : A.Covers p.opening) : p.Justified := by
  have hclear : ∀ k ∈ p.opening.clearAsks p.reading, _ := fun k hk => Dispatcher.mem_clearAsks hs hk
  have hserved : ∀ k ∈ served, _ := fun k hk => h.served_cases hs hnodup hcovers hk
  have hasked : ∀ k, k ∈ p.asked ↔ k ∈ p.opening.clearAsks p.reading ∨ k ∈ served := by
    intro k
    rw [h.asked, List.mem_append]
  have hlast : ∀ k ∈ served, k.op ≠ .unregister := fun k hk => h.served_brings hs hnodup hcovers hk
  constructor
  case unregister =>
    intro k hk hop
    have hk := ((hasked k).1 hk).resolve_right fun hk => hlast k hk hop
    obtain ⟨-, hknown, -, hid⟩ := hclear k hk
    exact ⟨hknown, hid⟩
  case register =>
    intro k hk hop
    rcases (hasked k).1 hk with hk | hk
    · rw [(hclear k hk).1] at hop
      cases hop
    · obtain ⟨g, hg, hgroup, ⟨-, hknown⟩ | ⟨hop', -⟩⟩ := hserved k hk
      · exact ⟨hknown, g, hg, hgroup⟩
      · rw [hop] at hop'
        cases hop'
  case reload =>
    intro k hk hop
    rcases (hasked k).1 hk with hk | hk
    · rw [(hclear k hk).1] at hop
      cases hop
    · obtain ⟨g, hg, hgroup, ⟨hop', -⟩ | ⟨-, hdiffers⟩⟩ := hserved k hk
      · rw [hop] at hop'
        cases hop'
      · exact ⟨g, hg, hgroup, hdiffers⟩
  case order => exact ⟨_, _, h.asked, fun k hk => (hclear k hk).1, hlast⟩
  case kept =>
    intro g hg hremoved old hknown
    have hold := (hcovers.registered g.id old hknown).1
    have hdiffers := (hcovers.plan g hg).fingerprint_eq_iff hold
    rw [h.about_wanted hs hnodup hg fun hmem => absurd hmem hremoved, hknown]
    unfold Group.due
    dsimp only
    by_cases hleft : g ∈ p.standing.left <;> by_cases hd : g.Differs old <;> simp [hleft, hd, hdiffers]
  case added =>
    intro g hg hknown
    rw [h.about_wanted hs hnodup hg fun _ => hknown, hknown]
    by_cases hleft : g ∈ p.standing.left <;> simp [hleft, Group.due]
  case cleared =>
    intro id g hknown hid
    obtain ⟨k, hk⟩ := List.exists_mem_of_ne_nil _ (Dispatcher.exists_clearAsk hs hknown hid)
    obtain ⟨hk, hkey⟩ := mem_asksAbout.1 hk
    exact ⟨k, (hasked k).2 (.inl hk), hkey, (hclear k hk).1⟩
  case waits =>
    intro g hg
    have hmem : g ∈ p.wanted := h.wanted ▸ List.mem_append_right past (List.mem_of_mem_head? hg)
    refine ⟨hmem, ?_⟩
    have hop := h.waits g hg
    rw [(((h.trail hs).inStep hs).1).operationFor_eq] at hop
    unfold Group.due at hop
    split at hop
    · split at hop <;> cases hop
    · assumption

end Pass.Traced

/-! ### Calls that find the group as they need it -/

/-- A call about a group that the host serves, or one that registers a group that it does not serve. -/
def Ask.Fits (k : Ask) : Prop := k.site.host.memory.serves k.id = !(k.op == .register)

namespace Site

variable {s : Site} {g : Group}

theorem InStep.serves_known (hs : s.InStep) {id : ServiceId} (h : s.registered.get? id = some g) :
    s.host.memory.serves id = true := by
  obtain ⟨-, m, -, hm⟩ := hs.known id g h
  rw [Memory.serves, Table.contains, hm]
  rfl

theorem InStep.serves_unknown (hs : s.InStep) {id : ServiceId} (h : s.registered.get? id = none) :
    s.host.memory.serves id = false := by
  rw [Memory.serves, Table.contains, hs.unknown id h]
  rfl

/-- Taking a group from the host leaves the others there. -/
theorem perform_unregister_serves (s : Site) {id : ServiceId} (hne : id ≠ g.id) :
    (s.perform .unregister g).2.host.memory.serves id = s.host.memory.serves id := by
  rcases perform_cases s .unregister g with ⟨m, hinner, -, hmemory, -⟩ | ⟨-, hfailed⟩
  · rw [hmemory, inner_unregister hinner, Memory.serves, Table.contains, Table.get?_erase, if_neg hne]
    rfl
  · rw [hfailed.memory]

/-- Where the host serves several groups, each of them is there when it is its turn to leave. -/
theorem partAsks_fit {groups : List Group} (hnodup : (groups.map Group.id).Nodup)
    (hserves : ∀ g ∈ groups, s.host.memory.serves g.id = true) : ∀ k ∈ s.partAsks groups, k.Fits := by
  induction groups generalizing s with
  | nil =>
      intro k hk
      cases hk
  | cons g rest ih =>
      rw [List.map_cons, List.nodup_cons] at hnodup
      obtain ⟨hg, hrest⟩ := List.forall_mem_cons.1 hserves
      refine List.forall_mem_cons.2 ⟨hg, ih hnodup.2 fun g' hg' => ?_⟩
      have hne : g'.id ≠ g.id := fun heq => hnodup.1 (heq ▸ List.mem_map_of_mem hg')
      rw [perform_unregister_serves _ hne]
      exact hrest g' hg'

theorem abandonAsks_fit (hs : s.InStep) : ∀ k ∈ s.abandonAsks, k.Fits := by
  have hids : s.registered.values.map Group.id = s.registered.keys :=
    Table.map_values_eq_keys fun id g hg => (hs.known id g hg).1
  apply partAsks_fit
  · rw [hids]
    exact (Table.pairwise_keys _).imp fun hlt => Nat.ne_of_lt hlt
  · intro g hg
    obtain ⟨id, hknown⟩ := Table.mem_values.1 hg
    rw [(hs.known id g hknown).1]
    exact hs.serves_known hknown

end Site

/-- So do the calls of a pass. -/
theorem Pass.Justified.fits {p : Pass} (h : p.Justified) {k : Ask} (hk : k ∈ p.asked)
    (hs : k.site.InStep) : k.Fits := by
  unfold Ask.Fits
  cases hop : k.op with
  | unregister => exact hs.serves_known (h.unregister k hk hop).1
  | register => exact hs.serves_unknown (h.register k hk hop).1
  | reload =>
      obtain ⟨g, -, -, old, hknown, -⟩ := h.reload k hk hop
      exact hs.serves_known hknown

namespace History

variable {settings : Settings} {content : Payload} (h : History settings content)

/-- The asks of passes that follow on each other lead from where the first began to where the last stands. -/
theorem passes_trail {p : Pass} {l : List Pass} (hchain : (p :: l).IsChain Chronicle.Precedes)
    (htrail : ∀ q ∈ p :: l, Site.Trail q.opening.site q.asked q.standing.site) :
    ∃ t, Site.Trail p.opening.site ((p :: l).flatMap Pass.asked) t := by
  induction l generalizing p with
  | nil => exact ⟨_, by simpa using htrail⟩
  | cons q rest ih =>
      obtain ⟨⟨-, hfollows⟩, hchain⟩ := List.isChain_cons_cons.1 hchain
      obtain ⟨hp, hrest⟩ := List.forall_mem_cons.1 htrail
      obtain ⟨t, ht⟩ := ih hchain hrest
      exact ⟨t, hp.append (.rests hfollows.rests ht)⟩

/-- What is recorded of a group is what the last call about it that succeeded has applied. -/
theorem known_recorded (hdriven : h.Driven) {l m : List Ask} {k : Ask}
    (hsplit : h.passes.flatMap Pass.asked = l ++ k :: m) : k.known = recorded none (asksAbout k.id l) := by
  have hlinked := h.chronicle_linked hdriven.2
  have hchain : h.passes.IsChain Chronicle.Precedes := List.isChain_reverse.2 hlinked.chain
  have htrail : ∀ p ∈ h.passes, Site.Trail p.opening.site p.asked p.standing.site := by
    intro p hp
    obtain ⟨hs, -, -, past, served, htraced⟩ := h.opening_steady hdriven hp
    exact htraced.trail hs
  have hfirst : ∀ p ∈ h.passes.head?, p.opening.site.registered = ∅ := by
    intro p hp
    exact hlinked.first p (by rwa [passes, List.head?_reverse] at hp)
  cases hpasses : h.passes with
  | nil => simp [hpasses] at hsplit
  | cons p rest =>
      rw [hpasses] at hsplit hchain htrail hfirst
      obtain ⟨t, ht⟩ := passes_trail hchain htrail
      rw [hsplit] at ht
      rw [ht.known_eq, hfirst p rfl]
      rfl

/-- The calls of every pass are justified. -/
theorem passes_justified (hdriven : h.Driven) : ∀ p ∈ h.passes, p.Justified := by
  intro p hp
  obtain ⟨hs, ⟨A, hcovers⟩, hnodup, past, served, htraced⟩ := h.opening_steady hdriven hp
  exact htraced.justified hs hnodup hcovers

/-- Every call finds the group on which it depends. -/
theorem asked_fit (hdriven : h.Driven) : ∀ k ∈ h.asked, k.Fits := by
  intro k hk
  rcases List.mem_append.1 hk with hpass | hfarewell
  · obtain ⟨p, hp, hk⟩ := List.mem_flatMap.1 hpass
    obtain ⟨hs, -, -, past, served, htraced⟩ := h.opening_steady hdriven hp
    exact (h.passes_justified hdriven p hp).fits hk (((htraced.trail hs).inStep hs).2 k hk)
  · -- The dispatcher was closed where it was in step with the host.
    have hreached : h.chronicle.Reached False h.start :=
      (h.chronicle_reached fun a ha => .inl (hdriven.2 a ha)).2
    rcases hreached.farewell with hnone | ⟨d, last, hmoves, heq⟩
    · rw [hnone] at hfarewell
      cases hfarewell
    · rw [heq] at hfarewell
      have hs : d.site.InStep := h.inStep_of_moves hdriven hmoves
      have hbefore : ({ d.site with report := {} } : Site).InStep := hs.still rfl rfl
      exact Site.abandonAsks_fit hbefore k hfarewell

/-- In every history in which the host is left to the dispatcher, each call of each pass is justified and none
is left out; together with those by which the dispatcher is closed, and the one that waits if a pass is held,
these are all the calls that the host has seen.  What is known of a group is what the last call about it that
succeeded has applied.  No call fails because a group is registered already, or is not registered. -/
theorem calls_justified (hdriven : h.Driven) :
    (∀ p ∈ h.passes, p.Justified) ∧
      h.final.state.site.host.calls =
        h.host.calls ++ h.asked.map Ask.call ++ Site.waitingCalls h.final.state.left ∧
      (∀ l k m, h.passes.flatMap Pass.asked = l ++ k :: m → k.known = recorded none (asksAbout k.id l)) ∧
      ∀ k ∈ h.asked, ∀ e, k.result = .error e → k.Excused e ∧
        ∀ name, e ≠ .notRegistered name ∧ e ≠ .rejected name "already registered" := by
  refine ⟨h.passes_justified hdriven, h.calls_eq hdriven, ?_, ?_⟩
  · exact fun l k m hsplit => h.known_recorded hdriven hsplit
  · intro k hk e hfailed
    have hexcused := Ask.excused_of_serves (h.asked_fit hdriven k hk) hfailed
    exact ⟨hexcused, hexcused.ne⟩

end History

end

namespace History

/-- A group is registered, refused by the host when it changes, reloaded by a later pass, removed, and
registered again; then the dispatcher is closed. -/
def eventful : History {} (.shared 0 .plain) where
  host := {}
  pool := {}
  actions :=
    let props (path : String) : Property.Map :=
      .ofList [(Property.Key.routeGroup, .flag true), (Property.Key.serviceId, .ofNat 3),
        (Property.Key.name, .text "api"), (Property.Key.path, .text path)]
    [.upsert .group (.shared 1 .plain) (props "/a"), .tell (.refuse "api"),
      .upsert .group (.shared 1 .plain) (props "/b"), .tell (.accept "api"), .trigger, .remove 3,
      .upsert .group (.shared 1 .plain) (props "/c"), .close]

/-- Its calls, by the identities of the groups; the third one fails. -/
theorem eventful_calls_justified : eventful.Driven ∧
    eventful.asked.map (fun k => (k.op, k.id, k.failed)) =
      [(.register, 0, false), (.register, 3, false), (.reload, 3, true), (.reload, 3, false),
        (.unregister, 3, false), (.register, 3, false), (.unregister, 0, false),
        (.unregister, 3, false)] ∧
      eventful.passes.length = 5 ∧ (∀ p ∈ eventful.passes, p.Justified) ∧
      ∀ k ∈ eventful.asked, ∀ e, k.result = .error e → k.Excused e := by
  have hdriven : eventful.Driven := ⟨rfl, by decide +kernel⟩
  obtain ⟨hpasses, -, -, hfailed⟩ := calls_justified eventful hdriven
  exact ⟨hdriven, by decide +kernel, by decide +kernel, hpasses, fun k hk e he => (hfailed k hk e he).1⟩

end History

end RouteBinding
