import RouteBinding.Proofs.Property.Integer
import RouteBinding.Proofs.Property.Spelling
import RouteBinding.Proofs.Registry.Entry
import Mathlib.Data.List.Forall2

/-!
# What a property map declares

A property map is well formed for a kind of provider if it marks one, and whatever it says under the keys of
filters, the rank, the name and the path can be read (`Declaration.Common`, `Declaration.Own`).  A provider is
valid exactly if its map is well formed, and then holds what the map says; so nothing that cannot be read passes
for something that is not there.  The fault of every other provider is named by one rule
(`Entry.FailsClosed`, `Entry.fails_closed`).
-/

namespace RouteBinding

open Property

namespace Declaration

/-- A value is a text that reads as a filter. -/
inductive IsFilter : Value → Filter → Prop where
  | text {s : String} {f : Filter} (h : Filter.parse s = .ok f) : IsFilter (.text s) f

/-- A value is a text that reads as a filter, or a list of such texts. -/
inductive IsFilters : Value → List Filter → Prop where
  | text {s : String} {f : Filter} (h : Filter.parse s = .ok f) : IsFilters (.text s) [f]
  | list {items : List Value} {fs : List Filter} (h : List.Forall₂ IsFilter items fs) :
      IsFilters (.list items) fs

/-- A value is an integer of 32 bits, or a text that writes one between blanks. -/
structure IsRank (v : Value) (n : Int) : Prop where
  denotes : v.Denotes n
  range : -2147483648 ≤ n ∧ n ≤ 2147483647

/-- A name that is declared is not empty and begins with no reserved word. -/
def AllowsName (props : Map) : Prop :=
  ∀ s, props.get? Key.name = some (.text s) →
    s ≠ "" ∧ ¬".".toList <+: s.toList ∧ ¬"trellis.".toList <+: s.toList

/-- Under one of its two keys a path is declared as a text. -/
def HasPath (props : Map) : Prop :=
  ∃ s, props.get? Key.path = some (.text s) ∨ props.get? Key.base = some (.text s)

/-- A property map marks a provider of a kind, can be read under the keys of every kind, and says this there. -/
structure Common (kind : Kind) (props : Map) (target : Option Filter) (requires : List Filter) (rank : Int) :
    Prop where
  marked : props.isTruthy kind.discriminator = true
  target : Option.Rel IsFilter (props.get? Key.target) target
  requires : ∃ o, Option.Rel IsFilters (props.get? Key.requires) o ∧ o.getD [] = requires
  rank : ∃ o, Option.Rel IsRank (props.get? Key.rank) o ∧ o.getD 0 = rank
  name : AllowsName props

/-- A property map can be read under the keys of one kind only: a group has a path, content may have a filter over
groups. -/
def Own (props : Map) : Kind → Option Filter → Prop
  | .group, select => HasPath props ∧ select = none
  | .handler, select | .interceptor, select => Option.Rel IsFilter (props.get? Key.select) select

/-- A property map would be well formed for a route group but for a path. -/
def LacksPathOnly (kind : Kind) (props : Map) : Prop :=
  kind = .group ∧ ¬HasPath props ∧ ∃ target requires rank, Common kind props target requires rank

end Declaration

namespace Entry

open Declaration

/-- The filter over groups, which only content has. -/
def select : Entry → Option Filter
  | group _ => none
  | content c => c.select

/-- The entry with another property map, as it stands. -/
def withProperties (props : Map) : Entry → Entry
  | group g => group { g with provider := { g.provider with properties := props } }
  | content c => content { c with provider := { c.provider with properties := props } }

/-- An entry is what the property map of a provider of a kind declares, or is marked with its fault. -/
structure FailsClosed (kind : Kind) (props : Map) (e : Entry) : Prop where
  /-- It is valid exactly if its map is well formed. -/
  valid_iff : e.provider.isValid = true ↔
    ∃ target requires rank select, Common kind props target requires rank ∧ Own props kind select
  /-- A valid one holds what its map says. -/
  reads : e.provider.isValid = true →
    Common kind props e.provider.target e.provider.requires e.provider.rank ∧ Own props kind e.select
  /-- The fault is that it is no provider of its kind, or that it has no path, if nothing else is wrong. -/
  invalid_iff : e.provider.failure = some .invalid ↔
    props.isTruthy kind.discriminator = false ∨ LacksPathOnly kind props
  /-- Every other fault is that something cannot be read. -/
  failed_iff : e.provider.failure = some .validationFailed ↔ e.provider.isValid = false ∧
    ¬(props.isTruthy kind.discriminator = false ∨ LacksPathOnly kind props)

end Entry

/-! ### Reading one key -/

section Reading

variable {v : Value} {props : Map}

theorem Filter.parse?_eq_some_iff {s : String} {f : Filter} : parse? s = some f ↔ parse s = .ok f := by
  rw [parse?]
  cases parse s <;> simp [Except.toOption]

theorem filterOf?_eq_some_iff {f : Filter} : filterOf? v = some f ↔ Declaration.IsFilter v f := by
  cases v with
  | text s => exact Filter.parse?_eq_some_iff.trans ⟨.text, fun ⟨h⟩ => h⟩
  | flag _ | number _ | list _ => exact iff_of_false (by simp [filterOf?, Value.text?]) fun h => nomatch h

theorem mapM_filterOf?_eq_some_iff {items : List Value} {fs : List Filter} :
    items.mapM filterOf? = some fs ↔ List.Forall₂ Declaration.IsFilter items fs := by
  induction items generalizing fs with
  | nil => simp [eq_comm]
  | cons v rest ih =>
      simp only [List.mapM_cons, List.forall₂_cons_left_iff, Option.bind_eq_bind, Option.bind_eq_some_iff,
        filterOf?_eq_some_iff, ih, Option.pure_def, Option.some.injEq]
      exact exists_congr fun f => ⟨fun ⟨hf, gs, hgs, heq⟩ => ⟨gs, hf, hgs, heq.symm⟩,
        fun ⟨gs, hf, hgs, heq⟩ => ⟨hf, gs, hgs, heq.symm⟩⟩

theorem filtersOf?_eq_some_iff {fs : List Filter} : filtersOf? v = some fs ↔ Declaration.IsFilters v fs := by
  cases v with
  | flag _ | number _ => exact iff_of_false (by simp [filtersOf?]) fun h => nomatch h
  | text s =>
      rw [filtersOf?, Option.map_eq_some_iff]
      constructor
      · rintro ⟨f, hf, rfl⟩
        exact .text (Filter.parse?_eq_some_iff.1 hf)
      · rintro (h | _)
        exact ⟨_, Filter.parse?_eq_some_iff.2 h, rfl⟩
  | list items =>
      rw [filtersOf?, mapM_filterOf?_eq_some_iff]
      exact ⟨.list, fun | .list h => h⟩

theorem rankOf?_eq_some_iff {n : Int} : rankOf? v = some n ↔ Declaration.IsRank v n := by
  have hrange : Text.inInt32 n = true ↔ -2147483648 ≤ n ∧ n ≤ 2147483647 := by
    rw [Text.inInt32, Bool.and_eq_true, decide_eq_true_eq, decide_eq_true_eq]
    rfl
  have hwide : -2147483648 ≤ n ∧ n ≤ 2147483647 → Text.inInt64 n = true := by
    simp only [Text.inInt64, Bool.and_eq_true, decide_eq_true_eq]
    omega
  rw [rankOf?, Option.filter_eq_some_iff, hrange]
  constructor
  · rintro ⟨hread, hn⟩
    refine ⟨?_, hn⟩
    cases v with
    | flag _ | list _ => cases hread
    | number w =>
        obtain rfl := Option.some.inj hread
        exact .number w
    | text s => exact (Value.int64?_eq_some_iff_denotes.1 hread).1
  · rintro ⟨hdenotes, hn⟩
    refine ⟨?_, hn⟩
    cases v with
    | flag _ | list _ => cases hdenotes
    | number w => exact congrArg some (Value.denotes_number_iff.1 hdenotes)
    | text s => exact Value.int64?_eq_some_iff_denotes.2 ⟨hdenotes, hwide hn⟩

namespace Declared

variable {α : Type} {read : Value → Option α} {R : Value → α → Prop} {o : Option Value} {x : Option α}

/-- A declaration without a fault says what can be read, or nothing where there is nothing to read. -/
theorem rel_iff (hread : ∀ v a, read v = some a ↔ R v a) :
    Option.Rel R o x ↔ (ofValue read o).faults = [] ∧ (ofValue read o).value? = x := by
  cases o with
  | none =>
      refine ⟨fun h => by cases h; exact ⟨rfl, rfl⟩, ?_⟩
      rintro ⟨-, rfl⟩
      exact .none
  | some v =>
      rw [ofValue]
      cases hv : read v with
      | none =>
          refine iff_of_false (fun h => ?_) (by simp [faults])
          cases h with
          | some h => cases hv.symm.trans ((hread v _).2 h)
      | some a =>
          constructor
          · intro h
            cases h with
            | some h =>
                rw [(hread v _).2 h, Option.some.injEq] at hv
                exact ⟨rfl, congrArg some hv.symm⟩
          · rintro ⟨-, rfl⟩
            exact .some ((hread v a).1 hv)

theorem valueOr_eq (d : Declared α) (a : α) : d.valueOr a = d.value?.getD a := by
  cases d <;> rfl

theorem faults_subset (d : Declared α) : ∀ r ∈ d.faults, r = .validationFailed := by
  cases d <;> simp [faults]

end Declared

end Reading

/-! ### Reading the whole map -/

section Faults

variable {kind : Kind} {props : Map} {target select : Option Filter} {requires : List Filter} {rank : Int}
variable {id : ServiceId} {revision : Nat} {payload : Payload}

theorem isReserved_iff {name : String} :
    isReserved name = true ↔ ".".toList <+: name.toList ∨ "trellis.".toList <+: name.toList := by
  simp [isReserved, reservedLeads]

theorem nameFaults_eq_nil_iff : nameFaults props = [] ↔ Declaration.AllowsName props := by
  unfold nameFaults Declaration.AllowsName
  simp only [← Map.text?_eq_some_iff]
  cases props.text? Key.name with
  | none => simp
  | some name =>
      simp only [Option.some.injEq, forall_eq', ite_eq_right_iff, List.cons_ne_nil, imp_false,
        Bool.or_eq_true, not_or, String.isEmpty_iff, isReserved_iff]

theorem pathFaults_eq_nil_iff : Group.pathFaults props = [] ↔ Declaration.HasPath props := by
  have hpath : (Group.declaredPath props).isSome = true ↔ Declaration.HasPath props := by
    rw [Group.declaredPath, Option.isSome_or, Bool.or_eq_true, Option.isSome_iff_exists,
      Option.isSome_iff_exists, ← exists_or]
    exact exists_congr fun s => or_congr Map.text?_eq_some_iff Map.text?_eq_some_iff
  rw [Group.pathFaults, ← hpath]
  cases (Group.declaredPath props).isSome <;> simp

/-- The faults of what providers of every kind declare. -/
def readingFaults (props : Map) : List Reason :=
  (declaredTarget props).faults ++ (declaredRequires props).faults ++ (declaredRank props).faults ++
    nameFaults props

/-- The faults of what only one kind declares. -/
def ownFaults (props : Map) : Kind → List Reason
  | .group => Group.pathFaults props
  | .handler | .interceptor => (Content.declaredSelect props).faults

/-- A map is well formed under the keys of every kind if it has no fault there, and says what is read. -/
theorem common_iff : Declaration.Common kind props target requires rank ↔
    (props.isTruthy kind.discriminator = true ∧ readingFaults props = []) ∧
      (declaredTarget props).value? = target ∧ (declaredRequires props).valueOr [] = requires ∧
        (declaredRank props).valueOr 0 = rank := by
  have htarget : Option.Rel Declaration.IsFilter (props.get? Key.target) target ↔
      (declaredTarget props).faults = [] ∧ (declaredTarget props).value? = target :=
    Declared.rel_iff fun _ _ => filterOf?_eq_some_iff
  have hrequires : ∀ o, Option.Rel Declaration.IsFilters (props.get? Key.requires) o ↔
      (declaredRequires props).faults = [] ∧ (declaredRequires props).value? = o := fun _ =>
    Declared.rel_iff fun _ _ => filtersOf?_eq_some_iff
  have hrank : ∀ o, Option.Rel Declaration.IsRank (props.get? Key.rank) o ↔
      (declaredRank props).faults = [] ∧ (declaredRank props).value? = o := fun _ =>
    Declared.rel_iff fun _ _ => rankOf?_eq_some_iff
  rw [readingFaults, List.append_eq_nil_iff, List.append_eq_nil_iff, List.append_eq_nil_iff,
    nameFaults_eq_nil_iff, Declared.valueOr_eq, Declared.valueOr_eq]
  constructor
  · rintro ⟨hmarked, htarget', ⟨o, horel, rfl⟩, ⟨q, hqrel, rfl⟩, hname⟩
    obtain ⟨ht, rfl⟩ := htarget.1 htarget'
    obtain ⟨hr, rfl⟩ := (hrequires o).1 horel
    obtain ⟨hn, rfl⟩ := (hrank q).1 hqrel
    exact ⟨⟨hmarked, ⟨⟨ht, hr⟩, hn⟩, hname⟩, rfl, rfl, rfl⟩
  · rintro ⟨⟨hmarked, ⟨⟨ht, hr⟩, hn⟩, hname⟩, htarget', hrequires', hrank'⟩
    exact ⟨hmarked, htarget.2 ⟨ht, htarget'⟩, ⟨_, (hrequires _).2 ⟨hr, rfl⟩, hrequires'⟩,
      ⟨_, (hrank _).2 ⟨hn, rfl⟩, hrank'⟩, hname⟩

/-- A map is well formed under the keys of one kind if it has no fault there, and says what is read. -/
theorem own_iff (id : ServiceId) (revision : Nat) (payload : Payload) :
    Declaration.Own props kind select ↔ ownFaults props kind = [] ∧
      (Entry.ofProperties kind id revision payload props).select = select := by
  have hcontent : Option.Rel Declaration.IsFilter (props.get? Key.select) select ↔
      (Content.declaredSelect props).faults = [] ∧ (Content.declaredSelect props).value? = select :=
    Declared.rel_iff fun _ _ => filterOf?_eq_some_iff
  cases kind with
  | group => exact and_congr pathFaults_eq_nil_iff.symm eq_comm
  | handler => exact hcontent
  | interceptor => exact hcontent

/-- The fault of a provider is the first one: that it is none of its kind, then what cannot be read. -/
theorem failure_ofProperties : (Entry.ofProperties kind id revision payload props).provider.failure =
    ((if props.isTruthy kind.discriminator then [] else [Reason.invalid]) ++
      (readingFaults props ++ ownFaults props kind)).head? := by
  have hfaults : ∀ more : List Reason, (Provider.faults kind props ++ more) =
      (if props.isTruthy kind.discriminator then [] else [Reason.invalid]) ++
        (readingFaults props ++ more) := by
    intro more
    simp only [Provider.faults, readingFaults, List.append_assoc]
  cases kind with
  | group => exact congrArg List.head? (hfaults _)
  | handler => exact congrArg List.head? (hfaults _)
  | interceptor => exact congrArg List.head? (hfaults _)

theorem readingFaults_failed : ∀ r ∈ readingFaults props, r = .validationFailed := by
  have hname : ∀ r ∈ nameFaults props, r = .validationFailed := by
    unfold nameFaults
    cases props.text? Key.name with
    | none => simp
    | some name => by_cases h : (name.isEmpty || isReserved name) = true <;> simp [h]
  intro r hr
  simp only [readingFaults, List.mem_append] at hr
  rcases hr with ((hr | hr) | hr) | hr
  · exact Declared.faults_subset _ r hr
  · exact Declared.faults_subset _ r hr
  · exact Declared.faults_subset _ r hr
  · exact hname r hr

/-- What only one kind declares is at fault in one way: a group has no path, or the filter of content cannot be
read. -/
theorem ownFaults_eq : ∀ r ∈ ownFaults props kind,
    (r = .invalid ∧ kind = .group) ∨ (r = .validationFailed ∧ kind ≠ .group) := by
  intro r hr
  cases kind with
  | group =>
      refine .inl ⟨?_, rfl⟩
      rw [ownFaults, Group.pathFaults] at hr
      split at hr
      · cases hr
      · exact List.mem_singleton.1 hr
  | handler => exact .inr ⟨Declared.faults_subset _ r hr, by decide⟩
  | interceptor => exact .inr ⟨Declared.faults_subset _ r hr, by decide⟩

theorem ownFaults_head?_iff : (ownFaults props kind).head? = some .invalid ↔
    kind = .group ∧ ¬Declaration.HasPath props := by
  constructor
  · intro hhead
    rcases ownFaults_eq _ (List.mem_of_head? hhead) with ⟨-, rfl⟩ | ⟨hother, -⟩
    · refine ⟨rfl, fun hpath => ?_⟩
      rw [ownFaults, pathFaults_eq_nil_iff.2 hpath] at hhead
      cases hhead
    · cases hother
  · rintro ⟨rfl, hpath⟩
    rw [← pathFaults_eq_nil_iff] at hpath
    cases hfaults : ownFaults props .group with
    | nil => exact absurd hfaults hpath
    | cons r rest =>
        have hmem : r ∈ ownFaults props .group := hfaults ▸ List.mem_cons_self
        rcases ownFaults_eq r hmem with ⟨rfl, -⟩ | ⟨-, hother⟩
        · rfl
        · exact absurd rfl hother

theorem Provider.ofProperties_respelled {props' : Map} (h : props.Respells props') {more : List Reason} :
    ofProperties kind id revision payload props' more =
      { ofProperties kind id revision payload props more with properties := props' } := by
  simp only [ofProperties, faults, declaredTarget, declaredRequires, declaredRank, nameFaults, h.get?_congr,
    h.text?_congr, h.isTruthy_congr]

end Faults

namespace Entry

open Declaration

variable {kind : Kind} {props : Map} {id : ServiceId} {revision : Nat} {payload : Payload}

theorem exists_common_iff : (∃ target requires rank, Common kind props target requires rank) ↔
    props.isTruthy kind.discriminator = true ∧ readingFaults props = [] := by
  constructor
  · rintro ⟨target, requires, rank, hcommon⟩
    exact (common_iff.1 hcommon).1
  · exact fun h => ⟨_, _, _, common_iff.2 ⟨h, rfl, rfl, rfl⟩⟩

theorem isValid_iff : (ofProperties kind id revision payload props).provider.isValid = true ↔
    (props.isTruthy kind.discriminator = true ∧ readingFaults props = []) ∧ ownFaults props kind = [] := by
  rw [Provider.isValid, Option.isNone_iff_eq_none, failure_ofProperties, List.head?_eq_none_iff,
    List.append_eq_nil_iff, List.append_eq_nil_iff, and_assoc]
  cases props.isTruthy kind.discriminator <;> simp

theorem lacksPathOnly_iff : LacksPathOnly kind props ↔
    (props.isTruthy kind.discriminator = true ∧ readingFaults props = []) ∧
      (ownFaults props kind).head? = some .invalid := by
  rw [LacksPathOnly, exists_common_iff, ownFaults_head?_iff, ← and_assoc, and_comm]

theorem failure_invalid_iff : (ofProperties kind id revision payload props).provider.failure = some .invalid ↔
    props.isTruthy kind.discriminator = false ∨ LacksPathOnly kind props := by
  rw [failure_ofProperties, lacksPathOnly_iff]
  cases props.isTruthy kind.discriminator with
  | false => simp
  | true =>
      cases hreading : readingFaults props with
      | nil => simp
      | cons r rest =>
          have hfailed : r = .validationFailed := readingFaults_failed r (hreading ▸ List.mem_cons_self)
          simp [hfailed]

/-- There are two faults that the reading of a property map can find. -/
theorem failure_cases : (ofProperties kind id revision payload props).provider.failure = none ∨
    (ofProperties kind id revision payload props).provider.failure = some .invalid ∨
      (ofProperties kind id revision payload props).provider.failure = some .validationFailed := by
  cases hfailure : (ofProperties kind id revision payload props).provider.failure with
  | none => exact .inl rfl
  | some r =>
      rw [failure_ofProperties] at hfailure
      refine .inr ?_
      rcases List.mem_append.1 (List.mem_of_head? hfailure) with hmem | hmem
      · split at hmem
        · cases hmem
        · exact .inl (congrArg some (List.mem_singleton.1 hmem))
      · rcases List.mem_append.1 hmem with hmem | hmem
        · exact .inr (congrArg some (readingFaults_failed r hmem))
        · exact (ownFaults_eq r hmem).imp (fun h => congrArg some h.1) fun h => congrArg some h.1

/-- An entry holds what is read from its property map. -/
theorem holds_declared : (ofProperties kind id revision payload props).provider.target =
      (declaredTarget props).value? ∧
    (ofProperties kind id revision payload props).provider.requires = (declaredRequires props).valueOr [] ∧
      (ofProperties kind id revision payload props).provider.rank = (declaredRank props).valueOr 0 := by
  cases kind <;> exact ⟨rfl, rfl, rfl⟩

/-- What is read from a property map depends on the keys up to their spelling. -/
theorem ofProperties_respelled {props' : Map} (h : props.Respells props') :
    ofProperties kind id revision payload props' =
      (ofProperties kind id revision payload props).withProperties props' := by
  have hpath : Group.declaredPath props' = Group.declaredPath props := by
    rw [Group.declaredPath, Group.declaredPath, h.text?_congr]
  have hpathFaults : Group.pathFaults props' = Group.pathFaults props := by
    rw [Group.pathFaults, Group.pathFaults, hpath]
  have hselect : Content.declaredSelect props' = Content.declaredSelect props := by
    rw [Content.declaredSelect, Content.declaredSelect, h.get?_congr]
  cases kind with
  | group =>
      simp only [ofProperties, withProperties, Group.ofProperties, hpath, hpathFaults, h.isTruthy_congr,
        Provider.ofProperties_respelled h]
  | handler | interceptor =>
      simp only [ofProperties, withProperties, Content.ofProperties, hselect, Provider.ofProperties_respelled h]

theorem ofProperties_failsClosed :
    (ofProperties kind id revision payload props).FailsClosed kind props where
  valid_iff := by
    rw [isValid_iff, ← exists_common_iff]
    constructor
    · rintro ⟨⟨target, requires, rank, hcommon⟩, hown⟩
      exact ⟨target, requires, rank, _, hcommon, (own_iff id revision payload).2 ⟨hown, rfl⟩⟩
    · rintro ⟨target, requires, rank, select, hcommon, hown⟩
      exact ⟨⟨target, requires, rank, hcommon⟩, ((own_iff id revision payload).1 hown).1⟩
  reads := by
    intro hvalid
    obtain ⟨hcommon, hown⟩ := isValid_iff.1 hvalid
    obtain ⟨htarget, hrequires, hrank⟩ := holds_declared
    refine ⟨common_iff.2 ⟨hcommon, htarget.symm, hrequires.symm, hrank.symm⟩, ?_⟩
    exact (own_iff id revision payload).2 ⟨hown, rfl⟩
  invalid_iff := failure_invalid_iff
  failed_iff := by
    rw [← failure_invalid_iff, Provider.isValid]
    rcases failure_cases with hfailure | hfailure | hfailure <;> rw [hfailure] <;> simp

/-- A provider is valid exactly if its property map is well formed for its kind, and then holds what the map says;
every other one has the fault that the rule names; and nothing of this depends on the spelling of keys. -/
theorem fails_closed (kind : Kind) (id : ServiceId) (revision : Nat) (payload : Payload) (props : Map) :
    (ofProperties kind id revision payload props).FailsClosed kind props ∧
      ∀ props', props.Respells props' → ofProperties kind id revision payload props' =
        (ofProperties kind id revision payload props).withProperties props' :=
  ⟨ofProperties_failsClosed, fun _ h => ofProperties_respelled h⟩

/-- The property map of a handler with a rank as text and a filter over groups. -/
def handlerMap : Map := .ofList
  [(Key.routeHandler, .flag true), (Key.rank, .text " +7 "), (Key.select, .text "(path=/api)")]

/-- The same with other spellings of the keys. -/
def handlerMapRespelled : Map := .ofList
  [("SELECT", .text "(path=/api)"), ("Rank", .text " +7 "), ("Route.Handler", .flag true)]

/-- Both declare the same valid handler. -/
theorem handlerMap_fails_closed : handlerMap.Respells handlerMapRespelled ∧
    (ofProperties .handler 1 0 (.shared 0 .plain) handlerMap).provider.rank = 7 ∧
    (ofProperties .handler 1 0 (.shared 0 .plain) handlerMap).provider.isValid = true ∧
    (ofProperties .handler 1 0 (.shared 0 .plain) handlerMap).FailsClosed .handler handlerMap ∧
    ofProperties .handler 1 0 (.shared 0 .plain) handlerMapRespelled =
      (ofProperties .handler 1 0 (.shared 0 .plain) handlerMap).withProperties handlerMapRespelled := by
  have hrespells : handlerMap.folded.Perm handlerMapRespelled.folded := by decide +kernel
  obtain ⟨hclosed, hspelling⟩ := fails_closed .handler 1 0 (.shared 0 .plain) handlerMap
  exact ⟨hrespells, by decide +kernel, by decide +kernel, hclosed, hspelling _ hrespells⟩

end Entry

end RouteBinding
