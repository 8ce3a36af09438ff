import RouteBinding.Pass.Assignment
import Mathlib.Data.List.Perm.Basic
import Mathlib.Logic.Function.Iterate

/-!
# What is acquired and what is given back

A factory counts what it hands out and what it gets back, and a guard stands for one instance that is out.
Whatever consumers acquire and drop, in any order and from factories that they share, a factory has handed out
what it got back and what is held of it (`Loans.Balanced.run`).  A pass tries content out: it acquires each payload
and drops the guard at once, which is a run of such moves as well (`Loans.run_trial`), and what it does to a
factory depends on how much of the content the factory makes, and on nothing else (`Pool.probeAll_factories`).
-/

namespace RouteBinding

/-- A factory of which an instance was tried out: acquired and, if there was one, given back. -/
def Factory.attempt (f : Factory) : Factory :=
  match f.acquire with
  | (.error _, f) => f
  | (.ok _, f) => { f with released := f.released + 1 }

/-- A pool with the guards that are held of it, the oldest first. -/
structure Loans where
  pool : Pool
  held : List Guard := []

namespace Loans

/-- What consumers do with a pool. -/
inductive Move where
  | share (component : Component)
  | build (maker : Maker)
  | acquire (payload : Payload)
  /-- The guard with this place among those that are held is dropped, if there is one. -/
  | drop (place : Nat)
  deriving DecidableEq

def move (l : Loans) : Move → Loans
  | .share component => { l with pool := (l.pool.share component).2 }
  | .build maker => { l with pool := (l.pool.build maker).2 }
  | .acquire payload =>
    match l.pool.acquire payload with
    | (.error _, pool) => { l with pool }
    | (.ok guard, pool) => ⟨pool, l.held ++ [guard]⟩
  | .drop place =>
    match l.held[place]? with
    | none => l
    | some guard => ⟨l.pool.release guard, l.held.eraseIdx place⟩

/-- The loans after some moves, one after the other. -/
def run (l : Loans) (moves : List Move) : Loans := moves.foldl move l

/-- The number of guards of a factory that are held. -/
def heldOf (l : Loans) (factory : Nat) : Nat := l.held.countP fun g => g.factory == some factory

/-- Every factory has handed out what it got back and what is held of it. -/
structure Balanced (l : Loans) : Prop where
  account : ∀ i f, l.pool.factories[i]? = some f → f.acquired = f.released + l.heldOf i
  /-- The guards that are held are of factories that were built. -/
  known : ∀ g ∈ l.held, ∀ i ∈ g.factory, i < l.pool.factories.length

/-- To acquire payloads one by one and to drop each guard at once, where a number of guards is held. -/
def trial (n : Nat) (payloads : List Payload) : List Move :=
  payloads.flatMap fun payload => [.acquire payload, .drop n]

end Loans

/-! ### What the counts of a factory tell -/

/-- A factory counts the instances that it hands out, and only those. -/
theorem Factory.acquire_counts (f : Factory) : f.acquire.2.released = f.released ∧
    f.acquire.2.acquired = f.acquired + f.acquire.1.toOption.toList.length := by
  unfold acquire
  split <;> simp [Except.toOption]

namespace Pool

variable {p : Pool} {i j : Nat}

theorem acquire_made {f : Factory} (hf : p.factories[i]? = some f) : p.acquire (.made i) =
    (f.acquire.1.map fun c => ⟨c, some i⟩, { p with factories := p.factories.set i f.acquire.2 }) := by
  simp [acquire, hf]

theorem acquire_unbuilt (hnone : p.factories[i]? = none) : p.acquire (.made i) = (.error .broken, p) := by
  simp [acquire, hnone]

/-- What acquiring does to the counts of a factory is told by the guard that is handed out, if one is. -/
theorem acquire_counts (p : Pool) (payload : Payload) {after : Factory}
    (hafter : (p.acquire payload).2.factories[i]? = some after) : ∃ f, p.factories[i]? = some f ∧
      after.released = f.released ∧ after.acquired = f.acquired +
        (p.acquire payload).1.toOption.toList.countP fun g => g.factory == some i := by
  cases payload with
  | shared source component => exact ⟨after, hafter, rfl, by simp [acquire, Except.toOption]⟩
  | made j =>
      cases hj : p.factories[j]? with
      | none =>
          rw [acquire_unbuilt hj] at hafter ⊢
          exact ⟨after, hafter, rfl, by simp [Except.toOption]⟩
      | some f =>
          obtain ⟨hreleased, hacquired⟩ := f.acquire_counts
          rw [acquire_made hj] at hafter ⊢
          by_cases hij : j = i
          · subst hij
            obtain ⟨-, rfl⟩ : j < p.factories.length ∧ f.acquire.2 = after := by
              simpa [List.getElem?_set] using hafter
            refine ⟨f, hj, hreleased, ?_⟩
            rw [hacquired]
            cases f.acquire.1 <;> simp [Except.map, Except.toOption]
          · refine ⟨after, by simpa [List.getElem?_set, hij] using hafter, rfl, ?_⟩
            cases f.acquire.1 <;> simp [Except.map, Except.toOption, hij]

theorem acquire_length (p : Pool) (payload : Payload) :
    (p.acquire payload).2.factories.length = p.factories.length := by
  cases payload with
  | shared source component => rfl
  | made j =>
      cases hj : p.factories[j]? with
      | none => rw [acquire_unbuilt hj]
      | some f => simp [acquire_made hj]

/-- A guard that is handed out is of a factory that was built, or of none. -/
theorem acquire_known {payload : Payload} {g : Guard} (hg : (p.acquire payload).1 = .ok g)
    (hi : g.factory = some i) : i < p.factories.length := by
  cases payload with
  | shared source component =>
      obtain rfl : ⟨component, none⟩ = g := Except.ok.inj hg
      cases hi
  | made j =>
      cases hj : p.factories[j]? with
      | none => simp [acquire_unbuilt hj] at hg
      | some f =>
          rw [acquire_made hj] at hg
          cases hanswer : f.acquire.1 with
          | error e => simp [hanswer, Except.map] at hg
          | ok c =>
              obtain rfl : ⟨c, some j⟩ = g := by simpa [hanswer, Except.map] using hg
              obtain rfl := Option.some.inj hi
              exact (List.getElem?_eq_some_iff.1 hj).1

/-- What releasing a guard does to the counts of a factory is told by the guard. -/
theorem release_counts (p : Pool) (g : Guard) {after : Factory}
    (hafter : (p.release g).factories[i]? = some after) : ∃ f, p.factories[i]? = some f ∧
      after.acquired = f.acquired ∧
        after.released = f.released + if g.factory == some i then 1 else 0 := by
  unfold release at hafter
  cases hfactory : g.factory with
  | none =>
      rw [hfactory] at hafter
      exact ⟨after, hafter, rfl, by simp⟩
  | some j =>
      rw [hfactory] at hafter
      simp only [List.getElem?_modify] at hafter
      obtain ⟨f, hf, rfl⟩ := Option.map_eq_some_iff.1 hafter
      refine ⟨f, hf, ?_⟩
      by_cases hij : j = i <;> simp [hij]

theorem release_length (p : Pool) (g : Guard) : (p.release g).factories.length = p.factories.length := by
  unfold release
  split <;> simp

/-- To try content out does to its factory what one attempt does, and nothing to the others. -/
theorem probe_factories (p : Pool) (c : Content) (j : Nat) : (p.probe c).2.factories[j]? =
    if c.provider.payload = .made j then p.factories[j]?.map Factory.attempt else p.factories[j]? := by
  unfold probe
  cases c.provider.payload with
  | shared source component => simp [acquire, release]
  | made i =>
      cases hi : p.factories[i]? with
      | none =>
          rw [acquire_unbuilt hi]
          by_cases hij : i = j
          · subst hij
            simp [hi]
          · simp [hij]
      | some f =>
          have hlt : i < p.factories.length := (List.getElem?_eq_some_iff.1 hi).1
          rw [acquire_made hi]
          by_cases hij : i = j
          · subst hij
            rw [if_pos rfl, hi, Option.map_some, Factory.attempt]
            cases hanswer : f.acquire with
            | mk answer after => cases answer <;> simp [Except.map, release, hlt]
          · rw [if_neg fun heq => hij (Payload.made.inj heq)]
            cases hanswer : f.acquire with
            | mk answer after => cases answer <;> simp [Except.map, release, hij]

/-- To try several out does to a factory what one attempt does for each that the factory makes. -/
theorem probeAll_factories (p : Pool) (contents : List Content) (j : Nat) :
    (p.probeAll contents).2.factories[j]? = p.factories[j]?.map
      (Factory.attempt^[contents.countP fun c => c.provider.payload == .made j]) := by
  induction contents generalizing p with
  | nil => simp [probeAll]
  | cons c rest ih =>
      show ((p.probe c).2.probeAll rest).2.factories[j]? = _
      rw [ih, probe_factories]
      by_cases hmade : c.provider.payload = .made j
      · rw [if_pos hmade, List.countP_cons_of_pos (by simpa using hmade), Option.map_map]
        rfl
      · rw [if_neg hmade, List.countP_cons_of_neg (by simpa using hmade)]

end Pool

namespace Loans

variable {l : Loans}

/-! ### What each move keeps -/

/-- A guard is held for every instance that is handed out. -/
theorem move_acquire (l : Loans) (payload : Payload) : l.move (.acquire payload) =
    ⟨(l.pool.acquire payload).2, l.held ++ (l.pool.acquire payload).1.toOption.toList⟩ := by
  cases hanswer : l.pool.acquire payload with
  | mk answer pool => cases answer <;> simp [move, hanswer, Except.toOption]

theorem move_drop {place : Nat} {g : Guard} (hg : l.held[place]? = some g) :
    l.move (.drop place) = ⟨l.pool.release g, l.held.eraseIdx place⟩ := by
  simp [move, hg]

theorem move_drop_none {place : Nat} (hnone : l.held[place]? = none) : l.move (.drop place) = l := by
  simp [move, hnone]

namespace Balanced

/-- Where nothing was acquired yet, nothing is held. -/
theorem unused {pool : Pool} (h : ∀ f ∈ pool.factories, f.acquired = 0 ∧ f.released = 0) :
    (⟨pool, []⟩ : Loans).Balanced where
  account := by
    intro i f hf
    obtain ⟨hacquired, hreleased⟩ := h f (List.mem_of_getElem? hf)
    simp [hacquired, hreleased, heldOf]
  known := by simp

/-- A factory that is built has handed out nothing. -/
theorem build (h : l.Balanced) (maker : Maker) : (l.move (.build maker)).Balanced where
  account := by
    intro i f hf
    change (l.pool.factories ++ [⟨maker, 0, 0⟩])[i]? = some f at hf
    show f.acquired = f.released + l.heldOf i
    by_cases hi : i < l.pool.factories.length
    · rw [List.getElem?_append_left hi] at hf
      exact h.account i f hf
    · -- No guard of the new factory is held, since it was not built before.
      have hnone : l.heldOf i = 0 := by
        apply List.countP_eq_zero.2
        intro g hg hmade
        exact hi (h.known g hg i (by simpa using hmade))
      rw [List.getElem?_append_right (Nat.le_of_not_lt hi)] at hf
      obtain rfl := List.mem_singleton.1 (List.mem_of_getElem? hf)
      simp [hnone]
  known := by
    intro g hg i hi
    have hlt := h.known g hg i hi
    show i < (l.pool.factories ++ [(⟨maker, 0, 0⟩ : Factory)]).length
    rw [List.length_append]
    omega

/-- A guard comes with every instance that is handed out, and with none that is refused. -/
theorem acquire (h : l.Balanced) (payload : Payload) : (l.move (.acquire payload)).Balanced := by
  rw [move_acquire]
  constructor
  · intro i after hafter
    obtain ⟨f, hf, hreleased, hacquired⟩ := l.pool.acquire_counts payload hafter
    have hbefore := h.account i f hf
    rw [heldOf] at hbefore ⊢
    rw [List.countP_append]
    omega
  · intro g hg i hi
    rw [Pool.acquire_length]
    rcases List.mem_append.1 hg with hold | hnew
    · exact h.known g hold i hi
    · cases hanswer : (l.pool.acquire payload).1 with
      | error e => simp [hanswer, Except.toOption] at hnew
      | ok guard =>
          obtain rfl : g = guard := by simpa [hanswer, Except.toOption] using hnew
          exact Pool.acquire_known hanswer hi

/-- A guard that is dropped gives its instance back. -/
theorem drop (h : l.Balanced) (place : Nat) : (l.move (.drop place)).Balanced := by
  cases hplace : l.held[place]? with
  | none =>
      rw [move_drop_none hplace]
      exact h
  | some g =>
      obtain ⟨hlt, rfl⟩ := List.getElem?_eq_some_iff.1 hplace
      have hperm := List.getElem_cons_eraseIdx_perm hlt
      rw [move_drop hplace]
      constructor
      · intro i after hafter
        obtain ⟨f, hf, hacquired, hreleased⟩ := l.pool.release_counts _ hafter
        have hbefore := h.account i f hf
        rw [heldOf, ← hperm.countP_eq, List.countP_cons] at hbefore
        show _ = _ + (l.held.eraseIdx place).countP _
        omega
      · intro g hg i hi
        rw [Pool.release_length]
        exact h.known g (List.mem_of_mem_eraseIdx hg) i hi

theorem move (h : l.Balanced) (m : Move) : (l.move m).Balanced := by
  cases m with
  | share component => exact ⟨h.account, h.known⟩
  | build maker => exact h.build maker
  | acquire payload => exact h.acquire payload
  | drop place => exact h.drop place

/-- Whatever is acquired and dropped, what a factory handed out it got back, or it is held. -/
theorem run (h : l.Balanced) (moves : List Move) : (l.run moves).Balanced :=
  List.foldlRecOn moves Loans.move h fun _ hbalanced m _ => hbalanced.move m

end Balanced

/-! ### Trials -/

theorem run_append (l : Loans) (before later : List Move) :
    l.run (before ++ later) = (l.run before).run later :=
  List.foldl_append

/-- To try content out is to acquire its payload and to drop the guard, if there is one. -/
theorem move_probe (l : Loans) (c : Content) :
    (l.move (.acquire c.provider.payload)).move (.drop l.held.length) =
      { l with pool := (l.pool.probe c).2 } := by
  rw [Pool.probe, move_acquire]
  cases hanswer : l.pool.acquire c.provider.payload with
  | mk answer pool =>
      cases answer with
      | error e =>
          simp only [Except.toOption, Option.toList_none, List.append_nil]
          exact move_drop_none (by simp)
      | ok guard =>
          have hlast : (l.held ++ [guard])[l.held.length]? = some guard := List.getElem?_concat_length
          rw [move_drop hlast]
          simp [Except.toOption, List.eraseIdx_append_of_length_le]

/-- A trial of content leaves held what was held, and the pool as trying the content out does. -/
theorem run_trial (l : Loans) (contents : List Content) :
    l.run (trial l.held.length (contents.map fun c => c.provider.payload)) =
      { l with pool := (l.pool.probeAll contents).2 } := by
  induction contents generalizing l with
  | nil => rfl
  | cons c rest ih =>
      show ((l.move (.acquire c.provider.payload)).move (.drop l.held.length)).run
        (trial l.held.length (rest.map fun c => c.provider.payload)) = _
      rw [move_probe]
      exact ih { l with pool := (l.pool.probe c).2 }

end Loans

end RouteBinding
