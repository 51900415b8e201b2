import Mathlib.Algebra.BigOperators.Group.Finset.Basic
import Mathlib.Algebra.Order.BigOperators.Group.Finset
import StayRide.Lib.Run

/-!
# Interleaved processes

Any number of processes that run the same code on shared data.  Each process is
at a program point of its own; a step of one process reads and writes the shared
data and moves that process, atomically.  Besides the processes there is an
environment that can change the shared data at any time.

`act i a s p` is what process `i` does at the program point `p` when the shared
data are `s`; the input `a` holds what the process does not determine (the time,
whether the call it awaits fails).  Nothing is assumed about the order of the
steps: `Reach (interleave act env)` is reachability by any schedule.

`interleave_invariant` is the invariant rule for such systems.
`interleave_assertions` is the form in which it is mostly used: an invariant of the
shared data, and for every process an assertion that belongs to its program point
and that no step of another process destroys.  `exists_finished` says that a system
whose processes make progress can always be run to its end.
-/

namespace StayRide.Lib

universe u v w x y

/-- What the processes share, and where each of them is. -/
structure Config (S : Type u) (ι : Type v) (P : Type w) where
  shared : S
  pc : ι → P

/-- One process takes a step, or the environment does. -/
inductive Move (ι : Type v) (A : Type x) (E : Type y)
  | process (i : ι) (a : A)
  | environment (e : E)

section Interleave

variable {S : Type u} {ι : Type v} {P : Type w} {A : Type x} {E : Type y} [DecidableEq ι]
variable (act : ι → A → S → P → Option (S × P)) (env : E → S → Option S)

/-- One step of the system; `none` when the move is not enabled. -/
def interleave (c : Config S ι P) : Move ι A E → Option (Config S ι P)
  | .process i a =>
      (act i a c.shared (c.pc i)).map fun next => ⟨next.1, Function.update c.pc i next.2⟩
  | .environment e => (env e c.shared).map fun s => ⟨s, c.pc⟩

variable {act env}

theorem interleave_process {c : Config S ι P} {i : ι} {a : A} {s : S} {p : P}
    (h : act i a c.shared (c.pc i) = some (s, p)) :
    interleave act env c (.process i a) = some ⟨s, Function.update c.pc i p⟩ := by
  rw [interleave, h, Option.map_some]

/-- **The invariant rule**: what holds at the start and is kept by every step of every
process and by the environment holds in every reachable configuration. -/
theorem interleave_invariant {G : Config S ι P → Move ι A E → Prop} {c₀ : Config S ι P}
    {I : Config S ι P → Prop} (hinit : I c₀)
    (hprocess : ∀ (c : Config S ι P) (i : ι) (a : A) (s : S) (p : P), I c →
      G c (.process i a) → act i a c.shared (c.pc i) = some (s, p) →
        I ⟨s, Function.update c.pc i p⟩)
    (henv : ∀ (c : Config S ι P) (e : E) (s : S), I c → G c (.environment e) →
      env e c.shared = some s → I ⟨s, c.pc⟩)
    {c : Config S ι P} (h : Reach (interleave act env) G c₀ c) : I c := by
  refine Reach.invariant hinit (fun c move c' hI hG hstep => ?_) h
  cases move with
  | process i a =>
      obtain ⟨next, hact, rfl⟩ := Option.map_eq_some_iff.mp hstep
      exact hprocess c i a next.1 next.2 hI hG hact
  | environment e =>
      obtain ⟨s, hs, rfl⟩ := Option.map_eq_some_iff.mp hstep
      exact henv c e s hI hG hs

/-- **Local assertions.**  An invariant `I` of the shared data and an assertion `K` for
each process at its program point hold in every reachable configuration when they hold
at the start, a step of a process establishes its own next assertion, and neither the
steps of a process nor the environment interfere with the assertions of the others. -/
theorem interleave_assertions {G : Config S ι P → Move ι A E → Prop} {c₀ : Config S ι P}
    {I : S → Prop} {K : ι → S → P → Prop} (hinit : I c₀.shared)
    (hstart : ∀ i, K i c₀.shared (c₀.pc i))
    (hprocess : ∀ (c : Config S ι P) (i : ι) (a : A) (s : S) (p : P), I c.shared →
      (∀ j, K j c.shared (c.pc j)) → G c (.process i a) →
        act i a c.shared (c.pc i) = some (s, p) →
          I s ∧ K i s p ∧ ∀ j, j ≠ i → K j s (c.pc j))
    (henv : ∀ (c : Config S ι P) (e : E) (s : S), I c.shared →
      (∀ j, K j c.shared (c.pc j)) → G c (.environment e) → env e c.shared = some s →
        I s ∧ ∀ j, K j s (c.pc j))
    {c : Config S ι P} (h : Reach (interleave act env) G c₀ c) :
    I c.shared ∧ ∀ i, K i c.shared (c.pc i) := by
  refine interleave_invariant (I := fun c => I c.shared ∧ ∀ i, K i c.shared (c.pc i))
    ⟨hinit, hstart⟩ (fun c i a s p hI hG hact => ?_) (fun c e s hI hG hs => ?_) h
  · obtain ⟨hshared, hself, hothers⟩ := hprocess c i a s p hI.1 hI.2 hG hact
    exact ⟨hshared, (Function.forall_update_iff c.pc fun j q => K j s q).mpr ⟨hself, hothers⟩⟩
  · exact henv c e s hI.1 hI.2 hG hs

/-- A process alone: its steps with the input `a`, until it stops or `fuel` runs out. -/
def solo (step : S → P → Option (S × P)) : ℕ → S → P → S × P
  | 0, s, p => (s, p)
  | fuel + 1, s, p =>
      match step s p with
      | none => (s, p)
      | some next => solo step fuel next.1 next.2

/-- A process alone, with one input for each of its steps, until it stops or the inputs
are used up. -/
def play (act : A → S → P → Option (S × P)) : List A → S → P → S × P
  | [], s, p => (s, p)
  | a :: inputs, s, p =>
      match act a s p with
      | none => (s, p)
      | some next => play act inputs next.1 next.2

/-- A process that works on a part of larger data, alone: the rest stays as it is. -/
theorem solo_part {T : Type*} (get : T → S) (put : T → S → T) (hget : ∀ t s, get (put t s) = s)
    (hself : ∀ t, put t (get t) = t) (hput : ∀ t s s', put (put t s) s' = put t s')
    (step : S → P → Option (S × P)) (fuel : ℕ) (t : T) (p : P) :
    solo (fun t p => (step (get t) p).map fun next => (put t next.1, next.2)) fuel t p =
      (put t (solo step fuel (get t) p).1, (solo step fuel (get t) p).2) := by
  induction fuel generalizing t p with
  | zero => simp [solo, hself]
  | succ fuel ih =>
      cases hstep : step (get t) p with
      | none => simp [solo, hstep, hself]
      | some next => simp [solo, hstep, ih, hget, hput]

variable (act env) in
/-- A run of a process alone is a run of the system. -/
theorem exists_replay_solo (i : ι) (a : A) (fuel : ℕ) (c : Config S ι P) :
    ∃ n, replay (interleave act env) c (List.replicate n (.process i a)) =
      some ⟨(solo (act i a) fuel c.shared (c.pc i)).1,
        Function.update c.pc i (solo (act i a) fuel c.shared (c.pc i)).2⟩ := by
  induction fuel generalizing c with
  | zero => exact ⟨0, by simp [solo]⟩
  | succ fuel ih =>
      cases hact : act i a c.shared (c.pc i) with
      | none => exact ⟨0, by simp [solo, hact]⟩
      | some next =>
          obtain ⟨n, hn⟩ := ih ⟨next.1, Function.update c.pc i next.2⟩
          refine ⟨n + 1, replay_replicate_succ (interleave_process hact) ?_⟩
          simpa [solo, hact] using hn

/-- **Progress to the end.**  If a process that is not finished can always take a step
that brings it nearer to its end, then from every reachable configuration of finitely
many processes one is reachable in which all are finished. -/
theorem exists_finished [Fintype ι] {G : Config S ι P → Move ι A E → Prop}
    {c₀ : Config S ι P} (rank : P → ℕ)
    (hstep : ∀ (c : Config S ι P) (i : ι), rank (c.pc i) ≠ 0 → ∃ a s p,
      G c (.process i a) ∧ act i a c.shared (c.pc i) = some (s, p) ∧
        rank p < rank (c.pc i))
    {c : Config S ι P} (h : Reach (interleave act env) G c₀ c) :
    ∃ c', Reach (interleave act env) G c₀ c' ∧ ∀ i, rank (c'.pc i) = 0 := by
  -- Induction on what all processes together still have to do.
  induction hn : ∑ i, rank (c.pc i) using Nat.strongRecOn generalizing c with
  | ind n ih =>
      by_cases hdone : ∀ i, rank (c.pc i) = 0
      · exact ⟨c, h, hdone⟩
      · obtain ⟨i, hi⟩ := not_forall.mp hdone
        obtain ⟨a, s, p, hG, hact, hlt⟩ := hstep c i hi
        refine ih _ ?_ (h.tail hG (interleave_process hact)) rfl
        show ∑ j, rank (Function.update c.pc i p j) < n
        rw [← hn]
        refine Finset.sum_lt_sum (fun j _ => ?_) ⟨i, Finset.mem_univ i, ?_⟩
        · by_cases hj : j = i
          · subst hj
            rw [Function.update_self]
            exact hlt.le
          · rw [Function.update_of_ne hj]
        · rw [Function.update_self]
          exact hlt

end Interleave

end StayRide.Lib
