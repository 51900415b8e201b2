import Mathlib.Logic.Relation
import Mathlib.Data.List.Basic
import Mathlib.Data.List.Induction

/-!
# Runs of step functions

Two ways of running a system, and the induction rules both rest on.

* A **total** step function `step : S → L → S` models calls that run to
  completion one after the other.  `Final step s ls` is the state after the
  calls `ls`; `Along` says that a property holds in every state a run visits,
  `Guarded` that every step of a run is taken where a guard allows it.
* A **guarded** step function `step : S → L → Option S` models processes that
  take turns: `none` means that the label is not enabled.  `Reach` is
  reachability along steps that a guard admits.

`Reach.invariant` is the one induction principle for the second kind.  For the
first kind `along_iff_guarded` is the useful one: when a guard says *exactly*
when one step keeps a property, it says exactly which runs keep it.
-/

namespace StayRide.Lib

universe u v

variable {S : Type u} {L : Type v}

/-! ## Total step functions -/

section Total

variable (step : S → L → S)

/-- The state after the calls `ls`, made one after the other from `s`. -/
def Final (s : S) (ls : List L) : S :=
  ls.foldl step s

/-- `P` holds in every state the run visits, the first and the last included. -/
def Along (P : S → Prop) : S → List L → Prop
  | s, [] => P s
  | s, l :: ls => P s ∧ Along P (step s l) ls

/-- Every step of the run is taken from a state where `G` allows it. -/
def Guarded (G : S → L → Prop) : S → List L → Prop
  | _, [] => True
  | s, l :: ls => G s l ∧ Guarded G (step s l) ls

@[simp] theorem final_nil (s : S) : Final step s [] = s := rfl

@[simp] theorem final_cons (s : S) (l : L) (ls : List L) :
    Final step s (l :: ls) = Final step (step s l) ls := rfl

theorem final_append (s : S) (ls ms : List L) :
    Final step s (ls ++ ms) = Final step (Final step s ls) ms :=
  List.foldl_append

variable {step}

/-- The first state of a run is one of the states it visits. -/
theorem Along.head {P : S → Prop} {s : S} {ls : List L}
    (h : Along step P s ls) : P s := by
  cases ls with
  | nil => exact h
  | cons l ls => exact h.1

/-- The last state of a run is one of the states it visits. -/
theorem Along.last {P : S → Prop} {s : S} {ls : List L}
    (h : Along step P s ls) : P (Final step s ls) := by
  induction ls generalizing s with
  | nil => exact h
  | cons l ls ih => exact ih h.2

/-- Properties of visited states can be weakened. -/
theorem Along.mono {P Q : S → Prop} (hPQ : ∀ s, P s → Q s) {s : S} {ls : List L}
    (h : Along step P s ls) : Along step Q s ls := by
  induction ls generalizing s with
  | nil => exact hPQ s h
  | cons l ls ih => exact ⟨hPQ s h.1, ih h.2⟩

/-- Guards can be weakened. -/
theorem Guarded.mono {G G' : S → L → Prop} (hG : ∀ s l, G s l → G' s l)
    {s : S} {ls : List L} (h : Guarded step G s ls) : Guarded step G' s ls := by
  induction ls generalizing s with
  | nil => trivial
  | cons l ls ih => exact ⟨hG _ _ h.1, ih h.2⟩

/-- A condition on the labels alone can be added to the guard. -/
theorem Guarded.and_labels {G : S → L → Prop} {V : L → Prop} {s : S} {ls : List L}
    (hV : ∀ l ∈ ls, V l) (h : Guarded step G s ls) :
    Guarded step (fun s l => V l ∧ G s l) s ls := by
  induction ls generalizing s with
  | nil => trivial
  | cons l ls ih =>
      refine ⟨⟨hV l List.mem_cons_self, h.1⟩, ih (fun m hm => ?_) h.2⟩
      exact hV m (List.mem_cons_of_mem l hm)

theorem guarded_congr {G G' : S → L → Prop} (hG : ∀ s l, G s l ↔ G' s l)
    {s : S} {ls : List L} : Guarded step G s ls ↔ Guarded step G' s ls :=
  ⟨Guarded.mono fun s l => (hG s l).mp, Guarded.mono fun s l => (hG s l).mpr⟩

/-- Guards that agree wherever the invariant `J` holds admit the same runs. -/
theorem guarded_congr_invariant {J : S → Prop} {G G' : S → L → Prop}
    (hJ : ∀ s l, J s → J (step s l)) (hG : ∀ s l, J s → (G s l ↔ G' s l)) {s : S} (hs : J s)
    (ls : List L) : Guarded step G s ls ↔ Guarded step G' s ls := by
  induction ls generalizing s with
  | nil => exact Iff.rfl
  | cons l ls ih => exact and_congr (hG s l hs) (ih (hJ s l hs))

/-- A guarded run is a guarded run followed by another one. -/
theorem guarded_append {G : S → L → Prop} {s : S} {ls ms : List L} :
    Guarded step G s (ls ++ ms) ↔
      Guarded step G s ls ∧ Guarded step G (Final step s ls) ms := by
  induction ls generalizing s with
  | nil => simp [Guarded]
  | cons l ls ih =>
      rw [List.cons_append, Guarded, Guarded, ih, final_cons, and_assoc]

/-- Without a guard there is nothing to check. -/
theorem guarded_true (s : S) (ls : List L) :
    Guarded step (fun _ _ => True) s ls := by
  induction ls generalizing s with
  | nil => trivial
  | cons l ls ih => exact ⟨trivial, ih _⟩

/-- **The invariant rule for guarded runs**: what every allowed step preserves
holds in every state the run visits. -/
theorem Guarded.along {G : S → L → Prop} {I : S → Prop}
    (hstep : ∀ s l, I s → G s l → I (step s l)) {s : S} (hs : I s)
    {ls : List L} (h : Guarded step G s ls) : Along step I s ls := by
  induction ls generalizing s with
  | nil => exact hs
  | cons l ls ih => exact ⟨hs, ih (hstep s l hs h.1) h.2⟩

/-- The invariant rule without a guard. -/
theorem final_invariant {I : S → Prop} (hstep : ∀ s l, I s → I (step s l))
    {s : S} (hs : I s) (ls : List L) : I (Final step s ls) :=
  (Guarded.along (G := fun _ _ => True) (fun s l hI _ => hstep s l hI) hs
    (guarded_true s ls)).last

/-! ### Replies -/

/-- The replies of a run of a step function that also answers. -/
def replies {O : Type*} (step : S → L → O × S) (s : S) : List L → List O
  | [] => []
  | l :: ls => (step s l).1 :: replies step (step s l).2 ls

/-- **Forward simulation.**  If related states answer alike and stay related, then whole runs
answer alike. -/
theorem replies_eq_of_simulation {O T : Type*} {step : S → L → O × S} {step' : T → L → O × T}
    (R : S → T → Prop)
    (hstep : ∀ s t l, R s t → (step s l).1 = (step' t l).1 ∧ R (step s l).2 (step' t l).2)
    {s : S} {t : T} (h : R s t) (ls : List L) : replies step s ls = replies step' t ls := by
  induction ls generalizing s t with
  | nil => rfl
  | cons l ls ih =>
      obtain ⟨hreply, hnext⟩ := hstep s t l h
      rw [replies, replies, hreply, ih hnext]

/-- **Attribution of a change.**  What is different at the end was changed by some step, and
was as at the start until then. -/
theorem exists_changing_step {β : Type*} (f : S → β) {s : S} {ls : List L}
    (h : f (Final step s ls) ≠ f s) :
    ∃ before l after, ls = before ++ l :: after ∧ f (Final step s before) = f s ∧
      f (step (Final step s before) l) ≠ f (Final step s before) := by
  induction ls generalizing s with
  | nil => exact absurd rfl h
  | cons l ls ih =>
      by_cases hfirst : f (step s l) = f s
      · obtain ⟨before, l', after, rfl, hsame, hchange⟩ :=
          ih (fun heq => h (heq.trans hfirst))
        exact ⟨l :: before, l', after, rfl, hsame.trans hfirst, hchange⟩
      · exact ⟨[], l, ls, rfl, rfl, hfirst⟩

/-- **Since when.**  What holds at the end and did not hold at the start has held since some
step. -/
theorem exists_last_step {P : S → Prop} {s : S} {ls : List L} (hs : ¬ P s)
    (h : P (Final step s ls)) :
    ∃ before l after, ls = before ++ l :: after ∧ ¬ P (Final step s before) ∧
      ∀ later, later <+: after → P (Final step s (before ++ l :: later)) := by
  induction ls using List.reverseRecOn with
  | nil => exact absurd h hs
  | append_singleton ls l ih =>
      by_cases hbefore : P (Final step s ls)
      · obtain ⟨before, l', after, rfl, hnot, hsince⟩ := ih hbefore
        refine ⟨before, l', after ++ [l], by simp, hnot, fun later hlater => ?_⟩
        rcases List.prefix_concat_iff.mp hlater with rfl | hlater
        · rwa [List.append_assoc] at h
        · exact hsince later hlater
      · refine ⟨ls, l, [], rfl, hbefore, fun later hlater => ?_⟩
        rwa [List.prefix_nil.mp hlater]

/-- **Attribution of an entry.**  What a growing log holds at the end was there at the start
or was added by some step. -/
theorem exists_adding_step {α : Type*} {log : S → List α} {added : S → L → List α}
    (hlog : ∀ s l, log (step s l) = log s ++ added s l) {s : S} {ls : List L} {a : α}
    (h : a ∈ log (Final step s ls)) :
    a ∈ log s ∨ ∃ before l after, ls = before ++ l :: after ∧
      a ∈ added (Final step s before) l := by
  induction ls generalizing s with
  | nil => exact .inl h
  | cons l ls ih =>
      rcases ih h with hfirst | ⟨before, l', after, rfl, hadded⟩
      · rw [hlog, List.mem_append] at hfirst
        exact hfirst.imp_right fun hadded => ⟨[], l, ls, rfl, hadded⟩
      · exact .inr ⟨l :: before, l', after, rfl, hadded⟩

/-- **Exact guards characterise whole runs.**  If, in the states satisfying the
standing invariant `J` and for steps with the standing assumption `H`, the guard says
exactly when a step keeps `P` and is as `M` asks, then a run whose steps meet the
assumption keeps `P` throughout, and all its steps are as `M` asks, if and only if the
guard allows every one of its steps. -/
theorem along_and_guarded_iff {J P : S → Prop} {G H M : S → L → Prop}
    (hJ : ∀ s l, J s → J (step s l))
    (hexact : ∀ s l, J s → P s → H s l → (P (step s l) ∧ M s l ↔ G s l))
    {s : S} (hs : J s) (hP : P s) {ls : List L} (hH : Guarded step H s ls) :
    Along step P s ls ∧ Guarded step M s ls ↔ Guarded step G s ls := by
  induction ls generalizing s with
  | nil => simp [Along, Guarded, hP]
  | cons l ls ih =>
      constructor
      · rintro ⟨⟨_, hrest⟩, hM, hMrest⟩
        have hnext : P (step s l) := hrest.head
        exact ⟨(hexact s l hs hP hH.1).mp ⟨hnext, hM⟩,
          (ih (hJ s l hs) hnext hH.2).mp ⟨hrest, hMrest⟩⟩
      · rintro ⟨hG, hGrest⟩
        obtain ⟨hnext, hM⟩ := (hexact s l hs hP hH.1).mpr hG
        obtain ⟨hrest, hMrest⟩ := (ih (hJ s l hs) hnext hH.2).mpr hGrest
        exact ⟨⟨hP, hrest⟩, hM, hMrest⟩

/-- Exact guards for a property of the visited states alone. -/
theorem along_iff_guarded_assuming {J P : S → Prop} {G H : S → L → Prop}
    (hJ : ∀ s l, J s → J (step s l))
    (hexact : ∀ s l, J s → P s → H s l → (P (step s l) ↔ G s l))
    {s : S} (hs : J s) (hP : P s) {ls : List L} (hH : Guarded step H s ls) :
    Along step P s ls ↔ Guarded step G s ls := by
  have hsteps := along_and_guarded_iff (M := fun _ _ => True) hJ
    (fun s l hs hP hH => (iff_of_eq (and_true _)).trans (hexact s l hs hP hH)) hs hP hH
  exact (and_iff_left (guarded_true s ls)).symm.trans hsteps

/-- Exact guards, without a standing assumption on the steps. -/
theorem along_iff_guarded {J P : S → Prop} {G : S → L → Prop}
    (hJ : ∀ s l, J s → J (step s l))
    (hexact : ∀ s l, J s → P s → (P (step s l) ↔ G s l))
    {s : S} (hs : J s) (hP : P s) (ls : List L) :
    Along step P s ls ↔ Guarded step G s ls :=
  along_iff_guarded_assuming (H := fun _ _ => True) hJ
    (fun s l hs hP _ => hexact s l hs hP) hs hP (guarded_true s ls)

/-- Whether a guard allows every step of a run can be decided along the run. -/
instance decidableGuarded {G : S → L → Prop} [∀ s l, Decidable (G s l)] :
    (s : S) → (ls : List L) → Decidable (Guarded step G s ls)
  | _, [] => inferInstanceAs (Decidable True)
  | s, l :: ls =>
      have := decidableGuarded (G := G) (step s l) ls
      inferInstanceAs (Decidable (_ ∧ _))

end Total

/-! ## Guarded step functions -/

section Interleaved

/-- States reachable from `s₀` along enabled labels that `G` admits in the state
where they are taken. -/
inductive Reach (step : S → L → Option S) (G : S → L → Prop) (s₀ : S) : S → Prop
  | refl : Reach step G s₀ s₀
  | tail {s s' : S} {l : L} : Reach step G s₀ s → G s l → step s l = some s' →
      Reach step G s₀ s'

variable {step : S → L → Option S} {G : S → L → Prop} {s₀ : S}

/-- **The invariant rule**: what holds at the start and is kept by every admitted
step holds in every reachable state. -/
theorem Reach.invariant {I : S → Prop} (hinit : I s₀)
    (hstep : ∀ s l s', I s → G s l → step s l = some s' → I s') {s : S}
    (h : Reach step G s₀ s) : I s := by
  induction h with
  | refl => exact hinit
  | tail _ hG hs ih => exact hstep _ _ _ ih hG hs

/-- What is reachable along fewer labels is reachable along more. -/
theorem Reach.mono {G' : S → L → Prop} (hG : ∀ s l, G s l → G' s l) {s : S}
    (h : Reach step G s₀ s) : Reach step G' s₀ s := by
  induction h with
  | refl => exact .refl
  | tail _ hl hs ih => exact ih.tail (hG _ _ hl) hs

/-- Take the labels `ls` in turn; `none` as soon as one is not enabled. -/
def replay (step : S → L → Option S) (s : S) (ls : List L) : Option S :=
  ls.foldlM step s

@[simp] theorem replay_nil (s : S) : replay step s [] = some s := rfl

@[simp] theorem replay_cons (s : S) (l : L) (ls : List L) :
    replay step s (l :: ls) = (step s l).bind fun s' => replay step s' ls := by
  cases h : step s l <;> simp [replay, h]

/-- One more of the same label in front of a run. -/
theorem replay_replicate_succ {s s₁ s' : S} {l : L} {n : ℕ} (h : step s l = some s₁)
    (hrest : replay step s₁ (List.replicate n l) = some s') :
    replay step s (List.replicate (n + 1) l) = some s' := by
  rw [List.replicate_succ, replay_cons, h, Option.bind_some]
  exact hrest

/-- Replaying labels of which every step is an admitted one reaches only reachable states. -/
theorem Reach.of_replay {step' : S → L → Option S} {s s' : S} (h : Reach step G s₀ s)
    (ls : List L)
    (hstep : ∀ l ∈ ls, ∀ s s', step' s l = some s' → G s l ∧ step s l = some s')
    (hls : Lib.replay step' s ls = some s') : Reach step G s₀ s' := by
  induction ls generalizing s with
  | nil =>
      simp only [replay_nil, Option.some.injEq] at hls
      exact hls ▸ h
  | cons l ls ih =>
      rw [replay_cons, Option.bind_eq_some_iff] at hls
      obtain ⟨s₁, hs₁, hrest⟩ := hls
      obtain ⟨hl, hnext⟩ := hstep l List.mem_cons_self s s₁ hs₁
      exact ih (h.tail hl hnext) (fun m hm => hstep m (List.mem_cons_of_mem l hm)) hrest

/-- Replaying labels that are always admitted reaches only reachable states. -/
theorem Reach.replay {s s' : S} (h : Reach step G s₀ s) (ls : List L)
    (hG : ∀ l ∈ ls, ∀ s, G s l) (hls : replay step s ls = some s') :
    Reach step G s₀ s' :=
  h.of_replay ls (fun l hl s _ hs => ⟨hG l hl s, hs⟩) hls

/-- Replaying labels where each is admitted in the state where it is taken. -/
theorem Reach.replay_admitted [∀ s l, Decidable (G s l)] {s s' : S} (h : Reach step G s₀ s)
    (ls : List L)
    (hls : Lib.replay (fun s l => if G s l then step s l else none) s ls = some s') :
    Reach step G s₀ s' :=
  h.of_replay ls (fun _ _ _ _ hs => Option.ite_none_right_eq_some.mp hs) hls

/-! A run that was computed reaches a state that shows what the run was seen to end with. -/

theorem exists_reach_of_replay {α : Type*} {f : S → α} {v : α} {ls : List L}
    (hG : ∀ l ∈ ls, ∀ s, G s l) (h : (Lib.replay step s₀ ls).map f = some v) :
    ∃ s, Reach step G s₀ s ∧ f s = v := by
  obtain ⟨s, hs, hv⟩ := Option.map_eq_some_iff.mp h
  exact ⟨s, Reach.refl.replay ls hG hs, hv⟩

theorem exists_reach_of_unguarded {α : Type*} {f : S → α} {v : α} {ls : List L}
    (h : (Lib.replay step s₀ ls).map f = some v) :
    ∃ s, Reach step (fun _ _ => True) s₀ s ∧ f s = v :=
  exists_reach_of_replay (fun _ _ _ => trivial) h

theorem exists_reach_of_admitted [∀ s l, Decidable (G s l)] {α : Type*} {f : S → α} {v : α}
    {ls : List L}
    (h : (Lib.replay (fun s l => if G s l then step s l else none) s₀ ls).map f = some v) :
    ∃ s, Reach step G s₀ s ∧ f s = v := by
  obtain ⟨s, hs, hv⟩ := Option.map_eq_some_iff.mp h
  exact ⟨s, Reach.refl.replay_admitted ls hs, hv⟩

end Interleaved

end StayRide.Lib
