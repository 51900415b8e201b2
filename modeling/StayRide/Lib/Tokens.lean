import Mathlib.Data.Set.Basic
import StayRide.Lib.Program

/-!
# Tokens that are used at most once

The reply to a command can hand out a token, such as the key of a row that was inserted,
and a later command can use the token up.  `Program.Spends` looks at the text of a program:
whatever the replies are, it uses only tokens that it holds, and gives a token up with the
use.

Where the data hand out every token once, no token is used twice, by whichever processes
and in whatever order: `used_nodup_of_reach`.  The invariant is that every token has at
most one holder, and that what has been used has none.
-/

namespace StayRide.Lib

universe u v w x y

/-- Which replies hand out a token, and which commands use one up. -/
structure Tokens {C : Type v} (R : C → Type u) (T : Type y) where
  gives : (c : C) → R c → Option T
  takes : C → Option T

namespace Program

variable {C : Type v} {R : C → Type u} {ε α β : Type u} {T : Type y} (tokens : Tokens R T)

/-! ## The text of a program -/

/-- Run with the tokens `held`, the program uses none that it does not hold at the time. -/
def Spends : Set T → Program R ε α → Prop
  | _, .done _ => True
  | held, .await c next =>
      (∀ t ∈ tokens.takes c, t ∈ held) ∧
        (∀ e, Spends {t ∈ held | t ∉ tokens.takes c} (next (.error e))) ∧
        ∀ r, Spends ({t ∈ held | t ∉ tokens.takes c} ∪ {t | t ∈ tokens.gives c r})
          (next (.ok r))

/-- The program uses no tokens, whatever it is given. -/
abbrev Thrifty (p : Program R ε α) : Prop :=
  p.Uses fun c => tokens.takes c = none

variable {tokens} {held held' : Set T}

/-- More tokens do no harm. -/
theorem Spends.mono {p : Program R ε α} (hsub : held ⊆ held') (h : p.Spends tokens held) :
    p.Spends tokens held' := by
  induction p generalizing held held' with
  | done result => trivial
  | await c next ih =>
      have hrest : {t ∈ held | t ∉ tokens.takes c} ⊆ {t ∈ held' | t ∉ tokens.takes c} :=
        fun t ht => ⟨hsub ht.1, ht.2⟩
      refine ⟨fun t ht => hsub (h.1 t ht), fun e => ih _ hrest (h.2.1 e), fun r => ?_⟩
      exact ih _ (Set.union_subset_union_left _ hrest) (h.2.2 r)

theorem Thrifty.spends {p : Program R ε α} (h : p.Thrifty tokens) (held : Set T) :
    p.Spends tokens held := by
  induction p generalizing held with
  | done result => trivial
  | await c next ih =>
      refine ⟨fun t ht => ?_, fun e => ih _ (h.2 _) _, fun r => ih _ (h.2 _) _⟩
      rw [h.1] at ht
      cases ht

/-- A program that uses no tokens, then one that does. -/
theorem Spends.bind_of_thrifty {p : Program R ε α} {f : α → Program R ε β}
    (hp : p.Thrifty tokens) (hf : ∀ a, (f a).Spends tokens held) :
    (p >>= f).Spends tokens held := by
  induction p generalizing held with
  | done result =>
      cases result with
      | ok a => exact hf a
      | error e => trivial
  | await c next ih =>
      have hrest : {t ∈ held | t ∉ tokens.takes c} = held := by
        refine Set.sep_eq_self_iff_mem_true.mpr fun t _ ht => ?_
        rw [hp.1] at ht
        cases ht
      refine ⟨fun t ht => ?_, fun e => ?_, fun r => ?_⟩
      · rw [hp.1] at ht
        cases ht
      · rw [hrest]
        exact ih _ (hp.2 _) hf
      · rw [hrest]
        exact ih _ (hp.2 _) fun a => (hf a).mono Set.subset_union_left

/-- The other way round. -/
theorem Spends.bind_thrifty {p : Program R ε α} {f : α → Program R ε β}
    (hp : p.Spends tokens held) (hf : ∀ a, (f a).Thrifty tokens) :
    (p >>= f).Spends tokens held := by
  induction p generalizing held with
  | done result =>
      cases result with
      | ok a => exact (hf a).spends held
      | error e => trivial
  | await c next ih => exact ⟨hp.1, fun e => ih _ (hp.2.1 e), fun r => ih _ (hp.2.2 r)⟩

/-- A command that hands out a token, and what is done with it. -/
theorem spends_give {c : C} {f : R c → Program R ε β} (hc : tokens.takes c = none)
    (hf : ∀ r, (f r).Spends tokens {t | t ∈ tokens.gives c r}) :
    (call c >>= f).Spends tokens held := by
  refine ⟨fun t ht => ?_, fun _ => trivial, fun r => (hf r).mono Set.subset_union_right⟩
  rw [hc] at ht
  cases ht

/-- A command that uses up a token. -/
theorem spends_take {c : C} {f : R c → Program R ε β} {t : T} (hc : tokens.takes c = some t)
    (ht : t ∈ held) (hf : ∀ r, (f r).Thrifty tokens) : (call c >>= f).Spends tokens held := by
  refine ⟨fun t' ht' => ?_, fun _ => trivial, fun r => (hf r).spends _⟩
  rw [hc] at ht'
  obtain rfl := Option.some.inj ht'
  exact ht

theorem Spends.ite {c : Prop} [Decidable c] {p q : Program R ε α}
    (hp : c → p.Spends tokens held) (hq : ¬ c → q.Spends tokens held) :
    (if c then p else q).Spends tokens held := by
  by_cases hc : c
  · simpa only [if_pos hc] using hp hc
  · simpa only [if_neg hc] using hq hc

theorem Spends.tryFinally {body : Program R ε α} {cleanup : Program R ε β}
    (hbody : body.Spends tokens held) (hcleanup : cleanup.Thrifty tokens) :
    (tryFinally body cleanup).Spends tokens held := by
  have hcleanUp : (body.cleanUp fun _ => cleanup).Spends tokens held := by
    induction body generalizing held with
    | done result =>
        cases result with
        | ok a => exact (hcleanup.spends held).bind_thrifty fun _ => trivial
        | error e => exact (hcleanup.spends held).bind_thrifty fun _ => trivial
    | await c next ih =>
        exact ⟨hbody.1, fun e => ih _ (hbody.2.1 e), fun r => ih _ (hbody.2.2 r)⟩
  exact hcleanUp.bind_thrifty fun _ => trivial

/-! ## The data -/

/-- The data know which tokens were handed out and which were used. -/
structure TokenLog {S : Type u} (handle : (c : C) → EStateM ε S (R c)) (tokens : Tokens R T)
    where
  issued : S → Set T
  used : S → List T
  issued_mono : ∀ failure c s, issued s ⊆ issued (reply handle failure c s).1
  used_ok : ∀ failure c s r, (reply handle failure c s).2 = .ok r →
    used (reply handle failure c s).1 = used s ++ (tokens.takes c).toList
  used_error : ∀ failure c s e, (reply handle failure c s).2 = .error e →
    used (reply handle failure c s).1 = used s
  fresh : ∀ failure c s r, (reply handle failure c s).2 = .ok r → ∀ t ∈ tokens.gives c r,
    t ∉ issued s ∧ t ∈ issued (reply handle failure c s).1

variable {S : Type u} {handle : (c : C) → EStateM ε S (R c)} (log : TokenLog handle tokens)
variable {ι : Type w} [DecidableEq ι] {E : Type x} {env : E → S → Option S}

/-- The processes hold the tokens `hold`: no token has two holders, and a token that was
used has none. -/
structure Held (hold : ι → Set T) (c : Config S ι (Program R ε α)) : Prop where
  spends : ∀ i, (c.pc i).Spends tokens (hold i)
  one_holder : ∀ i j t, t ∈ hold i → t ∈ hold j → i = j
  issued : ∀ i, ∀ t ∈ hold i, t ∈ log.issued c.shared
  unused : ∀ i, ∀ t ∈ hold i, t ∉ log.used c.shared
  nodup : (log.used c.shared).Nodup
  used_issued : ∀ t ∈ log.used c.shared, t ∈ log.issued c.shared

variable {log} {hold : ι → Set T} {c : Config S ι (Program R ε α)}

/-- A step of process `i`, which uses up `taken`, keeps `kept` and is handed out `given`. -/
private theorem Held.step (h : Held log hold c) {i : ι} {s : S} {p : Program R ε α}
    {kept given : Set T} {taken : Option T} (hp : p.Spends tokens (kept ∪ given))
    (hkept : ∀ t ∈ kept, t ∈ hold i ∧ t ∉ taken) (htaken : ∀ t ∈ taken, t ∈ hold i)
    (hmono : log.issued c.shared ⊆ log.issued s)
    (hused : log.used s = log.used c.shared ++ taken.toList)
    (hgiven : ∀ t ∈ given, t ∉ log.issued c.shared ∧ t ∈ log.issued s) :
    Held log (Function.update hold i (kept ∪ given)) ⟨s, Function.update c.pc i p⟩ := by
  -- Who holds a token afterwards held it before, or has just got it.
  have hholder : ∀ j t, t ∈ Function.update hold i (kept ∪ given) j →
      (t ∈ hold j ∧ t ∉ taken) ∨ (j = i ∧ t ∈ given) := by
    intro j t ht
    by_cases hj : j = i
    · subst hj
      rw [Function.update_self] at ht
      rcases ht with ht | ht
      · exact .inl (hkept t ht)
      · exact .inr ⟨rfl, ht⟩
    · rw [Function.update_of_ne hj] at ht
      exact .inl ⟨ht, fun hin => hj (h.one_holder j i t ht (htaken t hin))⟩
  constructor
  · intro j
    show (Function.update c.pc i p j).Spends tokens _
    by_cases hj : j = i
    · subst hj
      rw [Function.update_self, Function.update_self]
      exact hp
    · rw [Function.update_of_ne hj, Function.update_of_ne hj]
      exact h.spends j
  · intro j k t hj hk
    rcases hholder j t hj with ⟨hold_j, -⟩ | ⟨hji, new_j⟩ <;>
      rcases hholder k t hk with ⟨hold_k, -⟩ | ⟨hki, new_k⟩
    · exact h.one_holder j k t hold_j hold_k
    · exact absurd (h.issued j t hold_j) (hgiven t new_k).1
    · exact absurd (h.issued k t hold_k) (hgiven t new_j).1
    · exact hji.trans hki.symm
  · intro j t hj
    rcases hholder j t hj with ⟨hj, -⟩ | ⟨-, hj⟩
    · exact hmono (h.issued j t hj)
    · exact (hgiven t hj).2
  · intro j t hj hin
    rw [hused, List.mem_append, Option.mem_toList] at hin
    rcases hholder j t hj with ⟨hj, hnot⟩ | ⟨-, hj⟩
    · exact hin.elim (h.unused j t hj) hnot
    · refine (hgiven t hj).1 ?_
      exact hin.elim (h.used_issued t) fun hin => h.issued i t (htaken t hin)
  · rw [hused]
    refine h.nodup.append ?_ fun t ht hin => ?_
    · cases taken with
      | none => exact List.nodup_nil
      | some t => exact List.nodup_singleton t
    · exact h.unused i t (htaken t (Option.mem_toList.mp hin)) ht
  · intro t ht
    rw [hused, List.mem_append, Option.mem_toList] at ht
    exact hmono (ht.elim (h.used_issued t) fun hin => h.issued i t (htaken t hin))

/-- **No token is used twice**, in any interleaving of processes that spend only what they
are given. -/
theorem used_nodup_of_reach
    {G : Config S ι (Program R ε α) → Move ι (Option ε) E → Prop}
    {c₀ : Config S ι (Program R ε α)} (hused : log.used c₀.shared = [])
    (hspends : ∀ i, (c₀.pc i).Spends tokens ∅)
    (henv : ∀ e s s', env e s = some s' →
      log.issued s ⊆ log.issued s' ∧ log.used s' = log.used s)
    (h : Reach (interleave (fun _ failure s p => p.step handle failure s) env) G c₀ c) :
    (log.used c.shared).Nodup := by
  have hheld : ∃ hold, Held log hold c := by
    refine interleave_invariant (I := fun c => ∃ hold, Held log hold c) ?_ ?_ ?_ h
    · refine ⟨fun _ => ∅, hspends, fun _ _ _ h => h.elim, fun _ _ h => h.elim,
        fun _ _ h => h.elim, ?_, fun t ht => ?_⟩
      · rw [hused]
        exact List.nodup_nil
      · rw [hused] at ht
        cases ht
    · rintro c i failure s p ⟨hold, hold_spec⟩ _ hstep
      obtain ⟨cmd, next, hpc, rfl, rfl⟩ := step_eq_some handle hstep
      obtain ⟨htakes, herror, hok⟩ := hpc ▸ hold_spec.spends i
      cases hr : (reply handle failure cmd c.shared).2 with
      | ok r =>
          exact ⟨_, hold_spec.step (hok r) (fun t ht => ht) htakes
            (log.issued_mono failure cmd _) (log.used_ok failure cmd _ r hr)
            (log.fresh failure cmd _ r hr)⟩
      | error e =>
          have hempty := herror e
          rw [← Set.union_empty {t ∈ hold i | t ∉ tokens.takes cmd}] at hempty
          have hsame : log.used (reply handle failure cmd c.shared).1 =
              log.used c.shared ++ (none : Option T).toList :=
            (log.used_error failure cmd _ e hr).trans (List.append_nil _).symm
          refine ⟨_, hold_spec.step hempty (fun t ht => ⟨ht.1, fun hin => ?_⟩)
            (fun t hin => ?_) (log.issued_mono failure cmd _) hsame fun _ ht => ht.elim⟩
          · cases hin
          · cases hin
    · rintro c e s ⟨hold, hold_spec⟩ _ hs
      obtain ⟨hmono, hsame⟩ := henv e c.shared s hs
      refine ⟨hold, hold_spec.spends, hold_spec.one_holder,
        fun i t ht => hmono (hold_spec.issued i t ht), ?_, ?_, ?_⟩
      · rw [hsame]
        exact hold_spec.unused
      · rw [hsame]
        exact hold_spec.nodup
      · rw [hsame]
        exact fun t ht => hmono (hold_spec.used_issued t ht)
  obtain ⟨hold, hold_spec⟩ := hheld
  exact hold_spec.nodup

end Program

end StayRide.Lib
