import StayRide.Lib.Interleaving

/-!
# Programs that are suspended at their awaits

A program is a tree: it has ended, or it waits for the reply to a command and then
goes on with what the reply is.  The tree fixes no meaning for the commands.  A
handler does, as a computation on the shared data that may fail; and whatever the
handler says, an awaited command can also be rejected and then has done nothing.

Two readings of one program are connected here.

* `Program.run`: alone and without rejections, from its first command to its end.
  It is a monad morphism, so a method written once as a computation on the data and
  once as a program is the same method when both texts agree command by command.
* `Program.step`: one command of a process among others.  The program point of the
  process is the rest of its program, and `exists_solo_eq_run` says that a process
  that is not disturbed does what `run` does.

For properties of all interleavings there are two kinds of tools.  `Safe` is a weakest
precondition under interference: before each command the others may have changed the
data within `rely`, the command must then be `allowed`, and it must itself stay within
`rely` and keep `inv`.  `inv_and_safe_of_reach` is its soundness.  `Uses` and `Must` look
at the text alone: which commands a program sends at most, and which command it has
carried out when it returns.  `Safe.of_uses` gets safety from the text where nothing
depends on a reply.
-/

namespace StayRide.Lib

universe u v w x

/-- A program: it has ended, or it awaits the reply to a command. -/
inductive Program {C : Type v} (R : C → Type u) (ε α : Type u) : Type (max u v)
  | done (result : Except ε α)
  | await (c : C) (next : Except ε (R c) → Program R ε α)

namespace Program

variable {C : Type v} {R : C → Type u} {ε α β : Type u}

/-! ## Composition -/

/-- The first program, then what its value selects; an error ends both. -/
def bind : Program R ε α → (α → Program R ε β) → Program R ε β
  | .done (.ok a), f => f a
  | .done (.error e), _ => .done (.error e)
  | .await c next, f => .await c fun reply => (next reply).bind f

def tryCatch : Program R ε α → (ε → Program R ε α) → Program R ε α
  | .done (.ok a), _ => .done (.ok a)
  | .done (.error e), recover => recover e
  | .await c next, recover => .await c fun reply => (next reply).tryCatch recover

instance : Monad (Program R ε) where
  pure a := .done (.ok a)
  bind := bind

instance : MonadExceptOf ε (Program R ε) where
  throw e := .done (.error e)
  tryCatch := tryCatch

/-- The clean-up runs in any case, and an error of its own replaces the outcome. -/
def cleanUp (cleanup : Option α → Program R ε β) : Program R ε α → Program R ε (α × β)
  | .done (.ok a) => cleanup (some a) >>= fun b => pure (a, b)
  | .done (.error e) => cleanup none >>= fun _ => throw e
  | .await c next => .await c fun reply => (next reply).cleanUp cleanup

instance : MonadFinally (Program R ε) where
  tryFinally' body cleanup := body.cleanUp cleanup

theorem await_bind (c : C) (next : Except ε (R c) → Program R ε α) (f : α → Program R ε β) :
    (await c next >>= f) = await c fun reply => next reply >>= f := rfl

/-- Send one command and return its reply. -/
def call (c : C) : Program R ε (R c) :=
  .await c .done

/-! ## A program alone -/

variable {S : Type u}

/-- Carry out every command, one after the other. -/
def run (handle : (c : C) → EStateM ε S (R c)) : Program R ε α → EStateM ε S α
  | .done (.ok a) => pure a
  | .done (.error e) => throw e
  | .await c next => fun s =>
      match handle c s with
      | .ok reply s' => (next (.ok reply)).run handle s'
      | .error e s' => (next (.error e)).run handle s'

variable (handle : (c : C) → EStateM ε S (R c))

@[simp] theorem run_call (c : C) : (call c : Program R ε (R c)).run handle = handle c := by
  funext s
  simp only [call, run]
  cases handle c s <;> rfl

@[simp] theorem run_bind (p : Program R ε α) (f : α → Program R ε β) :
    (p >>= f).run handle = p.run handle >>= fun a => (f a).run handle := by
  induction p with
  | done result => cases result <;> rfl
  | await c next ih =>
      funext s
      rw [await_bind]
      simp only [run, ih]
      show _ = EStateM.bind _ _ s
      simp only [EStateM.bind]
      cases handle c s <;> rfl

/-- A sequence that returns has returned from its first part. -/
theorem run_bind_eq_ok {p : Program R ε α} {f : α → Program R ε β} {s s' : S} {b : β}
    (h : (p >>= f).run handle s = .ok b s') :
    ∃ a after, p.run handle s = .ok a after ∧ (f a).run handle after = .ok b s' := by
  rw [run_bind] at h
  change EStateM.bind _ _ s = _ at h
  unfold EStateM.bind at h
  cases hp : p.run handle s with
  | ok a after =>
      rw [hp] at h
      exact ⟨a, after, rfl, h⟩
  | error e after =>
      rw [hp] at h
      cases h

@[simp] theorem run_map (f : α → β) (p : Program R ε α) :
    (f <$> p).run handle = f <$> p.run handle := by
  show (p >>= fun a => pure (f a)).run handle = _
  rw [run_bind, map_eq_pure_bind]
  rfl

theorem run_cleanUp (p : Program R ε α) (cleanup : Option α → Program R ε β) :
    (p.cleanUp cleanup).run handle =
      MonadFinally.tryFinally' (p.run handle) fun a => (cleanup a).run handle := by
  induction p with
  | done result =>
      funext s
      cases result with
      | ok a =>
          rw [cleanUp, run_bind]
          show EStateM.bind _ _ s = _
          simp only [EStateM.bind, run, MonadFinally.tryFinally', pure, EStateM.pure]
          cases (cleanup (some a)).run handle s <;> rfl
      | error e =>
          rw [cleanUp, run_bind]
          show EStateM.bind _ _ s = _
          have hthrow : (done (.error e) : Program R ε α).run handle s = .error e s := rfl
          simp only [EStateM.bind, MonadFinally.tryFinally', hthrow]
          cases (cleanup none).run handle s <;> rfl
  | await c next ih =>
      funext s
      simp only [cleanUp, run, ih, MonadFinally.tryFinally']
      cases handle c s <;> rfl

@[simp] theorem run_tryFinally (body : Program R ε α) (cleanup : Program R ε β) :
    (tryFinally body cleanup).run handle = tryFinally (body.run handle) (cleanup.run handle) := by
  unfold tryFinally
  rw [run_map]
  exact congrArg (_ <$> ·) (run_cleanUp handle body fun _ => cleanup)

/-! ## A program as a process -/

/-- How a command ends: rejected, or as the handler says. -/
def reply (failure : Option ε) (c : C) (s : S) : S × Except ε (R c) :=
  match failure with
  | some e => (s, .error e)
  | none =>
      match handle c s with
      | .ok r s' => (s', .ok r)
      | .error e s' => (s', .error e)

/-- The next command of a process; `none` when it has ended. -/
def step (failure : Option ε) (s : S) : Program R ε α → Option (S × Program R ε α)
  | .done _ => none
  | .await c next =>
      some ((reply handle failure c s).1, next (reply handle failure c s).2)

/-- A step carries out the command that the program awaits. -/
theorem step_eq_some {failure : Option ε} {s s' : S} {p p' : Program R ε α}
    (h : p.step handle failure s = some (s', p')) :
    ∃ c next, p = .await c next ∧ s' = (reply handle failure c s).1 ∧
      p' = next (reply handle failure c s).2 := by
  cases p with
  | done result => cases h
  | await c next =>
      obtain ⟨rfl, rfl⟩ := Prod.mk.injEq .. ▸ Option.some.inj h
      exact ⟨c, next, rfl, rfl, rfl⟩

/-- The command a program awaits, if it has not ended. -/
def pending : Program R ε α → Option C
  | .done _ => none
  | .await c _ => some c

theorem pending_eq_some {p : Program R ε α} {c : C} (h : p.pending = some c) :
    ∃ next, p = .await c next := by
  cases p with
  | done result => cases h
  | await c' next =>
      obtain rfl := Option.some.inj h
      exact ⟨next, rfl⟩

/-- The program has ended and returned a value. -/
def returned : Program R ε α → Bool
  | .done (.ok _) => true
  | _ => false

/-- A process at its end, with the data it leaves behind. -/
def atEnd : EStateM.Result ε S α → S × Program R ε α
  | .ok a s => (s, .done (.ok a))
  | .error e s => (s, .done (.error e))

/-- **An undisturbed process** ends as the program does alone. -/
theorem exists_solo_eq_run (p : Program R ε α) (s : S) :
    ∃ fuel, solo (fun s p => p.step handle none s) fuel s p = atEnd (p.run handle s) := by
  induction p generalizing s with
  | done result => exact ⟨0, by cases result <;> rfl⟩
  | await c next ih =>
      cases hc : handle c s with
      | ok r s' =>
          obtain ⟨fuel, h⟩ := ih (.ok r) s'
          exact ⟨fuel + 1, by simpa [solo, step, reply, run, hc] using h⟩
      | error e s' =>
          obtain ⟨fuel, h⟩ := ih (.error e) s'
          exact ⟨fuel + 1, by simpa [solo, step, reply, run, hc] using h⟩

/-! ## A program alone, some of whose commands are rejected -/

/-- How a run has ended: the data it leaves behind, its result, and the commands it has
sent, each with the reply. -/
structure Trial {C : Type v} (R : C → Type u) (ε α S : Type u) where
  data : S
  result : Except ε α
  sent : List ((c : C) × Except ε (R c))

/-- The same end, after more commands. -/
def Trial.after (sent : List ((c : C) × Except ε (R c))) (t : Trial R ε α S) :
    Trial R ε α S :=
  { t with sent := sent ++ t.sent }

/-- Carry out every command, except that the `n`-th one is rejected where `failures n` says
so.  A program that has not ended sends another command whatever the reply was, so every
run ends. -/
def trial : Program R ε α → (ℕ → Option ε) → S → Trial R ε α S
  | .done result, _, s => ⟨s, result, []⟩
  | .await c next, failures, s =>
      let answer := reply handle (failures 0) c s
      ((next answer.2).trial (fun n => failures (n + 1)) answer.1).after [⟨c, answer.2⟩]

section Trial

variable (failures : ℕ → Option ε) (s : S)

/-- A sequence: an error of the first part ends both. -/
theorem trial_bind (p : Program R ε α) (f : α → Program R ε β) :
    (p >>= f).trial handle failures s =
      match (p.trial handle failures s).result with
      | .error e => ⟨(p.trial handle failures s).data, .error e,
          (p.trial handle failures s).sent⟩
      | .ok a =>
          ((f a).trial handle
            (fun n => failures (n + (p.trial handle failures s).sent.length))
            (p.trial handle failures s).data).after (p.trial handle failures s).sent := by
  induction p generalizing failures s with
  | done result => cases result <;> rfl
  | await c next ih =>
      rw [await_bind, trial, trial, ih]
      generalize (next (reply handle (failures 0) c s).2).trial handle
        (fun n => failures (n + 1)) (reply handle (failures 0) c s).1 = rest
      obtain ⟨data, result, sent⟩ := rest
      cases result with
      | error e => rfl
      | ok a => simp [Trial.after, Nat.add_assoc]

theorem trial_call (c : C) :
    (call c : Program R ε (R c)).trial handle failures s =
      ⟨(reply handle (failures 0) c s).1, (reply handle (failures 0) c s).2,
        [⟨c, (reply handle (failures 0) c s).2⟩]⟩ := rfl

/-- **One command and what follows**, by cases on the reply. -/
theorem trial_call_bind_cases {Q : Trial R ε β S → Prop} {c : C} {f : R c → Program R ε β}
    (herror : ∀ e, (reply handle (failures 0) c s).2 = .error e →
      Q ⟨(reply handle (failures 0) c s).1, .error e, [⟨c, .error e⟩]⟩)
    (hok : ∀ r, (reply handle (failures 0) c s).2 = .ok r →
      Q (((f r).trial handle (fun n => failures (n + 1))
        (reply handle (failures 0) c s).1).after [⟨c, .ok r⟩])) :
    Q ((call c >>= f).trial handle failures s) := by
  rw [trial_bind]
  simp only [call, trial, Trial.after, List.append_nil, List.length_singleton]
  cases h : (reply handle (failures 0) c s).2 with
  | error e => exact herror e h
  | ok r => exact hok r h

/-- One command that does not fail by itself, and what follows: it is rejected and has done
nothing, or it is carried out. -/
theorem trial_handled_bind {Q : Trial R ε β S → Prop} {c : C} {f : R c → Program R ε β} {r : R c}
    {s' : S} (hc : handle c s = .ok r s') (herror : ∀ e, Q ⟨s, .error e, [⟨c, .error e⟩]⟩)
    (hok : Q (((f r).trial handle (fun n => failures (n + 1)) s').after [⟨c, .ok r⟩])) :
    Q ((call c >>= f).trial handle failures s) := by
  rw [trial_bind]
  simp only [call, trial, Trial.after, List.append_nil, List.length_singleton, reply]
  cases failures 0 with
  | some e => exact herror e
  | none =>
      rw [hc]
      exact hok

theorem trial_cleanUp (body : Program R ε α) (cleanup : Program R ε β) :
    (body.cleanUp fun _ => cleanup).trial handle failures s =
      let first := body.trial handle failures s
      let last := cleanup.trial handle (fun n => failures (n + first.sent.length)) first.data
      ⟨last.data, last.result.bind fun b => first.result.map fun a => (a, b),
        first.sent ++ last.sent⟩ := by
  induction body generalizing failures s with
  | done result =>
      cases result with
      | ok a =>
          rw [cleanUp, trial_bind]
          simp only [trial, List.length_nil, Nat.add_zero, List.nil_append]
          obtain ⟨data, result, sent⟩ := cleanup.trial handle failures s
          cases result <;> simp [Trial.after, Except.bind, Except.map, pure, trial]
      | error e =>
          rw [cleanUp, trial_bind]
          simp only [trial, List.length_nil, Nat.add_zero, List.nil_append]
          obtain ⟨data, result, sent⟩ := cleanup.trial handle failures s
          cases result <;> simp [Trial.after, Except.bind, Except.map, throw, throwThe,
            MonadExceptOf.throw, trial]
  | await c next ih =>
      simp only [cleanUp, trial, ih, Trial.after, List.length_cons,
        Nat.add_assoc, List.cons_append, List.nil_append]

/-- A program with a clean-up: the clean-up runs in any case, and an error of its own
replaces the result. -/
theorem trial_tryFinally (body : Program R ε α) (cleanup : Program R ε β) :
    (tryFinally body cleanup).trial handle failures s =
      let first := body.trial handle failures s
      let last := cleanup.trial handle (fun n => failures (n + first.sent.length)) first.data
      ⟨last.data, last.result.bind fun _ => first.result, first.sent ++ last.sent⟩ := by
  unfold tryFinally
  show (body.cleanUp (fun _ => cleanup) >>= fun ab => pure ab.1).trial handle failures s = _
  rw [trial_bind, trial_cleanUp]
  dsimp only
  generalize body.trial handle failures s = first
  obtain ⟨data, result, sent⟩ := cleanup.trial handle
    (fun n => failures (n + first.sent.length)) first.data
  obtain ⟨data', result', sent'⟩ := first
  cases result with
  | error e => rfl
  | ok b => cases result' <;> simp [Trial.after, Except.bind, Except.map, pure, trial]

/-- Where nothing is rejected, the program runs as `run` says. -/
theorem run_eq_trial (p : Program R ε α) :
    p.run handle s =
      match (p.trial handle (fun _ => none) s).result with
      | .ok a => .ok a (p.trial handle (fun _ => none) s).data
      | .error e => .error e (p.trial handle (fun _ => none) s).data := by
  induction p generalizing s with
  | done result => cases result <;> rfl
  | await c next ih =>
      simp only [run, trial, reply, Trial.after]
      cases handle c s with
      | ok r s' => exact ih _ s'
      | error e s' => exact ih _ s'

end Trial

/-! ## The commands a program sends -/

/-- Whatever the replies are, the program sends no command without the property `p`. -/
def Uses (p : C → Prop) : Program R ε α → Prop
  | .done _ => True
  | .await c next => p c ∧ ∀ reply, Uses p (next reply)

section Uses

variable {p : C → Prop}

theorem uses_call {c : C} (h : p c) : (call c : Program R ε (R c)).Uses p :=
  ⟨h, fun _ => trivial⟩

theorem Uses.mono {q : C → Prop} (hpq : ∀ c, p c → q c) {body : Program R ε α}
    (h : body.Uses p) : body.Uses q := by
  induction body with
  | done result => trivial
  | await c next ih => exact ⟨hpq c h.1, fun reply => ih reply (h.2 reply)⟩

theorem Uses.bind {body : Program R ε α} {f : α → Program R ε β} (hbody : body.Uses p)
    (hf : ∀ a, (f a).Uses p) : (body >>= f).Uses p := by
  induction body with
  | done result =>
      cases result with
      | ok a => exact hf a
      | error e => trivial
  | await c next ih => exact ⟨hbody.1, fun reply => ih reply (hbody.2 reply)⟩

theorem Uses.of_sent {body : Program R ε α} (h : body.Uses p) {failures : ℕ → Option ε}
    {s : S} {x : (c : C) × Except ε (R c)}
    (hx : x ∈ (body.trial handle failures s).sent) : p x.1 := by
  induction body generalizing failures s with
  | done result => cases hx
  | await c next ih =>
      rcases List.mem_cons.mp hx with rfl | hrest
      · exact h.1
      · exact ih _ (h.2 _) hrest

theorem Uses.ite {c : Prop} [Decidable c] {body body' : Program R ε α} (h : c → body.Uses p)
    (h' : ¬ c → body'.Uses p) : (if c then body else body').Uses p := by
  by_cases hc : c
  · simpa only [if_pos hc] using h hc
  · simpa only [if_neg hc] using h' hc

theorem Uses.tryFinally {body : Program R ε α} {cleanup : Program R ε β}
    (hbody : body.Uses p) (hcleanup : cleanup.Uses p) :
    (tryFinally body cleanup).Uses p := by
  have hcleanUp : (body.cleanUp fun _ => cleanup).Uses p := by
    induction body with
    | done result =>
        cases result with
        | ok a => exact hcleanup.bind fun _ => trivial
        | error e => exact hcleanup.bind fun _ => trivial
    | await c next ih => exact ⟨hbody.1, fun reply => ih reply (hbody.2 reply)⟩
  exact hcleanUp.bind fun _ => trivial

end Uses

end Program

/-! ## Safety under interference -/

/-- What all processes keep: an invariant of the data, and a relation that the data
before and after any steps are in. -/
structure Protocol (S : Type u) where
  inv : S → Prop
  rely : S → S → Prop
  refl : ∀ s, rely s s
  trans : ∀ {s t r}, rely s t → rely t r → rely s r

namespace Program

variable {C : Type v} {R : C → Type u} {ε α β : Type u} {S : Type u}
variable (P : Protocol S) (handle : (c : C) → EStateM ε S (R c)) (allowed : C → S → Prop)

/-- From the data `s` on, whatever the others do within the protocol: every command of
the program is allowed when it is carried out and keeps the protocol, and if the program
returns, then with a value and in a state that meet `post`. -/
def Safe (post : α → S → Prop) : Program R ε α → S → Prop
  | .done (.ok a), s => post a s
  | .done (.error _), _ => True
  | .await c next, s => ∀ s', P.rely s s' → P.inv s' → allowed c s' ∧ ∀ failure,
      P.inv (reply handle failure c s').1 ∧ P.rely s' (reply handle failure c s').1 ∧
        Safe post (next (reply handle failure c s').2) (reply handle failure c s').1

variable {P handle allowed} {post : α → S → Prop} {s : S}

theorem Safe.bind {post : β → S → Prop} {p : Program R ε α} {f : α → Program R ε β}
    (h : p.Safe P handle allowed (fun a s => (f a).Safe P handle allowed post s) s) :
    (p >>= f).Safe P handle allowed post s := by
  induction p generalizing s with
  | done result =>
      cases result with
      | ok a => exact h
      | error e => trivial
  | await c next ih =>
      intro s' hrely hinv
      obtain ⟨hallowed, hreply⟩ := h s' hrely hinv
      refine ⟨hallowed, fun failure => ?_⟩
      obtain ⟨hinv', hrely', hnext⟩ := hreply failure
      exact ⟨hinv', hrely', ih _ hnext⟩

theorem Safe.mono {post post' : α → S → Prop} (hpost : ∀ a s, post a s → post' a s)
    {p : Program R ε α} (h : p.Safe P handle allowed post s) :
    p.Safe P handle allowed post' s := by
  induction p generalizing s with
  | done result =>
      cases result with
      | ok a => exact hpost a s h
      | error e => trivial
  | await c next ih =>
      intro s' hrely hinv
      obtain ⟨hallowed, hreply⟩ := h s' hrely hinv
      refine ⟨hallowed, fun failure => ?_⟩
      obtain ⟨hinv', hrely', hnext⟩ := hreply failure
      exact ⟨hinv', hrely', ih _ hnext⟩

theorem Safe.ite {c : Prop} [Decidable c] {p q : Program R ε α}
    (hp : c → p.Safe P handle allowed post s) (hq : ¬ c → q.Safe P handle allowed post s) :
    (if c then p else q).Safe P handle allowed post s := by
  by_cases hc : c
  · simpa only [if_pos hc] using hp hc
  · simpa only [if_neg hc] using hq hc

/-- A command that only looks. -/
theorem Safe.read {c : C} {get : S → R c} {post : R c → S → Prop}
    (hread : ∀ s, handle c s = .ok (get s) s)
    (h : ∀ s', P.rely s s' → P.inv s' → allowed c s' ∧ post (get s') s') :
    (call c : Program R ε (R c)).Safe P handle allowed post s := by
  intro s' hrely hinv
  refine ⟨(h s' hrely hinv).1, fun failure => ?_⟩
  cases failure with
  | some e => exact ⟨hinv, P.refl s', trivial⟩
  | none =>
      simp only [reply, hread]
      exact ⟨hinv, P.refl s', (h s' hrely hinv).2⟩

/-- A command, whatever becomes of it. -/
theorem Safe.command {c : C} {post : R c → S → Prop}
    (h : ∀ s', P.rely s s' → P.inv s' → allowed c s' ∧ ∀ failure,
      P.inv (reply handle failure c s').1 ∧ P.rely s' (reply handle failure c s').1 ∧
        ∀ r, (reply handle failure c s').2 = .ok r → post r (reply handle failure c s').1) :
    (call c : Program R ε (R c)).Safe P handle allowed post s := by
  intro s' hrely hinv
  obtain ⟨hallowed, hreply⟩ := h s' hrely hinv
  refine ⟨hallowed, fun failure => ?_⟩
  obtain ⟨hinv', hrely', hpost⟩ := hreply failure
  refine ⟨hinv', hrely', ?_⟩
  cases hr : (reply handle failure c s').2 with
  | ok r => exact hpost r hr
  | error e => trivial

/-- A program with a clean-up that is safe in every state. -/
theorem Safe.tryFinally {body : Program R ε α} {cleanup : Program R ε β}
    (hbody : body.Safe P handle allowed (fun _ _ => True) s)
    (hcleanup : ∀ s, cleanup.Safe P handle allowed (fun _ _ => True) s) :
    (tryFinally body cleanup).Safe P handle allowed (fun _ _ => True) s := by
  have hcleanUp : (body.cleanUp fun _ => cleanup).Safe P handle allowed
      (fun _ _ => True) s := by
    induction body generalizing s with
    | done result =>
        have hlast := hcleanup s
        cases result with
        | ok a => exact .bind (hlast.mono fun _ _ _ => trivial)
        | error e => exact .bind (hlast.mono fun _ _ _ => trivial)
    | await c next ih =>
        intro s' hrely hinv
        obtain ⟨hallowed, hreply⟩ := hbody s' hrely hinv
        refine ⟨hallowed, fun failure => ?_⟩
        obtain ⟨hinv', hrely', hnext⟩ := hreply failure
        exact ⟨hinv', hrely', ih _ hnext⟩
  exact .bind (hcleanUp.mono fun _ _ _ => trivial)

/-- **Safety from the text.**  Where a stable assertion `A` lets every command that a
program can send keep the protocol, the program is safe. -/
theorem Safe.of_uses {A : S → Prop} {q : C → Prop} {p : Program R ε α}
    (hA : ∀ s s', A s → P.rely s s' → A s')
    (hq : ∀ c s, q c → P.inv s → A s → allowed c s ∧ ∀ failure,
      P.inv (reply handle failure c s).1 ∧ P.rely s (reply handle failure c s).1)
    (h : p.Uses q) (hs : A s) : p.Safe P handle allowed (fun _ _ => True) s := by
  induction p generalizing s with
  | done result => cases result <;> trivial
  | await c next ih =>
      intro s' hrely hinv
      have hs' : A s' := hA s s' hs hrely
      obtain ⟨hallowed, hreply⟩ := hq c s' h.1 hinv hs'
      refine ⟨hallowed, fun failure => ?_⟩
      obtain ⟨hinv', hrely'⟩ := hreply failure
      exact ⟨hinv', hrely', ih _ (h.2 _) (hA s' _ hs' hrely')⟩

/-- What the others do within the protocol does not make a program unsafe. -/
theorem Safe.stable {p : Program R ε α} {s' : S}
    (h : p.Safe P handle allowed (fun _ _ => True) s) (hrely : P.rely s s') :
    p.Safe P handle allowed (fun _ _ => True) s' := by
  cases p with
  | done result => cases result <;> trivial
  | await c next =>
      intro s'' hrely' hinv
      exact h s'' (P.trans hrely hrely') hinv

section System

variable {ι : Type w} [DecidableEq ι] {E : Type x} {env : E → S → Option S}
  {allowed : ι → C → S → Prop}

/-- **Soundness.**  If every process starts safe and the environment keeps the protocol,
then in every interleaving the invariant holds and every process stays safe. -/
theorem inv_and_safe_of_reach
    {G : Config S ι (Program R ε α) → Move ι (Option ε) E → Prop}
    {c₀ c : Config S ι (Program R ε α)} (hinv : P.inv c₀.shared)
    (hsafe : ∀ i, (c₀.pc i).Safe P handle (allowed i) (fun _ _ => True) c₀.shared)
    (henv : ∀ e s s', P.inv s → env e s = some s' → P.inv s' ∧ P.rely s s')
    (h : Reach (interleave (fun _ failure s p => p.step handle failure s) env) G c₀ c) :
    P.inv c.shared ∧
      ∀ i, (c.pc i).Safe P handle (allowed i) (fun _ _ => True) c.shared := by
  refine interleave_assertions
    (K := fun i s p => p.Safe P handle (allowed i) (fun _ _ => True) s) hinv hsafe ?_ ?_ h
  · intro c i failure s p hI hK _ hstep
    obtain ⟨cmd, next, hpc, rfl, rfl⟩ := step_eq_some handle hstep
    have hself := hK i
    rw [hpc] at hself
    obtain ⟨hinv', hrely, hnext⟩ := (hself c.shared (P.refl _) hI).2 failure
    exact ⟨hinv', hnext, fun j _ => (hK j).stable hrely⟩
  · intro c e s hI hK _ he
    obtain ⟨hinv', hrely⟩ := henv e c.shared s hI he
    exact ⟨hinv', fun j => (hK j).stable hrely⟩

/-- What has happened between two moments is within the protocol. -/
theorem rely_of_reach
    {G : Config S ι (Program R ε α) → Move ι (Option ε) E → Prop}
    {c₀ c : Config S ι (Program R ε α)} (hinv : P.inv c₀.shared)
    (hsafe : ∀ i, (c₀.pc i).Safe P handle (allowed i) (fun _ _ => True) c₀.shared)
    (henv : ∀ e s s', P.inv s → env e s = some s' → P.inv s' ∧ P.rely s s')
    (h : Reach (interleave (fun _ failure s p => p.step handle failure s) env) G c₀ c) :
    P.rely c₀.shared c.shared := by
  induction h with
  | refl => exact P.refl _
  | @tail before after move hreach _ hstep ih =>
      obtain ⟨hI, hK⟩ := inv_and_safe_of_reach hinv hsafe henv hreach
      refine P.trans ih ?_
      cases move with
      | process i failure =>
          obtain ⟨next, hact, rfl⟩ := Option.map_eq_some_iff.mp hstep
          obtain ⟨cmd, rest, hpc, hdata, -⟩ := step_eq_some handle hact
          have hself := hK i
          rw [hpc] at hself
          show P.rely _ next.1
          rw [hdata]
          exact ((hself _ (P.refl _) hI).2 failure).2.1
      | environment e =>
          obtain ⟨s, hs, rfl⟩ := Option.map_eq_some_iff.mp hstep
          exact (henv e _ s hI hs).2

/-- A command that a safe process awaits is allowed now. -/
theorem Safe.allowed_now {allowed : C → S → Prop} {p : Program R ε α} {c : C}
    {next : Except ε (R c) → Program R ε α}
    (h : p.Safe P handle allowed (fun _ _ => True) s) (hinv : P.inv s)
    (hp : p = .await c next) : allowed c s := by
  subst hp
  exact (h s (P.refl s) hinv).1

end System

/-! ## Commands a program cannot do without -/

/-- The program returns only after a command with the property `p` was carried out. -/
def Must (p : C → Prop) : Program R ε α → Prop
  | .done (.ok _) => False
  | .done (.error _) => True
  | .await c next =>
      (∀ e, Must p (next (.error e))) ∧ (¬ p c → ∀ r, Must p (next (.ok r)))

theorem not_must_of_returned {body : Program R ε α} (h : body.returned = true) :
    ¬ body.Must p := by
  cases body with
  | await c next => cases h
  | done result =>
      cases result with
      | ok a => exact id
      | error e => cases h

theorem must_call {c : C} (h : p c) : (call c : Program R ε (R c)).Must p :=
  ⟨fun _ => trivial, fun hc => absurd h hc⟩

theorem Must.bind_left {body : Program R ε α} (h : body.Must p) (f : α → Program R ε β) :
    (body >>= f).Must p := by
  induction body with
  | done result =>
      cases result with
      | ok a => exact h.elim
      | error e => trivial
  | await c next ih => exact ⟨fun e => ih _ (h.1 e), fun hc r => ih _ (h.2 hc r)⟩

theorem must_bind_right (body : Program R ε α) {f : α → Program R ε β}
    (h : ∀ a, (f a).Must p) : (body >>= f).Must p := by
  induction body with
  | done result =>
      cases result with
      | ok a => exact h a
      | error e => trivial
  | await c next ih => exact ⟨fun e => ih _, fun _ r => ih _⟩

/-- A step after which the program can do without the command has carried it out. -/
theorem Must.of_not_next {c : C} {next : Except ε (R c) → Program R ε α}
    (h : (Program.await c next).Must p) {failure : Option ε} {s : S}
    (hnext : ¬ (next (reply handle failure c s).2).Must p) :
    p c ∧ ∃ r, (reply handle failure c s).2 = .ok r := by
  cases hr : (reply handle failure c s).2 with
  | error e => exact absurd (hr ▸ h.1 e) hnext
  | ok r => exact ⟨by_contra fun hc => hnext (hr ▸ h.2 hc r), r, rfl⟩

/-- Once a command with the property `p` was carried out, the program returns only after
one with the property `q`. -/
def Follows (p q : C → Prop) : Program R ε α → Prop
  | .done _ => True
  | .await c next =>
      (p c → ∀ r, Must q (next (.ok r))) ∧ ∀ reply, Follows p q (next reply)

section Follows

variable {p q : C → Prop}

theorem Uses.follows {body : Program R ε α} (h : body.Uses fun c => ¬ p c) :
    body.Follows p q := by
  induction body with
  | done result => trivial
  | await c next ih => exact ⟨fun hc => absurd hc h.1, fun reply => ih reply (h.2 reply)⟩

/-- A program that has nothing to do with `p`, then one that keeps the order. -/
theorem Follows.bind_of_uses {body : Program R ε α} {f : α → Program R ε β}
    (hbody : body.Uses fun c => ¬ p c) (hf : ∀ a, (f a).Follows p q) :
    (body >>= f).Follows p q := by
  induction body with
  | done result =>
      cases result with
      | ok a => exact hf a
      | error e => trivial
  | await c next ih =>
      exact ⟨fun hc => absurd hc hbody.1, fun reply => ih reply (hbody.2 reply)⟩

/-- Any program, then one that cannot do without `q`. -/
theorem Follows.bind_of_must (body : Program R ε α) {f : α → Program R ε β}
    (hmust : ∀ a, (f a).Must q) (hf : ∀ a, (f a).Follows p q) :
    (body >>= f).Follows p q := by
  induction body with
  | done result =>
      cases result with
      | ok a => exact hf a
      | error e => trivial
  | await c next ih => exact ⟨fun _ r => must_bind_right _ hmust, fun reply => ih reply⟩

end Follows

/-- At most one command with the property `p` is carried out. -/
def AtMostOnce (p : C → Prop) : Program R ε α → Prop
  | .done _ => True
  | .await c next =>
      (p c → ∀ r, (next (.ok r)).Uses fun c => ¬ p c) ∧
        (¬ p c → ∀ r, AtMostOnce p (next (.ok r))) ∧ ∀ e, AtMostOnce p (next (.error e))

section AtMostOnce

variable {p : C → Prop}

theorem Uses.atMostOnce {body : Program R ε α} (h : body.Uses fun c => ¬ p c) :
    body.AtMostOnce p := by
  induction body with
  | done result => trivial
  | await c next ih =>
      exact ⟨fun hc => absurd hc h.1, fun _ r => ih _ (h.2 _), fun e => ih _ (h.2 _)⟩

theorem atMostOnce_call (c : C) : (call c : Program R ε (R c)).AtMostOnce p :=
  ⟨fun _ _ => trivial, fun _ _ => trivial, fun _ => trivial⟩

/-- A program that has nothing to do with `p`, then one with at most one such command. -/
theorem AtMostOnce.bind_of_uses {body : Program R ε α} {f : α → Program R ε β}
    (hbody : body.Uses fun c => ¬ p c) (hf : ∀ a, (f a).AtMostOnce p) :
    (body >>= f).AtMostOnce p := by
  induction body with
  | done result =>
      cases result with
      | ok a => exact hf a
      | error e => trivial
  | await c next ih =>
      exact ⟨fun hc => absurd hc hbody.1, fun _ r => ih _ (hbody.2 _),
        fun e => ih _ (hbody.2 _)⟩

/-- The other way round. -/
theorem AtMostOnce.bind_uses {body : Program R ε α} {f : α → Program R ε β}
    (hbody : body.AtMostOnce p) (hf : ∀ a, (f a).Uses fun c => ¬ p c) :
    (body >>= f).AtMostOnce p := by
  induction body with
  | done result =>
      cases result with
      | ok a => exact (hf a).atMostOnce
      | error e => trivial
  | await c next ih =>
      exact ⟨fun hc r => (hbody.1 hc r).bind hf, fun hc r => ih _ (hbody.2.1 hc r),
        fun e => ih _ (hbody.2.2 e)⟩

end AtMostOnce

end Program

end StayRide.Lib
