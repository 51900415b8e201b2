import StayRide.Admin.Calls

/-!
# What a failed write leaves behind

A call of `set`, `setMany`, `togglePaymentMethod` or `updatePaymentMethod` that throws: at
an unknown method, or because one of the commands it awaits is rejected.  What it has done
before stays done.

`WriteCall.changes` lists the changes that a call makes, in their order: upserts, and the
change of `defaults` in place.  A call that throws has made the first few of them and has
not touched the cache (`performs_program`).  `failed_write_iff`: nobody can tell the
difference, neither from the cache nor after it has expired, exactly when every value that
the call has left behind was in effect before.
-/

namespace StayRide

open Lib AdminSettings SettingsCommand

variable {lib : SettingsLib}

/-! ## What can be told from reading -/

/-- What `get` and `getAll` return for a key. -/
def reads (lib : SettingsLib) (s : SettingsStore) (key : String) :
    Except SettingsError SettingValue × Except SettingsError SettingValue :=
  ((AdminSettings.get key : SettingsM lib SettingValue).outcome s,
    ((AdminSettings.getAll : SettingsM lib SettingsObject).outcome s).map
      (SettingsObject.member · key))

/-- Every key reads the same, now and after the cache has expired. -/
def SameReads (lib : SettingsLib) (s s' : SettingsStore) : Prop :=
  ∀ key, reads lib s' key = reads lib s key ∧
    reads lib (s'.setCache none) key = reads lib (s.setCache none) key

theorem reads_eq (s : SettingsStore) (key : String) :
    reads lib s key = (.ok (s.setting key), .ok (s.settings.member key)) := by
  unfold reads SettingsM.outcome
  rw [run_get, run_getAll]
  rfl

section Reads

variable {s s' : SettingsStore}

/-- The uncached reads depend on the values in effect only. -/
theorem uncached_congr (h : ∀ key, s'.effective key = s.effective key) (key : String) :
    s'.uncached key = s.uncached key ∧ s'.current.member key = s.current.member key := by
  refine ⟨?_, ?_⟩
  · rw [SettingsStore.uncached, SettingsStore.uncached, h]
  · rw [s'.member_current, s.member_current, h, h]

/-- A value in effect shows: `get` tells it from a member of the prototype, `getAll` from
the value that `get` has for a key without one. -/
theorem reads_ne_of_none {key : String} {v : Json} (h : s.effective key = some v)
    (h' : s'.effective key = none) :
    s.uncached key ≠ s'.uncached key ∨ s.current.member key ≠ s'.current.member key := by
  unfold SettingsStore.uncached
  rw [s.member_current, s'.member_current, h, h']
  by_cases hkey : key ∈ objectPrototype
  · exact Or.inl (by simp [hkey])
  · have hproto : key ≠ "__proto__" := by
      rintro rfl
      exact hkey (by decide)
    exact Or.inr (by simp [hkey, hproto])

/-- The uncached reads show the value in effect. -/
theorem effective_of_uncached {key : String} (hget : s'.uncached key = s.uncached key)
    (hgetAll : s'.current.member key = s.current.member key) :
    s'.effective key = s.effective key := by
  cases h' : s'.effective key with
  | some v' =>
      cases h : s.effective key with
      | some v => simpa [SettingsStore.uncached, h', h] using hget
      | none => rcases reads_ne_of_none h' h with hne | hne <;> contradiction
  | none =>
      cases h : s.effective key with
      | none => rfl
      | some v =>
          have hget' := hget.symm
          have hgetAll' := hgetAll.symm
          rcases reads_ne_of_none h h' with hne | hne <;> contradiction

/-- **What can be told from reading**, of two states with the same cache, is what is in
effect. -/
theorem sameReads_iff (hcache : s'.cache = s.cache) :
    SameReads lib s s' ↔ ∀ key, s'.effective key = s.effective key := by
  constructor
  · intro h key
    have hreads := (h key).2
    rw [reads_eq, reads_eq] at hreads
    obtain ⟨hget, hgetAll⟩ := Prod.mk.injEq .. ▸ hreads
    exact effective_of_uncached (Except.ok.inj hget) (Except.ok.inj hgetAll)
  · intro h key
    obtain ⟨hget, hgetAll⟩ := uncached_congr h key
    have hcached : s'.cached key = s.cached key := by
      rw [SettingsStore.cached, SettingsStore.cached, hcache]
    have hsetting : s'.setting key = s.setting key := by
      rw [SettingsStore.setting, SettingsStore.setting, hcached, hget]
    have hsettings : s'.settings.member key = s.settings.member key := by
      unfold SettingsStore.settings
      rw [hcache]
      cases s.cache with
      | none => exact hgetAll
      | some own => rfl
    refine ⟨?_, ?_⟩
    · rw [reads_eq, reads_eq, hsetting, hsettings]
    · rw [reads_eq, reads_eq]
      exact congrArg₂ Prod.mk (congrArg Except.ok hget) (congrArg Except.ok hgetAll)

end Reads

/-! ## Changes -/

/-- A change that a call makes. -/
inductive SettingsChange
  /-- A row is inserted or overwritten. -/
  | row (key : String) (value : Option String)
  /-- `defaults.payment_methods_enabled` is changed in place. -/
  | methods (value : Json)

namespace SettingsChange

def apply (s : SettingsStore) : SettingsChange → SettingsStore
  | .row key value => s.upsertRow key value
  | .methods value => s.setPaymentMethods value

/-- The key and the value that the change puts into effect. -/
def puts : SettingsChange → String × Json
  | .row key value => (key, readBack value)
  | .methods value => (paymentMethodsKey, value)

/-- A default is in effect only where the table has no row. -/
def Seen : SettingsStore → List SettingsChange → Prop
  | _, [] => True
  | s, .row key value :: rest => Seen (s.upsertRow key value) rest
  | s, .methods value :: rest =>
      s.rows.find paymentMethodsKey = none ∧ Seen (s.setPaymentMethods value) rest

theorem effective_row (s : SettingsStore) (key key' : String) (value : Option String) :
    (s.upsertRow key value).effective key' =
      if key' = key then some (readBack value) else s.effective key' := by
  show ((Dict.find (s.rows.assign key value) key').map readBack).or _ = _
  rw [Dict.find_assign]
  by_cases hkey : key' = key
  · rw [if_pos hkey, if_pos hkey]
    rfl
  · rw [if_neg hkey, if_neg hkey]
    rfl

theorem effective_methods {s : SettingsStore} (h : s.rows.find paymentMethodsKey = none)
    (key : String) (value : Json) :
    (s.setPaymentMethods value).effective key =
      if key = paymentMethodsKey then some value else s.effective key := by
  show ((s.rows.find key).map readBack).or (Dict.find (s.defaults.assign _ value) key) = _
  rw [Dict.find_assign]
  by_cases hkey : key = paymentMethodsKey
  · rw [if_pos hkey, if_pos hkey, hkey, h]
    rfl
  · rw [if_neg hkey, if_neg hkey]
    rfl

/-- What is in effect after some changes: the last value that was put under the key. -/
theorem effective_foldl {s : SettingsStore} {changes : List SettingsChange}
    (h : Seen s changes) (key : String) :
    (changes.foldl apply s).effective key =
      (Dict.lastFor (changes.map puts) key).or (s.effective key) := by
  -- Induction on the changes; the state is general, since the first change moves it.
  induction changes generalizing s with
  | nil => rfl
  | cons change changes ih =>
      have heffective : (apply s change).effective key =
          if key = change.puts.1 then some change.puts.2 else s.effective key := by
        cases change with
        | row key' value => exact effective_row s key' key value
        | methods value => exact effective_methods h.1 key value
      have hseen : Seen (apply s change) changes := by
        cases change with
        | row key' value => exact h
        | methods value => exact h.2
      rw [List.foldl_cons, ih hseen, heffective, List.map_cons, Dict.lastFor_cons,
        Option.or_assoc]
      by_cases hkey : key = change.puts.1 <;> simp [hkey]

theorem Seen.take {s : SettingsStore} {changes : List SettingsChange} (h : Seen s changes)
    (n : ℕ) : Seen s (changes.take n) := by
  induction changes generalizing s n with
  | nil => rw [List.take_nil]; trivial
  | cons change changes ih =>
      cases n with
      | zero => trivial
      | succ n =>
          cases change with
          | row key value => exact ih h n
          | methods value => exact ⟨h.1, ih h.2 n⟩

theorem cache_foldl (s : SettingsStore) (changes : List SettingsChange) :
    (changes.foldl apply s).cache = s.cache := by
  induction changes generalizing s with
  | nil => rfl
  | cons change changes ih =>
      rw [List.foldl_cons, ih]
      cases change <;> rfl

end SettingsChange

/-! ## A call that may fail -/

/-- The commands of a call alone, with what is rejected, until it is over or the list is. -/
def SettingsM.play {α : Type} : List (Option SettingsError) → SettingsStore → SettingsM lib α →
    SettingsStore × SettingsM lib α
  | [], s, p => (s, p)
  | failure :: rest, s, p =>
      match p.advance failure s with
      | none => (s, p)
      | some next => SettingsM.play rest next.1 next.2

/-- If the call throws, it has made the first few of these changes and nothing else. -/
def Performs (p : SettingsM lib Unit) (s : SettingsStore) (changes : List SettingsChange) :
    Prop :=
  ∀ (inputs : List (Option SettingsError)) (s' : SettingsStore) (e : SettingsError),
    SettingsM.play inputs s p = (s', .done (.error e)) →
      ∃ n ≤ changes.length, s' = (changes.take n).foldl SettingsChange.apply s

section Performs

variable {s : SettingsStore} {changes : List SettingsChange}

@[simp] theorem play_done {α : Type} (inputs : List (Option SettingsError)) (s : SettingsStore)
    (result : Except SettingsError α) :
    SettingsM.play inputs s (.done result : SettingsM lib α) = (s, .done result) := by
  cases inputs <;> rfl

theorem performs_throw (e : SettingsError) :
    Performs (throw e : SettingsM lib Unit) s changes := by
  intro inputs s' e' h
  rw [show (throw e : SettingsM lib Unit) = .done (.error e) from rfl, play_done] at h
  exact ⟨0, Nat.zero_le _, (congrArg Prod.fst h).symm⟩

/-- A call that throws has had an answer to its next command. -/
theorem exists_reply {cmd : SettingsCommand lib}
    {next : Except SettingsError cmd.Reply → SettingsM lib Unit}
    {inputs : List (Option SettingsError)} {s' : SettingsStore} {e : SettingsError}
    (h : SettingsM.play inputs s (.await cmd next) = (s', .done (.error e))) :
    ∃ failure rest, SettingsM.play rest (Program.reply handle failure cmd s).1
      (next (Program.reply handle failure cmd s).2) = (s', .done (.error e)) := by
  cases inputs with
  | nil => cases congrArg Prod.snd h
  | cons failure rest => exact ⟨if cmd.isAwaited then failure else none, rest, h⟩

/-- A command that is followed by more: the call throws there, with nothing done, or goes
on from what the command has done. -/
theorem play_await {cmd : SettingsCommand lib}
    {next : Except SettingsError cmd.Reply → SettingsM lib Unit} {r : cmd.Reply}
    {s₁ : SettingsStore} (hok : handle cmd s = .ok r s₁)
    (herror : ∀ e, next (.error e) = .done (.error e))
    {inputs : List (Option SettingsError)} {s' : SettingsStore} {e : SettingsError}
    (h : SettingsM.play inputs s (.await cmd next) = (s', .done (.error e))) :
    s' = s ∨ ∃ rest, SettingsM.play rest s₁ (next (.ok r)) = (s', .done (.error e)) := by
  obtain ⟨failure, rest, hrest⟩ := exists_reply h
  cases failure with
  | some e' =>
      simp only [Program.reply, herror, play_done] at hrest
      exact Or.inl (congrArg Prod.fst hrest).symm
  | none =>
      simp only [Program.reply, hok] at hrest
      exact Or.inr ⟨rest, hrest⟩

theorem performs_read {cmd : SettingsCommand lib}
    {next : Except SettingsError cmd.Reply → SettingsM lib Unit} {r : cmd.Reply}
    (hok : handle cmd s = .ok r s) (herror : ∀ e, next (.error e) = .done (.error e))
    (hnext : Performs (next (.ok r)) s changes) : Performs (.await cmd next) s changes := by
  intro inputs s' e h
  rcases play_await hok herror h with rfl | ⟨rest, hrest⟩
  · exact ⟨0, Nat.zero_le _, rfl⟩
  · exact hnext rest s' e hrest

theorem performs_change {cmd : SettingsCommand lib}
    {next : Except SettingsError cmd.Reply → SettingsM lib Unit} {r : cmd.Reply}
    {change : SettingsChange} (hok : handle cmd s = .ok r (change.apply s))
    (herror : ∀ e, next (.error e) = .done (.error e))
    (hnext : Performs (next (.ok r)) (change.apply s) changes) :
    Performs (.await cmd next) s (change :: changes) := by
  intro inputs s' e h
  rcases play_await hok herror h with rfl | ⟨rest, hrest⟩
  · exact ⟨0, Nat.zero_le _, rfl⟩
  · obtain ⟨n, hn, hs'⟩ := hnext rest s' e hrest
    exact ⟨n + 1, Nat.succ_le_succ hn, hs'⟩

theorem performs_error {cmd : SettingsCommand lib}
    {next : Except SettingsError cmd.Reply → SettingsM lib Unit} {e : SettingsError}
    (hfails : handle cmd s = .error e s) (herror : ∀ e, next (.error e) = .done (.error e)) :
    Performs (.await cmd next) s changes := by
  intro inputs s' e' h
  obtain ⟨failure, rest, hrest⟩ := exists_reply h
  have hsame : s = s' := by
    cases failure <;> simp only [Program.reply, hfails, herror, play_done] at hrest <;>
      exact congrArg Prod.fst hrest
  exact ⟨0, Nat.zero_le _, hsame.symm⟩

/-- A call that has come to its last command has made all its changes. -/
theorem performs_invalidate :
    Performs (invalidateSettingsCache : SettingsM lib Unit) s [] := by
  intro inputs s' e h
  rcases play_await rfl (fun _ => rfl) h with rfl | ⟨rest, hrest⟩
  · exact ⟨0, le_refl _, rfl⟩
  · rw [play_done] at hrest
    cases congrArg Prod.snd hrest

theorem performs_set (key : String) (value : Json) :
    Performs (AdminSettings.set key value : SettingsM lib Unit) s
      [.row key (columnText lib value)] :=
  performs_change rfl (fun _ => rfl) performs_invalidate

theorem performs_setMany (settings : List (String × Json)) :
    Performs (AdminSettings.setMany settings : SettingsM lib Unit) s
      (settings.map fun setting => .row setting.1 (columnText lib setting.2)) := by
  -- The loop goes on from the state that the first upsert has left.
  induction settings generalizing s with
  | nil => exact performs_invalidate
  | cons setting settings ih => exact performs_change rfl (fun _ => rfl) ih

/-- `load` only looks. -/
theorem performs_load {key : String} {f : Loaded → SettingsM lib Unit}
    (h : Performs (f (s.loaded key)) s changes) : Performs (load key >>= f) s changes := by
  rw [load_eq]
  refine performs_read rfl (fun _ => rfl) ?_
  show Performs ((s.cached key).elim _ _ >>= f) s changes
  unfold SettingsStore.loaded at h
  cases hcached : s.cached key with
  | some v =>
      rw [hcached] at h
      exact h
  | none =>
      refine performs_read rfl (fun _ => rfl) ?_
      show Performs (f ((s.rows.find key).elim _ _)) s changes
      rw [hcached] at h
      cases hrow : s.rows.find key with
      | some value =>
          rw [hrow] at h
          exact h
      | none =>
          rw [hrow] at h
          exact h

end Performs

/-! ## The calls -/

/-- A call that writes. -/
inductive WriteCall (lib : SettingsLib)
  | set (key : String) (value : Json)
  | setMany (settings : List (String × Json))
  | togglePaymentMethod (method : MethodName lib) (enabled : Bool)
  | updatePaymentMethod (method : MethodName lib) (config : MethodConfig)

def WriteCall.program : WriteCall lib → SettingsM lib Unit
  | .set key value => AdminSettings.set key value
  | .setMany settings => AdminSettings.setMany settings
  | .togglePaymentMethod method enabled => AdminSettings.togglePaymentMethod method enabled
  | .updatePaymentMethod method config => AdminSettings.updatePaymentMethod method config

/-- The changes that an edit of a payment method makes: it writes the row, and before that
it changes `defaults` if that is what it was handed. -/
def editChanges (s : SettingsStore) (method : MethodName lib) (edit : MethodEdit) :
    List SettingsChange :=
  match s.loaded paymentMethodsKey with
  | .value (.json current) =>
      match edit.apply lib method.name current with
      | .ok value => [.row paymentMethodsKey (columnText lib value)]
      | .error _ => []
  | .value (.builtin _) | .value .undefined => []
  | .shared =>
      match edit.apply lib method.name s.paymentMethods with
      | .ok value => [.methods value, .row paymentMethodsKey (columnText lib value)]
      | .error _ => []

/-- The changes that a call makes, in their order. -/
def WriteCall.changes (s : SettingsStore) : WriteCall lib → List SettingsChange
  | .set key value => [.row key (columnText lib value)]
  | .setMany settings => settings.map fun setting => .row setting.1 (columnText lib setting.2)
  | .togglePaymentMethod method enabled => editChanges s method (.enable enabled)
  | .updatePaymentMethod method config => editChanges s method (.configure config)

section Calls

variable {s : SettingsStore}

theorem performs_editPaymentMethod (method : MethodName lib) (edit : MethodEdit) :
    Performs (editPaymentMethod method edit) s (editChanges s method edit) := by
  refine performs_load ?_
  unfold editChanges
  cases s.loaded paymentMethodsKey with
  | value v =>
      cases v with
      | json current =>
          dsimp only
          cases edit.apply lib method.name current with
          | ok value => exact performs_set _ _
          | error e => exact performs_throw e
      | builtin name => exact performs_throw _
      | undefined => exact performs_throw _
  | shared =>
      dsimp only
      cases hvalue : edit.apply lib method.name s.paymentMethods with
      | ok value =>
          have hedit : handle (.editDefaults method edit) s =
              .ok value ((SettingsChange.methods value).apply s) := by
            simp only [handle, hvalue]
            rfl
          exact performs_change hedit (fun _ => rfl) (performs_set paymentMethodsKey value)
      | error e =>
          have hedit : handle (.editDefaults method edit) s = .error e s := by
            simp only [handle, hvalue]
          exact performs_error hedit fun _ => rfl

/-- **Of every call**: if it throws, it has made the first few of its changes. -/
theorem performs_program (call : WriteCall lib) : Performs call.program s (call.changes s) := by
  cases call with
  | set key value => exact performs_set key value
  | setMany settings => exact performs_setMany settings
  | togglePaymentMethod method enabled => exact performs_editPaymentMethod method _
  | updatePaymentMethod method config => exact performs_editPaymentMethod method _

/-- `load` hands out `defaults` only where the table has no row. -/
theorem find_of_loaded_shared {key : String} (h : s.loaded key = .shared) :
    s.rows.find key = none := by
  unfold SettingsStore.loaded at h
  cases hcached : s.cached key with
  | some v => simp [hcached] at h
  | none =>
      cases hrow : s.rows.find key with
      | some value => simp [hcached, hrow] at h
      | none => rfl

theorem seen_editChanges (method : MethodName lib) (edit : MethodEdit) :
    SettingsChange.Seen s (editChanges s method edit) := by
  unfold editChanges
  cases hloaded : s.loaded paymentMethodsKey with
  | value v =>
      cases v with
      | json current => dsimp only; split <;> trivial
      | builtin name => trivial
      | undefined => trivial
  | shared =>
      dsimp only
      split
      · exact ⟨find_of_loaded_shared hloaded, trivial⟩
      · trivial

theorem seen_changes (call : WriteCall lib) : SettingsChange.Seen s (call.changes s) := by
  cases call with
  | set key value => trivial
  | setMany settings =>
      show SettingsChange.Seen s (settings.map _)
      induction settings generalizing s with
      | nil => trivial
      | cons setting settings ih => exact ih
  | togglePaymentMethod method enabled => exact seen_editChanges method _
  | updatePaymentMethod method config => exact seen_editChanges method _

end Calls

namespace Demo

def visa : MethodName settingsLib := ⟨"VISA", by decide +kernel⟩

end Demo

/-- **A failed write**: a call that throws has made the first few of its changes, whatever
was rejected and wherever.  Every key reads as if the call had not been made, now and
after the cache has expired, exactly when each value that it has left behind was in effect
before. -/
theorem failed_write_iff (call : WriteCall lib) (s s' : SettingsStore)
    (inputs : List (Option SettingsError)) (e : SettingsError)
    (hthrows : SettingsM.play inputs s call.program = (s', .done (.error e))) :
    ∃ n ≤ (call.changes s).length,
      s' = ((call.changes s).take n).foldl SettingsChange.apply s ∧
      (SameReads lib s s' ↔ ∀ key v,
        Dict.lastFor (((call.changes s).take n).map SettingsChange.puts) key = some v →
          s.effective key = some v) := by
  obtain ⟨n, hn, hs'⟩ := performs_program call inputs s' e hthrows
  refine ⟨n, hn, hs', ?_⟩
  have hcache : s'.cache = s.cache := by rw [hs', SettingsChange.cache_foldl]
  have heffective : ∀ key, s'.effective key =
      (Dict.lastFor (((call.changes s).take n).map SettingsChange.puts) key).or
        (s.effective key) := by
    intro key
    rw [hs', SettingsChange.effective_foldl ((seen_changes call).take n)]
  rw [sameReads_iff hcache]
  refine forall_congr' fun key => ?_
  rw [heffective]
  cases Dict.lastFor (((call.changes s).take n).map SettingsChange.puts) key with
  | none => simp
  | some v => simp [eq_comm]

/-- `VISA` is no payment method: nothing is left behind. -/
theorem failed_write_unknown_method : ∃ s' : SettingsStore,
    SettingsM.play [none, none, none] .start
      (WriteCall.togglePaymentMethod Demo.visa true).program =
        (s', .done (.error (unknownMethod "VISA"))) ∧
    SameReads Demo.settingsLib .start s' := by
  have hthrows : SettingsM.play [none, none, none] .start
      (WriteCall.togglePaymentMethod Demo.visa true).program =
        (.start, .done (.error (unknownMethod "VISA"))) := by
    rfl
  have hnothing : (WriteCall.togglePaymentMethod Demo.visa true).changes .start = [] := by
    rfl
  obtain ⟨n, -, -, hiff⟩ := failed_write_iff _ _ _ _ _ hthrows
  refine ⟨.start, hthrows, hiff.mpr fun key v hleft => ?_⟩
  rw [hnothing, List.take_nil] at hleft
  cases hleft

/-- **A failed write that stays.**  Cash is switched off on a new installation, and the
upsert is rejected: it is off in `defaults`. -/
theorem failed_toggle_stays :
    ¬ ∀ (call : WriteCall Demo.settingsLib) (s s' : SettingsStore)
      (inputs : List (Option SettingsError)) (e : SettingsError),
      SettingsM.play inputs s call.program = (s', .done (.error e)) →
        SameReads Demo.settingsLib s s' := by
  intro h
  obtain ⟨value, hoff⟩ : ∃ value,
      (MethodEdit.enable false).apply Demo.settingsLib "CASH" SettingsStore.start.paymentMethods =
        .ok value := ⟨_, rfl⟩
  have hthrows : SettingsM.play [none, none, none, some (.http .queryFailed)] .start
      (WriteCall.togglePaymentMethod Demo.cash false).program =
        (SettingsStore.start.setPaymentMethods value, .done (.error (.http .queryFailed))) := by
    cases hoff
    rfl
  have hsame := (h _ _ _ _ _ hthrows paymentMethodsKey).1
  rw [reads_eq, reads_eq] at hsame
  have hread : (SettingsStore.start.setPaymentMethods value).setting paymentMethodsKey =
      SettingsStore.start.setting paymentMethodsKey :=
    Except.ok.inj (congrArg Prod.fst hsame)
  cases hoff
  revert hread
  decide +kernel

end StayRide
