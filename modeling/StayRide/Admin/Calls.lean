import StayRide.Admin.Settings

/-!
# The calls of the settings service

`SettingsCall` lists the calls; `SettingsCall.program` is what each of them runs.  A call
among others takes one command at a time (`SettingsM.advance`): an awaited command may be
rejected, an access to `defaults` may not.  `advance_alone` says that a call that nothing
interrupts does what `Program.run` does.

What the calls do is said once for the commands: which of them change what is in effect
(`SettingsCommand.Changes`), and what each leaves of table, cache and memory.  Of the
programs it is enough to know that a call that has made a change does not return without
deleting the cache (`follows_program`).
-/

namespace StayRide

open Lib AdminSettings SettingsCommand

/-- A call of `AdminSettingsService`, with its arguments. -/
inductive SettingsCall (lib : SettingsLib)
  | get (key : String)
  | getAll
  | set (key : String) (value : Json)
  | setMany (settings : List (String × Json))
  | togglePaymentMethod (method : MethodName lib) (enabled : Bool)
  | updatePaymentMethod (method : MethodName lib) (config : MethodConfig)

variable {lib : SettingsLib}

def SettingsCall.program : SettingsCall lib → SettingsM lib Unit
  | .get key => do let _ ← AdminSettings.get key
  | .getAll => do let _ ← AdminSettings.getAll
  | .set key value => AdminSettings.set key value
  | .setMany settings => AdminSettings.setMany settings
  | .togglePaymentMethod method enabled => AdminSettings.togglePaymentMethod method enabled
  | .updatePaymentMethod method config => AdminSettings.updatePaymentMethod method config

/-! ## One command of a call -/

/-- The next command of a call; only an awaited one can be rejected. -/
def SettingsM.advance {α : Type} (failure : Option SettingsError) (s : SettingsStore)
    (p : SettingsM lib α) : Option (SettingsStore × SettingsM lib α) :=
  p.step handle (if p.pending.any isAwaited then failure else none) s

/-- **Alone, a call does what `Program.run` says.** -/
theorem SettingsM.advance_alone {α : Type} (p : SettingsM lib α) (s : SettingsStore) :
    ∃ fuel, solo (SettingsM.advance none) fuel s p = Program.atEnd (p.run handle s) := by
  have hstep : (SettingsM.advance none : SettingsStore → SettingsM lib α → _) =
      fun s p => p.step handle none s := by
    funext s p
    rw [SettingsM.advance, ite_self]
  rw [hstep]
  exact p.exists_solo_eq_run handle s

/-! ## What the commands do -/

namespace SettingsCommand

/-- The commands that change the table or `defaults`. -/
def Changes : SettingsCommand lib → Prop
  | .upsert _ _ | .editDefaults _ _ => True
  | .getCachedSettings | .findOne _ | .find | .cacheSettings _ | .invalidateSettingsCache
  | .readDefaults => False

def Invalidates : SettingsCommand lib → Prop
  | .invalidateSettingsCache => True
  | .getCachedSettings | .findOne _ | .find | .upsert _ _ | .cacheSettings _ | .readDefaults
  | .editDefaults _ _ => False

end SettingsCommand

/-- The commands that do more than look, with what they leave behind. -/
inductive CommandEffect (s : SettingsStore) : SettingsCommand lib → SettingsStore → Prop
  | upsert (key : String) (value : Json) :
      CommandEffect s (.upsert key value) (s.upsertRow key (columnText lib value))
  | cache (settings : Dict String Json) :
      CommandEffect s (.cacheSettings settings) (s.setCache (some settings))
  | invalidate : CommandEffect s .invalidateSettingsCache (s.setCache none)
  | edit (method : MethodName lib) (edit : MethodEdit) (value : Json)
      (hvalue : edit.apply lib method.name s.paymentMethods = .ok value) :
      CommandEffect s (.editDefaults method edit) (s.setPaymentMethods value)

/-- **Inversion**: a command does nothing, or it has succeeded and has one of the listed
effects. -/
theorem commandEffect_reply (failure : Option SettingsError) (cmd : SettingsCommand lib)
    (s : SettingsStore) :
    (Program.reply handle failure cmd s).1 = s ∨
      CommandEffect s cmd (Program.reply handle failure cmd s).1 ∧
        ∃ r, (Program.reply handle failure cmd s).2 = .ok r := by
  cases failure with
  | some e => exact Or.inl rfl
  | none =>
      cases cmd with
      | getCachedSettings | findOne | find | readDefaults => exact Or.inl rfl
      | upsert key value => exact Or.inr ⟨.upsert key value, (), rfl⟩
      | cacheSettings settings => exact Or.inr ⟨.cache settings, (), rfl⟩
      | invalidateSettingsCache => exact Or.inr ⟨.invalidate, (), rfl⟩
      | editDefaults method edit =>
          simp only [Program.reply, handle]
          cases hvalue : edit.apply lib method.name s.paymentMethods with
          | ok value => exact Or.inr ⟨.edit method edit value hvalue, value, rfl⟩
          | error e => exact Or.inl rfl

/-! ## A change is followed by the deletion of the cache -/

section Follows

theorem uses_of_not_changes (cmd : SettingsCommand lib) (h : ¬ cmd.Changes) :
    (Program.call cmd : SettingsM lib cmd.Reply).Uses fun cmd => ¬ cmd.Changes :=
  Program.uses_call h

theorem uses_load (key : String) :
    (load key : SettingsM lib Loaded).Uses fun cmd => ¬ cmd.Changes := by
  rw [load_eq]
  refine (uses_of_not_changes .getCachedSettings not_false).bind fun cached => ?_
  cases (cached.map fun own => (SettingsObject.parsed own).member key).filter _ with
  | some v => trivial
  | none => exact (uses_of_not_changes (.findOne key) not_false).bind fun row => trivial

theorem uses_get (key : String) :
    (AdminSettings.get key : SettingsM lib SettingValue).Uses fun cmd => ¬ cmd.Changes := by
  refine (uses_load key).bind fun loaded => ?_
  cases loaded with
  | value v => trivial
  | shared => exact (uses_of_not_changes .readDefaults not_false).bind fun _ => trivial

theorem uses_getAll :
    (AdminSettings.getAll : SettingsM lib SettingsObject).Uses fun cmd => ¬ cmd.Changes := by
  refine (uses_of_not_changes .getCachedSettings not_false).bind fun cached => ?_
  cases cached with
  | some own => trivial
  | none =>
      refine (uses_of_not_changes .find not_false).bind fun rows => ?_
      refine (uses_of_not_changes .readDefaults not_false).bind fun defaults => ?_
      exact (uses_of_not_changes (.cacheSettings _) not_false).bind fun _ => trivial

theorem follows_invalidate :
    (invalidateSettingsCache : SettingsM lib Unit).Follows Changes Invalidates :=
  (uses_of_not_changes .invalidateSettingsCache not_false).follows

theorem follows_set (key : String) (value : Json) :
    (AdminSettings.set key value : SettingsM lib Unit).Follows Changes Invalidates :=
  .bind_of_must _ (fun _ => Program.must_call trivial) fun _ => follows_invalidate

/-- What `editPaymentMethod` does with what it has loaded. -/
theorem editPaymentMethod_cases {Q : SettingsM lib Unit → Prop} (method : MethodName lib)
    (edit : MethodEdit) (hset : ∀ value, Q (AdminSettings.set paymentMethodsKey value))
    (hthrow : ∀ e, Q (throw e))
    (hshared : Q (editDefaults method edit >>= AdminSettings.set paymentMethodsKey))
    (hbind : ∀ f : Loaded → SettingsM lib Unit, (∀ loaded, Q (f loaded)) →
      Q (load paymentMethodsKey >>= f)) : Q (editPaymentMethod method edit) := by
  refine hbind _ fun loaded => ?_
  cases loaded with
  | value v =>
      cases v with
      | json current =>
          dsimp only
          cases edit.apply lib method.name current with
          | ok value => exact hset value
          | error e => exact hthrow e
      | builtin name => exact hthrow _
      | undefined => exact hthrow _
  | shared => exact hshared

theorem follows_editPaymentMethod (method : MethodName lib) (edit : MethodEdit) :
    (editPaymentMethod method edit).Follows Changes Invalidates := by
  refine editPaymentMethod_cases method edit (follows_set _) (fun e => trivial) ?_
    fun f hf => .bind_of_uses (uses_load _) hf
  refine .bind_of_must _ (fun value => ?_) (follows_set _)
  exact Program.must_bind_right _ fun _ => Program.must_call trivial

/-- **Of every call**: what it has changed it does not leave in the cache, if it returns. -/
theorem follows_program (call : SettingsCall lib) :
    call.program.Follows Changes Invalidates := by
  cases call with
  | get key =>
      refine (Program.Uses.bind (uses_get key) fun _ => ?_).follows
      trivial
  | getAll =>
      refine (Program.Uses.bind uses_getAll fun _ => ?_).follows
      trivial
  | set key value => exact follows_set key value
  | setMany settings =>
      exact .bind_of_must _ (fun _ => Program.must_call trivial) fun _ => follows_invalidate
  | togglePaymentMethod method enabled => exact follows_editPaymentMethod method _
  | updatePaymentMethod method config => exact follows_editPaymentMethod method _

end Follows

end StayRide
