import StayRide.Admin.Calls
import StayRide.Lib.Run

/-!
# `get` and `getAll` side by side

`get` looks for one key in the cache, then in the table, then among the defaults; `getAll`
puts the same three together and caches what it has computed.  Complete calls that succeed,
with the cache expiring at any time, keep the cache coherent (`coherent_final`).

From a coherent cache both read the same object, and nothing can differ.  From an empty one
`getAll` assigns the rows to a new object, where a row named `__proto__` is no member but the
prototype; `get` returns it like any other row.  `get_agrees_iff` says that nothing else
makes them differ.
-/

namespace StayRide

open Lib AdminSettings SettingsCommand

/-- What happens to the settings: a complete call, or the cache expires. -/
inductive SettingsTurn (lib : SettingsLib)
  | complete (call : SettingsCall lib)
  | expire

section Agreement

variable {lib : SettingsLib} {s : SettingsStore} {key : String}

def SettingsTurn.exec (s : SettingsStore) : SettingsTurn lib → SettingsStore
  | .complete call => call.program.storeAfter s
  | .expire => s.setCache none

/-- The call returns. -/
def SettingsTurn.Succeeds (s : SettingsStore) : SettingsTurn lib → Prop
  | .complete call => call.program.outcome s = .ok ()
  | .expire => True

instance (s : SettingsStore) (turn : SettingsTurn lib) : Decidable (turn.Succeeds s) :=
  match turn with
  | .complete call => inferInstanceAs (Decidable (call.program.outcome s = .ok ()))
  | .expire => instDecidableTrue

/-! ## The cache stays coherent -/

/-- A change of a payment method that succeeds leaves the cache empty. -/
theorem cache_editPaymentMethod (method : MethodName lib) (edit : MethodEdit) (s : SettingsStore)
    {s' : SettingsStore} (h : (editPaymentMethod method edit).run handle s = .ok () s') :
    s'.cache = none := by
  have hset : ∀ (value : Json) (s s' : SettingsStore),
      (AdminSettings.set paymentMethodsKey value : SettingsM lib Unit).run handle s = .ok () s' →
        s'.cache = none := by
    intro value s s' h
    rw [run_set] at h
    obtain ⟨-, rfl⟩ := EStateM.Result.ok.inj h
    rfl
  revert s s'
  refine editPaymentMethod_cases (Q := fun p => ∀ (s : SettingsStore) {s' : SettingsStore},
    p.run handle s = .ok () s' → s'.cache = none) method edit (fun value s s' => hset value s s')
    ?_ ?_ ?_
  · intro e s s' h
    cases h
  · intro s s' h
    obtain ⟨value, after, -, h⟩ := Program.run_bind_eq_ok handle h
    exact hset value after s' h
  · intro f hf s s' h
    obtain ⟨loaded, after, -, h⟩ := Program.run_bind_eq_ok handle h
    exact hf loaded after h

theorem coherent_editPaymentMethod (method : MethodName lib) (edit : MethodEdit)
    (hok : (editPaymentMethod method edit).outcome s = .ok ()) :
    ((editPaymentMethod method edit).storeAfter s).Coherent := by
  unfold SettingsM.outcome at hok
  unfold SettingsM.storeAfter
  cases hrun : (editPaymentMethod method edit).run handle s with
  | error e s' =>
      rw [hrun] at hok
      cases hok
  | ok u s' =>
      intro own hown
      rw [cache_editPaymentMethod method edit s hrun] at hown
      cases hown

/-- A read leaves what it leaves, whatever is done with its result. -/
theorem storeAfter_discard {α : Type} {p : SettingsM lib α} {a : α} {s' : SettingsStore}
    (h : p.run handle s = .ok a s') : SettingsM.storeAfter s (do let _ ← p) = s' := by
  have hrun : (do let _ ← p : SettingsM lib Unit).run handle s = .ok () s' := by
    rw [Program.run_bind]
    show EStateM.bind _ _ s = _
    rw [EStateM.bind, h]
    rfl
  rw [SettingsM.storeAfter, hrun]

/-- **One turn** keeps the cache coherent, if its call succeeds. -/
theorem SettingsTurn.coherent (hs : s.Coherent) (turn : SettingsTurn lib)
    (hok : turn.Succeeds s) : (turn.exec s).Coherent := by
  cases turn with
  | expire => exact coherent_setCache_none s
  | complete call =>
      cases call with
      | get key =>
          have hstore : (SettingsCall.get key : SettingsCall lib).program.storeAfter s = s :=
            storeAfter_discard (run_get s key)
          exact (congrArg SettingsStore.Coherent hstore).mpr hs
      | getAll =>
          have hstore : (SettingsCall.getAll : SettingsCall lib).program.storeAfter s =
              s.setCache (some s.settings.own) := storeAfter_discard (run_getAll s)
          exact (congrArg SettingsStore.Coherent hstore).mpr hs.fill
      | set key value =>
          show (SettingsM.storeAfter s (AdminSettings.set key value)).Coherent
          rw [SettingsM.storeAfter, run_set]
          exact coherent_setCache_none _
      | setMany settings =>
          show (SettingsM.storeAfter s (AdminSettings.setMany settings)).Coherent
          rw [SettingsM.storeAfter, run_setMany]
          exact coherent_setCache_none _
      | togglePaymentMethod method enabled => exact coherent_editPaymentMethod method _ hok
      | updatePaymentMethod method config => exact coherent_editPaymentMethod method _ hok

/-- **A whole sequence** does. -/
theorem coherent_final (hs : s.Coherent) {turns : List (SettingsTurn lib)}
    (hok : Guarded SettingsTurn.exec SettingsTurn.Succeeds s turns) :
    (Final SettingsTurn.exec s turns).Coherent :=
  (hok.along (fun _ turn hs => turn.coherent hs) hs).last

/-! ## What the two calls return -/

/-- `?? null` -/
def SettingValue.orNull : SettingValue → SettingValue
  | .undefined => .json .null
  | .json v => .json v
  | .builtin name => .builtin name

variable (lib) in
/-- `get(key)` and `getAll()[key]`, called in the same state, return the same. -/
def GetAgrees (s : SettingsStore) (key : String) : Prop :=
  (AdminSettings.get key : SettingsM lib SettingValue).outcome s =
    ((AdminSettings.getAll : SettingsM lib SettingsObject).outcome s).map
      fun settings => (settings.member key).orNull

/-- Nothing is cached, and a row named `__proto__` holds a text that `get` returns, or takes
away the members of `Object.prototype` from what `getAll` returns. -/
def PrototypeReplaced (s : SettingsStore) (key : String) : Prop :=
  s.cache = none ∧
    (key = "__proto__" ∧ (∃ text, s.rows.find "__proto__" = some (some text)) ∨
      key ≠ "__proto__" ∧ key ∈ objectPrototype ∧ s.effective key = none ∧
        s.rows.find "__proto__" = some none)

theorem getAgrees_iff_setting_eq :
    GetAgrees lib s key ↔ s.setting key = (s.settings.member key).orNull := by
  unfold GetAgrees SettingsM.outcome
  rw [run_get, run_getAll]
  exact Iff.of_eq (Except.ok.injEq _ _)

theorem effective_proto (s : SettingsStore) :
    s.effective "__proto__" = (s.rows.find "__proto__").map readBack := by
  rw [SettingsStore.effective, s.defaults_plain, Option.or_none]

/-- A coherent cache that is filled answers both calls. -/
theorem setting_of_cached (hs : s.Coherent) {own : Dict String Json}
    (hcache : s.cache = some own) : s.setting key = (s.settings.member key).orNull := by
  have hmember : s.settings.member key = (SettingsObject.parsed own).member key := by
    rw [SettingsStore.settings, hcache]
    rfl
  rw [hmember, SettingsStore.setting, SettingsStore.cached, hcache, Option.map_some]
  unfold SettingsObject.member SettingsObject.parsed
  dsimp only
  cases hfind : own.find key with
  | some v => rfl
  | none =>
      by_cases hbuiltin : key ∈ objectPrototype
      · simp [hbuiltin, SettingValue.orNull, Option.filter]
      · -- `get` goes on to the table and the defaults, and finds nothing there either.
        have hkey : key ≠ "__proto__" := by
          rintro rfl
          exact hbuiltin (by decide)
        have heffective : s.effective key = none := by
          rw [← s.current_own hkey, ← hs own hcache, hfind]
        simp [hbuiltin, SettingValue.orNull, SettingsStore.uncached, heffective, Option.filter]

/-- Without a cache the calls differ exactly under the prototype's name, or for lack of it. -/
theorem setting_of_uncached (hcache : s.cache = none) :
    s.setting key = (s.settings.member key).orNull ↔ ¬ PrototypeReplaced s key := by
  have hget : s.setting key = s.uncached key := by
    rw [SettingsStore.setting, SettingsStore.cached, hcache]
    rfl
  have hgetAll : s.settings = s.current := by
    rw [SettingsStore.settings, hcache]
    rfl
  rw [hget, hgetAll, s.member_current, SettingsStore.uncached, effective_proto,
    PrototypeReplaced, and_iff_right hcache]
  by_cases hkey : key = "__proto__"
  · subst hkey
    rw [effective_proto]
    cases s.rows.find "__proto__" with
    | none => simp [SettingValue.orNull, objectPrototype]
    | some value => cases value <;> simp [SettingValue.orNull, readBack]
  · rw [if_neg hkey]
    cases s.effective key with
    | some v => simp [SettingValue.orNull, hkey]
    | none =>
        by_cases hbuiltin : key ∈ objectPrototype
        · cases s.rows.find "__proto__" with
          | none => simp [SettingValue.orNull, hbuiltin]
          | some value => cases value <;> simp [SettingValue.orNull, readBack, hbuiltin, hkey]
        · simp [SettingValue.orNull, hbuiltin, hkey]

/-- **`get` agrees with `getAll`** after any sequence of calls that succeed, for every key,
unless nothing is cached and a row named `__proto__` is in the way. -/
theorem get_agrees_iff (hs : s.Coherent) (turns : List (SettingsTurn lib))
    (hok : Guarded SettingsTurn.exec SettingsTurn.Succeeds s turns) (key : String) :
    GetAgrees lib (Final SettingsTurn.exec s turns) key ↔
      ¬ PrototypeReplaced (Final SettingsTurn.exec s turns) key := by
  rw [getAgrees_iff_setting_eq]
  cases hcache : (Final SettingsTurn.exec s turns).cache with
  | none => exact setting_of_uncached hcache
  | some own =>
      refine iff_of_true (setting_of_cached (coherent_final hs hok) hcache) fun hreplaced => ?_
      cases hcache.symm.trans hreplaced.1

end Agreement

namespace Demo

/-- A method is disabled, all settings are read, the cache expires. -/
def cashDisabled : List (SettingsTurn settingsLib) :=
  [.complete (.togglePaymentMethod cash false), .complete .getAll, .expire]

/-- Somebody stores a setting named `__proto__`. -/
def protoStored : List (SettingsTurn settingsLib) :=
  [.complete (.set "__proto__" (.str "x"))]

end Demo

/-- Both calls return the text of the new configuration. -/
theorem get_agrees_toggle :
    GetAgrees Demo.settingsLib (Final SettingsTurn.exec .start Demo.cashDisabled)
      paymentMethodsKey := by
  refine (get_agrees_iff (coherent_setCache_none .start) Demo.cashDisabled (by decide +kernel)
    paymentMethodsKey).mpr ?_
  rintro ⟨-, ⟨hkey, -⟩ | ⟨-, hbuiltin, -⟩⟩
  · exact absurd hkey (by decide)
  · exact absurd hbuiltin (by decide)

/-- **A setting named `__proto__`**: `get` returns its text, `getAll` does not have it. -/
theorem get_differs_proto :
    Guarded SettingsTurn.exec SettingsTurn.Succeeds .start Demo.protoStored ∧
      ¬ GetAgrees Demo.settingsLib (Final SettingsTurn.exec .start Demo.protoStored)
        "__proto__" := by
  refine ⟨by decide +kernel, ?_⟩
  rw [getAgrees_iff_setting_eq]
  decide +kernel

end StayRide
