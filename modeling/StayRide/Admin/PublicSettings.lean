import StayRide.Admin.Agreement
import StayRide.Payments.Service

/-!
# Payment methods, as they are shown and as they are accepted

`AdminSettingsService.getPublic` tells visitors which payment methods are enabled, and
`PaymentsService.validatePaymentMethodEnabled` refuses the ones that are not.  Both read the
setting `payment_methods_enabled`, one through `getAll` and one through `get`.

* `shown_methods_accepted`: after every sequence of calls that succeed, what the visitors are
  shown is what is accepted, as long as they are shown anything at all.
* `edited_methods_refused`: after any of these calls has written the setting, no payment method
  is accepted any more, and none is shown.  The column keeps the text of the new configuration,
  and a text has no property with the name of a payment method.

`getPublic` assigns to the properties of an object one after the other; the order in which they
are listed is not modelled.
-/

namespace StayRide

open Lib AdminSettings SettingsCommand

/-! ## The two readers -/

section Readers

variable (lib : SettingsLib)

/-- `config.enabled` counts as true. -/
def Json.enabled (config : Json) : Bool :=
  (config.property lib.codeUnits "enabled").any Json.truthy

/-- `settings?.[method]`, and whether it is enabled; `none` if it does not count as true. -/
def methodFlag (value : SettingValue) (method : String) : Option Bool :=
  match value with
  | .json v => ((v.property lib.codeUnits method).filter Json.truthy).map (Json.enabled lib)
  | .builtin _ | .undefined => none

/-- What `validatePaymentMethodEnabled` reads. -/
def paymentMethodFlags : SettingsM lib (PaymentMethod → Option Bool) := do
  let value ← AdminSettings.get paymentMethodsKey
  return fun method => methodFlag lib value method.text

/-- What visitors are told about a method; `enabled` is true of every one of them. -/
structure PublicMethod where
  label : Option Json
  merchantCode : Option Json
  instructionsFr : Option Json
  instructionsEn : Option Json
  deriving DecidableEq

def publicMethod (config : Json) : PublicMethod where
  label := config.property lib.codeUnits "label"
  merchantCode := config.property lib.codeUnits "merchant_code"
  instructionsFr := config.property lib.codeUnits "instructions_fr"
  instructionsEn := config.property lib.codeUnits "instructions_en"

/-- One turn of the loop over the methods.  A configuration that is `null` has no property, and
an assignment to `__proto__` adds none. -/
def showMethod (shown : Dict String PublicMethod) (entry : String × Json) :
    Except SettingsError (Dict String PublicMethod) :=
  if entry.2 = .null then .error .typeError
  else if entry.2.enabled lib = true ∧ entry.1 ≠ "__proto__" then
    .ok (shown.assign entry.1 (publicMethod lib entry.2))
  else .ok shown

/-- The loop over `Object.entries(payment_methods_enabled)`. -/
def publicMethods (value : SettingValue) : Except SettingsError (Dict String PublicMethod) :=
  match value with
  | .undefined | .json .null => .error .typeError
  | .builtin _ => .ok []
  | .json v => (v.ownProperties lib.codeUnits).foldlM (showMethod lib) []

structure PublicSettings where
  kycRequired : SettingValue
  licenseRequired : SettingValue
  depositRequired : SettingValue
  defaultCurrency : SettingValue
  platformName : SettingValue
  paymentMethods : Dict String PublicMethod
  deriving DecidableEq

def getPublic : SettingsM lib PublicSettings := do
  let all ← getAll
  match publicMethods lib (all.member paymentMethodsKey) with
  | .error e => throw e
  | .ok methods => return {
      kycRequired := all.member "kyc_required"
      licenseRequired := all.member "license_required"
      depositRequired := all.member "deposit_required"
      defaultCurrency := all.member "default_currency"
      platformName := all.member "platform_name"
      paymentMethods := methods }

end Readers

/-! ## What the loop shows -/

section Loop

variable {lib : SettingsLib}

/-- A method is shown that was shown before, or that is enabled. -/
theorem find_of_showMethods {entries : List (String × Json)}
    {shown result : Dict String PublicMethod}
    (h : entries.foldlM (showMethod lib) shown = .ok result) {key : String}
    (hkey : key ≠ "__proto__") :
    (result.find key).isSome ↔ (shown.find key).isSome ∨
      ∃ entry ∈ entries, entry.1 = key ∧ entry.2.enabled lib = true := by
  induction entries generalizing shown with
  | nil =>
      obtain rfl := Except.ok.inj h
      simp
  | cons entry entries ih =>
      rw [List.foldlM_cons] at h
      unfold showMethod at h
      split at h
      · cases h
      · split at h
        · next henabled =>
            rw [ih h, Dict.find_assign]
            by_cases hentry : key = entry.1
            · simp [hentry, henabled.1]
            · simp [hentry, Ne.symm hentry]
        · next henabled =>
            rw [ih h]
            have hnot : ¬ (entry.1 = key ∧ entry.2.enabled lib = true) := by
              rintro ⟨rfl, hon⟩
              exact henabled ⟨hon, hkey⟩
            simp [hnot]

/-- A name with a character that is no digit is no index. -/
theorem indexOf_eq_none {name : String} {c : Char} (hc : c ∈ name.toList)
    (hdigit : c.isDigit = false) : Json.indexOf name = none := by
  cases hindex : Json.indexOf name with
  | none => rfl
  | some n =>
      obtain ⟨-, hn⟩ := Option.filter_eq_some_iff.mp hindex
      rw [← of_decide_eq_true hn] at hc
      have hdigits : c ∈ Nat.toDigits 10 n := Nat.toList_repr ▸ hc
      rw [Nat.isDigit_of_mem_toDigits (by decide) (by decide) hdigits] at hdigit
      cases hdigit

/-- A text is never enabled. -/
theorem enabled_str (text : String) : (Json.str text).enabled lib = false := by
  have hindex : Json.indexOf "enabled" = none :=
    indexOf_eq_none (c := 'e') (by decide +kernel) (by decide)
  rw [Json.enabled, Json.property, hindex]
  rfl

/-- A configuration that is enabled counts as true. -/
theorem truthy_of_enabled {config : Json} (h : config.enabled lib = true) :
    config.truthy = true := by
  cases config with
  | null | bool | num => cases h
  | str text => rw [enabled_str] at h; cases h
  | arr | obj => rfl

/-- A text has no property with the name of a payment method. -/
theorem methodFlag_str (text : String) (method : PaymentMethod) :
    methodFlag lib (.json (.str text)) method.text = none := by
  have hindex : Json.indexOf method.text = none := by
    cases method with
    | orangeMoney | other => exact indexOf_eq_none (c := 'O') (by decide +kernel) (by decide)
    | mtnMomo => exact indexOf_eq_none (c := 'M') (by decide +kernel) (by decide)
    | stripe => exact indexOf_eq_none (c := 'S') (by decide +kernel) (by decide)
    | paypal => exact indexOf_eq_none (c := 'P') (by decide +kernel) (by decide)
    | cash => exact indexOf_eq_none (c := 'C') (by decide +kernel) (by decide)
  rw [methodFlag, Json.property, hindex]
  rfl

/-- An object accepts what it shows, if no method is configured twice. -/
theorem methodFlag_obj_iff {props : Dict String Json} (hprops : props.keys.Nodup)
    {method : String} :
    methodFlag lib (.json (.obj props)) method = some true ↔
      ∃ entry ∈ props, entry.1 = method ∧ entry.2.enabled lib = true := by
  rw [methodFlag, Json.property, Option.map_eq_some_iff]
  constructor
  · rintro ⟨config, hconfig, hon⟩
    obtain ⟨hfind, -⟩ := Option.filter_eq_some_iff.mp hconfig
    exact ⟨(method, config), (Dict.find_eq_some_iff_mem hprops).mp hfind, rfl, hon⟩
  · rintro ⟨⟨key, config⟩, hmem, rfl, hon⟩
    refine ⟨config, Option.filter_eq_some_iff.mpr ⟨?_, truthy_of_enabled hon⟩, hon⟩
    exact (Dict.find_eq_some_iff_mem hprops).mpr hmem

/-- Nothing is shown of a text. -/
theorem publicMethods_str {text : String} {shown : Dict String PublicMethod}
    (h : publicMethods lib (.json (.str text)) = .ok shown) : shown = [] := by
  have hloop : ∀ entries : List (String × Json), (∀ entry ∈ entries, ∃ unit, entry.2 = .str unit) →
      ∀ shown : Dict String PublicMethod, entries.foldlM (showMethod lib) shown = .ok shown := by
    intro entries hentries
    induction entries with
    | nil => exact fun _ => rfl
    | cons entry entries ih =>
        intro shown
        obtain ⟨unit, hunit⟩ := hentries entry List.mem_cons_self
        have hsame : showMethod lib shown entry = .ok shown := by
          rw [showMethod, hunit, if_neg (by simp), if_neg (by simp [enabled_str])]
        rw [List.foldlM_cons, hsame]
        exact ih (fun e he => hentries e (List.mem_cons_of_mem _ he)) shown
  rw [publicMethods, hloop _ ?_ []] at h
  · exact (Except.ok.inj h).symm
  · intro entry hentry
    obtain ⟨unit, -, rfl⟩ := List.mem_map.mp hentry
    exact ⟨unit.1, rfl⟩
  · exact fun hnull => absurd hnull (by simp)

end Loop

/-! ## What the readers find -/

section Found

variable {lib : SettingsLib} {s : SettingsStore}

theorem paymentMethodsKey_ne_proto : paymentMethodsKey ≠ "__proto__" := by decide

/-- Where the cache is coherent, both readers find what is in effect. -/
theorem member_eq_of_effective (hs : s.Coherent) {v : Json}
    (hv : s.effective paymentMethodsKey = some v) :
    s.settings.member paymentMethodsKey = .json v ∧ s.setting paymentMethodsKey = .json v := by
  have hcurrent : s.current.own.find paymentMethodsKey = some v :=
    (s.current_own paymentMethodsKey_ne_proto).trans hv
  unfold SettingsStore.settings SettingsStore.setting SettingsStore.cached
  cases hcache : s.cache with
  | none =>
      refine ⟨?_, ?_⟩
      · show s.current.member paymentMethodsKey = _
        rw [SettingsObject.member, hcurrent]
      · show s.uncached paymentMethodsKey = _
        rw [SettingsStore.uncached, hv]
  | some own =>
      have hmember : (SettingsObject.parsed own).member paymentMethodsKey = .json v := by
        rw [SettingsObject.member, SettingsObject.parsed, hs own hcache, hcurrent]
      refine ⟨hmember, ?_⟩
      rw [Option.map_some, hmember]
      rfl

theorem outcome_paymentMethodFlags (s : SettingsStore) :
    (paymentMethodFlags lib).outcome s =
      .ok fun method => methodFlag lib (s.setting paymentMethodsKey) method.text := by
  have hrun : (paymentMethodFlags lib).run handle s =
      .ok (fun method => methodFlag lib (s.setting paymentMethodsKey) method.text) s := by
    rw [paymentMethodFlags, Program.run_bind]
    show EStateM.bind _ _ s = _
    rw [EStateM.bind, run_get]
    rfl
  rw [SettingsM.outcome, hrun]

theorem paymentMethods_of_getPublic {shown : PublicSettings}
    (h : (getPublic lib).outcome s = .ok shown) :
    publicMethods lib (s.settings.member paymentMethodsKey) = .ok shown.paymentMethods := by
  unfold SettingsM.outcome at h
  cases hrun : (getPublic lib).run handle s with
  | error e s' =>
      rw [hrun] at h
      cases h
  | ok a s' =>
      rw [hrun] at h
      obtain rfl := Except.ok.inj h
      obtain ⟨all, after, hall, hrest⟩ := Program.run_bind_eq_ok handle hrun
      rw [run_getAll] at hall
      obtain ⟨rfl, rfl⟩ := EStateM.Result.ok.inj hall
      cases hmethods : publicMethods lib (s.settings.member paymentMethodsKey) with
      | error e =>
          rw [hmethods] at hrest
          cases hrest
      | ok methods =>
          rw [hmethods] at hrest
          obtain ⟨rfl, -⟩ := EStateM.Result.ok.inj hrest
          rfl

end Found

/-! ## What the calls leave -/

section Turns

variable {lib : SettingsLib} {s : SettingsStore}

/-- The calls that write the setting. -/
def SettingsCall.writesMethods : SettingsCall lib → Bool
  | .get _ | .getAll => false
  | .set key _ => key = paymentMethodsKey
  | .setMany settings => settings.any fun setting => setting.1 = paymentMethodsKey
  | .togglePaymentMethod _ _ | .updatePaymentMethod _ _ => true

/-- The default is an object in which no method is configured twice. -/
def SettingsStore.PlainMethods (s : SettingsStore) : Prop :=
  ∃ props : Dict String Json, s.defaults.find paymentMethodsKey = some (.obj props) ∧
    props.keys.Nodup

/-- The setting has been written to the table. -/
def SettingsStore.MethodsStored (s : SettingsStore) : Prop :=
  (s.rows.find paymentMethodsKey).isSome

theorem plain_of_apply {method : String} {edit : MethodEdit} {props : Dict String Json}
    (hprops : props.keys.Nodup) {value : Json}
    (h : edit.apply lib method (.obj props) = .ok value) :
    ∃ props' : Dict String Json, value = .obj props' ∧ props'.keys.Nodup := by
  simp only [MethodEdit.apply] at h
  split at h
  · cases h
  · next config _ =>
      cases hchange : edit.change lib config with
      | error e =>
          rw [hchange] at h
          cases h
      | ok changed =>
          rw [hchange] at h
          obtain rfl := Except.ok.inj h
          exact ⟨_, rfl, Dict.nodup_keys_assign hprops _ _⟩

theorem stored_upsertRow (h : s.MethodsStored) (key : String) (value : Option String) :
    (s.upsertRow key value).MethodsStored := by
  show ((s.rows.assign key value).find paymentMethodsKey).isSome
  rw [Dict.find_assign]
  split
  · rfl
  · exact h

theorem stored_upsertRows (settings : List (String × Json))
    (h : s.MethodsStored ∨ settings.any (fun setting => setting.1 = paymentMethodsKey) = true) :
    (s.upsertRows lib settings).MethodsStored := by
  induction settings generalizing s with
  | nil => exact h.resolve_right (by simp)
  | cons setting settings ih =>
      refine ih ?_
      rcases h with h | h
      · exact .inl (stored_upsertRow h _ _)
      · rw [List.any_cons, Bool.or_eq_true, decide_eq_true_eq] at h
        refine h.imp (fun hkey => ?_) id
        show ((s.rows.assign setting.1 _).find paymentMethodsKey).isSome
        rw [hkey, Dict.find_assign_self]
        rfl

theorem defaults_upsertRows (settings : List (String × Json)) :
    (s.upsertRows lib settings).defaults = s.defaults := by
  induction settings generalizing s with
  | nil => rfl
  | cons setting settings ih => exact ih

/-- `set` of the setting. -/
theorem stored_set (value : Json) (s : SettingsStore) {s' : SettingsStore}
    (h : (AdminSettings.set paymentMethodsKey value : SettingsM lib Unit).run handle s =
      .ok () s') : s'.MethodsStored ∧ (s.PlainMethods → s'.PlainMethods) := by
  rw [run_set] at h
  obtain ⟨-, rfl⟩ := EStateM.Result.ok.inj h
  refine ⟨?_, fun hs => hs⟩
  show ((s.rows.assign paymentMethodsKey _).find paymentMethodsKey).isSome
  rw [Dict.find_assign_self]
  rfl

/-- The change of the object in memory. -/
theorem plain_editDefaults {method : MethodName lib} {edit : MethodEdit} {value : Json}
    {s' : SettingsStore} (h : (AdminSettings.editDefaults method edit).run handle s = .ok value s')
    (hs : s.PlainMethods) : s'.PlainMethods := by
  obtain ⟨props, hdefault, hprops⟩ := hs
  have hmethods : s.paymentMethods = .obj props := by
    rw [SettingsStore.paymentMethods, hdefault]
    rfl
  rw [AdminSettings.editDefaults, Program.run_call] at h
  simp only [handle, hmethods] at h
  cases happly : edit.apply lib method.name (.obj props) with
  | error e =>
      rw [happly] at h
      cases h
  | ok changed =>
      rw [happly] at h
      obtain ⟨-, rfl⟩ := EStateM.Result.ok.inj h
      obtain ⟨props', rfl, hprops'⟩ := plain_of_apply hprops happly
      exact ⟨props', Dict.find_assign_self s.defaults _ _, hprops'⟩

/-- A change of a payment method that succeeds stores the setting, and keeps the default
plain. -/
theorem stored_editPaymentMethod (method : MethodName lib) (edit : MethodEdit)
    (s : SettingsStore) {s' : SettingsStore}
    (h : (editPaymentMethod method edit).run handle s = .ok () s') :
    s'.MethodsStored ∧ (s.PlainMethods → s'.PlainMethods) := by
  revert s s'
  refine editPaymentMethod_cases (Q := fun p => ∀ (s : SettingsStore) {s' : SettingsStore},
    p.run handle s = .ok () s' → s'.MethodsStored ∧ (s.PlainMethods → s'.PlainMethods))
    method edit (fun value s s' => stored_set value s) ?_ ?_ ?_
  · intro e s s' h
    cases h
  · intro s s' h
    obtain ⟨value, after, hedit, h⟩ := Program.run_bind_eq_ok handle h
    obtain ⟨hstored, hplain⟩ := stored_set value after h
    exact ⟨hstored, fun hs => hplain (plain_editDefaults hedit hs)⟩
  · intro f hf s s' h
    obtain ⟨loaded, after, hload, h⟩ := Program.run_bind_eq_ok handle h
    rw [run_load] at hload
    obtain ⟨-, rfl⟩ := EStateM.Result.ok.inj hload
    exact hf loaded s h

/-- **One turn** that succeeds keeps the default plain and the row; and a call that writes the
setting leaves a row. -/
theorem SettingsTurn.stored (turn : SettingsTurn lib) (hok : turn.Succeeds s) :
    (s.PlainMethods → (turn.exec s).PlainMethods) ∧
      (s.MethodsStored → (turn.exec s).MethodsStored) ∧
      ∀ call, turn = .complete call → call.writesMethods = true →
        (turn.exec s).MethodsStored := by
  have hedit : ∀ (method : MethodName lib) (edit : MethodEdit),
      (editPaymentMethod method edit).outcome s = .ok () →
        ((editPaymentMethod method edit).storeAfter s).MethodsStored ∧
          (s.PlainMethods → ((editPaymentMethod method edit).storeAfter s).PlainMethods) := by
    intro method edit hok
    unfold SettingsM.outcome at hok
    unfold SettingsM.storeAfter
    cases hrun : (editPaymentMethod method edit).run handle s with
    | error e s' =>
        rw [hrun] at hok
        cases hok
    | ok u s' => exact stored_editPaymentMethod method edit s hrun
  cases turn with
  | expire => exact ⟨fun h => h, fun h => h, fun _ h => by cases h⟩
  | complete call =>
      cases call with
      | get key =>
          have hstore : (SettingsTurn.complete (.get key) : SettingsTurn lib).exec s = s :=
            storeAfter_discard (run_get s key)
          rw [hstore]
          refine ⟨fun h => h, fun h => h, fun call hcall hwrites => ?_⟩
          obtain rfl := SettingsTurn.complete.inj hcall
          cases hwrites
      | getAll =>
          have hstore : (SettingsTurn.complete .getAll : SettingsTurn lib).exec s =
              s.setCache (some s.settings.own) := storeAfter_discard (run_getAll s)
          rw [hstore]
          refine ⟨fun h => h, fun h => h, fun call hcall hwrites => ?_⟩
          obtain rfl := SettingsTurn.complete.inj hcall
          cases hwrites
      | set key value =>
          have hstore : (SettingsTurn.complete (.set key value) : SettingsTurn lib).exec s =
              (s.upsertRow key (columnText lib value)).setCache none := rfl
          rw [hstore]
          refine ⟨fun h => h, fun h => stored_upsertRow h _ _, fun call hcall hwrites => ?_⟩
          obtain rfl := SettingsTurn.complete.inj hcall
          obtain rfl : key = paymentMethodsKey := of_decide_eq_true hwrites
          exact (stored_set value s (run_set s _ value)).1
      | setMany settings =>
          have hstore : (SettingsTurn.complete (.setMany settings) : SettingsTurn lib).exec s =
              (s.upsertRows lib settings).setCache none := by
            show SettingsM.storeAfter s (AdminSettings.setMany settings) = _
            rw [SettingsM.storeAfter, run_setMany]
          rw [hstore]
          refine ⟨?_, fun h => stored_upsertRows settings (.inl h), fun call hcall hwrites => ?_⟩
          · intro hs
            show ∃ props, (s.upsertRows lib settings).defaults.find _ = some (.obj props) ∧ _
            rw [defaults_upsertRows]
            exact hs
          · obtain rfl := SettingsTurn.complete.inj hcall
            exact stored_upsertRows settings (.inr hwrites)
      | togglePaymentMethod method enabled =>
          obtain ⟨hstored, hplain⟩ := hedit method (.enable enabled) hok
          exact ⟨hplain, fun _ => hstored, fun _ _ _ => hstored⟩
      | updatePaymentMethod method config =>
          obtain ⟨hstored, hplain⟩ := hedit method (.configure config) hok
          exact ⟨hplain, fun _ => hstored, fun _ _ _ => hstored⟩

/-- A row that was written is there for the rest of the sequence. -/
theorem stored_of_writesMethods {before after : List (SettingsTurn lib)} {call : SettingsCall lib}
    (hok : Guarded SettingsTurn.exec SettingsTurn.Succeeds s (before ++ .complete call :: after))
    (hcall : call.writesMethods = true) :
    (Final SettingsTurn.exec s (before ++ .complete call :: after)).MethodsStored := by
  obtain ⟨-, hthis, hafter⟩ := guarded_append.mp hok
  rw [final_append, final_cons]
  have hstored := ((SettingsTurn.complete call).stored hthis).2.2 call rfl hcall
  exact (hafter.along (fun _ turn hs hturn => (turn.stored hturn).2.1 hs) hstored).last

theorem plain_final {turns : List (SettingsTurn lib)} (hs : s.PlainMethods)
    (hok : Guarded SettingsTurn.exec SettingsTurn.Succeeds s turns) :
    (Final SettingsTurn.exec s turns).PlainMethods :=
  (hok.along (fun _ turn hs hturn => (turn.stored hturn).1 hs) hs).last

theorem plain_start : SettingsStore.start.PlainMethods :=
  ⟨_, rfl, by decide +kernel⟩

end Turns

/-! ## Shown and accepted -/

section Results

variable {lib : SettingsLib} {s : SettingsStore}

/-- What is in effect of a setting that is stored: the text of its column. -/
theorem effective_of_stored (h : s.MethodsStored) :
    ∃ text, s.effective paymentMethodsKey = some (readBack text) := by
  obtain ⟨text, htext⟩ := Option.isSome_iff_exists.mp h
  exact ⟨text, by rw [SettingsStore.effective, htext]; rfl⟩

theorem effective_of_plain (hs : s.PlainMethods) (h : ¬ s.MethodsStored) :
    ∃ props : Dict String Json, s.effective paymentMethodsKey = some (.obj props) ∧
      props.keys.Nodup := by
  obtain ⟨props, hdefault, hprops⟩ := hs
  refine ⟨props, ?_, hprops⟩
  rw [SettingsStore.effective, Option.not_isSome_iff_eq_none.mp h, hdefault]
  rfl

/-- What was read from the column accepts nothing. -/
theorem methodFlag_readBack (text : Option String) (method : PaymentMethod) :
    methodFlag lib (.json (readBack text)) method.text = none := by
  cases text with
  | none => rfl
  | some text => exact methodFlag_str text method

/-- And nothing is shown of it: of `null` there are no entries, and `getPublic` throws. -/
theorem publicMethods_readBack {text : Option String} {shown : Dict String PublicMethod}
    (h : publicMethods lib (.json (readBack text)) = .ok shown) : shown = [] := by
  cases text with
  | none => cases h
  | some text => exact publicMethods_str h

theorem text_ne_proto (method : PaymentMethod) : method.text ≠ "__proto__" := by
  cases method <;> decide

theorem run_validatePaymentMethodEnabled_iff (flags : PaymentMethod → Option Bool)
    (method : PaymentMethod) (store : Store) :
    (validatePaymentMethodEnabled flags method).run store = .ok () store ↔
      flags method = some true := by
  unfold validatePaymentMethodEnabled
  by_cases hflag : flags method = some true <;> simp [hflag]

/-- **What is shown is accepted**: after every sequence of calls that succeed, with the cache
expiring at any time, a payment method is shown to visitors exactly if a payment with it is
accepted, whenever visitors are shown anything. -/
theorem shown_methods_accepted (turns : List (SettingsTurn lib))
    (hok : Guarded SettingsTurn.exec SettingsTurn.Succeeds .start turns)
    {shown : PublicSettings} {flags : PaymentMethod → Option Bool}
    (hshown : (getPublic lib).outcome (Final SettingsTurn.exec .start turns) = .ok shown)
    (hflags : (paymentMethodFlags lib).outcome (Final SettingsTurn.exec .start turns) = .ok flags)
    (method : PaymentMethod) (store : Store) :
    (shown.paymentMethods.find method.text).isSome ↔
      (validatePaymentMethodEnabled flags method).run store = .ok () store := by
  have hcoherent : (Final SettingsTurn.exec .start turns).Coherent :=
    coherent_final (coherent_setCache_none .start) hok
  have hplain := plain_final plain_start hok
  generalize Final SettingsTurn.exec .start turns = s at *
  rw [run_validatePaymentMethodEnabled_iff]
  replace hshown := paymentMethods_of_getPublic hshown
  rw [outcome_paymentMethodFlags] at hflags
  obtain rfl := Except.ok.inj hflags
  by_cases hstored : s.MethodsStored
  · obtain ⟨text, heffective⟩ := effective_of_stored hstored
    obtain ⟨hmember, hsetting⟩ := member_eq_of_effective hcoherent heffective
    rw [hmember] at hshown
    simp only [publicMethods_readBack hshown, hsetting, methodFlag_readBack, Dict.find_nil]
    simp
  · obtain ⟨props, heffective, hprops⟩ := effective_of_plain hplain hstored
    obtain ⟨hmember, hsetting⟩ := member_eq_of_effective hcoherent heffective
    rw [hmember] at hshown
    simp only [hsetting]
    rw [methodFlag_obj_iff hprops, find_of_showMethods hshown (text_ne_proto method)]
    simp [Json.ownProperties]

/-- **Edited methods are refused**: once any call of a sequence has written the setting of the
payment methods, whatever it wrote and whatever succeeded since, a payment with any method is
refused as disabled, and visitors are shown no method at all. -/
theorem edited_methods_refused (hs : s.Coherent) (before after : List (SettingsTurn lib))
    (call : SettingsCall lib) (hcall : call.writesMethods = true)
    (hok : Guarded SettingsTurn.exec SettingsTurn.Succeeds s
      (before ++ .complete call :: after)) :
    let s' := Final SettingsTurn.exec s (before ++ .complete call :: after)
    (∃ flags, (paymentMethodFlags lib).outcome s' = .ok flags ∧
      ∀ store stripe bookingId method customerId phone reference now,
        (initiatePayment flags stripe bookingId method customerId phone reference now).run store =
          .error (.badRequest ("Le mode de paiement " ++ method.text ++
            " est actuellement désactivé")) store) ∧
      ∀ shown, (getPublic lib).outcome s' = .ok shown → shown.paymentMethods = [] := by
  intro s'
  obtain ⟨text, heffective⟩ := effective_of_stored (stored_of_writesMethods hok hcall)
  obtain ⟨hmember, hsetting⟩ := member_eq_of_effective (coherent_final hs hok) heffective
  refine ⟨⟨_, outcome_paymentMethodFlags s', ?_⟩, ?_⟩
  · intro store stripe bookingId method customerId phone reference now
    have hflag : methodFlag lib (s'.setting paymentMethodsKey) method.text ≠ some true := by
      rw [hsetting, methodFlag_readBack]
      simp
    unfold initiatePayment validatePaymentMethodEnabled
    simp [hflag]
  · intro shown hshown
    have hmethods := paymentMethods_of_getPublic hshown
    rw [hmember] at hmethods
    exact publicMethods_readBack hmethods

end Results

namespace Demo

/-- The settings are read, and cached. -/
def warming : List (SettingsTurn settingsLib) := [.complete .getAll]

/-- What visitors of a new installation are shown. -/
def shownAtFirst : PublicSettings where
  kycRequired := .json (.bool false)
  licenseRequired := .json (.bool false)
  depositRequired := .json (.bool true)
  defaultCurrency := .json (.str "XAF")
  platformName := .json (.str "StayRide")
  paymentMethods :=
    [("ORANGE_MONEY",
        ⟨some (.str "Orange Money"), some (.str "STAYRIDE"),
          some (.str "Composez #150# → Paiement marchand → Code STAYRIDE"),
          some (.str "Dial #150# → Merchant payment → Code STAYRIDE")⟩),
      ("MTN_MOMO",
        ⟨some (.str "MTN MoMo"), some (.str "STAYRIDE"),
          some (.str "Composez *126# → Paiement → Code STAYRIDE"),
          some (.str "Dial *126# → Payment → Code STAYRIDE")⟩),
      ("CASH",
        ⟨some (.str "Espèces"), none, some (.str "Paiement en espèces à la remise des clés"),
          some (.str "Cash payment at key handover")⟩)]

end Demo

section Examples

open Demo

/-- The settings were read once: cash is shown, and accepted. -/
theorem shown_methods_accepted_warm :
    ∃ flags : PaymentMethod → Option Bool,
      (getPublic settingsLib).outcome (Final SettingsTurn.exec .start warming) =
          .ok shownAtFirst ∧
        (validatePaymentMethodEnabled flags .cash).run (.start []) = .ok () (.start []) := by
  have hshown : (getPublic settingsLib).outcome (Final SettingsTurn.exec .start warming) =
      .ok shownAtFirst := by
    decide +kernel
  exact ⟨_, hshown, (shown_methods_accepted warming (by decide +kernel) hshown
    (outcome_paymentMethodFlags _) .cash (.start [])).mp (by decide +kernel)⟩

/-- Cash is disabled: no method is accepted any more. -/
theorem edited_methods_refused_toggle :
    (∃ flags, (paymentMethodFlags settingsLib).outcome
        (Final SettingsTurn.exec .start cashDisabled) = .ok flags ∧
      ∀ store stripe bookingId method customerId phone reference now,
        (initiatePayment flags stripe bookingId method customerId phone reference now).run store =
          .error (.badRequest ("Le mode de paiement " ++ method.text ++
            " est actuellement désactivé")) store) :=
  (edited_methods_refused (coherent_setCache_none .start) [] [.complete .getAll, .expire]
    (.togglePaymentMethod cash false) rfl (by decide +kernel)).1

end Examples

end StayRide
