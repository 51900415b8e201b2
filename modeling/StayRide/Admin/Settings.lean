import StayRide.Common.Json
import StayRide.Common.ServiceM
import StayRide.Lib.Program

/-!
# `AdminSettingsService`

`modules/admin/admin-settings.service.ts`: the settings of the platform.  They live in
three places: the table `platform_settings`, a cache of all settings in Redis, and the
object `defaults` in the memory of the service.

Three things about them decide what a call returns.

* The repository is that of the entity registered in `AdminModule`, whose column `value`
  is a nullable text: a value is stored as the text the driver makes of it, and what is
  read back is that text, not the value (`columnText`, `readBack`).
* `get` hands the value out of `defaults` by reference.  `togglePaymentMethod` and
  `updatePaymentMethod` change what they were handed, so they change `defaults` itself when
  neither the cache nor the table has the setting (`Loaded.shared`, `editDefaults`).
* The settings are JavaScript objects, which have the members of `Object.prototype` besides
  their own, and for which `__proto__` is no ordinary key (`SettingsObject`).

Every method is a program that is suspended at its awaits, with the two accesses to
`defaults` as further commands; alone it is run by `Program.run`.  The results about single
reads are `run_get` and `run_getAll`.

The columns of the table besides `key` and `value` are left out, and with them the
`adminId` of the methods, which only the log sees.
-/

namespace StayRide

open Lib

/-! ## Values and objects -/

/-- What the runtime and the database driver contribute. -/
structure SettingsLib where
  /-- The text of a value that is neither `null` nor a string. -/
  driverText : Json → String
  /-- The UTF-16 code units of a string, each as a string. -/
  codeUnits : String → List String
  /-- The names of the members that the built-in prototypes have. -/
  isBuiltin : String → Bool

/-- A text column stores the driver's text of the value, and `null` as `NULL`. -/
def columnText (lib : SettingsLib) : Json → Option String
  | .null => none
  | .str s => some s
  | v => some (lib.driverText v)

/-- What is read from a text column. -/
def readBack : Option String → Json
  | none => .null
  | some s => .str s

/-- The members of `Object.prototype`. -/
def objectPrototype : List String :=
  ["constructor", "__defineGetter__", "__defineSetter__", "hasOwnProperty",
    "__lookupGetter__", "__lookupSetter__", "isPrototypeOf", "propertyIsEnumerable",
    "toString", "valueOf", "__proto__", "toLocaleString"]

/-- What a settings object has under a key. -/
inductive SettingValue
  | json (v : Json)
  /-- The member of `Object.prototype` of this name. -/
  | builtin (name : String)
  | undefined
  deriving DecidableEq

/-- A settings object: its own properties, and whether it still has `Object.prototype` as
its prototype. -/
structure SettingsObject where
  own : Dict String Json
  inherits : Bool
  deriving DecidableEq

namespace SettingsObject

/-- The object that `JSON.parse` makes. -/
def parsed (own : Dict String Json) : SettingsObject := ⟨own, true⟩

/-- `settings[key]` -/
def member (settings : SettingsObject) (key : String) : SettingValue :=
  match settings.own.find key with
  | some v => .json v
  | none =>
      if settings.inherits ∧ key ∈ objectPrototype then .builtin key else .undefined

/-- `settings[key] = value`, for a value read from the column.  `__proto__` stands for the
setter that the object inherits, which takes `null` and ignores a string. -/
def put (settings : SettingsObject) (key : String) (value : Option String) : SettingsObject :=
  if key = "__proto__" ∧ settings.own.find key = none ∧ settings.inherits then
    match value with
    | none => { settings with inherits := false }
    | some _ => settings
  else { settings with own := settings.own.assign key (readBack value) }

variable {settings : SettingsObject}

theorem put_of_ne {key : String} (h : key ≠ "__proto__") (value : Option String) :
    settings.put key value =
      { settings with own := settings.own.assign key (readBack value) } := by
  unfold put
  exact if_neg fun hc => h hc.1

theorem put_proto (hown : settings.own.find "__proto__" = none)
    (hinherits : settings.inherits = true) (value : Option String) :
    settings.put "__proto__" value = { settings with inherits := value.isSome } := by
  unfold put
  rw [if_pos ⟨rfl, hown, hinherits⟩]
  cases value with
  | none => rfl
  | some text =>
      show settings = { settings with inherits := true }
      rw [← hinherits]

end SettingsObject

/-- `{ ...defaults }`, then one assignment for each row. -/
def overlay (defaults : Dict String Json) (rows : Dict String (Option String)) :
    SettingsObject :=
  rows.foldl (fun settings row => settings.put row.1 row.2) ⟨defaults, true⟩

/-! ## Payment methods -/

inductive SettingsError
  | http (e : HttpException)
  | typeError
  deriving DecidableEq

/-- The name of a payment method.  The names that the built-in prototypes give a meaning
to are none. -/
structure MethodName (lib : SettingsLib) where
  name : String
  ordinary : lib.isBuiltin name = false

/-- `Partial<{ instructions_fr, instructions_en, merchant_code }>` -/
structure MethodConfig where
  instructionsFr : Option String := none
  instructionsEn : Option String := none
  merchantCode : Option String := none

/-- The properties that are there. -/
def MethodConfig.entries (config : MethodConfig) : List (String × Json) :=
  [("instructions_fr", config.instructionsFr), ("instructions_en", config.instructionsEn),
    ("merchant_code", config.merchantCode)].filterMap fun entry =>
      entry.2.map fun text => (entry.1, .str text)

/-- What a call changes about a method. -/
inductive MethodEdit
  /-- `current[method].enabled = enabled` -/
  | enable (enabled : Bool)
  /-- `current[method] = { ...current[method], ...config }` -/
  | configure (config : MethodConfig)

def unknownMethod (method : String) : SettingsError :=
  .http (.notFound s!"Mode de paiement {method} inconnu")

/-- The configuration of the method with the change. -/
def MethodEdit.change (lib : SettingsLib) (config : Json) : MethodEdit → Except SettingsError Json
  | .enable enabled =>
      match config with
      | .obj props => .ok (.obj (Dict.assign props "enabled" (.bool enabled)))
      -- A property of an array that is no index is not part of the JSON value.
      | .arr items => .ok (.arr items)
      | .null | .bool _ | .num _ | .str _ => .error .typeError
  | .configure edits =>
      .ok (.obj (Dict.assignAll (config.ownProperties lib.codeUnits) edits.entries))

/-- The value of `payment_methods_enabled` with the change, or what the call throws. -/
def MethodEdit.apply (lib : SettingsLib) (method : String) (edit : MethodEdit) (current : Json) :
    Except SettingsError Json :=
  match current with
  | .null => .error .typeError
  | current =>
      match (current.property lib.codeUnits method).filter Json.truthy with
      | none => .error (unknownMethod method)
      | some config => do
          let changed ← edit.change lib config
          match current with
          | .str _ => .error .typeError
          | current => return current.setProperty method changed

def paymentMethodsKey : String := "payment_methods_enabled"

/-! ## The state -/

/-- Table, cache and memory. -/
structure SettingsStore where
  rows : Dict String (Option String)
  cache : Option (Dict String Json)
  defaults : Dict String Json
  /-- The unique index on `key`. -/
  rows_unique : rows.keys.Nodup
  /-- The object literal has no key `__proto__`. -/
  defaults_plain : defaults.find "__proto__" = none

/-- The default values of the service. -/
def defaultSettings : Dict String Json :=
  [("kyc_required", .bool false),
    ("license_required", .bool false),
    ("deposit_required", .bool true),
    ("commission_rate", .num 10),
    ("platform_name", .str "StayRide"),
    ("default_currency", .str "XAF"),
    ("loyalty_points_rate", .num 1),
    ("loyalty_tier_thresholds", .obj
      [("BRONZE", .num 0), ("SILVER", .num 500), ("GOLD", .num 2000), ("PLATINUM", .num 5000)]),
    ("referral_reward_referrer", .num 5000),
    ("referral_reward_referred", .num 2500),
    ("payment_methods_enabled", .obj
      [("ORANGE_MONEY", .obj
        [("enabled", .bool true),
          ("label", .str "Orange Money"),
          ("merchant_code", .str "STAYRIDE"),
          ("instructions_fr", .str "Composez #150# → Paiement marchand → Code STAYRIDE"),
          ("instructions_en", .str "Dial #150# → Merchant payment → Code STAYRIDE")]),
      ("MTN_MOMO", .obj
        [("enabled", .bool true),
          ("label", .str "MTN MoMo"),
          ("merchant_code", .str "STAYRIDE"),
          ("instructions_fr", .str "Composez *126# → Paiement → Code STAYRIDE"),
          ("instructions_en", .str "Dial *126# → Payment → Code STAYRIDE")]),
      ("STRIPE", .obj
        [("enabled", .bool false), ("label", .str "Carte bancaire (Stripe)")]),
      ("PAYPAL", .obj [("enabled", .bool false), ("label", .str "PayPal")]),
      ("CASH", .obj
        [("enabled", .bool true),
          ("label", .str "Espèces"),
          ("instructions_fr", .str "Paiement en espèces à la remise des clés"),
          ("instructions_en", .str "Cash payment at key handover")])])]

namespace SettingsStore

/-- A new installation. -/
def start : SettingsStore where
  rows := []
  cache := none
  defaults := defaultSettings
  rows_unique := List.nodup_nil
  defaults_plain := by decide +kernel

variable (s : SettingsStore)

def upsertRow (key : String) (value : Option String) : SettingsStore :=
  { s with
    rows := s.rows.assign key value
    rows_unique := Dict.nodup_keys_assign s.rows_unique key value }

def setCache (cache : Option (Dict String Json)) : SettingsStore :=
  { s with cache := cache }

def setPaymentMethods (value : Json) : SettingsStore :=
  { s with
    defaults := s.defaults.assign paymentMethodsKey value
    defaults_plain := by
      rw [Dict.find_assign_of_ne s.defaults (by decide) value]
      exact s.defaults_plain }

/-- `defaults.payment_methods_enabled ?? null` -/
def paymentMethods : Json :=
  (s.defaults.find paymentMethodsKey).getD .null

end SettingsStore

/-! ## Commands -/

/-- What a call awaits, and its two accesses to `defaults`. -/
inductive SettingsCommand (lib : SettingsLib)
  | getCachedSettings
  | findOne (key : String)
  | find
  | upsert (key : String) (value : Json)
  | cacheSettings (settings : Dict String Json)
  | invalidateSettingsCache
  | readDefaults
  | editDefaults (method : MethodName lib) (edit : MethodEdit)

namespace SettingsCommand

variable {lib : SettingsLib}

abbrev Reply : SettingsCommand lib → Type
  | .getCachedSettings => Option (Dict String Json)
  | .findOne _ => Option (Option String)
  | .find => Dict String (Option String)
  | .upsert _ _ | .cacheSettings _ | .invalidateSettingsCache => Unit
  | .readDefaults => Dict String Json
  | .editDefaults _ _ => Json

/-- The commands that are awaited, and that can be rejected. -/
def isAwaited : SettingsCommand lib → Bool
  | .getCachedSettings | .findOne _ | .find | .upsert _ _ | .cacheSettings _
  | .invalidateSettingsCache => true
  | .readDefaults | .editDefaults _ _ => false

def handle : (cmd : SettingsCommand lib) → EStateM SettingsError SettingsStore cmd.Reply
  | .getCachedSettings, s => .ok s.cache s
  | .findOne key, s => .ok (s.rows.find key) s
  | .find, s => .ok s.rows s
  | .upsert key value, s => .ok () (s.upsertRow key (columnText lib value))
  | .cacheSettings settings, s => .ok () (s.setCache (some settings))
  | .invalidateSettingsCache, s => .ok () (s.setCache none)
  | .readDefaults, s => .ok s.defaults s
  | .editDefaults method edit, s =>
      match edit.apply lib method.name s.paymentMethods with
      | .ok value => .ok value (s.setPaymentMethods value)
      | .error e => .error e s

end SettingsCommand

/-! ## The service -/

/-- A method of the service. -/
abbrev SettingsM (lib : SettingsLib) (α : Type) :=
  Program (@SettingsCommand.Reply lib) SettingsError α

namespace AdminSettings

variable {lib : SettingsLib}

def getCachedSettings : SettingsM lib (Option (Dict String Json)) :=
  Program.call (.getCachedSettings : SettingsCommand lib)

def findOne (key : String) : SettingsM lib (Option (Option String)) :=
  Program.call (.findOne key : SettingsCommand lib)

def find : SettingsM lib (Dict String (Option String)) :=
  Program.call (.find : SettingsCommand lib)

def upsert (key : String) (value : Json) : SettingsM lib Unit :=
  Program.call (.upsert key value : SettingsCommand lib)

def cacheSettings (settings : Dict String Json) : SettingsM lib Unit :=
  Program.call (.cacheSettings settings : SettingsCommand lib)

def invalidateSettingsCache : SettingsM lib Unit :=
  Program.call (.invalidateSettingsCache : SettingsCommand lib)

def readDefaults : SettingsM lib (Dict String Json) :=
  Program.call (.readDefaults : SettingsCommand lib)

def editDefaults (method : MethodName lib) (edit : MethodEdit) : SettingsM lib Json :=
  Program.call (.editDefaults method edit : SettingsCommand lib)

/-- What `get` hands out: a value of its own, or what `defaults` holds. -/
inductive Loaded
  | value (v : SettingValue)
  | shared

/-- `get`, up to its last line. -/
def load (key : String) : SettingsM lib Loaded := do
  let cached ← getCachedSettings
  match cached.map fun own => (SettingsObject.parsed own).member key with
  | some (.json v) => return .value (.json v)
  | some (.builtin name) => return .value (.builtin name)
  | some .undefined | none =>
      match ← findOne key with
      | some value => return .value (.json (readBack value))
      | none => return .shared

/-- `defaults[key] ?? null` -/
def defaultValue (defaults : Dict String Json) (key : String) : SettingValue :=
  match (SettingsObject.parsed defaults).member key with
  | .undefined => .json .null
  | v => v

def get (key : String) : SettingsM lib SettingValue := do
  match ← load key with
  | .value v => return v
  | .shared => return defaultValue (← readDefaults) key

def getAll : SettingsM lib SettingsObject := do
  match ← getCachedSettings with
  | some cached => return .parsed cached
  | none =>
      let settings ← find
      let defaults ← readDefaults
      let result := overlay defaults settings
      cacheSettings result.own
      return result

def set (key : String) (value : Json) : SettingsM lib Unit := do
  upsert key value
  invalidateSettingsCache

/-- The two calls that change the configuration of a payment method. -/
def editPaymentMethod (method : MethodName lib) (edit : MethodEdit) : SettingsM lib Unit := do
  match ← load paymentMethodsKey with
  | .value (.json current) =>
      match edit.apply lib method.name current with
      | .ok value => set paymentMethodsKey value
      | .error e => throw e
  -- A function has no property with the name of a payment method.
  | .value (.builtin _) | .value .undefined => throw (unknownMethod method.name)
  | .shared =>
      let value ← editDefaults method edit
      set paymentMethodsKey value

def togglePaymentMethod (method : MethodName lib) (enabled : Bool) : SettingsM lib Unit :=
  editPaymentMethod method (.enable enabled)

def updatePaymentMethod (method : MethodName lib) (config : MethodConfig) : SettingsM lib Unit :=
  editPaymentMethod method (.configure config)

def setMany (settings : List (String × Json)) : SettingsM lib Unit := do
  settings.forM fun setting => upsert setting.1 setting.2
  invalidateSettingsCache

end AdminSettings

/-! ## What is in effect -/

namespace SettingsStore

variable (s : SettingsStore)

/-- The value under a key when nothing is cached: that of the table, or the default. -/
def effective (key : String) : Option Json :=
  ((s.rows.find key).map readBack).or (s.defaults.find key)

/-- What `get` returns when nothing is cached. -/
def uncached (key : String) : SettingValue :=
  match s.effective key with
  | some v => .json v
  | none => if key ∈ objectPrototype then .builtin key else .json .null

/-- What the cache has under a key. -/
def cached (key : String) : Option SettingValue :=
  (s.cache.map fun own => (SettingsObject.parsed own).member key).filter (· ≠ .undefined)

/-- What `get` returns. -/
def setting (key : String) : SettingValue :=
  (s.cached key).getD (s.uncached key)

/-- The settings that `getAll` computes when nothing is cached. -/
def current : SettingsObject :=
  overlay s.defaults s.rows

/-- What `getAll` returns. -/
def settings : SettingsObject :=
  s.cache.elim s.current .parsed

end SettingsStore

/-! ## The table over the defaults -/

section Overlay

variable {rows : Dict String (Option String)}

/-- Under an ordinary key there is what the table has, or else what was there before. -/
theorem foldl_put_own (hrows : rows.keys.Nodup) (settings : SettingsObject) {key : String}
    (hkey : key ≠ "__proto__") :
    (rows.foldl (fun settings row => settings.put row.1 row.2) settings).own.find key =
      ((rows.find key).map readBack).or (settings.own.find key) := by
  induction rows generalizing settings with
  | nil => rfl
  | cons row rows ih =>
      obtain ⟨hnew, hrest⟩ := List.nodup_cons.mp hrows
      rw [List.foldl_cons, ih hrest, Dict.find_cons]
      by_cases hrow : key = row.1
      · -- The other rows have other keys.
        have hnone : Dict.find rows key = none :=
          Dict.find_eq_none_of_not_mem (hrow ▸ hnew)
        rw [hnone, if_pos hrow, ← hrow, SettingsObject.put_of_ne hkey, Dict.find_assign_self]
        rfl
      · have hput : (settings.put row.1 row.2).own.find key = settings.own.find key := by
          unfold SettingsObject.put
          split
          · split <;> rfl
          · exact Dict.find_assign_of_ne settings.own hrow _
        rw [hput, if_neg hrow]

/-- Rows with ordinary keys leave the prototype alone. -/
theorem foldl_put_of_not_mem (hrows : "__proto__" ∉ rows.keys) (settings : SettingsObject) :
    let result := rows.foldl (fun settings row => settings.put row.1 row.2) settings
    result.own.find "__proto__" = settings.own.find "__proto__" ∧
      result.inherits = settings.inherits := by
  induction rows generalizing settings with
  | nil => exact ⟨rfl, rfl⟩
  | cons row rows ih =>
      have hne : "__proto__" ≠ row.1 := fun he => hrows (he ▸ List.mem_cons_self ..)
      have hrest := ih (fun h => hrows (List.mem_cons_of_mem _ h)) (settings.put row.1 row.2)
      rw [SettingsObject.put_of_ne hne.symm, Dict.find_assign_of_ne settings.own hne] at hrest
      rw [List.foldl_cons, SettingsObject.put_of_ne hne.symm]
      exact hrest

/-- The row `__proto__` can only take the prototype away. -/
theorem foldl_put_proto (hrows : rows.keys.Nodup) (settings : SettingsObject)
    (hown : settings.own.find "__proto__" = none) (hinherits : settings.inherits = true) :
    let result := rows.foldl (fun settings row => settings.put row.1 row.2) settings
    result.own.find "__proto__" = none ∧
      result.inherits = decide (rows.find "__proto__" ≠ some none) := by
  induction rows generalizing settings with
  | nil => exact ⟨hown, hinherits⟩
  | cons row rows ih =>
      obtain ⟨hnew, hrest⟩ := List.nodup_cons.mp hrows
      rw [List.foldl_cons, Dict.find_cons]
      by_cases hrow : "__proto__" = row.1
      · have hleft := foldl_put_of_not_mem (hrow ▸ hnew) (settings.put row.1 row.2)
        rw [← hrow, SettingsObject.put_proto hown hinherits] at hleft ⊢
        rw [if_pos rfl]
        refine ⟨hleft.1.trans hown, hleft.2.trans ?_⟩
        cases row.2 <;> simp
      · rw [SettingsObject.put_of_ne (Ne.symm hrow), if_neg hrow]
        exact ih hrest _ ((Dict.find_assign_of_ne settings.own hrow _).trans hown) hinherits

end Overlay

namespace SettingsStore

variable (s : SettingsStore)

/-- `getAll` computes what is in effect. -/
theorem current_own {key : String} (hkey : key ≠ "__proto__") :
    s.current.own.find key = s.effective key :=
  foldl_put_own s.rows_unique ⟨s.defaults, true⟩ hkey

theorem current_proto : s.current.own.find "__proto__" = none ∧
    s.current.inherits = decide (s.effective "__proto__" ≠ some .null) := by
  obtain ⟨hown, hinherits⟩ :=
    foldl_put_proto s.rows_unique ⟨s.defaults, true⟩ s.defaults_plain rfl
  refine ⟨hown, hinherits.trans ?_⟩
  rw [effective, s.defaults_plain, Option.or_none]
  cases s.rows.find "__proto__" with
  | none => rfl
  | some value => cases value <;> rfl

/-- What `getAll()[key]` is when nothing is cached. -/
theorem member_current (key : String) :
    s.current.member key =
      if key = "__proto__" then
        if s.effective "__proto__" = some .null then .undefined else .builtin "__proto__"
      else
        match s.effective key with
        | some v => .json v
        | none =>
            if s.effective "__proto__" ≠ some .null ∧ key ∈ objectPrototype then .builtin key
            else .undefined := by
  obtain ⟨hown, hinherits⟩ := s.current_proto
  unfold SettingsObject.member
  by_cases hkey : key = "__proto__"
  · subst hkey
    rw [hown, hinherits, if_pos rfl]
    by_cases hnull : s.effective "__proto__" = some .null
    · simp [hnull]
    · simp [hnull, objectPrototype]
  · rw [s.current_own hkey, hinherits, if_neg hkey]
    cases s.effective key with
    | some v => rfl
    | none => simp

end SettingsStore

/-! ## What the methods do alone -/

section Runs

variable {lib : SettingsLib} (s : SettingsStore)

open AdminSettings SettingsCommand

/-- What `load` finds. -/
def SettingsStore.loaded (key : String) : Loaded :=
  match s.cached key with
  | some v => .value v
  | none =>
      match s.rows.find key with
      | some value => .value (.json (readBack value))
      | none => .shared

/-- `load` in two cases: the cache has the key, or the table is asked. -/
theorem load_eq (key : String) :
    (load key : SettingsM lib Loaded) = (getCachedSettings >>= fun cached =>
      ((cached.map fun own => (SettingsObject.parsed own).member key).filter
        (· ≠ .undefined)).elim
        (findOne key >>= fun row =>
          pure (row.elim .shared fun value => .value (.json (readBack value))))
        fun v => pure (.value v)) := by
  have hrow : (do
      match ← findOne key with
      | some value => return .value (.json (readBack value))
      | none => return .shared : SettingsM lib Loaded) = (findOne key >>= fun row =>
        pure (row.elim .shared fun value => .value (.json (readBack value)))) := by
    refine congrArg (findOne key >>= ·) (funext fun row => ?_)
    cases row <;> rfl
  refine congrArg (getCachedSettings >>= ·) (funext fun cached => ?_)
  cases cached.map fun own => (SettingsObject.parsed own).member key with
  | none => exact hrow
  | some v =>
      cases v with
      | json v => rfl
      | builtin name => rfl
      | undefined => exact hrow

theorem run_load (key : String) :
    (load key : SettingsM lib Loaded).run handle s = .ok (s.loaded key) s := by
  rw [load_eq]
  show ((s.cached key).elim _ _ : SettingsM lib Loaded).run handle s = _
  unfold SettingsStore.loaded
  cases s.cached key with
  | some v => rfl
  | none =>
      show EStateM.Result.ok ((s.rows.find key).elim _ _) s = _
      cases s.rows.find key <;> rfl

theorem run_get (key : String) :
    (AdminSettings.get key : SettingsM lib SettingValue).run handle s = .ok (s.setting key) s := by
  have hdefault : defaultValue s.defaults key =
      match s.defaults.find key with
      | some v => .json v
      | none => if key ∈ objectPrototype then .builtin key else .json .null := by
    unfold defaultValue SettingsObject.member SettingsObject.parsed
    cases s.defaults.find key with
    | some v => rfl
    | none => by_cases hkey : key ∈ objectPrototype <;> simp [hkey]
  unfold AdminSettings.get
  rw [Program.run_bind]
  show EStateM.bind _ _ s = _
  rw [EStateM.bind, run_load, SettingsStore.loaded, SettingsStore.setting]
  cases s.cached key with
  | some v => rfl
  | none =>
      rw [SettingsStore.uncached, SettingsStore.effective]
      cases s.rows.find key with
      | some value => rfl
      | none => exact congrArg (EStateM.Result.ok · s) hdefault

theorem run_getAll :
    (getAll : SettingsM lib SettingsObject).run handle s =
      .ok s.settings (s.setCache (some s.settings.own)) := by
  show (match s.cache with
    | some cached => pure (.parsed cached)
    | none => _ : SettingsM lib SettingsObject).run handle s = _
  unfold SettingsStore.settings
  cases hcache : s.cache with
  | some cached =>
      have hsame : s.setCache (some cached) = s := by rw [← hcache]; rfl
      show EStateM.Result.ok _ s = .ok _ (s.setCache (some cached))
      rw [hsame]
      rfl
  | none => rfl

/-- The state a call leaves behind, whether it returned or threw. -/
def SettingsM.storeAfter {α : Type} (call : SettingsM lib α) : SettingsStore :=
  match call.run handle s with
  | .ok _ s' => s'
  | .error _ s' => s'

/-- What a call returns or throws. -/
def SettingsM.outcome {α : Type} (call : SettingsM lib α) : Except SettingsError α :=
  match call.run handle s with
  | .ok a _ => .ok a
  | .error e _ => .error e

theorem run_set (key : String) (value : Json) :
    (AdminSettings.set key value : SettingsM lib Unit).run handle s =
      .ok () ((s.upsertRow key (columnText lib value)).setCache none) := by
  rfl

/-- One upsert for each setting. -/
def SettingsStore.upsertRows (lib : SettingsLib) (s : SettingsStore)
    (settings : List (String × Json)) : SettingsStore :=
  settings.foldl (fun s setting => s.upsertRow setting.1 (columnText lib setting.2)) s

theorem run_setMany (settings : List (String × Json)) :
    (setMany settings : SettingsM lib Unit).run handle s =
      .ok () ((s.upsertRows lib settings).setCache none) := by
  induction settings generalizing s with
  | nil => rfl
  | cons setting settings ih => exact ih (s.upsertRow setting.1 (columnText lib setting.2))

end Runs

/-! ## Coherence of the cache -/

/-- The cache is empty, or it has what `getAll` would compute. -/
def SettingsStore.Coherent (s : SettingsStore) : Prop :=
  ∀ own, s.cache = some own → own = s.current.own

theorem coherent_setCache_none (s : SettingsStore) : (s.setCache none).Coherent := by
  intro own hown
  cases hown

/-- What `getAll` leaves in the cache is what is in effect. -/
theorem SettingsStore.Coherent.fill {s : SettingsStore} (hs : s.Coherent) :
    (s.setCache (some s.settings.own)).Coherent := by
  intro own hown
  obtain rfl := Option.some.inj hown
  show s.settings.own = s.current.own
  unfold SettingsStore.settings
  cases hcache : s.cache with
  | none => rfl
  | some own => exact hs own hcache

namespace Demo

mutual

/-- The text of a value; of numbers, the integers. -/
def stringify : Json → String
  | .null => "null"
  | .bool b => if b then "true" else "false"
  | .num n => toString n.num
  | .str s => "'" ++ s ++ "'"
  | .arr items => "[" ++ stringifyItems items ++ "]"
  | .obj props => "<" ++ stringifyProps props ++ ">"

def stringifyItems : List Json → String
  | [] => ""
  | item :: items => stringify item ++ "," ++ stringifyItems items

def stringifyProps : List (String × Json) → String
  | [] => ""
  | (name, value) :: props => name ++ ":" ++ stringify value ++ "," ++ stringifyProps props

end

def settingsLib : SettingsLib where
  driverText := stringify
  codeUnits s := s.toList.map String.singleton
  isBuiltin name := name ∈ objectPrototype

def cash : MethodName settingsLib := ⟨"CASH", by decide +kernel⟩

/-- All settings have just been read, and are cached. -/
def warmed : SettingsStore := SettingsStore.start.setCache (some defaultSettings)

end Demo

end StayRide
