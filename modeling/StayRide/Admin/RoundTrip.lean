import StayRide.Admin.Settings
import StayRide.Lib.Run

/-!
# Reading back what was written

Sequences of `set` and `setMany`, mixed with reads, with the cache expiring at any time.
`round_trip_iff`: what was last written under a key is what `get` and `getAll` return
exactly when it is a string or `null`, and the key is not `__proto__`.

The column is a text column, so every other value comes back as a string.  Under
`__proto__` an object cannot have a string of its own, so `getAll` loses it.
-/

namespace StayRide

open Lib AdminSettings SettingsCommand

/-- A complete call, or the end of the life of the cache entry. -/
inductive SettingsEvent
  | set (key : String) (value : Json)
  | setMany (settings : List (String × Json))
  | get (key : String)
  | getAll
  | expire

section Events

variable (lib : SettingsLib)

def SettingsEvent.exec (s : SettingsStore) : SettingsEvent → SettingsStore
  | .set key value => (AdminSettings.set key value : SettingsM lib Unit).storeAfter s
  | .setMany settings => (AdminSettings.setMany settings : SettingsM lib Unit).storeAfter s
  | .get key => (AdminSettings.get key : SettingsM lib SettingValue).storeAfter s
  | .getAll => (AdminSettings.getAll : SettingsM lib SettingsObject).storeAfter s
  | .expire => s.setCache none

/-- The value that a call writes under a key. -/
def SettingsEvent.written (key : String) : SettingsEvent → Option Json
  | .set key' value => if key = key' then some value else none
  | .setMany settings => Dict.lastFor settings key
  | .get _ | .getAll | .expire => none

/-- The value last written under a key. -/
def lastWritten (events : List SettingsEvent) (key : String) : Option Json :=
  events.foldl (fun last event => (event.written key).or last) none

/-- `get` and `getAll` both return the value. -/
def ReadsAs (s : SettingsStore) (key : String) (value : Json) : Prop :=
  (AdminSettings.get key : SettingsM lib SettingValue).outcome s = .ok (.json value) ∧
    ((AdminSettings.getAll : SettingsM lib SettingsObject).outcome s).map
      (SettingsObject.member · key) = .ok (.json value)

/-- The values that a text column gives back. -/
def Json.isText : Json → Bool
  | .null | .str _ => true
  | .bool _ | .num _ | .arr _ | .obj _ => false

variable {lib}

theorem readBack_columnText_iff {value : Json} :
    readBack (columnText lib value) = value ↔ value.isText = true := by
  cases value <;> simp [columnText, readBack, Json.isText]

theorem readsAs_iff {s : SettingsStore} {key : String} {value : Json} :
    ReadsAs lib s key value ↔
      s.setting key = .json value ∧ s.settings.member key = .json value := by
  unfold ReadsAs SettingsM.outcome
  rw [run_get, run_getAll]
  simp [Except.map]

/-! ## What a sequence leaves in the table -/

theorem find_upsertRows (s : SettingsStore) (settings : List (String × Json)) (key : String) :
    (s.upsertRows lib settings).rows.find key =
      ((Dict.lastFor settings key).map (columnText lib)).or (s.rows.find key) := by
  induction settings generalizing s with
  | nil => rfl
  | cons setting settings ih =>
      show ((s.upsertRow setting.1 (columnText lib setting.2)).upsertRows lib settings).rows.find
        key = _
      rw [ih, Dict.lastFor_cons]
      show _ = Option.or (Option.map _ (Option.or _ _)) _
      have hrow : (s.upsertRow setting.1 (columnText lib setting.2)).rows.find key =
          if key = setting.1 then some (columnText lib setting.2) else s.rows.find key :=
        Dict.find_assign _ _ _ _
      rw [hrow]
      cases Dict.lastFor settings key with
      | some value => rfl
      | none => by_cases hkey : key = setting.1 <;> simp [hkey]

/-- The value last written under the key is in the table, and the cache is up to date. -/
def Written (lib : SettingsLib) (key : String) (s : SettingsStore) (last : Option Json) : Prop :=
  ∀ value, last = some value → s.rows.find key = some (columnText lib value) ∧ s.Coherent

/-- **One call** keeps track of what was written. -/
theorem Written.exec {key : String} {s : SettingsStore} {last : Option Json}
    (h : Written lib key s last) (event : SettingsEvent) :
    Written lib key (event.exec lib s) ((event.written key).or last) := by
  intro value hvalue
  cases event with
  | set key' value' =>
      show (s.rows.assign key' (columnText lib value')).find key = _ ∧ _
      refine ⟨?_, nofun⟩
      rw [Dict.find_assign]
      by_cases hkey : key = key'
      · have hsame : value' = value := by
          simpa [SettingsEvent.written, hkey] using hvalue
        rw [if_pos hkey, hsame]
      · rw [if_neg hkey]
        exact (h value (by simpa [SettingsEvent.written, hkey] using hvalue)).1
  | setMany settings =>
      have hstore : (SettingsEvent.setMany settings).exec lib s =
          (s.upsertRows lib settings).setCache none := by
        show SettingsM.storeAfter s (AdminSettings.setMany settings) = _
        rw [SettingsM.storeAfter, run_setMany]
      rw [hstore]
      refine ⟨?_, nofun⟩
      show (s.upsertRows lib settings).rows.find key = _
      rw [find_upsertRows]
      cases hlast : Dict.lastFor settings key with
      | some value' =>
          have hsame : value' = value := by
            simpa [SettingsEvent.written, hlast] using hvalue
          rw [hsame]
          rfl
      | none => exact (h value (by simpa [SettingsEvent.written, hlast] using hvalue)).1
  | get key' =>
      have hstore : (SettingsEvent.get key').exec lib s = s := by
        show SettingsM.storeAfter s (AdminSettings.get key') = _
        rw [SettingsM.storeAfter, run_get]
      rw [hstore]
      exact h value hvalue
  | getAll =>
      have hstore : SettingsEvent.getAll.exec lib s = s.setCache (some s.settings.own) := by
        show SettingsM.storeAfter s AdminSettings.getAll = _
        rw [SettingsM.storeAfter, run_getAll]
      obtain ⟨hrow, hcoherent⟩ := h value hvalue
      rw [hstore]
      exact ⟨hrow, hcoherent.fill⟩
  | expire => exact ⟨(h value hvalue).1, nofun⟩

/-- **A whole sequence** does. -/
theorem written_final {key : String} {s : SettingsStore} {last : Option Json}
    (h : Written lib key s last) (events : List SettingsEvent) :
    Written lib key (Final (SettingsEvent.exec lib) s events)
      (events.foldl (fun last event => (event.written key).or last) last) := by
  induction events generalizing s last with
  | nil => exact h
  | cons event events ih => exact ih (h.exec event)

/-! ## What is read back -/

variable {s : SettingsStore} {key : String} {value : Json}

/-- Under an ordinary key, the value in effect is what `get` and `getAll` return, cached or
not. -/
theorem setting_of_coherent (hs : s.Coherent) (hkey : key ≠ "__proto__")
    (hvalue : s.effective key = some value) :
    s.setting key = .json value ∧ s.settings.member key = .json value := by
  unfold SettingsStore.setting SettingsStore.cached SettingsStore.settings
  cases hcache : s.cache with
  | none =>
      refine ⟨?_, ?_⟩
      · show s.uncached key = _
        rw [SettingsStore.uncached, hvalue]
      · show s.current.member key = _
        rw [s.member_current, if_neg hkey, hvalue]
  | some own =>
      have hown : own.find key = some value := by
        rw [hs own hcache, s.current_own hkey, hvalue]
      have hmember : (SettingsObject.parsed own).member key = .json value := by
        unfold SettingsObject.member SettingsObject.parsed
        rw [hown]
      refine ⟨?_, hmember⟩
      rw [Option.map_some, hmember]
      rfl

/-- `getAll` has no value of its own under `__proto__`. -/
theorem member_proto_ne (hs : s.Coherent) : s.settings.member "__proto__" ≠ .json value := by
  obtain ⟨hown, -⟩ := s.current_proto
  have hnone : s.settings.own.find "__proto__" = none := by
    unfold SettingsStore.settings
    cases hcache : s.cache with
    | none => exact hown
    | some own => exact (congrArg (Dict.find · "__proto__") (hs own hcache)).trans hown
  unfold SettingsObject.member
  rw [hnone]
  dsimp only
  split <;> nofun

/-- **The round trip.**  After any sequence of writes, reads and expiries, `get` and
`getAll` return the value last written under a key exactly when the value is a string or
`null` and the key is not `__proto__`. -/
theorem round_trip_iff (lib : SettingsLib) (s : SettingsStore) (events : List SettingsEvent)
    (key : String) (value : Json) (h : lastWritten events key = some value) :
    ReadsAs lib (Final (SettingsEvent.exec lib) s events) key value ↔
      key ≠ "__proto__" ∧ value.isText = true := by
  have hstart : Written lib key s none := by
    intro value hvalue
    cases hvalue
  obtain ⟨hrow, hcoherent⟩ := written_final hstart events value h
  have heffective : (Final (SettingsEvent.exec lib) s events).effective key =
      some (readBack (columnText lib value)) := by
    rw [SettingsStore.effective, hrow]
    rfl
  rw [readsAs_iff]
  by_cases hkey : key = "__proto__"
  · subst hkey
    exact iff_of_false (fun hreads => member_proto_ne hcoherent hreads.2) fun hc => hc.1 rfl
  · obtain ⟨hget, hgetAll⟩ := setting_of_coherent hcoherent hkey heffective
    rw [hget, hgetAll, SettingValue.json.injEq, and_self, readBack_columnText_iff]
    exact (and_iff_right hkey).symm

end Events

/-- A string is read back, from the cache as well. -/
theorem round_trip_platform_name :
    ReadsAs Demo.settingsLib (Final (SettingsEvent.exec Demo.settingsLib) .start
      [.set "platform_name" (.str "StayRide Cameroun"), .getAll]) "platform_name"
      (.str "StayRide Cameroun") :=
  (round_trip_iff Demo.settingsLib .start _ "platform_name" (.str "StayRide Cameroun") rfl).mpr
    ⟨by decide, rfl⟩

/-- **A flag is not read back**: `get` returns the text `true`. -/
theorem flag_read_as_text :
    ¬ ∀ (events : List SettingsEvent) (key : String) (value : Json),
      lastWritten events key = some value →
        ReadsAs Demo.settingsLib (Final (SettingsEvent.exec Demo.settingsLib) .start events)
          key value := by
  intro h
  have hreads := (h [.set "kyc_required" (.bool true)] "kyc_required" (.bool true) rfl).1
  have htext : (AdminSettings.get "kyc_required" : SettingsM Demo.settingsLib
      SettingValue).outcome (Final (SettingsEvent.exec Demo.settingsLib) .start
        [.set "kyc_required" (.bool true)]) = .ok (.json (.str "true")) := by
    decide +kernel
  rw [htext] at hreads
  cases hreads

end StayRide
