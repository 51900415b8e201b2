import Mathlib.Data.List.Nodup
import Mathlib.Data.Option.Basic

/-!
# Dictionaries

Association lists with the operations of a JavaScript object or of a table with a
unique key: the value under a key, and the assignment, which overwrites in place or
appends.  A key that occurs twice is found at its first place; `assign` creates no
such key.

An assignment is known by what is found afterwards (`find_assign`), a series of them by
the last one for the key (`lastFor`).
-/

namespace StayRide.Lib

universe u v

/-- Keys with their values. -/
abbrev Dict (κ : Type u) (ν : Type v) := List (κ × ν)

namespace Dict

variable {κ : Type u} {ν : Type v}

def keys (d : Dict κ ν) : List κ :=
  d.map Prod.fst

variable [DecidableEq κ]

/-- The value under a key. -/
def find (d : Dict κ ν) (k : κ) : Option ν :=
  d.lookup k

/-- `d[k] = v`. -/
def assign : Dict κ ν → κ → ν → Dict κ ν
  | [], k, v => [(k, v)]
  | entry :: d, k, v => if entry.1 = k then (k, v) :: d else entry :: assign d k v

/-- One assignment after the other. -/
def assignAll (d : Dict κ ν) (entries : List (κ × ν)) : Dict κ ν :=
  entries.foldl (fun d entry => d.assign entry.1 entry.2) d

@[simp] theorem find_nil (k : κ) : find ([] : Dict κ ν) k = none := rfl

theorem find_cons (entry : κ × ν) (d : Dict κ ν) (k : κ) :
    find (entry :: d) k = if k = entry.1 then some entry.2 else find d k := by
  unfold find
  rw [List.lookup_cons]
  by_cases h : k = entry.1
  · simp [h]
  · rw [beq_false_of_ne h, if_neg h]

/-! ## Assignment -/

theorem find_assign (d : Dict κ ν) (k k' : κ) (v : ν) :
    (d.assign k v).find k' = if k' = k then some v else d.find k' := by
  induction d with
  | nil => rw [assign, find_cons, find_nil]
  | cons entry d ih =>
      rw [assign]
      by_cases hentry : entry.1 = k
      · rw [if_pos hentry, find_cons, find_cons, hentry]
        by_cases hk : k' = k <;> simp [hk]
      · rw [if_neg hentry, find_cons, find_cons, ih]
        by_cases hk : k' = entry.1
        · simp [hk, hentry]
        · simp [hk]

@[simp] theorem find_assign_self (d : Dict κ ν) (k : κ) (v : ν) :
    (d.assign k v).find k = some v := by
  rw [find_assign, if_pos rfl]

theorem find_assign_of_ne (d : Dict κ ν) {k k' : κ} (h : k' ≠ k) (v : ν) :
    (d.assign k v).find k' = d.find k' := by
  rw [find_assign, if_neg h]

/-- Assignments to different keys commute, if one of the keys has its place already. -/
theorem assign_comm {d : Dict κ ν} {k k' : κ} (hne : k ≠ k') (hk : (d.find k).isSome)
    (v v' : ν) : (d.assign k v).assign k' v' = (d.assign k' v').assign k v := by
  induction d with
  | nil => cases hk
  | cons entry d ih =>
      by_cases hentry : entry.1 = k
      · simp [assign, hentry, hne]
      · rw [find_cons, if_neg (Ne.symm hentry)] at hk
        by_cases hentry' : entry.1 = k'
        · simp [assign, hentry', hne.symm]
        · simp [assign, hentry, hentry', ih hk]

theorem keys_assign_of_mem {d : Dict κ ν} {k : κ} (hk : k ∈ d.keys) (v : ν) :
    (d.assign k v).keys = d.keys := by
  induction d with
  | nil => cases hk
  | cons entry d ih =>
      by_cases hentry : entry.1 = k
      · simp [assign, keys, hentry]
      · have hd : k ∈ keys d := by
          rcases List.mem_cons.mp hk with h | h
          · exact absurd h.symm hentry
          · exact h
        rw [assign, if_neg hentry]
        exact congrArg (entry.1 :: ·) (ih hd)

theorem keys_assign_of_not_mem {d : Dict κ ν} {k : κ} (hk : k ∉ d.keys) (v : ν) :
    (d.assign k v).keys = d.keys ++ [k] := by
  induction d with
  | nil => rfl
  | cons entry d ih =>
      have hentry : entry.1 ≠ k := fun h => hk (h ▸ List.mem_cons_self ..)
      rw [assign, if_neg hentry]
      exact congrArg (entry.1 :: ·) (ih fun h => hk (List.mem_cons_of_mem _ h))

/-- An assignment makes no key occur twice. -/
theorem nodup_keys_assign {d : Dict κ ν} (h : d.keys.Nodup) (k : κ) (v : ν) :
    (d.assign k v).keys.Nodup := by
  by_cases hk : k ∈ d.keys
  · rwa [keys_assign_of_mem hk]
  · rw [keys_assign_of_not_mem hk]
    exact List.nodup_append.mpr ⟨h, List.nodup_singleton k, fun a ha b hb hab =>
      hk (List.mem_singleton.mp hb ▸ hab ▸ ha)⟩

/-! ## Several assignments -/

/-- The last value assigned to a key. -/
def lastFor (entries : List (κ × ν)) (k : κ) : Option ν :=
  find entries.reverse k

theorem find_append (d d' : Dict κ ν) (k : κ) :
    find (d ++ d') k = (find d k).or (find d' k) := by
  induction d with
  | nil => simp
  | cons entry d ih =>
      rw [List.cons_append, find_cons, find_cons, ih]
      by_cases hk : k = entry.1 <;> simp [hk]

theorem lastFor_cons (entry : κ × ν) (entries : List (κ × ν)) (k : κ) :
    lastFor (entry :: entries) k =
      (lastFor entries k).or (if k = entry.1 then some entry.2 else none) := by
  rw [lastFor, List.reverse_cons, find_append, find_cons, find_nil]
  rfl

theorem find_eq_none_of_not_mem {d : Dict κ ν} {k : κ} (h : k ∉ d.keys) : d.find k = none := by
  induction d with
  | nil => rfl
  | cons entry d ih =>
      have hentry : k ≠ entry.1 := fun hk => h (hk ▸ List.mem_cons_self ..)
      rw [find_cons, if_neg hentry]
      exact ih fun hk => h (List.mem_cons_of_mem _ hk)

/-- Where no key occurs twice, the entries are what the keys have. -/
theorem find_eq_some_iff_mem {d : Dict κ ν} (h : d.keys.Nodup) {k : κ} {v : ν} :
    d.find k = some v ↔ (k, v) ∈ d := by
  induction d with
  | nil => simp
  | cons entry d ih =>
      obtain ⟨hnew, hrest⟩ := List.nodup_cons.mp h
      rw [find_cons, List.mem_cons]
      by_cases hk : k = entry.1
      · have hnot : (k, v) ∉ d := fun hmem => hnew (hk ▸ List.mem_map_of_mem hmem)
        rw [if_pos hk, Option.some.injEq, or_iff_left hnot, Prod.ext_iff]
        exact ⟨fun hv => ⟨hk, hv.symm⟩, fun heq => heq.2.symm⟩
      · have hne : (k, v) ≠ entry := fun heq => hk (congrArg Prod.fst heq)
        rw [if_neg hk, ih hrest, or_iff_right hne]

end Dict

end StayRide.Lib
