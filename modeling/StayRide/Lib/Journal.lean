import Mathlib.Algebra.BigOperators.Group.List.Basic
import Mathlib.Algebra.Group.Basic
import StayRide.Lib.Table

/-!
# Journals of a table

A column of a table is kept as a running total, and every change of it is entered in
a journal: the list of the entries, oldest first.  A `Posting` says how an entry is
read: which row of the table it is about and by how much it changes the column.

`Balanced` is what a journal is kept for: every total is the total at the start plus
what has been posted to the row since.  `Running` is for journals whose entries also
record the total they lead to.  Both are kept by a change that is entered as it is made
(`Balanced.post`, `Running.post`) and by changes of other columns (`Balanced.keep`);
a table under several journals keeps them independently of each other.
-/

namespace StayRide.Lib

universe u v w

/-- How an entry of a journal is read. -/
structure Posting (ρ : Type u) (A : Type v) where
  /-- The row that the entry is about. -/
  account : ρ → ℕ
  /-- The change of its total. -/
  delta : ρ → A

namespace Posting

variable {ρ : Type u} {A : Type v} {α : Type w} [AddCommMonoid A] (e : Posting ρ A)

/-- What the entries about a row add up to. -/
def posted (entries : List ρ) (id : ℕ) : A :=
  ((entries.filter fun entry => e.account entry = id).map e.delta).sum

@[simp] theorem posted_nil (id : ℕ) : e.posted [] id = 0 := rfl

theorem posted_concat (entries : List ρ) (entry : ρ) (id : ℕ) :
    e.posted (entries ++ [entry]) id =
      e.posted entries id + if e.account entry = id then e.delta entry else 0 := by
  rw [posted, List.filter_append, List.map_append, List.sum_append]
  by_cases h : e.account entry = id <;> simp [posted, h]

variable (column : α → A)

/-- Every total is the total at the start plus what has been posted to it. -/
def Balanced (start t : Table α) (entries : List ρ) : Prop :=
  ∀ (id : ℕ) (row : α), t[id]? = some row →
    ∃ row₀, start[id]? = some row₀ ∧ column row = column row₀ + e.posted entries id

/-- Every entry records, as `shown`, the total at the start plus what had been posted to
the row when it was made, the entry included. -/
def Running (shown : ρ → A) (start : Table α) (entries : List ρ) : Prop :=
  ∀ (before : List ρ) (entry : ρ) (after : List ρ), entries = before ++ entry :: after →
    ∃ row₀, start[e.account entry]? = some row₀ ∧
      shown entry = column row₀ + e.posted (before ++ [entry]) (e.account entry)

variable {e column} {start t : Table α} {entries : List ρ} {shown : ρ → A}

theorem balanced_refl (t : Table α) : e.Balanced column t t [] :=
  fun _ row hrow => ⟨row, hrow, by rw [posted_nil, add_zero]⟩

theorem running_nil : e.Running column shown start [] := by
  intro before entry after h
  cases before <;> cases h

/-- A change of the total, entered as it is made. -/
theorem Balanced.post (h : e.Balanced column start t entries) (entry : ρ) (f : α → α)
    (hf : ∀ row, t[e.account entry]? = some row →
      column (f row) = column row + e.delta entry) :
    e.Balanced column start (t.updateById (e.account entry) f) (entries ++ [entry]) := by
  intro id row' hrow'
  obtain ⟨row, hrow, rfl⟩ := Table.getElem?_updateById_eq_some.mp hrow'
  obtain ⟨row₀, hstart, htotal⟩ := h id row hrow
  refine ⟨row₀, hstart, ?_⟩
  rw [posted_concat, ← add_assoc, ← htotal]
  by_cases hid : id = e.account entry
  · subst hid
    rw [if_pos rfl, if_pos rfl, hf row hrow]
  · rw [if_neg hid, if_neg (Ne.symm hid), add_zero]

/-- An entry about a row that does not exist. -/
theorem Balanced.post_absent (h : e.Balanced column start t entries) (entry : ρ)
    (hnone : t[e.account entry]? = none) :
    e.Balanced column start t (entries ++ [entry]) := by
  have hpost := h.post entry id fun row hrow => by
    rw [hnone] at hrow
    cases hrow
  rwa [Table.updateById_of_none hnone] at hpost

/-- A change of other columns. -/
theorem Balanced.keep (h : e.Balanced column start t entries) {f : α → α} {id : ℕ}
    (hf : ∀ row, t[id]? = some row → column (f row) = column row) :
    e.Balanced column start (t.updateById id f) entries := by
  intro i row' hrow'
  obtain ⟨row, hrow, rfl⟩ := Table.getElem?_updateById_eq_some.mp hrow'
  obtain ⟨row₀, hstart, htotal⟩ := h i row hrow
  refine ⟨row₀, hstart, ?_⟩
  by_cases hi : i = id
  · subst hi
    rw [if_pos rfl, hf row hrow, htotal]
  · rw [if_neg hi, htotal]

/-- In a journal in balance, an entry that records the total it leads to. -/
theorem Running.post (h : e.Running column shown start entries)
    (hbalanced : e.Balanced column start t entries) (entry : ρ) {row : α}
    (hrow : t[e.account entry]? = some row)
    (hshown : shown entry = column row + e.delta entry) :
    e.Running column shown start (entries ++ [entry]) := by
  intro before last after hsplit
  -- The entry in question is the new one or was there before.
  rcases List.eq_nil_or_concat after with rfl | ⟨rest, newest, rfl⟩
  · obtain ⟨rfl, hlast⟩ := List.append_inj' hsplit rfl
    obtain rfl : entry = last := (List.cons.inj hlast).1
    obtain ⟨row₀, hstart, htotal⟩ := hbalanced _ row hrow
    refine ⟨row₀, hstart, ?_⟩
    rw [posted_concat, if_pos rfl, hshown, htotal, add_assoc]
  · rw [List.concat_eq_append, ← List.cons_append, ← List.append_assoc] at hsplit
    exact h before last rest (List.append_inj' hsplit rfl).1

end Posting

end StayRide.Lib
