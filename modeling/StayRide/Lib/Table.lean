import Mathlib.Data.List.Basic

/-!
# Tables with generated keys

A table whose rows are never deleted and whose keys the store generates itself
is the list of its rows in order of insertion, the key of a row being its
position.  Keys are then unique and fresh by construction, and the key of a new
row is the number of rows before it.

The operations are the ones a repository of an object-relational mapper offers:
look a row up by key (`t[id]?`), find the first row or select all rows with a
property, insert a row, update one row by key, update all rows with a property.
Each comes with the lemma that reads a key after the operation, so that no proof
unfolds an operation.

`PairwiseRows` lifts a relation between rows to "any two different rows", the
shape of every integrity constraint that compares rows of one table.  `Evolves`
lifts a relation to "what every row has become", the shape of every constraint on
the changes of a table; both come with the exact condition under which an
operation meets them.
-/

namespace StayRide.Lib

universe u

/-- A table without deletion: row `id` is the `id`-th row ever inserted. -/
abbrev Table (α : Type u) := List α

namespace Table

variable {α : Type u}

/-- Insert a row; its key is the old length. -/
def insertRow (t : Table α) (row : α) : Table α :=
  t ++ [row]

/-- Update the row with key `id`, if there is one. -/
def updateById (t : Table α) (id : ℕ) (f : α → α) : Table α :=
  List.modify t id f

/-- Update every row whose key and content satisfy `p`. -/
def updateWhere (t : Table α) (p : ℕ → α → Bool) (f : α → α) : Table α :=
  t.mapIdx fun id row => if p id row then f row else row

/-- Update the row with key `id`, if there is one, where the new row may be refused:
`none` when it is. -/
def tryUpdateById (t : Table α) (id : ℕ) (f : α → Option α) : Option (Table α) :=
  match t[id]? with
  | none => some t
  | some row => (f row).map fun row' => t.updateById id fun _ => row'

/-- The first row satisfying `p`, with its key. -/
def findWhere (t : Table α) (p : α → Bool) : Option (ℕ × α) :=
  (t.findIdx? p).bind fun id => t[id]?.map fun row => (id, row)

/-- The rows satisfying `p`, with their keys. -/
def selectWhere (t : Table α) (p : α → Bool) : List (ℕ × α) :=
  (t.zipIdx.filter fun entry => p entry.1).map Prod.swap

/-! ## Reading a key after an operation -/

@[simp] theorem length_insertRow (t : Table α) (row : α) :
    (t.insertRow row).length = t.length + 1 := by
  simp [insertRow]

@[simp] theorem length_updateById (t : Table α) (id : ℕ) (f : α → α) :
    (t.updateById id f).length = t.length := by
  simp [updateById]

@[simp] theorem length_updateWhere (t : Table α) (p : ℕ → α → Bool) (f : α → α) :
    (t.updateWhere p f).length = t.length := by
  simp [updateWhere]

/-- After an insertion a key holds its old row or is the new key. -/
theorem getElem?_insertRow_eq_some {t : Table α} {row x : α} {i : ℕ} :
    (t.insertRow row)[i]? = some x ↔ t[i]? = some x ∨ i = t.length ∧ x = row := by
  rcases Nat.lt_trichotomy i t.length with h | rfl | h
  · have hne : i ≠ t.length := by omega
    simp [insertRow, List.getElem?_append_left h, hne]
  · simp [insertRow, eq_comm]
  · have hne : i ≠ t.length := by omega
    have hlen : (t ++ [row]).length ≤ i := by simp; omega
    simp [insertRow, List.getElem?_eq_none hlen, List.getElem?_eq_none (Nat.le_of_lt h),
      hne]

/-- The new row is found under the new key. -/
@[simp] theorem getElem?_insertRow_self (t : Table α) (row : α) :
    (t.insertRow row)[t.length]? = some row := by
  simp [insertRow]

/-- Rows already present stay where they are. -/
theorem getElem?_insertRow_of_some {t : Table α} {i : ℕ} {x : α} (row : α)
    (h : t[i]? = some x) : (t.insertRow row)[i]? = some x :=
  getElem?_insertRow_eq_some.mpr (Or.inl h)

@[simp] theorem getElem?_updateById (t : Table α) (id i : ℕ) (f : α → α) :
    (t.updateById id f)[i]? = t[i]?.map fun row => if i = id then f row else row := by
  rw [updateById, List.getElem?_modify]
  by_cases h : id = i
  · subst h
    simp
  · have h' : ¬ i = id := fun e => h e.symm
    simp [h, h']

@[simp] theorem getElem?_updateWhere (t : Table α) (p : ℕ → α → Bool) (f : α → α)
    (i : ℕ) :
    (t.updateWhere p f)[i]? = t[i]?.map fun row => if p i row then f row else row := by
  simp [updateWhere, List.getElem?_mapIdx]

theorem getElem?_updateById_eq_some {t : Table α} {id i : ℕ} {f : α → α} {x : α} :
    (t.updateById id f)[i]? = some x ↔
      ∃ row, t[i]? = some row ∧ (if i = id then f row else row) = x := by
  rw [getElem?_updateById, Option.map_eq_some_iff]

theorem getElem?_updateWhere_eq_some {t : Table α} {p : ℕ → α → Bool} {f : α → α} {i : ℕ}
    {x : α} : (t.updateWhere p f)[i]? = some x ↔
      ∃ row, t[i]? = some row ∧ (if p i row then f row else row) = x := by
  rw [getElem?_updateWhere, Option.map_eq_some_iff]

/-- Updating an absent key changes nothing. -/
theorem updateById_of_none {t : Table α} {id : ℕ} (h : t[id]? = none)
    (f : α → α) : t.updateById id f = t := by
  refine List.ext_getElem? fun i => ?_
  rw [getElem?_updateById]
  by_cases hi : i = id
  · subst hi
    simp [h]
  · simp [hi]

/-- An update that is not refused meets no row, or a row for which there is a new one. -/
theorem tryUpdateById_eq_some {t t' : Table α} {id : ℕ} {f : α → Option α}
    (h : t.tryUpdateById id f = some t') :
    (t[id]? = none ∧ t' = t) ∨
      ∃ row row', t[id]? = some row ∧ f row = some row' ∧ t' = t.updateById id fun _ => row' := by
  unfold tryUpdateById at h
  split at h
  · next hnone => exact Or.inl ⟨hnone, (Option.some.inj h).symm⟩
  · next row hrow =>
      obtain ⟨row', hrow', ht'⟩ := Option.map_eq_some_iff.mp h
      exact Or.inr ⟨row, row', hrow, hrow', ht'.symm⟩

/-- The table around a row that is updated. -/
theorem exists_around_updateById {t : Table α} {id : ℕ} {row : α} (h : t[id]? = some row)
    (f : α → α) :
    ∃ before after, t = before ++ row :: after ∧ t.updateById id f = before ++ f row :: after := by
  induction t generalizing id with
  | nil => cases h
  | cons a t ih =>
      cases id with
      | zero =>
          obtain rfl := Option.some.inj h
          exact ⟨[], t, rfl, rfl⟩
      | succ id =>
          obtain ⟨before, after, rfl, hafter⟩ := ih h
          exact ⟨a :: before, after, rfl, congrArg (a :: ·) hafter⟩

theorem forall_mem_around {before after : List α} {row : α} {P : α → Prop} :
    (∀ x ∈ before ++ row :: after, P x) ↔ P row ∧ ∀ x ∈ before ++ after, P x := by
  simp only [List.forall_mem_append, List.forall_mem_cons]
  exact and_left_comm

/-- Updating the row just inserted is inserting the updated row. -/
@[simp] theorem updateById_insertRow_self (t : Table α) (row : α) (f : α → α) :
    (t.insertRow row).updateById t.length f = t.insertRow (f row) := by
  induction t with
  | nil => rfl
  | cons a t ih => simpa [insertRow, updateById] using ih

section Map

universe v

variable {β : Type v} {g : α → β}

/-! A view of a table, row by row, is updated as the table is. -/

theorem map_insertRow (t : Table α) (row : α) :
    (t.insertRow row).map g = Table.insertRow (t.map g) (g row) := by
  simp [insertRow]

theorem map_updateById {f : α → α} {f' : β → β} (h : ∀ row, g (f row) = f' (g row))
    (t : Table α) (id : ℕ) :
    (t.updateById id f).map g = Table.updateById (t.map g) id f' := by
  refine List.ext_getElem? fun i => ?_
  simp only [List.getElem?_map, getElem?_updateById, Option.map_map]
  congr 1
  funext row
  by_cases hi : i = id <;> simp [hi, h]

theorem map_updateWhere {p : ℕ → α → Bool} {q : ℕ → β → Bool} {f : α → α} {f' : β → β}
    {t : Table α} (hp : ∀ (i : ℕ) (row : α), t[i]? = some row → p i row = q i (g row))
    (h : ∀ row, g (f row) = f' (g row)) :
    (t.updateWhere p f).map g = Table.updateWhere (t.map g) q f' := by
  refine List.ext_getElem? fun i => ?_
  rw [List.getElem?_map, getElem?_updateWhere, getElem?_updateWhere, List.getElem?_map]
  cases hrow : t[i]? with
  | none => rfl
  | some row =>
      simp only [Option.map_some, ← hp i row hrow]
      by_cases hpi : p i row <;> simp [hpi, h]

/-! What a view does not show can be updated behind it. -/

theorem map_updateById_of_eq {f : α → α} (h : ∀ row, g (f row) = g row) (t : Table α)
    (id : ℕ) : (t.updateById id f).map g = t.map g := by
  refine List.ext_getElem? fun i => ?_
  rw [List.getElem?_map, getElem?_updateById, List.getElem?_map, Option.map_map]
  congr 1
  funext row
  by_cases hi : i = id <;> simp [hi, h]

theorem map_updateWhere_of_eq {f : α → α} (h : ∀ row, g (f row) = g row) (t : Table α)
    (p : ℕ → α → Bool) : (t.updateWhere p f).map g = t.map g := by
  refine List.ext_getElem? fun i => ?_
  rw [List.getElem?_map, getElem?_updateWhere, List.getElem?_map, Option.map_map]
  congr 1
  funext row
  by_cases hp : p i row <;> simp [hp, h]

end Map

/-- `findWhere` returns the first row of the table with the property. -/
theorem findWhere_eq_some_iff {t : Table α} {p : α → Bool} {id : ℕ} {row : α} :
    t.findWhere p = some (id, row) ↔
      t[id]? = some row ∧ p row = true ∧
        ∀ (j : ℕ) (other : α), j < id → t[j]? = some other → p other = false := by
  simp only [findWhere, Option.bind_eq_some_iff, Option.map_eq_some_iff, Prod.mk.injEq]
  constructor
  · rintro ⟨i, hfind, x, hx, rfl, rfl⟩
    obtain ⟨hlt, hp, hbefore⟩ := List.findIdx?_eq_some_iff_getElem.mp hfind
    have hrow : t[i] = x := by rwa [List.getElem?_eq_getElem hlt, Option.some.injEq] at hx
    refine ⟨hx, hrow ▸ hp, fun j other hj hother => ?_⟩
    obtain ⟨hjlt, rfl⟩ := List.getElem?_eq_some_iff.mp hother
    exact Bool.of_not_eq_true (hbefore j hj)
  · rintro ⟨hrow, hp, hbefore⟩
    obtain ⟨hlt, rfl⟩ := List.getElem?_eq_some_iff.mp hrow
    refine ⟨id, List.findIdx?_eq_some_iff_getElem.mpr ⟨hlt, hp, fun j hj => ?_⟩, _, hrow, rfl, rfl⟩
    rw [hbefore j _ hj (List.getElem?_eq_getElem (Nat.lt_trans hj hlt))]
    exact Bool.false_ne_true

/-- What `findWhere` returns is a row of the table with the property. -/
theorem findWhere_eq_some {t : Table α} {p : α → Bool} {id : ℕ} {row : α}
    (h : t.findWhere p = some (id, row)) : t[id]? = some row ∧ p row = true :=
  ⟨(findWhere_eq_some_iff.mp h).1, (findWhere_eq_some_iff.mp h).2.1⟩

/-- Looking at the rows through a function. -/
theorem findWhere_map {β : Type*} (g : α → β) (t : Table α) (p : β → Bool) :
    Table.findWhere (t.map g) p =
      (t.findWhere fun row => p (g row)).map fun found => (found.1, g found.2) := by
  have hindex : List.findIdx? p (t.map g) = t.findIdx? fun row => p (g row) := List.findIdx?_map
  rw [findWhere, findWhere, hindex]
  cases t.findIdx? fun row => p (g row) with
  | none => rfl
  | some id => simp [Function.comp_def]

/-- Updates that the property does not see keep the row that is found. -/
theorem findWhere_updateWhere {t : Table α} {p : α → Bool} {sel : ℕ → α → Bool} {f : α → α}
    (hf : ∀ row, p (f row) = p row) {id : ℕ} {row : α} (h : t.findWhere p = some (id, row)) :
    (t.updateWhere sel f).findWhere p = some (id, if sel id row then f row else row) := by
  have hp : ∀ (i : ℕ) (x : α), p (if sel i x then f x else x) = p x := by
    intro i x
    cases sel i x with
    | true => exact hf x
    | false => rfl
  obtain ⟨hrow, hfound, hbefore⟩ := findWhere_eq_some_iff.mp h
  refine findWhere_eq_some_iff.mpr ⟨?_, (hp id row).trans hfound, fun j other hj hother => ?_⟩
  · rw [getElem?_updateWhere, hrow, Option.map_some]
  · obtain ⟨x, hx, rfl⟩ := getElem?_updateWhere_eq_some.mp hother
    exact (hp j x).trans (hbefore j x hj hx)

/-- The update of one row is a sweep that selects its key. -/
theorem updateById_eq_updateWhere (t : Table α) (id : ℕ) (f : α → α) :
    t.updateById id f = t.updateWhere (fun i _ => i = id) f := by
  refine List.ext_getElem? fun i => ?_
  simp only [getElem?_updateById, getElem?_updateWhere, decide_eq_true_eq]

/-- When `findWhere` finds nothing, no row has the property. -/
theorem findWhere_eq_none {t : Table α} {p : α → Bool} :
    t.findWhere p = none ↔ ∀ (id : ℕ) (row : α), t[id]? = some row → p row = false := by
  constructor
  · intro h id row hrow
    have hnone : t.findIdx? p = none := by
      cases hfind : t.findIdx? p with
      | none => rfl
      | some i =>
          obtain ⟨hlt, -, -⟩ := List.findIdx?_eq_some_iff_getElem.mp hfind
          simp [findWhere, hfind, List.getElem?_eq_getElem hlt] at h
    exact List.findIdx?_eq_none_iff.mp hnone row (List.mem_of_getElem? hrow)
  · intro h
    have hnone : t.findIdx? p = none := by
      refine List.findIdx?_eq_none_iff.mpr fun row hrow => ?_
      obtain ⟨id, hid⟩ := List.mem_iff_getElem?.mp hrow
      exact h id row hid
    simp [findWhere, hnone]

/-- An update that gives one row the property lets `findWhere` find this row. -/
theorem findWhere_updateById_of_none {t : Table α} {p : α → Bool} {f : α → α} {id : ℕ}
    {row : α} (hnone : t.findWhere p = none) (hrow : t[id]? = some row)
    (hp : p (f row) = true) : (t.updateById id f).findWhere p = some (id, f row) := by
  rw [findWhere_eq_some_iff]
  refine ⟨by rw [getElem?_updateById, hrow, Option.map_some, if_pos rfl], hp, ?_⟩
  intro j other hj hother
  obtain ⟨x, hx, rfl⟩ := getElem?_updateById_eq_some.mp hother
  rw [if_neg (Nat.ne_of_lt hj)]
  exact findWhere_eq_none.mp hnone j x hx

theorem mem_selectWhere {t : Table α} {p : α → Bool} {id : ℕ} {row : α} :
    (id, row) ∈ t.selectWhere p ↔ t[id]? = some row ∧ p row = true := by
  simp only [selectWhere, List.mem_map, List.mem_filter, List.mem_zipIdx_iff_getElem?]
  constructor
  · rintro ⟨⟨row', id'⟩, ⟨hrow, hp⟩, hswap⟩
    obtain ⟨rfl, rfl⟩ := Prod.mk.inj hswap
    exact ⟨hrow, hp⟩
  · rintro ⟨hrow, hp⟩
    exact ⟨(row, id), ⟨hrow, hp⟩, rfl⟩

/-- No row is selected twice. -/
theorem nodup_selectWhere (t : Table α) (p : α → Bool) :
    ((t.selectWhere p).map Prod.fst).Nodup := by
  rw [selectWhere, List.map_map]
  refine List.Nodup.sublist (List.filter_sublist.map Prod.snd) ?_
  rw [List.zipIdx_map_snd]
  exact List.nodup_range'

/-! ## Existence of a row -/

/-- Some row of the table satisfies `Q`, with its key. -/
def SomeRow (Q : ℕ → α → Prop) (t : Table α) : Prop :=
  ∃ (id : ℕ) (row : α), t[id]? = some row ∧ Q id row

section SomeRow

variable {Q : ℕ → α → Prop} {t : Table α}

theorem someRow_insertRow_iff {row : α} :
    SomeRow Q (t.insertRow row) ↔ SomeRow Q t ∨ Q t.length row := by
  constructor
  · rintro ⟨id, x, hx, hQ⟩
    rcases getElem?_insertRow_eq_some.mp hx with hold | ⟨rfl, rfl⟩
    · exact Or.inl ⟨id, x, hold, hQ⟩
    · exact Or.inr hQ
  · rintro (⟨id, x, hx, hQ⟩ | hQ)
    · exact ⟨id, x, getElem?_insertRow_of_some row hx, hQ⟩
    · exact ⟨t.length, row, getElem?_insertRow_self t row, hQ⟩

/-- After the update of one row, that row or another one satisfies `Q`. -/
theorem someRow_updateById_iff {id : ℕ} {row : α} (hrow : t[id]? = some row) (f : α → α) :
    SomeRow Q (t.updateById id f) ↔ Q id (f row) ∨ SomeRow (fun i x => i ≠ id ∧ Q i x) t := by
  constructor
  · rintro ⟨i, x, hx, hQ⟩
    obtain ⟨x₀, hx₀, rfl⟩ := getElem?_updateById_eq_some.mp hx
    by_cases hi : i = id
    · subst hi
      rw [hrow, Option.some.injEq] at hx₀
      subst hx₀
      rw [if_pos rfl] at hQ
      exact Or.inl hQ
    · rw [if_neg hi] at hQ
      exact Or.inr ⟨i, x₀, hx₀, hi, hQ⟩
  · rintro (hQ | ⟨i, x, hx, hi, hQ⟩)
    · exact ⟨id, f row, by rw [getElem?_updateById, hrow, Option.map_some, if_pos rfl], hQ⟩
    · exact ⟨i, x, by rw [getElem?_updateById, hx, Option.map_some, if_neg hi], hQ⟩

/-- When the rewritten rows do not satisfy `Q`, after a sweep only rows that it left
alone do. -/
theorem someRow_updateWhere_iff {p : ℕ → α → Bool} {f : α → α} (hf : ∀ i x, ¬ Q i (f x)) :
    SomeRow Q (t.updateWhere p f) ↔ SomeRow (fun i x => p i x = false ∧ Q i x) t := by
  constructor
  · rintro ⟨i, x, hx, hQ⟩
    obtain ⟨x₀, hx₀, rfl⟩ := getElem?_updateWhere_eq_some.mp hx
    cases hp : p i x₀ with
    | true =>
        rw [hp, if_pos rfl] at hQ
        exact absurd hQ (hf i x₀)
    | false =>
        rw [hp, if_neg Bool.false_ne_true] at hQ
        exact ⟨i, x₀, hx₀, hp, hQ⟩
  · rintro ⟨i, x, hx, hp, hQ⟩
    refine ⟨i, x, ?_, hQ⟩
    rw [getElem?_updateWhere, hx, Option.map_some, hp, if_neg Bool.false_ne_true]

end SomeRow

/-! ## Constraints between different rows -/

/-- `R` relates any two different rows of the table. -/
def PairwiseRows (R : α → α → Prop) (t : Table α) : Prop :=
  ∀ (i j : ℕ) (a b : α), i ≠ j → t[i]? = some a → t[j]? = some b → R a b

/-- A table of one row has no pairs. -/
theorem pairwiseRows_of_length_le_one {R : α → α → Prop} {t : Table α} (h : t.length ≤ 1) :
    PairwiseRows R t := by
  intro i j a b hij ha hb
  have hi : i < t.length := (List.getElem?_eq_some_iff.mp ha).1
  have hj : j < t.length := (List.getElem?_eq_some_iff.mp hb).1
  omega

theorem pairwiseRows_nil (R : α → α → Prop) : PairwiseRows R ([] : Table α) := by
  intro i j a b _ ha
  simp at ha

variable {R : α → α → Prop}

/-- Inserting a row keeps a symmetric constraint exactly when the new row meets it
with every row already present. -/
theorem PairwiseRows.insertRow_iff (hsymm : ∀ a b, R a b → R b a) {t : Table α}
    (h : PairwiseRows R t) (row : α) :
    PairwiseRows R (t.insertRow row) ↔ ∀ (j : ℕ) (b : α), t[j]? = some b → R row b := by
  constructor
  · intro hins j b hb
    have hlt : j < t.length := (List.getElem?_eq_some_iff.mp hb).1
    exact hins t.length j row b (by omega) (getElem?_insertRow_self t row)
      (getElem?_insertRow_of_some row hb)
  · intro hrow i j a b hij ha hb
    rcases getElem?_insertRow_eq_some.mp ha with oldA | ⟨rfl, rfl⟩
    · rcases getElem?_insertRow_eq_some.mp hb with oldB | ⟨_, rfl⟩
      · exact h i j a b hij oldA oldB
      · exact hsymm _ _ (hrow i a oldA)
    · rcases getElem?_insertRow_eq_some.mp hb with oldB | ⟨rfl, rfl⟩
      · exact hrow j b oldB
      · exact absurd rfl hij

/-- Updating one row keeps a symmetric constraint exactly when the updated row
meets it with every other row. -/
theorem PairwiseRows.updateById_iff (hsymm : ∀ a b, R a b → R b a) {t : Table α}
    (h : PairwiseRows R t) (id : ℕ) (f : α → α) :
    PairwiseRows R (t.updateById id f) ↔
      ∀ row, t[id]? = some row → ∀ (j : ℕ) (b : α), j ≠ id → t[j]? = some b →
        R (f row) b := by
  constructor
  · intro hupd row hrow j b hj hb
    exact hupd id j (f row) b (Ne.symm hj) (by simp [hrow]) (by simp [hb, hj])
  · intro hrow i j a b hij ha hb
    obtain ⟨a₀, ha₀, rfl⟩ := getElem?_updateById_eq_some.mp ha
    obtain ⟨b₀, hb₀, rfl⟩ := getElem?_updateById_eq_some.mp hb
    by_cases hi : i = id
    · subst hi
      simpa [Ne.symm hij] using hrow a₀ ha₀ j b₀ (Ne.symm hij) hb₀
    · by_cases hj : j = id
      · subst hj
        simpa [hi] using hsymm _ _ (hrow b₀ hb₀ i a₀ hi ha₀)
      · simpa [hi, hj] using h i j a₀ b₀ hij ha₀ hb₀

/-- A row that differs from all others in a column is the one found by that column. -/
theorem findWhere_of_unique {κ : Type u} [DecidableEq κ] {key : α → κ} {t : Table α}
    (h : PairwiseRows (fun a b => key a ≠ key b) t) {id : ℕ} {row : α}
    (hrow : t[id]? = some row) :
    t.findWhere (fun x => key x = key row) = some (id, row) := by
  cases hfind : t.findWhere (fun x => key x = key row) with
  | none =>
      have hmiss := findWhere_eq_none.mp hfind id row hrow
      rw [decide_eq_false_iff_not] at hmiss
      exact absurd rfl hmiss
  | some found =>
      obtain ⟨hat, hkey⟩ := findWhere_eq_some (show _ = some (found.1, found.2) from hfind)
      rw [decide_eq_true_iff] at hkey
      have hid : found.1 = id := by
        by_contra hne
        exact h found.1 id found.2 row hne hat hrow hkey
      rw [hid, hrow, Option.some.injEq] at hat
      rw [hat, ← hid]

/-- A sweep over the table keeps a constraint that the rewriting of single rows
keeps. -/
theorem PairwiseRows.updateWhere {t : Table α} (h : PairwiseRows R t)
    (p : ℕ → α → Bool) (f : α → α)
    (hf : ∀ (i j : ℕ) (a b : α), R a b →
      R (if p i a then f a else a) (if p j b then f b else b)) :
    PairwiseRows R (t.updateWhere p f) := by
  intro i j a b hij ha hb
  obtain ⟨a₀, ha₀, rfl⟩ := getElem?_updateWhere_eq_some.mp ha
  obtain ⟨b₀, hb₀, rfl⟩ := getElem?_updateWhere_eq_some.mp hb
  exact hf i j a₀ b₀ (h i j a₀ b₀ hij ha₀ hb₀)

/-! ## Constraints between two versions of a table -/

/-- Every row of `t` is still there in `t'`, and `R` relates it to what it has
become. -/
def Evolves (R : α → α → Prop) (t t' : Table α) : Prop :=
  ∀ (id : ℕ) (row : α), t[id]? = some row → ∃ row', t'[id]? = some row' ∧ R row row'

theorem Evolves.refl (hrefl : ∀ a, R a a) (t : Table α) : Evolves R t t :=
  fun _ row hrow => ⟨row, hrow, hrefl row⟩

theorem Evolves.trans (htrans : ∀ a b c, R a b → R b c → R a c) {t t' t'' : Table α}
    (h : Evolves R t t') (h' : Evolves R t' t'') : Evolves R t t'' := by
  intro id row hrow
  obtain ⟨row', hrow', hR⟩ := h id row hrow
  obtain ⟨row'', hrow'', hR'⟩ := h' id row' hrow'
  exact ⟨row'', hrow'', htrans row row' row'' hR hR'⟩

/-- What can be read off all rows as before, with rows added behind, has stayed in each of
them. -/
theorem Evolves.of_map {β : Type*} {g : α → β} {t t' added : Table α}
    (h : t'.map g = (t ++ added).map g) : Evolves (fun row row' => g row' = g row) t t' := by
  intro id row hrow
  have hread : (t'.map g)[id]? = some (g row) := by
    rw [h, List.getElem?_map, List.getElem?_append_left (List.getElem?_eq_some_iff.mp hrow).1,
      hrow, Option.map_some]
  rw [List.getElem?_map] at hread
  exact Option.map_eq_some_iff.mp hread

/-- A new row changes no other row. -/
theorem Evolves.insertRow (hrefl : ∀ a, R a a) (t : Table α) (row : α) :
    Evolves R t (t.insertRow row) :=
  fun _ old hold => ⟨old, getElem?_insertRow_of_some row hold, hrefl old⟩

theorem evolves_updateById_iff (hrefl : ∀ a, R a a) {t : Table α} {id : ℕ} {f : α → α} :
    Evolves R t (t.updateById id f) ↔ ∀ row, t[id]? = some row → R row (f row) := by
  constructor
  · intro h row hrow
    obtain ⟨row', hrow', hR⟩ := h id row hrow
    rw [getElem?_updateById, hrow, Option.map_some, if_pos rfl, Option.some.injEq] at hrow'
    exact hrow' ▸ hR
  · intro h i row hrow
    refine ⟨if i = id then f row else row, by rw [getElem?_updateById, hrow, Option.map_some], ?_⟩
    by_cases hi : i = id
    · subst hi
      rw [if_pos rfl]
      exact h row hrow
    · rw [if_neg hi]
      exact hrefl row

theorem evolves_updateWhere_iff (hrefl : ∀ a, R a a) {t : Table α} {p : ℕ → α → Bool}
    {f : α → α} :
    Evolves R t (t.updateWhere p f) ↔
      ∀ (id : ℕ) (row : α), t[id]? = some row → p id row = true → R row (f row) := by
  constructor
  · intro h id row hrow hp
    obtain ⟨row', hrow', hR⟩ := h id row hrow
    rw [getElem?_updateWhere, hrow, Option.map_some, if_pos hp, Option.some.injEq] at hrow'
    exact hrow' ▸ hR
  · intro h id row hrow
    refine ⟨if p id row then f row else row,
      by rw [getElem?_updateWhere, hrow, Option.map_some], ?_⟩
    cases hp : p id row with
    | true =>
        rw [if_pos rfl]
        exact h id row hrow hp
    | false =>
        rw [if_neg Bool.false_ne_true]
        exact hrefl row

/-! ## Two tables side by side -/

/-- The two tables have the same keys, and `R` relates the rows of every key. -/
def Matches {β : Type*} (R : α → β → Prop) (t : Table α) (t' : Table β) : Prop :=
  ∀ i : ℕ, Option.Rel R t[i]? t'[i]?

namespace Matches

variable {β : Type*} {R : α → β → Prop} {t : Table α} {t' : Table β}

theorem nil : Matches R [] [] := fun _ => .none

theorem exists_right (h : Matches R t t') {i : ℕ} {a : α} (ha : t[i]? = some a) :
    ∃ b, t'[i]? = some b ∧ R a b := by
  have hrow := h i
  rw [ha] at hrow
  cases hb : t'[i]? with
  | none =>
      rw [hb] at hrow
      cases hrow
  | some b =>
      rw [hb] at hrow
      cases hrow with
      | some hab => exact ⟨b, rfl, hab⟩

theorem exists_left (h : Matches R t t') {i : ℕ} {b : β} (hb : t'[i]? = some b) :
    ∃ a, t[i]? = some a ∧ R a b := by
  have hrow := h i
  rw [hb] at hrow
  cases ha : t[i]? with
  | none =>
      rw [ha] at hrow
      cases hrow
  | some a =>
      rw [ha] at hrow
      cases hrow with
      | some hab => exact ⟨a, rfl, hab⟩

theorem right_none (h : Matches R t t') {i : ℕ} (ha : t[i]? = none) : t'[i]? = none := by
  have hrow := h i
  rw [ha] at hrow
  cases hb : t'[i]? with
  | none => rfl
  | some b =>
      rw [hb] at hrow
      cases hrow

theorem length_eq (h : Matches R t t') : t.length = t'.length := by
  have hright := h.right_none (List.getElem?_eq_none (Nat.le_refl t.length))
  have hle : t'.length ≤ t.length := List.getElem?_eq_none_iff.mp hright
  refine Nat.le_antisymm (Nat.le_of_not_lt fun hlt => ?_) hle
  obtain ⟨b, hb, -⟩ := h.exists_right (List.getElem?_eq_getElem hlt)
  rw [List.getElem?_eq_none (Nat.le_refl t'.length)] at hb
  cases hb

theorem insertRow (h : Matches R t t') {a : α} {b : β} (hab : R a b) :
    Matches R (t.insertRow a) (t'.insertRow b) := by
  intro i
  rcases Nat.lt_trichotomy i t.length with hlt | rfl | hgt
  · rw [Table.insertRow, Table.insertRow, List.getElem?_append_left hlt,
      List.getElem?_append_left (h.length_eq ▸ hlt)]
    exact h i
  · have hb : (t'.insertRow b)[t.length]? = some b := by
      rw [h.length_eq]
      exact getElem?_insertRow_self t' b
    rw [getElem?_insertRow_self, hb]
    exact .some hab
  · rw [List.getElem?_eq_none (by rw [length_insertRow]; exact hgt),
      List.getElem?_eq_none (by rw [length_insertRow, ← h.length_eq]; exact hgt)]
    exact .none

/-- Updates on both sides; what they do to a pair of rows may depend on its key. -/
theorem of_rows {s : Table α} {s' : Table β} {f : ℕ → α → α} {g : ℕ → β → β}
    (h : Matches R t t') (hs : ∀ i : ℕ, s[i]? = t[i]?.map (f i))
    (hs' : ∀ i : ℕ, s'[i]? = t'[i]?.map (g i))
    (hfg : ∀ (i : ℕ) (a : α) (b : β), t[i]? = some a → t'[i]? = some b → R a b →
      R (f i a) (g i b)) : Matches R s s' := by
  intro i
  rw [hs, hs']
  cases ha : t[i]? with
  | none =>
      rw [h.right_none ha]
      exact .none
  | some a =>
      obtain ⟨b, hb, hab⟩ := h.exists_right ha
      rw [hb]
      exact .some (hfg i a b ha hb hab)

theorem updateById (h : Matches R t t') (id : ℕ) {f : α → α} {g : β → β}
    (hfg : ∀ a b, t[id]? = some a → t'[id]? = some b → R a b → R (f a) (g b)) :
    Matches R (t.updateById id f) (t'.updateById id g) := by
  refine h.of_rows (getElem?_updateById t id · f) (getElem?_updateById t' id · g) ?_
  intro i a b ha hb hab
  by_cases hi : i = id
  · subst hi
    rw [if_pos rfl, if_pos rfl]
    exact hfg a b ha hb hab
  · rw [if_neg hi, if_neg hi]
    exact hab

/-- An update on one side that the relation does not see. -/
theorem updateById_left (h : Matches R t t') (id : ℕ) {f : α → α}
    (hf : ∀ a b, R a b → R (f a) b) : Matches R (t.updateById id f) t' := by
  refine h.of_rows (getElem?_updateById t id · f) (fun i => (Option.map_id_apply).symm) ?_
  intro i a b _ _ hab
  by_cases hi : i = id
  · rw [if_pos hi]
    exact hf a b hab
  · rw [if_neg hi]
    exact hab

theorem findWhere_some (h : Matches R t t') {p : α → Bool} {q : β → Bool}
    (hpq : ∀ a b, R a b → p a = q b) {id : ℕ} {a : α} (hfind : t.findWhere p = some (id, a)) :
    ∃ b, t'.findWhere q = some (id, b) ∧ R a b := by
  obtain ⟨ha, hpa, hfirst⟩ := findWhere_eq_some_iff.mp hfind
  obtain ⟨b, hb, hab⟩ := h.exists_right ha
  refine ⟨b, findWhere_eq_some_iff.mpr ⟨hb, hpq a b hab ▸ hpa, ?_⟩, hab⟩
  intro j other hj hother
  obtain ⟨a', ha', hrow⟩ := h.exists_left hother
  rw [← hpq a' other hrow]
  exact hfirst j a' hj ha'

end Matches

/-! ## What holds of every row -/

section EveryRow

variable {P : α → Prop} {t : Table α} {f : α → α}

theorem forall_insertRow (h : ∀ x ∈ t, P x) {row : α} (hrow : P row) :
    ∀ x ∈ t.insertRow row, P x := by
  intro x hx
  rcases List.mem_append.mp hx with hold | hnew
  · exact h x hold
  · exact List.mem_singleton.mp hnew ▸ hrow

/-- An update keeps what it keeps of the rows that it selects. -/
theorem forall_updateWhere (h : ∀ x ∈ t, P x) {p : ℕ → α → Bool}
    (hf : ∀ i x, p i x = true → P x → P (f x)) : ∀ x ∈ t.updateWhere p f, P x := by
  intro x hx
  obtain ⟨i, hi⟩ := List.getElem?_of_mem hx
  obtain ⟨row, hrow, rfl⟩ := getElem?_updateWhere_eq_some.mp hi
  have hold := h row (List.mem_of_getElem? hrow)
  split
  · next hsel => exact hf i row hsel hold
  · exact hold

theorem forall_updateById (h : ∀ x ∈ t, P x) (id : ℕ) (hf : ∀ x, P x → P (f x)) :
    ∀ x ∈ t.updateById id f, P x := by
  rw [updateById_eq_updateWhere]
  exact forall_updateWhere h fun _ x _ => hf x

end EveryRow

/-- An update that selects no row. -/
theorem updateWhere_of_forall_not {t : Table α} {p : ℕ → α → Bool} {f : α → α}
    (h : ∀ i, ∀ x ∈ t, p i x = false) : t.updateWhere p f = t := by
  refine List.ext_getElem? fun i => ?_
  rw [getElem?_updateWhere]
  cases hx : t[i]? with
  | none => rfl
  | some x => rw [Option.map_some, h i x (List.mem_of_getElem? hx)]; rfl

/-! Which row an update has changed. -/

theorem eq_of_updateById_ne {t : Table α} {i id : ℕ} {f : α → α} {x : α}
    (hx : t[i]? = some x) (h : (t.updateById id f)[i]? ≠ some x) : i = id := by
  by_contra hne
  refine h ?_
  rw [getElem?_updateById, hx, Option.map_some, if_neg hne]

theorem selected_of_updateWhere_ne {t : Table α} {i : ℕ} {p : ℕ → α → Bool} {f : α → α}
    {x : α} (hx : t[i]? = some x) (h : (t.updateWhere p f)[i]? ≠ some x) : p i x = true := by
  by_contra hne
  refine h ?_
  rw [getElem?_updateWhere, hx, Option.map_some, if_neg hne]

/-! ## Logs: tables that only grow at their end -/

theorem getElem?_of_isPrefix {t t' : Table α} (h : t <+: t') {i : ℕ} {x : α}
    (hx : t[i]? = some x) : t'[i]? = some x := by
  obtain ⟨added, rfl⟩ := h
  obtain ⟨hlt, -⟩ := List.getElem?_eq_some_iff.mp hx
  rw [List.getElem?_append_left hlt]
  exact hx

/-- Where nothing is said twice, two rows that say the same are one row. -/
theorem eq_of_nodup_filterMap {β : Type*} {f : α → Option β} {t : Table α}
    (h : (t.filterMap f).Nodup) {i j : ℕ} {a b : α} {x : β} (ha : t[i]? = some a)
    (hb : t[j]? = some b) (hfa : f a = some x) (hfb : f b = some x) : i = j := by
  have hpair := List.pairwise_iff_getElem.mp (List.pairwise_filterMap.mp h)
  obtain ⟨hi, rfl⟩ := List.getElem?_eq_some_iff.mp ha
  obtain ⟨hj, rfl⟩ := List.getElem?_eq_some_iff.mp hb
  rcases Nat.lt_trichotomy i j with hlt | heq | hlt
  · exact absurd rfl (hpair i j hi hj hlt x hfa x hfb)
  · exact heq
  · exact absurd rfl (hpair j i hj hi hlt x hfb x hfa)

/-- Rows that all have the same key, where keys are unique. -/
theorem countP_le_one {κ : Type*} {key : α → κ} {t : Table α} (h : (t.map key).Nodup)
    {p : α → Bool} (hp : ∀ a ∈ t, ∀ b ∈ t, p a = true → p b = true → key a = key b) :
    t.countP p ≤ 1 := by
  rw [List.countP_eq_length_filter, ← List.length_map key]
  have hnodup : ((t.filter p).map key).Nodup := h.sublist (List.filter_sublist.map key)
  cases hrows : t.filter p with
  | nil => exact Nat.zero_le 1
  | cons a rows =>
      have hall : ∀ k ∈ (t.filter p).map key, k = key a := by
        intro k hk
        obtain ⟨b, hb, rfl⟩ := List.mem_map.mp hk
        have ha : a ∈ t.filter p := hrows ▸ List.mem_cons_self
        obtain ⟨hat, hpa⟩ := List.mem_filter.mp ha
        obtain ⟨hbt, hpb⟩ := List.mem_filter.mp hb
        exact hp b hbt a hat hpb hpa
      rw [List.eq_replicate_of_mem hall, List.nodup_replicate] at hnodup
      exact hrows ▸ hnodup

end Table

end StayRide.Lib
