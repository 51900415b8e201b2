import Mathlib.Algebra.Order.Floor.Ring
import Mathlib.Data.Rat.Floor
import StayRide.Lib.JsText

/-!
# Pages of a listing

`common/utils`: `getPaginationOptions` reads the page and its size from the query of a
request, and `paginate` counts the pages.  `findAll` of the bookings puts them together: the
rows from `skip` on, `take` of them, and the number of pages of them all.

The values of a query are texts, or numbers for a caller inside the program; `parseInt` makes
a text of a number first.

`pages_partition` says that the pages are the whole list in order.  A page below the first is
the first, unless it is written with an exponent: the integer at the beginning of `5e-7` is 5
(`tiny_page_is_fifth`).
-/

namespace StayRide

open Lib

/-! ## Values of a query -/

/-- `value || fallback`, where `none` is `NaN` or no value. -/
def numberOr (value : Option ℤ) (fallback : ℤ) : ℤ :=
  match value with
  | none => fallback
  | some n => if n = 0 then fallback else n

inductive QueryValue
  | undefined
  | text (s : String)
  | number (x : PrintedNumber)

namespace QueryValue

/-- `String(value)` -/
def toText : QueryValue → String
  | .undefined => "undefined"
  | .text s => s
  | .number x => x.toText

/-- `Number(value)` -/
def toNumber : QueryValue → JsNumber
  | .undefined => .nan
  | .text s => stringToNumber s
  | .number x => x.toNumber

/-- `parseInt(value) || fallback` -/
def integerOr (value : QueryValue) (fallback : ℤ) : ℤ :=
  numberOr (parseInt value.toText) fallback

end QueryValue

/-- What the listings read of a query. -/
structure PageQuery where
  page : QueryValue
  perPage : QueryValue

/-! ## Pages -/

/-- The answer of `getPaginationOptions`. -/
structure PageOptions where
  skip : ℤ
  take : ℤ
  page : ℤ
  perPage : ℤ

def getPaginationOptions (query : PageQuery) : PageOptions :=
  let page := max 1 (query.page.integerOr 1)
  let perPage := min 100 (max 1 (query.perPage.integerOr 20))
  { skip := (page - 1) * perPage
    take := perPage
    page := page
    perPage := perPage }

/-- What `paginate` is told. -/
structure PaginationOptions where
  page : Option ℤ
  perPage : Option ℤ

structure PageMeta where
  page : ℤ
  perPage : ℤ
  total : ℕ
  totalPages : ℤ

structure PaginatedResult (α : Type*) where
  data : List α
  pageMeta : PageMeta

def paginate {α : Type*} (items : List α) (total : ℕ) (options : PaginationOptions) :
    PaginatedResult α :=
  let page := max 1 (numberOr options.page 1)
  let perPage := min 100 (max 1 (numberOr options.perPage 20))
  { data := items
    pageMeta :=
      { page := page
        perPage := perPage
        total := total
        totalPages := ⌈(total : ℚ) / perPage⌉ } }

/-- The rows that the database returns for `skip` and `take`, which are not negative. -/
def PageOptions.slice {α : Type*} (options : PageOptions) (rows : List α) : List α :=
  (rows.drop options.skip.toNat).take options.take.toNat

/-- The page of a query, from all the rows that match it in their order: the end of `findAll`.
What it adds to each row is left out. -/
def listPage {α : Type*} (rows : List α) (query : PageQuery) : PaginatedResult α :=
  let options := getPaginationOptions query
  paginate (options.slice rows) rows.length ⟨some options.page, some options.perPage⟩

/-! ## Reading the page -/

theorem numberOr_of_ne_zero {n : ℤ} (hn : n ≠ 0) (fallback : ℤ) :
    numberOr (some n) fallback = n :=
  if_neg hn

namespace QueryValue

/-- The value is the number of a page in decimal digits, or the number itself if its text is
in decimal digits too. -/
def IsPage (value : QueryValue) (k : ℕ) : Prop :=
  match value with
  | .undefined => False
  | .text s => s = toString k
  | .number x => x.toNumber = .finite k ∧ k < 10 ^ 21

theorem integerOr_of_isPage {value : QueryValue} {k : ℕ} (h : value.IsPage k) (hk : 1 ≤ k)
    (fallback : ℤ) : value.integerOr fallback = k := by
  have hread : parseInt value.toText = some (k : ℤ) := by
    cases value with
    | undefined => exact h.elim
    | text s =>
        obtain rfl : s = toString k := h
        exact parseInt_toString k
    | number x => exact PrintedNumber.parseInt_toText h.1 h.2
  rw [integerOr, hread]
  exact numberOr_of_ne_zero (by omega) fallback

/-- The value is written with an exponent, which `parseInt` does not read. -/
def IsScaled (value : QueryValue) : Prop :=
  HasExponent value.toText.toList

/-- **A value below one** is read as a page that is not after the first. -/
theorem integerOr_of_below_one {value : QueryValue} (hbelow : value.toNumber.IsBelow 1)
    (hplain : ∀ q, value.toNumber = .finite q → 0 < q → ¬ value.IsScaled) :
    value.integerOr 1 ≤ 1 := by
  have hread : ∀ n, parseInt value.toText = some n → n ≤ 0 := by
    intro n hn
    cases value with
    | undefined => exact hbelow.elim
    | text s => exact parseInt_of_below_one hbelow hplain hn
    | number x => exact PrintedNumber.parseInt_of_below_one hbelow hplain hn
  unfold integerOr
  cases hparse : parseInt value.toText with
  | none => exact le_rfl
  | some n =>
      have hn := hread n hparse
      unfold numberOr
      dsimp only
      split_ifs
      · exact le_rfl
      · omega

end QueryValue

/-! ## The slices -/

/-- The rows of a page. -/
def rowsPerPage (perPage : QueryValue) : ℕ :=
  (min 100 (max 1 (perPage.integerOr 20))).toNat

theorem rowsPerPage_bounds (perPage : QueryValue) :
    1 ≤ rowsPerPage perPage ∧ rowsPerPage perPage ≤ 100 := by
  unfold rowsPerPage
  omega

theorem getPaginationOptions_perPage (page perPage : QueryValue) :
    (getPaginationOptions ⟨page, perPage⟩).perPage = rowsPerPage perPage := by
  have hsize : (getPaginationOptions ⟨page, perPage⟩).perPage =
      min 100 (max 1 (perPage.integerOr 20)) := rfl
  rw [hsize, rowsPerPage]
  omega

/-- **Slices of one width**, one after the other, are the beginning of the list. -/
theorem flatMap_slices {α : Type*} (rows : List α) (width n : ℕ) :
    ((List.range n).flatMap fun i => (rows.drop (i * width)).take width) =
      rows.take (n * width) := by
  induction n with
  | zero => simp
  | succ n ih =>
      rw [List.range_succ, List.flatMap_append, ih, Nat.succ_mul, List.take_add]
      simp

section Pages

variable {α : Type*} (rows : List α) (perPage : QueryValue)

/-- The number of pages, which no page can change. -/
def pageCount : ℕ :=
  ⌈(rows.length : ℚ) / rowsPerPage perPage⌉.toNat

theorem listPage_totalPages (page : QueryValue) :
    (listPage rows ⟨page, perPage⟩).pageMeta.totalPages = pageCount rows perPage := by
  have hsize := getPaginationOptions_perPage page perPage
  have hbounds := rowsPerPage_bounds perPage
  -- `paginate` clamps once more what is within the bounds.
  have hclamp : min 100 (max 1 (numberOr (some (rowsPerPage perPage : ℤ)) 20)) =
      (rowsPerPage perPage : ℤ) := by
    rw [numberOr_of_ne_zero (by omega)]
    omega
  have hpages : 0 ≤ ⌈(rows.length : ℚ) / rowsPerPage perPage⌉ := Int.ceil_nonneg (by positivity)
  rw [pageCount, Int.toNat_of_nonneg hpages, listPage, paginate]
  dsimp only
  rw [hsize, hclamp, Int.cast_natCast]

/-- The pages have room for all the rows. -/
theorem length_le_pageCount_mul : rows.length ≤ pageCount rows perPage * rowsPerPage perPage := by
  have hsize : (0 : ℚ) < rowsPerPage perPage := by exact_mod_cast (rowsPerPage_bounds perPage).1
  have hceil : (rows.length : ℚ) / rowsPerPage perPage ≤ pageCount rows perPage := by
    have hpages : ⌈(rows.length : ℚ) / rowsPerPage perPage⌉ ≤ (pageCount rows perPage : ℤ) :=
      Int.self_le_toNat _
    exact (Int.ceil_le.mp hpages).trans_eq (Int.cast_natCast _)
  rw [div_le_iff₀ hsize] at hceil
  exact_mod_cast hceil

theorem listPage_data {page : QueryValue} {i : ℕ} (hpage : page.integerOr 1 = i + 1) :
    (listPage rows ⟨page, perPage⟩).data =
      (rows.drop (i * rowsPerPage perPage)).take (rowsPerPage perPage) := by
  have hsize : (getPaginationOptions ⟨page, perPage⟩).take = rowsPerPage perPage :=
    getPaginationOptions_perPage page perPage
  have hskip : (getPaginationOptions ⟨page, perPage⟩).skip = (i * rowsPerPage perPage : ℕ) := by
    have hproduct : (getPaginationOptions ⟨page, perPage⟩).skip =
        (max 1 (page.integerOr 1) - 1) * (getPaginationOptions ⟨page, perPage⟩).perPage := rfl
    have hfirst : max 1 ((i : ℤ) + 1) - 1 = i := by omega
    rw [hproduct, getPaginationOptions_perPage, hpage, hfirst]
    norm_cast
  have hdata : (listPage rows ⟨page, perPage⟩).data =
      (getPaginationOptions ⟨page, perPage⟩).slice rows := rfl
  rw [hdata, PageOptions.slice, hskip, hsize, Int.toNat_natCast, Int.toNat_natCast]

/-- Only what is read of the page counts. -/
theorem listPage_congr {page page' : QueryValue}
    (h : max 1 (page.integerOr 1) = max 1 (page'.integerOr 1)) :
    listPage rows ⟨page, perPage⟩ = listPage rows ⟨page', perPage⟩ := by
  have hoptions : getPaginationOptions ⟨page, perPage⟩ = getPaginationOptions ⟨page', perPage⟩ := by
    unfold getPaginationOptions
    rw [h]
  rw [listPage, hoptions, listPage]

/-- **The pages are the list.**  One after the other they are all the rows in their order; a
page after the last is empty; it does not matter how the number of a page is given; a page
below one that has no exponent, or is not positive, is the first; and a page has between 1 and
100 rows. -/
theorem pages_partition :
    ∃ n : ℕ,
      (∀ page, (listPage rows ⟨page, perPage⟩).pageMeta.totalPages = n) ∧
      ((List.range n).flatMap fun i =>
        (listPage rows ⟨.text (toString (i + 1)), perPage⟩).data) = rows ∧
      (∀ page k, page.IsPage k → n < k → (listPage rows ⟨page, perPage⟩).data = []) ∧
      (∀ page k, page.IsPage k → 1 ≤ k →
        listPage rows ⟨page, perPage⟩ = listPage rows ⟨.text (toString k), perPage⟩) ∧
      (∀ page : QueryValue, page.toNumber.IsBelow 1 →
        (∀ q, page.toNumber = .finite q → 0 < q → ¬ page.IsScaled) →
        listPage rows ⟨page, perPage⟩ = listPage rows ⟨.text "1", perPage⟩) ∧
      ∀ page, 1 ≤ (getPaginationOptions ⟨page, perPage⟩).take ∧
        (getPaginationOptions ⟨page, perPage⟩).take ≤ 100 := by
  have hbounds := rowsPerPage_bounds perPage
  have htext : ∀ k : ℕ, (QueryValue.text (toString k)).IsPage k := fun k => rfl
  have hlength := length_le_pageCount_mul rows perPage
  refine ⟨pageCount rows perPage, listPage_totalPages rows perPage, ?_, ?_, ?_, ?_, ?_⟩
  · have hpages : ∀ i : ℕ, (listPage rows ⟨.text (toString (i + 1)), perPage⟩).data =
        (rows.drop (i * rowsPerPage perPage)).take (rowsPerPage perPage) := by
      intro i
      refine listPage_data rows perPage ?_
      exact_mod_cast QueryValue.integerOr_of_isPage (htext (i + 1)) (by omega) 1
    simp only [hpages]
    rw [flatMap_slices, List.take_of_length_le hlength]
  · intro page k hpage hk
    obtain ⟨i, rfl⟩ : ∃ i, k = i + 1 := ⟨k - 1, by omega⟩
    have hread := QueryValue.integerOr_of_isPage hpage (by omega) 1
    rw [listPage_data rows perPage (by exact_mod_cast hread)]
    have hpast : rows.length ≤ i * rowsPerPage perPage :=
      hlength.trans (Nat.mul_le_mul_right _ (by omega))
    rw [List.drop_of_length_le hpast, List.take_nil]
  · intro page k hpage hk
    refine listPage_congr rows perPage ?_
    rw [QueryValue.integerOr_of_isPage hpage hk, QueryValue.integerOr_of_isPage (htext k) hk]
  · intro page hbelow hplain
    have hread := QueryValue.integerOr_of_below_one hbelow hplain
    have hfirst : (QueryValue.text "1").integerOr 1 = 1 :=
      QueryValue.integerOr_of_isPage (htext 1) le_rfl 1
    refine listPage_congr rows perPage ?_
    rw [hfirst]
    omega
  · intro page
    have hsize : (getPaginationOptions ⟨page, perPage⟩).take = rowsPerPage perPage :=
      getPaginationOptions_perPage page perPage
    rw [hsize]
    omega

end Pages

/-- Five rows in pages of two: half a page is the first one, and the fourth is empty. -/
theorem pages_partition_five :
    listPage [10, 20, 30, 40, 50] ⟨.text "0.5", .text "2"⟩ =
        listPage [10, 20, 30, 40, 50] ⟨.text "1", .text "2"⟩ ∧
      (listPage [10, 20, 30, 40, 50] ⟨.text "4", .text "2"⟩).data = [] := by
  obtain ⟨n, htotal, -, hbeyond, -, hbelow, -⟩ := pages_partition [10, 20, 30, 40, 50] (.text "2")
  have hn : n = 3 := by
    have hpages : (listPage [10, 20, 30, 40, 50] ⟨.undefined, .text "2"⟩).pageMeta.totalPages =
        3 := by
      decide +kernel
    exact_mod_cast (htotal .undefined).symm.trans hpages
  have hvalue : (QueryValue.text "0.5").toNumber = .finite (1 / 2) := by decide +kernel
  refine ⟨hbelow (.text "0.5") ?_ fun q _ _ => ?_, hbeyond (.text "4") 4 rfl (by omega)⟩
  · rw [hvalue, JsNumber.IsBelow]
    norm_num
  · have hplain : 'e' ∉ "0.5".toList ∧ 'E' ∉ "0.5".toList := by decide
    exact fun hscaled => hscaled.elim hplain.1 hplain.2

/-- **Exponents are not read**: the page `5e-7` is below one and is the fifth page, and
1e21, written as JavaScript writes the number, is far behind the last page and is the first. -/
theorem tiny_page_is_fifth :
    (QueryValue.text "5e-7").toNumber.IsBelow 1 ∧
      (listPage [10, 20, 30, 40, 50] ⟨.text "5e-7", .text "1"⟩).data = [50] ∧
      (listPage [10, 20, 30, 40, 50] ⟨.text "1", .text "1"⟩).data = [10] ∧
      (PrintedNumber.decimal ⟨false, 1, 22, by decide⟩).toNumber = .finite (10 ^ 21) ∧
      (listPage [10, 20, 30, 40, 50]
        ⟨.number (.decimal ⟨false, 1, 22, by decide⟩), .text "1"⟩).data = [10] ∧
      (listPage [10, 20, 30, 40, 50]
        ⟨.number (.decimal ⟨false, 1, 22, by decide⟩), .text "1"⟩).pageMeta.totalPages = 5 := by
  have hvalue : (QueryValue.text "5e-7").toNumber = .finite (5 / 10000000) := by decide +kernel
  refine ⟨?_, by decide +kernel, by decide +kernel, by decide +kernel, by decide +kernel,
    by decide +kernel⟩
  rw [hvalue, JsNumber.IsBelow]
  norm_num

end StayRide
