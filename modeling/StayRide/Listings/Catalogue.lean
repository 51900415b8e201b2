import StayRide.Lib.Sql
import StayRide.Listings.Create
import StayRide.Listings.Paging

/-!
# What visitors see of the listings

The searches, the featured listings and the statistics are public, and show the listings with
the status of an offer: `PUBLISHED` for a property, `AVAILABLE` for a car.  A search has a
condition for every filter of its query that is not empty.

`stats_agree_with_search`: the cities of the statistics add up to what the search without
filters counts, the neighborhoods of a city to no more than the city, and a visitor who picks
a city or a neighborhood of the statistics finds at least the listings that were counted,
unless its name has a backslash, which the pattern of the search would take as an escape.

Texts and numbers of a query are compared by the database, which is a parameter here.  So is
the search around a place; its formula is one of the database.  Rows that agree in the order
of a search are in an order of their own in the database, here in that of the table.
-/

namespace StayRide

open Lib

/-! ## Rows -/

namespace Listing

/-- A column with a text; `none` is `NULL`. -/
def text (row : Listing) (name : String) : Option String :=
  match row.columns.find name with
  | some (.str s) => some s
  | _ => none

def number (row : Listing) (name : String) : Option ℚ :=
  match row.columns.find name with
  | some (.num n) => some n
  | _ => none

def isFeatured (row : Listing) : Bool :=
  row.columns.find "isFeatured" = some (.bool true)

/-- `created_at DESC` -/
def newestFirst (a b : Listing) : Bool :=
  (b.number "createdAt").getD 0 ≤ (a.number "createdAt").getD 0

/-- `is_featured DESC, created_at DESC` -/
def featuredFirst (a b : Listing) : Bool :=
  if a.isFeatured = b.isFeatured then newestFirst a b else a.isFeatured

end Listing

/-! ## Searches -/

/-- What PostgreSQL does with the values of a query. -/
structure CatalogueLib where
  /-- `LOWER`, character by character. -/
  lowerChar : Char → Char
  lower_percent : lowerChar '%' = '%'
  lower_backslash : ∀ c, lowerChar c = '\\' → c = '\\'
  /-- A text as a number for a comparison; `none` when it is refused. -/
  numeric : String → Option ℚ
  integer : String → Option ℤ
  /-- Whether the row is less than ten kilometres from a place. -/
  isNear : String → String → Listing → Bool

def CatalogueLib.lower (pg : CatalogueLib) (text : String) : List Char :=
  text.toList.map pg.lowerChar

/-- A condition of a query; `none` when the database refuses it. -/
abbrev Condition := Option (Listing → Bool)

/-- `if (value) qb.andWhere(clause)` -/
def andWhere (value : Option String) (clause : String → Condition) : Condition :=
  match textOrNull value with
  | none => some fun _ => true
  | some text => clause text

/-- `LOWER(column) LIKE LOWER('%value%')` for one of the columns. -/
def anyLike (pg : CatalogueLib) (columns : List String) (value : String) : Condition :=
  (likeTokens (pg.lower ("%" ++ value ++ "%"))).map fun pattern row =>
    columns.any fun name => (row.text name).any fun text => likeMatch pattern (pg.lower text)

/-- `column >= value`, or another comparison; `NULL` is never true. -/
def compareNumber (holds : ℚ → ℚ → Bool) (column : String) (bound : Option ℚ) : Condition :=
  bound.map fun bound row => (row.number column).any fun value => holds value bound

def columnIs (column value : String) : Condition :=
  some fun row => row.text column = some value

def allOf : List Condition → Condition
  | [] => some fun _ => true
  | condition :: rest => do
      let holds ← condition
      let restHolds ← allOf rest
      return fun row => holds row && restHolds row

/-- `OFFSET` and `LIMIT`; the database refuses negative ones. -/
def Window.slice {α : Type*} (window : Window) (rows : List α) : Option (List α) :=
  match window.skip, window.take with
  | .finite skip, .finite take =>
      if 0 ≤ skip ∧ 0 ≤ take then some ((rows.drop skip.floor.toNat).take take.floor.toNat)
      else none
  | _, _ => none

structure SearchResult where
  data : List Listing
  page : ℤ
  perPage : ℤ
  total : ℕ
  totalPages : ℤ
  deriving DecidableEq

/-- What the two searches have in common; `none` when the database refuses the query. -/
def searchListings (offered : String) (conditions : List Condition) (query : PageQuery)
    (window : Window) (rows : List Listing) : Option SearchResult := do
  let holds ← allOf conditions
  let found := rows.filter fun row => row.status = offered && holds row
  let items ← window.slice (found.insertionSort fun a b => Listing.featuredFirst a b = true)
  let page := query.page.integerOr 1
  let perPage := query.perPage.integerOr 20
  return ⟨items, page, perPage, found.length, ⌈(found.length : ℚ) / perPage⌉⟩

def noPage : PageQuery := ⟨.undefined, .undefined⟩

structure PropertyQuery where
  city : Option String := none
  lat : Option String := none
  lng : Option String := none
  minPrice : Option String := none
  maxPrice : Option String := none
  bedrooms : Option String := none
  paging : PageQuery := noPage

structure CarQuery where
  city : Option String := none
  category : Option String := none
  maxPrice : Option String := none
  transmission : Option String := none
  paging : PageQuery := noPage

def PropertiesController.conditions (pg : CatalogueLib) (query : PropertyQuery) :
    List Condition :=
  [andWhere query.city (anyLike pg ["city", "neighborhood"]),
    -- Both coordinates have to be given.
    andWhere query.lat fun lat => andWhere query.lng fun lng => some (pg.isNear lat lng),
    andWhere query.minPrice fun bound =>
      compareNumber (fun price bound => bound ≤ price) "pricePerNight" (pg.numeric bound),
    andWhere query.maxPrice fun bound =>
      compareNumber (fun price bound => price ≤ bound) "pricePerNight" (pg.numeric bound),
    andWhere query.bedrooms fun bound =>
      compareNumber (fun rooms bound => bound ≤ rooms) "bedrooms"
        ((pg.integer bound).map fun n => (n : ℚ))]

def PropertiesController.search (pg : CatalogueLib) (query : PropertyQuery) :
    List Listing → Option SearchResult :=
  searchListings "PUBLISHED" (PropertiesController.conditions pg query) query.paging
    (PropertiesController.searchWindow query.paging)

def CarsController.conditions (pg : CatalogueLib) (query : CarQuery) : List Condition :=
  [andWhere query.city (anyLike pg ["city"]),
    andWhere query.category (columnIs "category"),
    andWhere query.maxPrice fun bound =>
      compareNumber (fun price bound => price ≤ bound) "pricePerDay" (pg.numeric bound),
    andWhere query.transmission (columnIs "transmission")]

def CarsController.search (pg : CatalogueLib) (query : CarQuery) :
    List Listing → Option SearchResult :=
  searchListings "AVAILABLE" (CarsController.conditions pg query) query.paging
    (CarsController.searchWindow query.paging)

/-! ## Featured listings and statistics -/

def featuredListings (offered : String) (rows : List Listing) : List Listing :=
  ((rows.filter fun row => row.status = offered && row.isFeatured).insertionSort
    fun a b => Listing.newestFirst a b = true).take 10

def PropertiesController.getFeatured : List Listing → List Listing :=
  featuredListings "PUBLISHED"

def CarsController.getFeatured : List Listing → List Listing :=
  featuredListings "AVAILABLE"

/-- The rows that the statistics count. -/
def publishedRows (rows : List Listing) : List Listing :=
  rows.filter fun row => row.status = "PUBLISHED"

structure CityCount where
  city : Option String
  count : ℕ
  deriving DecidableEq

def getCitiesStats (rows : List Listing) : List CityCount :=
  (groupCount ((publishedRows rows).map (·.text "city"))).map fun group => ⟨group.1, group.2⟩

structure NeighborhoodCount where
  /-- The neighborhood, under the name that the answer gives it. -/
  city : String
  parentCity : Option String
  count : ℕ
  deriving DecidableEq

/-- The neighborhood and the city of a row that has a neighborhood. -/
def Listing.neighborhoodKey (row : Listing) : Option (String × Option String) :=
  (row.text "neighborhood").map fun neighborhood => (neighborhood, row.text "city")

def getNeighborhoodsStats (rows : List Listing) : List NeighborhoodCount :=
  (groupCount ((publishedRows rows).filterMap Listing.neighborhoodKey)).map fun group =>
    ⟨group.1.1, group.1.2, group.2⟩

/-! ## What a search shows -/

section Shown

variable {offered : String} {conditions : List Condition} {query : PageQuery} {window : Window}
  {rows : List Listing}

theorem Window.mem_of_mem_slice {α : Type*} {w : Window} {items found : List α}
    (h : w.slice items = some found) {a : α} (ha : a ∈ found) : a ∈ items := by
  unfold Window.slice at h
  split at h
  · rw [Option.ite_none_right_eq_some] at h
    obtain ⟨-, hfound⟩ := h
    obtain rfl := Option.some.inj hfound
    exact List.mem_of_mem_drop (List.mem_of_mem_take ha)
  · cases h

/-- A search shows listings of the table that are offered. -/
theorem mem_of_searchListings {result : SearchResult}
    (h : searchListings offered conditions query window rows = some result) {row : Listing}
    (hrow : row ∈ result.data) : row ∈ rows ∧ row.status = offered := by
  obtain ⟨holds, -, h⟩ := Option.bind_eq_some_iff.mp h
  obtain ⟨items, hslice, hresult⟩ := Option.bind_eq_some_iff.mp h
  obtain rfl := Option.some.inj hresult
  have hmem := Window.mem_of_mem_slice hslice hrow
  rw [List.mem_insertionSort, List.mem_filter, Bool.and_eq_true, decide_eq_true_eq] at hmem
  exact ⟨hmem.1, hmem.2.1⟩

theorem mem_of_featuredListings {row : Listing} (hrow : row ∈ featuredListings offered rows) :
    row ∈ rows ∧ row.status = offered := by
  have hmem := List.mem_of_mem_take hrow
  rw [List.mem_insertionSort, List.mem_filter, Bool.and_eq_true, decide_eq_true_eq] at hmem
  exact ⟨hmem.1, hmem.2.1⟩

/-- Without a page the search starts with the first rows. -/
theorem slice_noPage {α : Type*} (items : List α) :
    (parsedWindow noPage).slice items = some (items.take 20) := by
  have hwindow : parsedWindow noPage = ⟨.finite 0, .finite 20⟩ := by decide +kernel
  rw [hwindow]
  rfl

/-- What is found by a query without a page. -/
theorem searchListings_noPage (offered : String) (rows : List Listing) {holds : Listing → Bool}
    (h : allOf conditions = some holds) :
    ∃ result, searchListings offered conditions noPage (parsedWindow noPage) rows = some result ∧
      result.total = rows.countP fun row => row.status = offered && holds row := by
  rw [searchListings, h]
  simp only [Option.bind_eq_bind, Option.bind_some, slice_noPage]
  exact ⟨_, rfl, List.countP_eq_length_filter.symm⟩

end Shown

/-! ## Statistics and searches -/

section Statistics

variable {pg : CatalogueLib} {rows : List Listing}

/-- A text without backslashes is found by itself. -/
theorem anyLike_self (pg : CatalogueLib) (columns : List String) {value : String}
    (h : '\\' ∉ value.toList) :
    ∃ holds, anyLike pg columns value = some holds ∧
      ∀ row name, name ∈ columns → row.text name = some value → holds row = true := by
  have hlower : '\\' ∉ pg.lower value := by
    intro hmem
    obtain ⟨c, hc, hbackslash⟩ := List.mem_map.mp hmem
    exact h (pg.lower_backslash c hbackslash ▸ hc)
  have hpattern : likeTokens (pg.lower ("%" ++ value ++ "%")) =
      some (.anySequence :: ((pg.lower value).map likeToken ++ [.anySequence])) := by
    have htext : pg.lower ("%" ++ value ++ "%") = '%' :: (pg.lower value ++ ['%']) := by
      simp [CatalogueLib.lower, pg.lower_percent]
    rw [htext, likeTokens_cons (by decide), likeTokens_append hlower]
    rfl
  refine ⟨_, by rw [anyLike, hpattern, Option.map_some], fun row name hname htext => ?_⟩
  refine List.any_eq_true.mpr ⟨name, hname, ?_⟩
  rw [htext]
  exact likeMatch_around_self _

/-- Only the city is asked for. -/
theorem allOf_city {city : Option String} {holds : Listing → Bool}
    (h : andWhere city (anyLike pg ["city", "neighborhood"]) = some holds) :
    allOf (PropertiesController.conditions pg { city := city }) = some holds := by
  have hnone : ∀ clause, andWhere none clause = some fun _ => true := fun _ => rfl
  simp [PropertiesController.conditions, allOf, h, hnone]

/-- A visitor who picks a name finds at least the rows that have it. -/
theorem count_le_search (pg : CatalogueLib) (rows : List Listing) {name value : String}
    (hname : name ∈ ["city", "neighborhood"]) (hvalue : '\\' ∉ value.toList) :
    ∃ found, PropertiesController.search pg { city := some value } rows = some found ∧
      (publishedRows rows).countP (fun row => row.text name = some value) ≤ found.total := by
  obtain ⟨holds, hholds, hself⟩ : ∃ holds : Listing → Bool,
      andWhere (some value) (anyLike pg ["city", "neighborhood"]) = some holds ∧
        ∀ row, row.text name = some value → holds row = true := by
    by_cases hempty : value = ""
    · subst hempty
      exact ⟨fun _ => true, rfl, fun _ _ => rfl⟩
    · obtain ⟨holds, hholds, hself⟩ := anyLike_self pg ["city", "neighborhood"] hvalue
      refine ⟨holds, ?_, fun row => hself row name hname⟩
      simpa [andWhere, textOrNull, Option.filter, hempty] using hholds
  obtain ⟨found, hfound, htotal⟩ :=
    searchListings_noPage "PUBLISHED" rows (allOf_city hholds)
  refine ⟨found, hfound, ?_⟩
  rw [htotal, publishedRows, List.countP_filter]
  refine List.countP_mono_left fun row _ hrow => ?_
  rw [Bool.and_eq_true, decide_eq_true_eq, decide_eq_true_eq] at hrow
  rw [Bool.and_eq_true, decide_eq_true_eq]
  exact ⟨hrow.2, hself row hrow.1⟩

theorem mem_getCitiesStats {entry : CityCount} (h : entry ∈ getCitiesStats rows) :
    1 ≤ entry.count ∧
      entry.count = (publishedRows rows).countP fun row => row.text "city" = entry.city := by
  obtain ⟨group, hgroup, rfl⟩ := List.mem_map.mp h
  obtain ⟨hpos, hcount⟩ := mem_groupCount hgroup
  refine ⟨hpos, hcount.trans ?_⟩
  rw [List.countP_map]
  rfl

/-- Rows with a neighborhood are counted by what their neighborhood and city say of them. -/
theorem countP_neighborhoods_le {p : String × Option String → Bool} {q : Listing → Bool}
    (h : ∀ row neighborhood, row.text "neighborhood" = some neighborhood →
      p (neighborhood, row.text "city") = true → q row = true) :
    ((publishedRows rows).filterMap Listing.neighborhoodKey).countP p ≤
      (publishedRows rows).countP q := by
  rw [List.countP_filterMap]
  refine List.countP_mono_left fun row _ hrow => ?_
  cases hneighborhood : row.text "neighborhood" with
  | none => simp [Listing.neighborhoodKey, hneighborhood] at hrow
  | some neighborhood =>
      rw [Listing.neighborhoodKey, hneighborhood] at hrow
      exact h row neighborhood hneighborhood hrow

theorem mem_getNeighborhoodsStats {entry : NeighborhoodCount}
    (h : entry ∈ getNeighborhoodsStats rows) :
    entry.count ≤
      (publishedRows rows).countP fun row => row.text "neighborhood" = some entry.city := by
  obtain ⟨group, hgroup, rfl⟩ := List.mem_map.mp h
  refine (mem_groupCount hgroup).2.le.trans ?_
  refine countP_neighborhoods_le fun row neighborhood hrow hkey => ?_
  rw [decide_eq_true_eq] at hkey ⊢
  rw [hrow, ← hkey]

/-- The neighborhoods of a city count those of its rows that have one. -/
theorem sum_neighborhoods_le (city : Option String) :
    (((getNeighborhoodsStats rows).filter (·.parentCity = city)).map (·.count)).sum ≤
      (publishedRows rows).countP fun row => row.text "city" = city := by
  have hgroups := sum_filter_groupCount (fun key => decide (key.2 = city))
    ((publishedRows rows).filterMap Listing.neighborhoodKey)
  rw [getNeighborhoodsStats, List.filter_map, List.map_map]
  exact hgroups.le.trans (countP_neighborhoods_le fun _ _ _ hcity => hcity)

end Statistics

/-- **The statistics agree with the search.**  The cities are different and count together what
the search without filters finds; the neighborhoods of a city count at most what the city
counts; and a search by the name of a city or of a neighborhood finds at least what was
counted for it, unless the name has a backslash. -/
theorem stats_agree_with_search (pg : CatalogueLib) (rows : List Listing) :
    ((getCitiesStats rows).map CityCount.city).Nodup ∧
    (∃ found, PropertiesController.search pg {} rows = some found ∧
      ((getCitiesStats rows).map CityCount.count).sum = found.total) ∧
    (∀ entry ∈ getCitiesStats rows,
      (((getNeighborhoodsStats rows).filter (·.parentCity = entry.city)).map (·.count)).sum ≤
        entry.count) ∧
    (∀ entry ∈ getCitiesStats rows, ∀ city, entry.city = some city → '\\' ∉ city.toList →
      ∃ found, PropertiesController.search pg { city := some city } rows = some found ∧
        1 ≤ entry.count ∧ entry.count ≤ found.total) ∧
    ∀ entry ∈ getNeighborhoodsStats rows, '\\' ∉ entry.city.toList →
      ∃ found, PropertiesController.search pg { city := some entry.city } rows = some found ∧
        entry.count ≤ found.total := by
  refine ⟨?_, ?_, fun entry hentry => ?_, fun entry hentry city hcity hname => ?_,
    fun entry hentry hname => ?_⟩
  · rw [getCitiesStats, List.map_map]
    exact nodup_groupCount _
  · have hall : allOf (PropertiesController.conditions pg {}) = some fun _ => true :=
      allOf_city rfl
    obtain ⟨found, hfound, htotal⟩ :=
      searchListings_noPage "PUBLISHED" rows hall
    refine ⟨found, hfound, ?_⟩
    rw [getCitiesStats, List.map_map]
    refine (sum_groupCount _).trans ?_
    rw [htotal, List.length_map, publishedRows, ← List.countP_eq_length_filter]
    simp
  · rw [(mem_getCitiesStats hentry).2]
    exact sum_neighborhoods_le entry.city
  · obtain ⟨hpos, hcount⟩ := mem_getCitiesStats hentry
    obtain ⟨found, hfound, hle⟩ :=
      count_le_search pg rows (List.mem_cons_self (a := "city")) hname
    exact ⟨found, hfound, hpos, by rwa [hcount, hcity]⟩
  · obtain ⟨found, hfound, hle⟩ :=
      count_le_search pg rows (List.mem_cons_of_mem "city" List.mem_cons_self) hname
    exact ⟨found, hfound, (mem_getNeighborhoodsStats hentry).trans hle⟩

end StayRide
