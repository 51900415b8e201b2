import Mathlib.Data.Nat.Digits.Defs
import StayRide.Bookings.Service
import StayRide.Common.Json

/-!
# New listings: `PropertiesController.create` and `CarsController.create`

Both endpoints take any JSON object, spread it into the entity and then set the owner, the
slug and the status.  The spread copies `id` like any other column, and `repository.save`
updates the row that has this id already.

What a column makes of a JSON value is the database's affair and a parameter here, as are
the Unicode tables of JavaScript.  `listing_creation_insert_only_iff` says when a call that
succeeds has only added a row: when the body does not carry the id of a listing that exists.
-/

namespace StayRide

open Lib

/-- A row of `properties` or of `cars`. -/
structure Listing where
  id : ResourceId
  ownerId : UserId
  slug : String
  status : String
  columns : Dict String Json
  deriving DecidableEq

/-- What `repository.create` makes of its argument; an id that is not given is `none`. -/
structure NewListing where
  id : Option Json
  ownerId : UserId
  slug : String
  status : String
  columns : Dict String Json

inductive ListingError
  /-- A method of something that is no text was called. -/
  | typeError
  | queryFailed
  deriving DecidableEq

/-- What JavaScript and PostgreSQL do with texts and values. -/
structure ListingLib where
  toLowerCase : String → String
  normalizeNfd : String → String
  /-- A value in a template; `none` when it throws. -/
  templateText : Option Json → Option String
  /-- A value as a `uuid`; `none` when it is refused. -/
  uuid : Json → Option ResourceId

/-- A table with its columns besides those that the controller sets. -/
structure ListingTable where
  columnNames : List String
  /-- The columns that an insert stores, with the defaults; `none` when it is refused. -/
  insertColumns : Dict String Json → Option (Dict String Json)
  /-- The columns of a row after an update; `none` when it is refused. -/
  updateColumns : Dict String Json → Dict String Json → Option (Dict String Json)

/-! ## Slugs -/

/-- `.replace(/[^a-z0-9]+/g, "-")` -/
def hyphenate : List Char → List Char
  | [] => []
  | c :: cs =>
      if ('a' ≤ c ∧ c ≤ 'z') ∨ ('0' ≤ c ∧ c ≤ '9') then c :: hyphenate cs
      else match hyphenate cs with
        | '-' :: rest => '-' :: rest
        | rest => '-' :: rest

/-- `.replace(/(^-|-$)/g, "")` -/
def trimHyphens (cs : List Char) : List Char :=
  let cs := if cs.head? = some '-' then cs.tail else cs
  if cs.getLast? = some '-' then cs.dropLast else cs

/-- `n.toString(36)` -/
def base36 (n : ℕ) : String :=
  let digits := if n = 0 then [0] else (Nat.digits 36 n).reverse
  String.ofList (digits.map fun d => "0123456789abcdefghijklmnopqrstuvwxyz".toList.getD d '0')

/-- The slug of a text, at the time `now`; the letters lose their accents. -/
def slugOf (lib : ListingLib) (text : String) (now : ℕ) : String :=
  let letters := (lib.normalizeNfd (lib.toLowerCase text)).toList.filter fun c =>
    ¬ (0x300 ≤ c.toNat ∧ c.toNat ≤ 0x36f)
  String.ofList (trimHyphens (hyphenate letters)) ++ "-" ++ base36 now

/-! ## The repository -/

section Repository

variable (lib : ListingLib) (table : ListingTable)

/-- `repository.create({ ...body, ownerId, slug, status })`: the columns of the table are
copied, and nothing else. -/
def createEntity (body : Dict String Json) (ownerId : UserId) (slug status : String) :
    NewListing where
  -- Nothing is written over the id that the body gives.
  id := (body.find "id").filter (· ≠ .null)
  ownerId := ownerId
  slug := slug
  status := status
  columns := table.columnNames.filterMap fun name => (body.find name).map (name, ·)

/-- The row that an entity is saved to, if it carries the id of one. -/
def NewListing.savedTo (entity : NewListing) (rows : List Listing) : Option Listing :=
  rows.find? fun row => entity.id = some (.str row.id)

/-- `UPDATE … WHERE id = …`; slugs are unique. -/
def updateListing (rows : List Listing) (row : Listing) (entity : NewListing) :
    Option (List Listing × Listing) :=
  if rows.any fun other => other.id ≠ row.id && other.slug = entity.slug then none
  else
    (table.updateColumns row.columns entity.columns).map fun columns =>
      let saved := ⟨row.id, entity.ownerId, entity.slug, entity.status, columns⟩
      (rows.map fun other => if other.id = row.id then saved else other, saved)

/-- `INSERT`, under the id that is given, or else under a new one; ids and slugs are
unique. -/
def insertListing (newId : ResourceId) (rows : List Listing) (entity : NewListing) :
    Option (List Listing × Listing) := do
  let id ← entity.id.elim (some newId) lib.uuid
  if rows.any fun other => other.id = id || other.slug = entity.slug then none
  else
    (table.insertColumns entity.columns).map fun columns =>
      let saved := ⟨id, entity.ownerId, entity.slug, entity.status, columns⟩
      (rows ++ [saved], saved)

/-- `repository.save(entity)` -/
def saveListing (newId : ResourceId) (rows : List Listing) (entity : NewListing) :
    Option (List Listing × Listing) :=
  match entity.savedTo rows with
  | some row => updateListing table rows row entity
  | none => insertListing lib table newId rows entity

/-- What the two endpoints have in common: a text for the slug, and the statuses of a
listing by an administrator and by an owner.  The result is the table and the row. -/
def createListing (slugText : Option String) (adminStatus ownerStatus : String)
    (body : Dict String Json) (user : CurrentUser) (now : ℕ) (newId : ResourceId)
    (rows : List Listing) : Except ListingError (List Listing × Listing) :=
  match slugText with
  | none => .error .typeError
  | some text =>
      let entity := createEntity table body user.id (slugOf lib text now)
        (if user.role = .admin then adminStatus else ownerStatus)
      match saveListing lib table newId rows entity with
      | none => .error .queryFailed
      | some saved => .ok saved

end Repository

/-! ## The endpoints -/

/-- The columns of `Property` that come from the body. -/
def propertyColumns : List String :=
  ["title", "titleEn", "description", "type", "address", "city", "neighborhood", "country",
    "lat", "lng", "bedrooms", "beds", "bathrooms", "maxGuests", "pricePerNight", "cleaningFee",
    "securityDeposit", "currency", "checkinTime", "checkoutTime", "minStayNights",
    "instantBooking", "avgRating", "reviewCount", "isFeatured", "coverImageUrl", "images",
    "createdAt", "updatedAt"]

/-- The columns of `Car` that come from the body. -/
def carColumns : List String :=
  ["brand", "model", "year", "category", "transmission", "fuelType", "seats", "doors", "color",
    "mileageKm", "description", "pricePerDay", "currency", "depositRequired", "depositAmount",
    "licenseRequired", "minDriverAge", "trackingEnabled", "city", "lat", "lng", "avgRating",
    "reviewCount", "isFeatured", "coverImageUrl", "images", "features", "createdAt",
    "updatedAt"]

/-- What the columns of the two tables make of JSON values. -/
structure ListingDatabase where
  insertProperty : Dict String Json → Option (Dict String Json)
  updateProperty : Dict String Json → Dict String Json → Option (Dict String Json)
  insertCar : Dict String Json → Option (Dict String Json)
  updateCar : Dict String Json → Dict String Json → Option (Dict String Json)

section Endpoints

variable (lib : ListingLib) (db : ListingDatabase) (body : Dict String Json)
  (user : CurrentUser) (now : ℕ) (newId : ResourceId) (rows : List Listing)

/-- `body.title` must be a text. -/
def PropertiesController.slugText : Option String :=
  match body.find "title" with
  | some (.str title) => some title
  | _ => none

def PropertiesController.create : Except ListingError (List Listing × Listing) :=
  createListing lib ⟨propertyColumns, db.insertProperty, db.updateProperty⟩
    (PropertiesController.slugText body) "PUBLISHED" "DRAFT" body user now newId rows

/-- The template makes a text of anything. -/
def CarsController.slugText : Option String := do
  let brand ← lib.templateText (body.find "brand")
  let model ← lib.templateText (body.find "model")
  let city ← lib.templateText (body.find "city")
  return brand ++ "-" ++ model ++ "-" ++ city

def CarsController.create : Except ListingError (List Listing × Listing) :=
  createListing lib ⟨carColumns, db.insertCar, db.updateCar⟩
    (CarsController.slugText lib body) "AVAILABLE" "MAINTENANCE" body user now newId rows

end Endpoints

/-! ## Insert only -/

/-- All rows are as before, and one of the user's is added under an id that was free. -/
def InsertOnly (userId : UserId) (rows rows' : List Listing) : Prop :=
  ∃ row, rows'.Perm (row :: rows) ∧ row.ownerId = userId ∧ row.id ∉ rows.map Listing.id

/-- The body carries the id of a row. -/
def NamesRow (body : Dict String Json) (rows : List Listing) : Prop :=
  ∃ row ∈ rows, body.find "id" = some (.str row.id)

section InsertOnly

variable {lib : ListingLib} {table : ListingTable} {rows : List Listing}
  {saved : List Listing × Listing}

/-- An update adds no row. -/
theorem length_updateListing {row : Listing} {entity : NewListing}
    (h : updateListing table rows row entity = some saved) :
    saved.1.length = rows.length := by
  rw [updateListing, Option.ite_none_left_eq_some, Option.map_eq_some_iff] at h
  obtain ⟨-, columns, -, rfl⟩ := h
  exact List.length_map ..

/-- An insert adds the row of the entity, under an id that was free. -/
theorem insertOnly_insertListing {newId : ResourceId} {entity : NewListing}
    (h : insertListing lib table newId rows entity = some saved) :
    InsertOnly entity.ownerId rows saved.1 := by
  rw [insertListing, Option.bind_eq_bind, Option.bind_eq_some_iff] at h
  obtain ⟨id, -, hrow⟩ := h
  rw [Option.ite_none_left_eq_some, Option.map_eq_some_iff] at hrow
  obtain ⟨hunique, columns, -, rfl⟩ := hrow
  refine ⟨_, List.perm_append_singleton _ rows, rfl, fun hmem => hunique ?_⟩
  obtain ⟨other, hother, hid⟩ := List.mem_map.mp hmem
  exact List.any_eq_true.mpr ⟨other, hother, by simp [hid]⟩

theorem savedTo_createEntity_eq_none_iff (table : ListingTable) (body : Dict String Json)
    (ownerId : UserId) (slug status : String) :
    (createEntity table body ownerId slug status).savedTo rows = none ↔
      ¬ NamesRow body rows := by
  simp [NewListing.savedTo, createEntity, NamesRow, List.find?_eq_none, Option.filter_eq_some_iff]

/-- What is saved is only inserted exactly if the entity does not carry the id of a row. -/
theorem insertOnly_saveListing_iff {newId : ResourceId} {entity : NewListing}
    (h : saveListing lib table newId rows entity = some saved) :
    InsertOnly entity.ownerId rows saved.1 ↔ entity.savedTo rows = none := by
  unfold saveListing at h
  cases hrow : entity.savedTo rows with
  | none =>
      rw [hrow] at h
      exact iff_of_true (insertOnly_insertListing h) rfl
  | some row =>
      rw [hrow] at h
      -- An update leaves the number of rows, an insertion does not.
      refine iff_of_false ?_ (Option.some_ne_none row)
      rintro ⟨added, hperm, -⟩
      have hlength := hperm.length_eq
      rw [length_updateListing h, List.length_cons] at hlength
      omega

theorem insertOnly_createListing_iff {slugText : Option String}
    {adminStatus ownerStatus : String} {body : Dict String Json} {user : CurrentUser} {now : ℕ}
    {newId : ResourceId}
    (h : createListing lib table slugText adminStatus ownerStatus body user now newId rows =
      .ok saved) :
    InsertOnly user.id rows saved.1 ↔ ¬ NamesRow body rows := by
  cases slugText with
  | none => cases h
  | some text =>
      simp only [createListing] at h
      generalize (if user.role = .admin then adminStatus else ownerStatus) = status at h
      cases hsaved : saveListing lib table newId rows
          (createEntity table body user.id (slugOf lib text now) status) with
      | none =>
          rw [hsaved] at h
          cases h
      | some saved' =>
          rw [hsaved] at h
          obtain rfl := Except.ok.inj h
          exact (insertOnly_saveListing_iff hsaved).trans
            (savedTo_createEntity_eq_none_iff table body user.id _ status)

end InsertOnly

/-- **Insert only.**  When one of the two endpoints succeeds, it has left all rows as they
were and added one of the caller's, exactly if the body did not carry the id of a row. -/
theorem listing_creation_insert_only_iff (lib : ListingLib) (db : ListingDatabase)
    (body : Dict String Json) (user : CurrentUser) (now : ℕ) (newId : ResourceId)
    (rows : List Listing) :
    (∀ rows' row, PropertiesController.create lib db body user now newId rows = .ok (rows', row) →
      (InsertOnly user.id rows rows' ↔ ¬ NamesRow body rows)) ∧
    ∀ rows' row, CarsController.create lib db body user now newId rows = .ok (rows', row) →
      (InsertOnly user.id rows rows' ↔ ¬ NamesRow body rows) := by
  constructor
  · intro rows' row h
    exact insertOnly_createListing_iff h
  · intro rows' row h
    exact insertOnly_createListing_iff h

namespace Demo

/-- Texts without accents, and columns that take everything. -/
def plainTexts : ListingLib where
  toLowerCase := String.toLower
  normalizeNfd := id
  templateText
    | some (.str s) => some s
    | _ => some "undefined"
  uuid
    | .str s => some s
    | _ => none

def anyColumns : ListingDatabase where
  insertProperty := some
  updateProperty row new := some (row.assignAll new)
  insertCar := some
  updateCar row new := some (row.assignAll new)

/-- The house of owner 3, which is on offer. -/
def ownedVilla : Listing := ⟨"villa", 3, "villa-1", "PUBLISHED", [("title", .str "Villa")]⟩

/-- The car of owner 6, which is on offer. -/
def ownedJeep : Listing := ⟨"jeep", 6, "jeep-1", "AVAILABLE", [("brand", .str "Jeep")]⟩

end Demo

/-- **Taken over.**  Owner 4 posts a house with the id of a house of owner 3 and has it;
the same for a car. -/
theorem listing_taken_over :
    PropertiesController.create Demo.plainTexts Demo.anyColumns
        [("id", .str "villa"), ("title", .str "Mine")] ⟨4, .owner⟩ 36 "new" [Demo.ownedVilla] =
      .ok ([⟨"villa", 4, "mine-10", "DRAFT", [("title", .str "Mine")]⟩],
        ⟨"villa", 4, "mine-10", "DRAFT", [("title", .str "Mine")]⟩) ∧
    CarsController.create Demo.plainTexts Demo.anyColumns [("id", .str "jeep")] ⟨4, .owner⟩ 36
        "new" [Demo.ownedJeep] =
      .ok ([⟨"jeep", 4, "undefined-undefined-undefined-10", "MAINTENANCE",
          [("brand", .str "Jeep")]⟩],
        ⟨"jeep", 4, "undefined-undefined-undefined-10", "MAINTENANCE",
          [("brand", .str "Jeep")]⟩) := by
  decide +kernel

end StayRide
