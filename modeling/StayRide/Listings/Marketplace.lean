import StayRide.Auth.Api
import StayRide.Listings.Catalogue

/-!
# The marketplace

The listings beside the accounts: owners and administrators create listings, and administrators
set their status.  Both endpoints are behind the guards, and the accounts change in between.
Requests come in any order, from anybody, and the body of a new listing is any JSON object.

* What visitors are shown by a search or among the featured listings is, to the last column, as
  an administrator left it (`shown_as_admin_left_it`).  An owner who saves over a listing, be it
  the listing of somebody else, takes it off the market.
* Every listing can be opened: the routes lead the paths of its slug and its id to the two
  lookups, which return this listing (`listings_opened`).  A slug is never the name of another
  route, and no two listings have the same.
-/

namespace StayRide

open Lib

/-! ## Tables -/

inductive ListingKind
  | property | car
  deriving DecidableEq

/-- The status of a listing that is offered. -/
def ListingKind.offered : ListingKind → String
  | .property => "PUBLISHED"
  | .car => "AVAILABLE"

def ListingKind.table (db : ListingDatabase) : ListingKind → ListingTable
  | .property => ⟨propertyColumns, db.insertProperty, db.updateProperty⟩
  | .car => ⟨carColumns, db.insertCar, db.updateCar⟩

/-- The accounts and the two tables of listings. -/
structure Marketplace where
  site : Site
  properties : List Listing
  cars : List Listing

namespace Marketplace

def rows (market : Marketplace) : ListingKind → List Listing
  | .property => market.properties
  | .car => market.cars

def setRows (market : Marketplace) (rows : List Listing) : ListingKind → Marketplace
  | .property => { market with properties := rows }
  | .car => { market with cars := rows }

theorem rows_setRows (market : Marketplace) (rows : List Listing) (kind kind' : ListingKind) :
    (market.setRows rows kind).rows kind' = if kind' = kind then rows else market.rows kind' := by
  cases kind <;> cases kind' <;> rfl

end Marketplace

/-! ## Endpoints -/

inductive ListingEndpoint
  /-- `newId` is the id that the database would give. -/
  | create (body : Dict String Json) (newId : ResourceId)
  | updateStatus (id : String) (status : Option String)

def ListingEndpoint.roles : ListingEndpoint → List UserRole
  | .create _ _ => [.owner, .admin]
  | .updateStatus _ _ => [.admin]

/-- `updateStatus` of both controllers: `repository.update(id, { status })`.  TypeORM refuses
an update that sets nothing, and PostgreSQL an id that is no `uuid`; an id without a row is no
error. -/
def updateListingStatus (lib : ListingLib) (table : ListingTable) (id : String)
    (status : Option String) (rows : List Listing) : Option (List Listing) := do
  let id ← lib.uuid (.str id)
  let status ← status
  match rows.find? fun row => row.id = id with
  | none => some rows
  | some row => do
      -- No column is given, but the time of the update changes.
      let columns ← table.updateColumns row.columns []
      return replaceByKey Listing.id rows { row with status := status, columns := columns }

inductive ListingReply
  | created (row : Listing)
  | success

section Handlers

variable (lib : ListingLib) (db : ListingDatabase)

def createIn (kind : ListingKind) (body : Dict String Json) (user : CurrentUser) (now : ℕ)
    (newId : ResourceId) (rows : List Listing) : Except ListingError (List Listing × Listing) :=
  match kind with
  | .property => PropertiesController.create lib db body user now newId rows
  | .car => CarsController.create lib db body user now newId rows

def handleListing (kind : ListingKind) (now : Time) (user : RequestUser) (rows : List Listing) :
    ListingEndpoint → Except ListingError (ListingReply × List Listing)
  | .create body newId =>
      match createIn lib db kind body ⟨user.id, user.role⟩ now.toNat newId rows with
      | .error e => .error e
      | .ok saved => .ok (.created saved.2, saved.1)
  | .updateStatus id status =>
      match updateListingStatus lib (kind.table db) id status rows with
      | none => .error .queryFailed
      | some rows' => .ok (.success, rows')

end Handlers

structure ListingRequest where
  now : Time
  bearer : Option AccessToken
  kind : ListingKind
  endpoint : ListingEndpoint

inductive MarketRequest
  | account (r : ApiRequest)
  | listing (r : ListingRequest)

inductive MarketError
  | http (e : HttpException)
  | listing (e : ListingError)

/-- What the marketplace is built from. -/
structure MarketLib where
  auth : AuthLib
  jwt : JwtLib
  listing : ListingLib
  db : ListingDatabase

section Serve

variable (lib : MarketLib)

/-- A request about a listing: the guards, then the handler. -/
def serveListing (market : Marketplace) (r : ListingRequest) :
    Except MarketError ListingReply × Marketplace :=
  match letPass lib.jwt market.site r.now r.bearer r.endpoint.roles with
  | .error e => (.error (.http e), market)
  | .ok user =>
      match handleListing lib.listing lib.db r.kind r.now user (market.rows r.kind) r.endpoint with
      | .error e => (.error (.listing e), market)
      | .ok (reply, rows) => (.ok reply, market.setRows rows r.kind)

def serveMarket (market : Marketplace) : MarketRequest → Marketplace
  | .account r => { market with site := (serve lib.auth lib.jwt market.site r).2 }
  | .listing r => (serveListing lib market r).2

def marketAfter (market : Marketplace) (rs : List MarketRequest) : Marketplace :=
  Final (serveMarket lib) market rs

end Serve

/-! ## What is saved -/

/-- One row is saved: added under a free id and with a free slug, or written over the row with
its id, while no other row has its slug. -/
inductive Saved (rows : List Listing) (saved : Listing) : List Listing → Prop
  | inserted (hid : saved.id ∉ rows.map Listing.id) (hslug : saved.slug ∉ rows.map Listing.slug) :
      Saved rows saved (rows ++ [saved])
  | updated (hid : saved.id ∈ rows.map Listing.id)
      (hslug : ∀ other ∈ rows, other.id ≠ saved.id → other.slug ≠ saved.slug) :
      Saved rows saved (replaceByKey Listing.id rows saved)

section Saved

variable {rows rows' : List Listing} {saved : Listing}

theorem Saved.mem_self (h : Saved rows saved rows') : saved ∈ rows' := by
  cases h with
  | inserted => exact List.mem_append_right _ List.mem_cons_self
  | updated hid _ => exact mem_replaceByKey_self hid

/-- Rows besides the saved one were there before. -/
theorem Saved.eq_or_mem (h : Saved rows saved rows') {row : Listing} (hrow : row ∈ rows') :
    row = saved ∨ row ∈ rows := by
  cases h with
  | inserted => exact (List.mem_append.mp hrow).symm.imp_left List.mem_singleton.mp
  | updated => exact mem_of_mem_replaceByKey hrow

variable {lib : ListingLib} {table : ListingTable} {newId : ResourceId} {entity : NewListing}

/-- Where the id of a saved row comes from. -/
def GivenId (lib : ListingLib) (newId id : ResourceId) (rows : List Listing) : Prop :=
  id ∈ rows.map Listing.id ∨ id = newId ∨ ∃ value, lib.uuid value = some id

/-- **What `save` does.** -/
theorem saved_of_saveListing {result : List Listing × Listing}
    (h : saveListing lib table newId rows entity = some result) :
    Saved rows result.2 result.1 ∧ result.2.slug = entity.slug ∧
      result.2.status = entity.status ∧ GivenId lib newId result.2.id rows := by
  unfold saveListing at h
  cases hrow : entity.savedTo rows with
  | some row =>
      have hmem : row.id ∈ rows.map Listing.id :=
        List.mem_map_of_mem (List.mem_of_find?_eq_some hrow)
      rw [hrow] at h
      simp only [updateListing] at h
      rw [Option.ite_none_left_eq_some, Option.map_eq_some_iff] at h
      obtain ⟨hunique, columns, -, rfl⟩ := h
      refine ⟨.updated hmem fun other hother hid hslug => hunique ?_, rfl, rfl, .inl hmem⟩
      exact List.any_eq_true.mpr ⟨other, hother, by simp [hid, hslug]⟩
  | none =>
      rw [hrow] at h
      simp only [insertListing] at h
      rw [Option.bind_eq_bind, Option.bind_eq_some_iff] at h
      obtain ⟨id, hid, h⟩ := h
      rw [Option.ite_none_left_eq_some, Option.map_eq_some_iff] at h
      obtain ⟨hunique, columns, -, rfl⟩ := h
      have hfree : ∀ other ∈ rows, ¬ (other.id = id ∨ other.slug = entity.slug) := by
        intro other hother hsame
        exact hunique (List.any_eq_true.mpr ⟨other, hother, by simpa using hsame⟩)
      refine ⟨.inserted ?_ ?_, rfl, rfl, .inr ?_⟩
      · rintro hmem
        obtain ⟨other, hother, hsame⟩ := List.mem_map.mp hmem
        exact hfree other hother (.inl hsame)
      · rintro hmem
        obtain ⟨other, hother, hsame⟩ := List.mem_map.mp hmem
        exact hfree other hother (.inr hsame)
      · cases hgiven : entity.id with
        | none =>
            rw [hgiven] at hid
            exact .inl (Option.some.inj hid).symm
        | some value =>
            rw [hgiven] at hid
            exact .inr ⟨value, hid⟩

theorem saved_of_createListing {slugText : Option String} {adminStatus ownerStatus : String}
    {body : Dict String Json} {user : CurrentUser} {now : ℕ} {result : List Listing × Listing}
    (h : createListing lib table slugText adminStatus ownerStatus body user now newId rows =
      .ok result) :
    Saved rows result.2 result.1 ∧ (∃ text, result.2.slug = slugOf lib text now) ∧
      result.2.status = (if user.role = .admin then adminStatus else ownerStatus) ∧
      GivenId lib newId result.2.id rows := by
  cases slugText with
  | none => cases h
  | some text =>
      simp only [createListing] at h
      split at h
      · cases h
      · next saved hsaved =>
          obtain rfl := Except.ok.inj h
          obtain ⟨hrows, hslug, hstatus, hid⟩ := saved_of_saveListing hsaved
          exact ⟨hrows, ⟨text, hslug⟩, hstatus, hid⟩

/-- A new listing is offered only if an administrator has created it. -/
theorem saved_of_createIn {db : ListingDatabase} {kind : ListingKind} {body : Dict String Json}
    {user : CurrentUser} {now : ℕ} {result : List Listing × Listing}
    (h : createIn lib db kind body user now newId rows = .ok result) :
    Saved rows result.2 result.1 ∧ (∃ text, result.2.slug = slugOf lib text now) ∧
      (result.2.status = kind.offered → user.role = .admin) ∧
      GivenId lib newId result.2.id rows := by
  cases kind with
  | property | car =>
      obtain ⟨hrows, hslug, hstatus, hid⟩ := saved_of_createListing h
      refine ⟨hrows, hslug, fun hoffered => ?_, hid⟩
      by_contra hrole
      rw [hstatus, if_neg hrole] at hoffered
      exact absurd hoffered (by decide)

/-- A change of status leaves the table, or saves a row with another status. -/
theorem updateListingStatus_eq_some {id : String} {status : Option String}
    (h : updateListingStatus lib table id status rows = some rows') :
    rows' = rows ∨ ∃ row ∈ rows, ∃ saved : Listing, saved.id = row.id ∧ saved.slug = row.slug ∧
      rows' = replaceByKey Listing.id rows saved := by
  obtain ⟨id, -, h⟩ := Option.bind_eq_some_iff.mp h
  obtain ⟨status, -, h⟩ := Option.bind_eq_some_iff.mp h
  split at h
  · exact .inl (Option.some.inj h).symm
  · next row hrow =>
      obtain ⟨columns, -, h⟩ := Option.bind_eq_some_iff.mp h
      exact .inr ⟨row, List.mem_of_find?_eq_some hrow,
        { row with status := status, columns := columns }, rfl, rfl, (Option.some.inj h).symm⟩

end Saved

/-! ## Who puts listings on the market -/

section Offers

variable {lib : MarketLib} {market : Marketplace} {kind : ListingKind}

/-- What a request about a listing has done, if it was let pass and did not fail. -/
theorem serveListing_cases (lib : MarketLib) (market : Marketplace) (r : ListingRequest) :
    (serveListing lib market r).2 = market ∨
      ∃ user reply rows,
        letPass lib.jwt market.site r.now r.bearer r.endpoint.roles = .ok user ∧
        handleListing lib.listing lib.db r.kind r.now user (market.rows r.kind) r.endpoint =
          .ok (reply, rows) ∧
        serveListing lib market r = (.ok reply, market.setRows rows r.kind) := by
  unfold serveListing
  split
  · exact .inl rfl
  · next user hpass =>
      split
      · exact .inl rfl
      · next reply rows hhandle => exact .inr ⟨user, reply, rows, hpass, hhandle, rfl⟩

/-- A listing that a handler puts on the market is put there for an administrator. -/
theorem role_of_handleListing {now : Time} {user : RequestUser} {rows rows' : List Listing}
    {endpoint : ListingEndpoint} {reply : ListingReply} {site : Site}
    {bearer : Option AccessToken}
    (hpass : letPass lib.jwt site now bearer endpoint.roles = .ok user)
    (h : handleListing lib.listing lib.db kind now user rows endpoint = .ok (reply, rows'))
    {row : Listing} (hrow : row ∈ rows') (hoffered : row.status = kind.offered)
    (hnew : row ∉ rows) : user.role = .admin := by
  cases endpoint with
  | create body newId =>
      simp only [handleListing] at h
      split at h
      · cases h
      · next saved hsaved =>
          obtain ⟨-, rfl⟩ := Prod.mk.inj (Except.ok.inj h)
          obtain ⟨hrows, -, hadmin, -⟩ := saved_of_createIn hsaved
          rcases hrows.eq_or_mem hrow with rfl | hold
          · exact hadmin hoffered
          · exact absurd hold hnew
  | updateStatus id status =>
      rcases (letPass_eq_ok hpass).2 with hnone | hadmin | hmem
      · cases hnone
      · exact hadmin
      · exact List.mem_singleton.mp hmem

/-- What a step puts on the market is put there in a request of an administrator. -/
theorem admin_of_serveMarket {r : MarketRequest} {row : Listing}
    (hrow : row ∈ (serveMarket lib market r).rows kind) (hoffered : row.status = kind.offered)
    (hnew : row ∉ market.rows kind) :
    ∃ request user, r = .listing request ∧ request.kind = kind ∧
      letPass lib.jwt market.site request.now request.bearer request.endpoint.roles = .ok user ∧
      user.role = .admin := by
  cases r with
  | account r => exact absurd (by cases kind <;> exact hrow) hnew
  | listing request =>
      simp only [serveMarket] at hrow
      rcases serveListing_cases lib market request with
        hsame | ⟨user, reply, rows, hpass, hhandle, hserve⟩
      · rw [hsame] at hrow
        exact absurd hrow hnew
      · rw [hserve, Marketplace.rows_setRows] at hrow
        split at hrow
        · next hkind =>
            subst hkind
            exact ⟨request, user, rfl, rfl, hpass,
              role_of_handleListing hpass hhandle hrow hoffered hnew⟩
        · exact absurd hrow hnew

end Offers

/-- The listing is on some page of a search, or among the featured ones. -/
def ListingKind.Shows (pg : CatalogueLib) (rows : List Listing) (row : Listing) :
    ListingKind → Prop
  | .property =>
      (∃ query found, PropertiesController.search pg query rows = some found ∧
        row ∈ found.data) ∨ row ∈ PropertiesController.getFeatured rows
  | .car =>
      (∃ query found, CarsController.search pg query rows = some found ∧ row ∈ found.data) ∨
        row ∈ CarsController.getFeatured rows

theorem ListingKind.Shows.offered {pg : CatalogueLib} {rows : List Listing} {row : Listing}
    {kind : ListingKind} (h : kind.Shows pg rows row) :
    row ∈ rows ∧ row.status = kind.offered := by
  cases kind with
  | property | car =>
      rcases h with ⟨query, found, hfound, hrow⟩ | hfeatured
      · exact mem_of_searchListings hfound hrow
      · exact mem_of_featuredListings hfeatured

/-- **Shown as an administrator left it.**  If a listing is shown to visitors after the requests
`rs`, and nothing was offered before them, then one of them, of somebody who was an active
administrator when it was served, has left the listing as it is shown, in every column; and it
was not changed since. -/
theorem shown_as_admin_left_it (lib : MarketLib) (pg : CatalogueLib) {market : Marketplace}
    (hstart : ∀ kind : ListingKind, ∀ row ∈ market.rows kind, row.status ≠ kind.offered)
    (rs : List MarketRequest) {kind : ListingKind} {row : Listing}
    (hshown : kind.Shows pg ((marketAfter lib market rs).rows kind) row) :
    ∃ before request after admin, rs = before ++ .listing request :: after ∧
      request.kind = kind ∧
      letPass lib.jwt (marketAfter lib market before).site request.now request.bearer
        request.endpoint.roles = .ok admin ∧
      standingIn (marketAfter lib market before).site.store.users admin.id = (.admin, true) ∧
      row ∉ (marketAfter lib market before).rows kind ∧
      ∀ later, later <+: after →
        row ∈ (marketAfter lib market (before ++ .listing request :: later)).rows kind := by
  obtain ⟨hrow, hoffered⟩ := hshown.offered
  have hnotyet : ¬ row ∈ market.rows kind := fun hmem => hstart kind row hmem hoffered
  obtain ⟨before, r, after, rfl, hnew, hsince⟩ :=
    exists_last_step (P := fun market : Marketplace => row ∈ market.rows kind) hnotyet hrow
  have hstep := hsince [] List.nil_prefix
  rw [final_append] at hstep
  obtain ⟨request, admin, rfl, hkind, hpass, hadmin⟩ := admin_of_serveMarket hstep hoffered hnew
  exact ⟨before, request, after, admin, rfl, hkind, hpass, hadmin ▸ standingIn_of_letPass hpass,
    hnew, hsince⟩

/-! ## Slugs -/

def isSlugChar (c : Char) : Bool :=
  ('a' ≤ c && c ≤ 'z') || ('0' ≤ c && c ≤ '9') || c = '-'

section Slugs

theorem isSlugChar_hyphenate (cs : List Char) : ∀ c ∈ hyphenate cs, isSlugChar c = true := by
  induction cs with
  | nil => exact fun _ h => (List.not_mem_nil h).elim
  | cons d cs ih =>
      intro c hc
      rw [hyphenate] at hc
      split at hc
      · next hd =>
          rcases List.mem_cons.mp hc with rfl | hc
          · rcases hd with hd | hd <;> simp [isSlugChar, hd]
          · exact ih c hc
      · split at hc
        · next rest hrest => exact ih c (hrest ▸ hc)
        · rcases List.mem_cons.mp hc with rfl | hc
          · rfl
          · exact ih c hc

theorem mem_of_mem_trimHyphens {cs : List Char} {c : Char} (h : c ∈ trimHyphens cs) : c ∈ cs := by
  have hhead : c ∈ (if cs.head? = some '-' then cs.tail else cs) → c ∈ cs := by
    intro hc
    split at hc
    · exact List.mem_of_mem_tail hc
    · exact hc
  have hlast : ∀ ds : List Char,
      c ∈ (if ds.getLast? = some '-' then ds.dropLast else ds) → c ∈ ds := by
    intro ds hc
    split at hc
    · exact List.mem_of_mem_dropLast hc
    · exact hc
  exact hhead (hlast _ h)

theorem isSlugChar_base36 (n : ℕ) : ∀ c ∈ (base36 n).toList, isSlugChar c = true := by
  have hall : ("0123456789abcdefghijklmnopqrstuvwxyz".toList.all isSlugChar) = true := by
    decide +kernel
  intro c hc
  rw [base36, String.toList_ofList] at hc
  obtain ⟨d, -, rfl⟩ := List.mem_map.mp hc
  rw [List.getD_eq_getElem?_getD]
  cases hdigit : "0123456789abcdefghijklmnopqrstuvwxyz".toList[d]? with
  | none => rfl
  | some digit => exact List.all_eq_true.mp hall digit (List.mem_of_getElem? hdigit)

/-- A slug has the letters, digits and hyphens of a path, and one hyphen at least. -/
theorem slugOf_chars (lib : ListingLib) (text : String) (now : ℕ) :
    (∀ c ∈ (slugOf lib text now).toList, isSlugChar c = true) ∧
      '-' ∈ (slugOf lib text now).toList := by
  simp only [slugOf, String.toList_append, String.toList_ofList]
  refine ⟨fun c hc => ?_, by simp⟩
  rcases List.mem_append.mp hc with hc | hc
  · rcases List.mem_append.mp hc with hc | hc
    · exact isSlugChar_hyphenate _ c (mem_of_mem_trimHyphens hc)
    · obtain rfl := List.mem_singleton.mp hc
      rfl
  · exact isSlugChar_base36 now c hc

end Slugs

/-! ## Routes -/

inductive PathPart
  | text (s : String)
  | param
  deriving DecidableEq

/-- Whether a route matches the parts of a path; a parameter is not empty. -/
def matchesPath : List PathPart → List String → Bool
  | [], [] => true
  | .text s :: parts, part :: path => s = part && matchesPath parts path
  | .param :: parts, part :: path => part ≠ "" && matchesPath parts path
  | _, _ => false

/-- The handlers of `GET`. -/
inductive ListingPage
  | search | featured | citiesStats | neighborhoodsStats | byId | unavailableDates | adminAll
  | bySlug
  deriving DecidableEq

/-- The routes of `GET`, in the order of the controllers. -/
def ListingKind.getRoutes : ListingKind → List (List PathPart × ListingPage)
  | .property =>
      [([], .search),
        ([.text "featured"], .featured),
        ([.text "cities", .text "stats"], .citiesStats),
        ([.text "neighborhoods", .text "stats"], .neighborhoodsStats),
        ([.text "by-id", .param], .byId),
        ([.param, .text "unavailable-dates"], .unavailableDates),
        ([.text "admin", .text "all"], .adminAll),
        ([.param], .bySlug)]
  | .car =>
      [([], .search),
        ([.text "featured"], .featured),
        ([.text "by-id", .param], .byId),
        ([.text "admin", .text "all"], .adminAll),
        ([.param], .bySlug)]

/-- The first route that matches is taken. -/
def ListingKind.dispatch (kind : ListingKind) (path : List String) : Option ListingPage :=
  (kind.getRoutes.find? fun route => matchesPath route.1 path).map Prod.snd

/-- `getOne` of both controllers. -/
def getOne (slug : String) (rows : List Listing) : Option Listing :=
  rows.find? fun row => row.slug = slug

/-- `getById` of both controllers; `none` when the database refuses the id. -/
def getById (lib : ListingLib) (id : String) (rows : List Listing) : Option (Option Listing) :=
  (lib.uuid (.str id)).map fun id => rows.find? fun row => row.id = id

/-- A path of one part that is no route of its own is a slug. -/
theorem dispatch_slug (kind : ListingKind) {slug : String} (hslug : '-' ∈ slug.toList) :
    kind.dispatch [slug] = some .bySlug := by
  have hempty : slug ≠ "" := by
    rintro rfl
    exact absurd hslug (by decide +kernel)
  have hfeatured : "featured" ≠ slug := by
    rintro rfl
    exact absurd hslug (by decide +kernel)
  cases kind <;>
    simp [ListingKind.dispatch, ListingKind.getRoutes, matchesPath, hempty, hfeatured]

theorem dispatch_byId (kind : ListingKind) {id : String} (hid : id ≠ "") :
    kind.dispatch ["by-id", id] = some .byId := by
  cases kind <;> simp [ListingKind.dispatch, ListingKind.getRoutes, matchesPath, hid]

/-! ## Listings can be opened -/

/-- The ids that the database writes: it reads them back as they are. -/
structure ListingLib.Canonical (lib : ListingLib) : Prop where
  reads_back : ∀ value id, lib.uuid value = some id → lib.uuid (.str id) = some id
  refuses_empty : lib.uuid (.str "") = none

/-- Ids and slugs are unique, ids are as the database writes them, and slugs are paths. -/
structure WellKept (lib : ListingLib) (rows : List Listing) : Prop where
  ids : (rows.map Listing.id).Nodup
  slugs : (rows.map Listing.slug).Nodup
  canonical : ∀ row ∈ rows, lib.uuid (.str row.id) = some row.id
  isPath : ∀ row ∈ rows, (∀ c ∈ row.slug.toList, isSlugChar c = true) ∧ '-' ∈ row.slug.toList

section Opened

variable {lib : ListingLib} {rows rows' : List Listing}

theorem WellKept.of_saved (hkept : WellKept lib rows) {saved : Listing}
    (h : Saved rows saved rows') (hid : lib.uuid (.str saved.id) = some saved.id)
    (hpath : (∀ c ∈ saved.slug.toList, isSlugChar c = true) ∧ '-' ∈ saved.slug.toList) :
    WellKept lib rows' := by
  have hmem : ∀ row ∈ rows', row = saved ∨ row ∈ rows := fun row => h.eq_or_mem
  refine ⟨?_, ?_, fun row hrow => ?_, fun row hrow => ?_⟩
  · cases h with
    | inserted hfree _ =>
        rw [List.map_append]
        exact hkept.ids.append (List.nodup_singleton _) (List.disjoint_singleton.mpr hfree)
    | updated =>
        rw [map_key_replaceByKey]
        exact hkept.ids
  · cases h with
    | inserted _ hfree =>
        rw [List.map_append]
        exact hkept.slugs.append (List.nodup_singleton _) (List.disjoint_singleton.mpr hfree)
    | updated _ hfree => exact nodup_map_replaceByKey hkept.ids hkept.slugs hfree
  · rcases hmem row hrow with rfl | hold
    · exact hid
    · exact hkept.canonical row hold
  · rcases hmem row hrow with rfl | hold
    · exact hpath
    · exact hkept.isPath row hold

/-- Another status of a row saves it under the same id and slug. -/
theorem WellKept.saved_of_replaceByKey (hkept : WellKept lib rows) {row saved : Listing}
    (hrow : row ∈ rows) (hid : saved.id = row.id) (hslug : saved.slug = row.slug) :
    Saved rows saved (replaceByKey Listing.id rows saved) := by
  refine .updated (hid ▸ List.mem_map_of_mem hrow) fun other hother hne hsame => hne ?_
  rw [hid, List.inj_on_of_nodup_map hkept.slugs hother hrow (hsame.trans hslug)]

/-- The handlers keep the tables well. -/
theorem WellKept.handleListing {db : ListingDatabase} {kind : ListingKind} {now : Time}
    {user : RequestUser} {endpoint : ListingEndpoint} {reply : ListingReply}
    (hlib : lib.Canonical) (hkept : WellKept lib rows)
    (hnew : ∀ body newId, endpoint = .create body newId → lib.uuid (.str newId) = some newId)
    (h : handleListing lib db kind now user rows endpoint = .ok (reply, rows')) :
    WellKept lib rows' := by
  cases endpoint with
  | create body newId =>
      simp only [StayRide.handleListing] at h
      split at h
      · cases h
      · next saved hsaved =>
          obtain ⟨-, rfl⟩ := Prod.mk.inj (Except.ok.inj h)
          obtain ⟨hrows, ⟨text, hslug⟩, -, hid⟩ := saved_of_createIn hsaved
          refine hkept.of_saved hrows ?_ (hslug ▸ slugOf_chars lib text _)
          rcases hid with hmem | hnewId | ⟨value, hvalue⟩
          · obtain ⟨row, hrow, hsame⟩ := List.mem_map.mp hmem
            exact hsame ▸ hkept.canonical row hrow
          · exact hnewId ▸ hnew body newId rfl
          · exact hlib.reads_back value _ hvalue
  | updateStatus id status =>
      simp only [StayRide.handleListing] at h
      split at h
      · cases h
      · next rows'' hupdate =>
          obtain ⟨-, rfl⟩ := Prod.mk.inj (Except.ok.inj h)
          rcases updateListingStatus_eq_some hupdate with
            rfl | ⟨row, hrow, saved, hid, hslug, rfl⟩
          · exact hkept
          · exact hkept.of_saved (hkept.saved_of_replaceByKey hrow hid hslug)
              (hid ▸ hkept.canonical row hrow) (hslug ▸ hkept.isPath row hrow)

end Opened

/-- The database gives ids as it writes them. -/
def MarketRequest.GivesId (lib : ListingLib) : MarketRequest → Prop
  | .account _ => True
  | .listing r => ∀ body newId, r.endpoint = .create body newId →
      lib.uuid (.str newId) = some newId

theorem wellKept_serveMarket {lib : MarketLib} (hlib : lib.listing.Canonical)
    {market : Marketplace} {r : MarketRequest} (hgives : r.GivesId lib.listing)
    (h : ∀ kind, WellKept lib.listing (market.rows kind)) (kind : ListingKind) :
    WellKept lib.listing ((serveMarket lib market r).rows kind) := by
  cases r with
  | account r =>
      cases kind with
      | property => exact h .property
      | car => exact h .car
  | listing request =>
      simp only [serveMarket]
      rcases serveListing_cases lib market request with
        hsame | ⟨user, reply, rows, -, hhandle, hserve⟩
      · rw [hsame]
        exact h kind
      · rw [hserve, Marketplace.rows_setRows]
        split
        · exact (h request.kind).handleListing hlib hgives hhandle
        · exact h kind

theorem wellKept_marketAfter {lib : MarketLib} (hlib : lib.listing.Canonical)
    {market : Marketplace} (hstart : ∀ kind, market.rows kind = []) {rs : List MarketRequest}
    (hrs : ∀ r ∈ rs, r.GivesId lib.listing) (kind : ListingKind) :
    WellKept lib.listing ((marketAfter lib market rs).rows kind) := by
  have hempty : WellKept lib.listing [] :=
    ⟨List.nodup_nil, List.nodup_nil, fun _ h => (List.not_mem_nil h).elim,
      fun _ h => (List.not_mem_nil h).elim⟩
  have hkept : ∀ kind, WellKept lib.listing (market.rows kind) := by
    intro kind
    rw [hstart kind]
    exact hempty
  have hfree : Guarded (serveMarket lib) (fun _ _ => True) market rs := guarded_true market rs
  have hguarded := hfree.and_labels hrs
  exact (Guarded.along (I := fun market : Marketplace => ∀ kind,
    WellKept lib.listing (market.rows kind))
      (fun _ _ hkept hgives => wellKept_serveMarket hlib hgives.1 hkept) hkept hguarded).last kind

/-- What a request to create a listing returns is in the table after it. -/
theorem mem_of_created {lib : MarketLib} {market : Marketplace} {r : ListingRequest}
    {row : Listing} (h : (serveListing lib market r).1 = .ok (.created row)) :
    row ∈ (serveListing lib market r).2.rows r.kind := by
  unfold serveListing at h ⊢
  split at h
  · cases h
  · next user hpass =>
      split at h
      · cases h
      · next reply rows hhandle =>
          obtain rfl := Except.ok.inj h
          rw [Marketplace.rows_setRows, if_pos rfl]
          cases hendpoint : r.endpoint with
          | create body newId =>
              rw [hendpoint] at hhandle
              simp only [handleListing] at hhandle
              split at hhandle
              · cases hhandle
              · next saved hsaved =>
                  obtain ⟨hreply, rfl⟩ := Prod.mk.inj (Except.ok.inj hhandle)
                  obtain rfl := ListingReply.created.inj hreply
                  exact (saved_of_createIn hsaved).1.mem_self
          | updateStatus id status =>
              rw [hendpoint] at hhandle
              simp only [handleListing] at hhandle
              split at hhandle
              · cases hhandle
              · cases hhandle

/-- **Listings can be opened.**  After any requests, the path of the slug of a listing and the
path of its id lead to the lookup by slug and the lookup by id, and both return this listing.
The slug is written as it is, in letters, digits and hyphens.  A listing that was just created
is one of them. -/
theorem listings_opened (lib : MarketLib) (hlib : lib.listing.Canonical) {market : Marketplace}
    (hstart : ∀ kind, market.rows kind = []) (rs : List MarketRequest)
    (hrs : ∀ r ∈ rs, r.GivesId lib.listing) (kind : ListingKind) :
    (∀ row ∈ (marketAfter lib market rs).rows kind,
      (∀ c ∈ row.slug.toList, isSlugChar c = true) ∧
      kind.dispatch [row.slug] = some .bySlug ∧
      getOne row.slug ((marketAfter lib market rs).rows kind) = some row ∧
      kind.dispatch ["by-id", row.id] = some .byId ∧
      getById lib.listing row.id ((marketAfter lib market rs).rows kind) = some (some row)) ∧
    ∀ before request row, rs = before ++ [.listing request] → request.kind = kind →
      (serveListing lib (marketAfter lib market before) request).1 = .ok (.created row) →
        row ∈ (marketAfter lib market rs).rows kind := by
  have hkept := wellKept_marketAfter hlib hstart hrs kind
  refine ⟨fun row hrow => ?_, ?_⟩
  · have hid := hkept.canonical row hrow
    have hne : row.id ≠ "" := by
      intro hempty
      rw [hempty, hlib.refuses_empty] at hid
      cases hid
    obtain ⟨hchars, hhyphen⟩ := hkept.isPath row hrow
    refine ⟨hchars, dispatch_slug kind hhyphen, find?_of_nodup_map hkept.slugs hrow,
      dispatch_byId kind hne, ?_⟩
    rw [getById, hid, Option.map_some]
    exact congrArg some (find?_of_nodup_map hkept.ids hrow)
  · rintro before request row rfl rfl hcreated
    rw [marketAfter, final_append]
    exact mem_of_created hcreated

/-! ## A villa on the market -/

namespace Demo

def marketLib : MarketLib where
  auth := authLib
  jwt := jwtLib
  listing := { plainTexts with
    uuid
      | .str s => if s = "" then none else some s
      | _ => none }
  db := anyColumns

/-- A database without capital letters and numbers. -/
def plainPg : CatalogueLib where
  lowerChar := id
  lower_percent := rfl
  lower_backslash := fun _ h => h
  numeric := fun _ => none
  integer := fun _ => none
  isNear := fun _ _ _ => false

/-- Adèle has an account, and nothing is on offer. -/
def emptyMarket : Marketplace := ⟨⟨AuthStore.start [adele], []⟩, [], []⟩

/-- Adèle logs in and posts a villa. -/
def villaPosted : List MarketRequest :=
  [.account ⟨0, none, .anyone (.login ⟨"adele@example.cm", jean.password⟩ none)⟩,
    .listing ⟨60000, some adeleToken, .property,
      .create [("title", .str "Villa"), ("status", .str "DRAFT")] "v1"⟩]

def postedVilla : Listing := ⟨"v1", 0, "villa-1aao", "PUBLISHED", [("title", .str "Villa")]⟩

end Demo

section Examples

open Demo

theorem shown_as_admin_left_it_villa :
    ListingKind.property.Shows plainPg
      ((marketAfter marketLib emptyMarket villaPosted).rows .property) postedVilla ∧
    ∃ before request after admin, villaPosted = before ++ .listing request :: after ∧
      request.kind = .property ∧
      letPass jwtLib (marketAfter marketLib emptyMarket before).site request.now request.bearer
        request.endpoint.roles = .ok admin ∧
      standingIn (marketAfter marketLib emptyMarket before).site.store.users admin.id =
        (.admin, true) := by
  have hsearch : (PropertiesController.search plainPg {}
      ((marketAfter marketLib emptyMarket villaPosted).rows .property)).map (·.data) =
        some [postedVilla] := by
    decide +kernel
  obtain ⟨found, hfound, hdata⟩ := Option.map_eq_some_iff.mp hsearch
  have hshown : ListingKind.property.Shows plainPg
      ((marketAfter marketLib emptyMarket villaPosted).rows .property) postedVilla :=
    .inl ⟨_, found, hfound, hdata ▸ List.mem_cons_self⟩
  have hstart : ∀ kind : ListingKind, ∀ row ∈ emptyMarket.rows kind,
      row.status ≠ kind.offered := by
    intro kind row hrow
    cases kind <;> cases hrow
  obtain ⟨before, request, after, admin, hrs, hkind, hpass, hstanding, -, -⟩ :=
    shown_as_admin_left_it marketLib plainPg hstart villaPosted hshown
  exact ⟨hshown, before, request, after, admin, hrs, hkind, hpass, hstanding⟩

theorem listings_opened_villa :
    postedVilla ∈ (marketAfter marketLib emptyMarket villaPosted).rows .property ∧
    getOne "villa-1aao" ((marketAfter marketLib emptyMarket villaPosted).rows .property) =
      some postedVilla := by
  have hlib : marketLib.listing.Canonical := by
    refine ⟨fun value id h => ?_, rfl⟩
    cases value with
    | str s =>
        obtain ⟨hne, hid⟩ := Option.ite_none_left_eq_some.mp h
        obtain rfl := Option.some.inj hid
        exact if_neg hne
    | null | bool | num | arr | obj => cases h
  have hids : ∀ r ∈ villaPosted, r.GivesId marketLib.listing := by
    intro r hr
    rcases List.mem_cons.mp hr with rfl | hr
    · trivial
    · obtain rfl := List.mem_singleton.mp hr
      intro body newId hcreate
      obtain ⟨-, rfl⟩ := ListingEndpoint.create.inj hcreate
      rfl
  have hrow : postedVilla ∈ (marketAfter marketLib emptyMarket villaPosted).rows .property := by
    decide +kernel
  exact ⟨hrow, ((listings_opened marketLib hlib (fun kind => by cases kind <;> rfl) villaPosted
    hids .property).1 postedVilla hrow).2.2.1⟩

end Examples

end StayRide
