import CoffeeShop.Library.Statement
import CoffeeShop.Store.Catalog
import CoffeeShop.Store.Sales
import Mathlib.Data.List.Sort

/-!
Menu items and the pictures that are uploaded for them.

The transactions of the menu run serializable, so each of them is one write.  An upload and a
cleanup write one statement at a time, and talk to the image storage in between.
-/

namespace CoffeeShop

open Transaction

inductive MenuImageStatus where
  | uploading
  | ready
  | attached
  | deleting
  deriving DecidableEq, Repr

structure MenuImageUpload where
  id : Id
  objectKey : String
  url : String
  status : MenuImageStatus
  expiresAt : Option Timestamp
  createdAt : Timestamp
  employeeId : Id
  menuItemId : Option Id
  deriving DecidableEq

/-- `MenuImageUpload_state_check`. -/
def MenuImageUpload.stateCheck (upload : MenuImageUpload) : Bool :=
  match upload.status with
  | .attached => upload.menuItemId.isSome && upload.expiresAt.isNone
  | .uploading | .ready | .deleting => upload.expiresAt.isSome

/-- A menu item with the columns that only the menu itself reads. -/
structure MenuEntry extends MenuItem where
  description : Option String
  imageUrl : Option String

abbrev MenuEntry.key (entry : MenuEntry) : Id := entry.id

/-- What a cleanup reads of a row. -/
structure MenuImageAsset where
  id : Id
  objectKey : String
  url : String
  deriving DecidableEq

def MenuImageUpload.asset (upload : MenuImageUpload) : MenuImageAsset :=
  { id := upload.id, objectKey := upload.objectKey, url := upload.url }

structure MenuStore where
  items : Table MenuEntry.key
  uploads : Table MenuImageUpload.id
  employees : Table Employee.id
  categories : Table MenuCategory.id
  stations : Table KitchenStation.id
  sales : SalesStore
  nextId : Id

@[simps] def menuEntry : Part MenuStore (Table MenuEntry.key) where
  get := MenuStore.items
  set value store := { store with items := value }
  get_set _ _ := rfl

@[simps] def menuImageUpload : Part MenuStore (Table MenuImageUpload.id) where
  get := MenuStore.uploads
  set value store := { store with uploads := value }
  get_set _ _ := rfl

@[simps] def menuEmployee : Part MenuStore (Table Employee.id) where
  get := MenuStore.employees
  set value store := { store with employees := value }
  get_set _ _ := rfl

@[simps] def menuCategory : Part MenuStore (Table MenuCategory.id) where
  get := MenuStore.categories
  set value store := { store with categories := value }
  get_set _ _ := rfl

@[simps] def menuStation : Part MenuStore (Table KitchenStation.id) where
  get := MenuStore.stations
  set value store := { store with stations := value }
  get_set _ _ := rfl

@[simps] def menuNextId : Part MenuStore Id where
  get := MenuStore.nextId
  set value store := { store with nextId := value }
  get_set _ _ := rfl

abbrev MenuTx (α : Type) : Type := Tx MenuStore Failure α

def drawMenuId : MenuTx Id := do
  let store ← get
  modify (menuNextId.set (store.nextId + 1))
  pure store.nextId

/-- The parts of a `URL` that are compared. -/
structure ImageUrl where
  origin : String
  pathname : String

/-- The bucket as it is configured, with what the storage client and the URL functions of the
runtime make of a text. -/
structure ImageStorage where
  publicPrefix : Option ImageUrl
  /-- `new URL`, unless it throws. -/
  parse : String → Option ImageUrl
  /-- `decodeURIComponent`, unless it throws. -/
  decodeURIComponent : String → Option String
  getPublicUrl : String → String

namespace MenuImages

def menuImagePrefix : String := "managed-menu/"

/-- `MENU_IMAGE_DRAFT_TTL_MS`. -/
def draftTtlMs : Nat := 24 * 60 * 60 * 1000

def leaseMs : Nat := 5 * 60000

def batchSize : Nat := 25

def objectKeyOf (id : Id) : String := menuImagePrefix ++ toString id ++ ".webp"

def expired : Failure :=
  .conflictWithCode "IMAGE_UPLOAD_NOT_AVAILABLE"
    "This image upload is unavailable or expired. Upload the image again."

def isManagedUrl (storage : ImageStorage) (value : String) : Bool :=
  storage.publicPrefix.any fun expected =>
    (storage.parse value).any fun url =>
      url.origin = expected.origin &&
        (storage.decodeURIComponent url.pathname).any fun path =>
          expected.pathname.toList.isPrefixOf path.toList

/-- The first write of `upload`, before the object is stored. -/
def createUpload (storage : ImageStorage) (employeeId : Id) (now : Timestamp) : MenuTx Id := do
  let id ← drawMenuId
  let objectKey := objectKeyOf id
  let url := storage.getPublicUrl objectKey
  let clashing ← findFirst menuImageUpload fun upload =>
    upload.objectKey = objectKey || upload.url = url
  require (clashing.isNone = true) (.constraint "MenuImageUpload_url_key")
  create menuImageUpload {
    id, objectKey, url, employeeId
    status := .uploading
    expiresAt := some (now + draftTtlMs)
    createdAt := now
    menuItemId := none } (.constraint "MenuImageUpload_pkey")
  pure id

def isUnexpired (now : Timestamp) (upload : MenuImageUpload) : Bool :=
  upload.expiresAt.any (now < ·)

/-- The last write of `upload`. -/
def finishUpload (id : Id) (now : Timestamp) : MenuTx Unit :=
  updateExpecting menuImageUpload id
    (fun upload => upload.status = .uploading && isUnexpired now upload)
    (fun upload => { upload with status := .ready }) expired

/-- The employee may show the picture on the menu item. -/
def isAttachable (employeeId menuItemId : Id) (now : Timestamp) (upload : MenuImageUpload) : Bool :=
  (upload.status = .ready && upload.employeeId = employeeId && upload.menuItemId.isNone &&
      isUnexpired now upload) ||
    (upload.status = .attached && upload.menuItemId = some menuItemId)

def attach (employeeId menuItemId : Id) (asset : MenuImageUpload) (now : Timestamp) : MenuTx Unit :=
  updateExpecting menuImageUpload asset.id (isAttachable employeeId menuItemId now)
    (fun upload => { upload with
      status := .attached
      menuItemId := some menuItemId
      expiresAt := none }) expired

/-- The last write of `syncReference`: the other pictures of the menu item are given up. -/
def releaseOthers (menuItemId : Id) (url : Option String) (now : Timestamp) : MenuTx Nat :=
  updateMany menuImageUpload
    (fun upload => upload.menuItemId = some menuItemId && upload.status = .attached &&
      url.all (upload.url ≠ ·))
    fun upload => { upload with status := .deleting, expiresAt := some (now + draftTtlMs) }

/-- `if (url)`: neither a missing text nor an empty one. -/
def present (url : Option String) : Option String := url.filter (· ≠ "")

def syncReference (storage : ImageStorage) (employeeId menuItemId : Id) (url : Option String)
    (now : Timestamp) : MenuTx Unit := do
  whenSome (present url) fun url => do
    let asset ← findFirst menuImageUpload fun upload => upload.url = url
    ifSome asset
      (fun asset => attach employeeId menuItemId asset now)
      (require (isManagedUrl storage url = false) expired)
  let _ ← releaseOthers menuItemId (present url) now
  pure ()

/-- A cleanup takes neither attached pictures nor those that still have time. -/
def isExpired (now : Timestamp) (upload : MenuImageUpload) : Bool :=
  upload.status ≠ .attached && upload.expiresAt.any (· ≤ now)

/-- `orderBy: [{ expiresAt: 'asc' }, { id: 'asc' }]`. -/
def expiresFirst (left right : MenuImageUpload) : Bool :=
  left.expiresAt.getD 0 < right.expiresAt.getD 0 ||
    left.expiresAt.getD 0 = right.expiresAt.getD 0 && left.id ≤ right.id

def candidates (uploads : List MenuImageUpload) : List MenuImageUpload :=
  (uploads.insertionSort fun left right => expiresFirst left right).take batchSize

/-- The first read of `cleanupBatch`. -/
def findExpired (now : Timestamp) : MenuTx (List MenuImageAsset) := do
  let uploads ← findMany menuImageUpload (isExpired now)
  pure ((candidates uploads).map (·.asset))

/-- The row has the URL of another configuration; look at it again after a day. -/
def postponeMismatch (asset : MenuImageAsset) (started now : Timestamp) : MenuTx Nat :=
  updateMany menuImageUpload (fun upload => upload.id = asset.id && isExpired started upload)
    fun upload => { upload with expiresAt := some (now + draftTtlMs) }

def claimAsset (asset : MenuImageAsset) (started lease : Timestamp) : MenuTx Nat :=
  updateMany menuImageUpload (fun upload => upload.id = asset.id && isExpired started upload)
    fun upload => { upload with status := .deleting, expiresAt := some lease }

def deleteClaimed (id : Id) (lease : Timestamp) : MenuTx Nat :=
  deleteMany menuImageUpload fun upload =>
    upload.id = id && (upload.status = .deleting && upload.expiresAt = some lease)

end MenuImages

structure CreateMenuItemDto where
  name : String
  description : Option String
  imageUrl : Option String
  price : Money
  categoryId : Id
  kitchenStationId : Option Id

/-- `none` is `undefined`; within a column that may be empty, `some none` is `null`. -/
structure UpdateMenuItemDto where
  name : Option String
  description : Option (Option String)
  imageUrl : Option (Option String)
  price : Option Money
  categoryId : Option Id
  kitchenStationId : Option (Option Id)

namespace MenuService

open MenuImages

def assertActiveEmployee (employeeId : Id) : MenuTx Unit := do
  let employee ← findFirst menuEmployee fun employee =>
    employee.id = employeeId && employee.isActive && employee.deletedAt.isNone
  require (employee.isSome = true) (.unauthorized "Employee is inactive or not found.")

def findActiveCategory (id : Id) : MenuTx MenuCategory :=
  findFirstOrFail menuCategory (fun category => category.id = id && category.deletedAt.isNone)
    (.notFound s!"Menu category with ID {id} not found.")

def findActiveKitchenStation (id : Id) : MenuTx KitchenStation :=
  findFirstOrFail menuStation
    (fun station => station.id = id && (station.isActive && station.deletedAt.isNone))
    (.notFound s!"Active kitchen station with ID {id} not found.")

def findActiveItem (id : Id) : MenuTx MenuEntry := do
  let store ← get
  findFirstOrFail menuEntry
    (fun item => item.id = id && (item.deletedAt.isNone &&
      (store.categories.find? item.categoryId).any (·.deletedAt.isNone)))
    (.notFound s!"Menu item with ID {id} not found.")

def createItem (storage : ImageStorage) (employeeId : Id) (dto : CreateMenuItemDto)
    (now : Timestamp) : MenuTx Unit := do
  assertActiveEmployee employeeId
  let _ ← findActiveCategory dto.categoryId
  whenSome dto.kitchenStationId fun stationId => do
    let _ ← findActiveKitchenStation stationId
    pure ()
  let id ← drawMenuId
  create menuEntry {
    id
    name := dto.name
    price := dto.price
    description := dto.description
    imageUrl := dto.imageUrl
    categoryId := dto.categoryId
    kitchenStationId := dto.kitchenStationId
    isAvailable := true
    deletedAt := none
    ingredients := []
    optionGroups := [] } (.constraint "MenuItem_pkey")
  when ((present dto.imageUrl).isSome = true)
    (syncReference storage employeeId id dto.imageUrl now)

/-- The columns that the request names. -/
def UpdateMenuItemDto.apply (dto : UpdateMenuItemDto) (item : MenuEntry) : MenuEntry :=
  { item with
    name := dto.name.getD item.name
    categoryId := dto.categoryId.getD item.categoryId
    description := dto.description.getD item.description
    imageUrl := dto.imageUrl.getD item.imageUrl
    kitchenStationId := dto.kitchenStationId.getD item.kitchenStationId
    price := dto.price.getD item.price }

def updateItem (storage : ImageStorage) (id employeeId : Id) (dto : UpdateMenuItemDto)
    (now : Timestamp) : MenuTx Unit := do
  assertActiveEmployee employeeId
  let existing ← findActiveItem id
  whenSome dto.categoryId fun categoryId => do
    let _ ← findActiveCategory categoryId
    pure ()
  whenSome (dto.kitchenStationId.getD none) fun stationId => do
    let _ ← findActiveKitchenStation stationId
    pure ()
  let _ ← updateMany menuEntry (fun item => item.id = id) (UpdateMenuItemDto.apply dto)
  whenSome (dto.imageUrl.filter (· ≠ existing.imageUrl)) fun imageUrl =>
    syncReference storage employeeId id imageUrl now

def updateItemAvailability (id employeeId : Id) (isAvailable : Bool) : MenuTx Unit := do
  assertActiveEmployee employeeId
  let existing ← findActiveItem id
  when (existing.isAvailable ≠ isAvailable) do
    let _ ← updateMany menuEntry (fun item => item.id = id) fun item => { item with isAvailable }
    pure ()

def activeOrderItemCount (sales : SalesStore) (menuItemId : Id) : Nat :=
  sales.items.count fun item =>
    item.menuItemId = menuItemId && (item.serveStatus = .pending || item.serveStatus = .cooking) &&
      (sales.sessions.find? item.orderSessionId).any (·.sessionStatus = .active)

def deleteItem (storage : ImageStorage) (id employeeId : Id) (now : Timestamp) : MenuTx Unit := do
  assertActiveEmployee employeeId
  let _ ← findActiveItem id
  let store ← get
  require (activeOrderItemCount store.sales id = 0)
    (.conflict ("Cannot delete a menu item while it has pending or cooking orders. " ++
      "Mark it unavailable instead."))
  let _ ← updateMany menuEntry (fun item => item.id = id)
    fun item => { item with deletedAt := some now, isAvailable := false }
  syncReference storage employeeId id none now
  let _ ← updateMany menuEntry (fun item => item.id = id) fun item => { item with ingredients := [] }
  pure ()

end MenuService

end CoffeeShop
