import CoffeeShop.Menu.Images
import Mathlib.Logic.Function.Basic
import Mathlib.Logic.Relation

/-!
Uploads, menu requests and cleanups that take turns.

A process keeps what it has read in memory while others write, and may crash between any two of
its steps.  The object itself is stored and removed outside the database.
-/

namespace CoffeeShop

open Transaction

namespace MenuImages

/-- A process that runs an upload or a cleanup. -/
abbrev Worker := Nat

/-- The lease that a cleanup has taken on an upload. -/
structure Claim where
  worker : Worker
  uploadId : Id
  objectKey : String
  lease : Timestamp
  deriving DecidableEq

inductive Task where
  | idle
  /-- `upload` waits for the storage to take the object. -/
  | storing (id : Id)
  /-- The object is stored. -/
  | finishing (id : Id)
  /-- `cleanupBatch` that read its clock at `started`, with the candidates that are left. -/
  | sweeping (started : Timestamp) (assets : List MenuImageAsset)
  | claimed (started : Timestamp) (claim : Claim) (rest : List MenuImageAsset)
  /-- The storage has been asked to remove the object. -/
  | removing (started : Timestamp) (claim : Claim) (rest : List MenuImageAsset)
  /-- The storage has answered that the object is removed. -/
  | removed (started : Timestamp) (claim : Claim) (rest : List MenuImageAsset)

namespace Task

def claim : Task → Option Claim
  | .claimed _ claim _ | .removing _ claim _ | .removed _ claim _ => some claim
  | .idle | .storing _ | .finishing _ | .sweeping _ _ => none

/-- The candidates that the task still holds. -/
def assets : Task → List MenuImageAsset
  | .sweeping _ assets => assets
  | .claimed _ _ rest | .removing _ _ rest | .removed _ _ rest => rest
  | .idle | .storing _ | .finishing _ => []

end Task

/-- The menu with what every process holds in memory, the claims from the latest to the first,
the claims for which a remove call was made, and those for which it was answered with success. -/
structure Gallery where
  store : MenuStore
  tasks : Worker → Task
  claims : List Claim
  removals : List Claim
  confirmed : List Claim

namespace Gallery

def start (store : MenuStore) : Gallery where
  store := { store with items := .empty, uploads := .empty }
  tasks _ := .idle
  claims := []
  removals := []
  confirmed := []

def proceed (gallery : Gallery) (worker : Worker) (task : Task) : Gallery :=
  { gallery with tasks := Function.update gallery.tasks worker task }

/-- The claim on the upload that was taken last. -/
def latestClaim (gallery : Gallery) (uploadId : Id) : Option Claim :=
  gallery.claims.find? (·.uploadId = uploadId)

end Gallery

/-- A request of the menu. -/
inductive MenuRequest where
  | createItem (dto : CreateMenuItemDto)
  | updateItem (id : Id) (dto : UpdateMenuItemDto)
  | updateItemAvailability (id : Id) (isAvailable : Bool)
  | deleteItem (id : Id)

def MenuRequest.execute (storage : ImageStorage) (employeeId : Id) (now : Timestamp) :
    MenuRequest → MenuTx Unit
  | .createItem dto => MenuService.createItem storage employeeId dto now
  | .updateItem id dto => MenuService.updateItem storage id employeeId dto now
  | .updateItemAvailability id isAvailable =>
      MenuService.updateItemAvailability id employeeId isAvailable
  | .deleteItem id => MenuService.deleteItem storage id employeeId now

/-- What the rest of the application may do to a menu item: neither its picture nor whether it is
deleted changes. -/
structure Edits (change : MenuEntry → MenuEntry) : Prop where
  id : ∀ item, (change item).id = item.id
  imageUrl : ∀ item, (change item).imageUrl = item.imageUrl
  deletedAt : ∀ item, (change item).deletedAt = item.deletedAt

inductive Actor where
  | service
  | employee (id : Id)
  | worker (worker : Worker)

/-- One step of a process at the time that its clock shows.

A call of the database may fail, before or after it takes effect; the process then stops, which
it may do at any time. -/
inductive Step (storage : ImageStorage) (now : Timestamp) : Actor → Gallery → Gallery → Prop where
  | staffed {gallery : Gallery} (employees : Table Employee.id)
      (categories : Table MenuCategory.id) (stations : Table KitchenStation.id)
      (sales : SalesStore) :
      Step storage now .service gallery { gallery with
        store := { gallery.store with employees, categories, stations, sales } }
  | edited {gallery : Gallery} (condition : MenuEntry → Bool) {change : MenuEntry → MenuEntry}
      (edits : Edits change) :
      Step storage now .service gallery { gallery with
        store := { gallery.store with
          items := gallery.store.items.update condition change edits.id } }
  | requested {gallery : Gallery} {store : MenuStore} {employeeId : Id} (request : MenuRequest)
      (ran : Commits (request.execute storage employeeId now) gallery.store () store) :
      Step storage now (.employee employeeId) gallery { gallery with store }
  | uploads {gallery : Gallery} {store : MenuStore} {worker : Worker} {id : Id} (employeeId : Id)
      (idle : gallery.tasks worker = .idle)
      (ran : Commits (createUpload storage employeeId now) gallery.store id store) :
      Step storage now (.worker worker) gallery
        { gallery.proceed worker (.storing id) with store }
  | stores {gallery : Gallery} {worker : Worker} {id : Id}
      (held : gallery.tasks worker = .storing id) :
      Step storage now (.worker worker) gallery (gallery.proceed worker (.finishing id))
  | finishes {gallery : Gallery} {store : MenuStore} {worker : Worker} {id : Id}
      (held : gallery.tasks worker = .finishing id)
      (ran : Commits (finishUpload id now) gallery.store () store) :
      Step storage now (.worker worker) gallery { gallery.proceed worker .idle with store }
  | scans {gallery : Gallery} {store : MenuStore} {worker : Worker} {assets : List MenuImageAsset}
      (idle : gallery.tasks worker = .idle)
      (ran : Commits (findExpired now) gallery.store assets store) :
      Step storage now (.worker worker) gallery
        { gallery.proceed worker (.sweeping now assets) with store }
  | postpones {gallery : Gallery} {store : MenuStore} {worker : Worker} {started : Timestamp}
      {asset : MenuImageAsset} {rest : List MenuImageAsset} {count : Nat}
      (held : gallery.tasks worker = .sweeping started (asset :: rest))
      (mismatch : asset.url ≠ storage.getPublicUrl asset.objectKey) (later : started ≤ now)
      (ran : Commits (postponeMismatch asset started now) gallery.store count store) :
      Step storage now (.worker worker) gallery
        { gallery.proceed worker (.sweeping started rest) with store }
  | claims {gallery : Gallery} {store : MenuStore} {worker : Worker} {started : Timestamp}
      {asset : MenuImageAsset} {rest : List MenuImageAsset} {count : Nat}
      (held : gallery.tasks worker = .sweeping started (asset :: rest))
      (expected : asset.url = storage.getPublicUrl asset.objectKey) (later : started ≤ now)
      (ran : Commits (claimAsset asset started (now + leaseMs)) gallery.store count store)
      (one : count ≠ 0) :
      Step storage now (.worker worker) gallery
        { gallery.proceed worker
            (.claimed started ⟨worker, asset.id, asset.objectKey, now + leaseMs⟩ rest) with
          store
          claims := ⟨worker, asset.id, asset.objectKey, now + leaseMs⟩ :: gallery.claims }
  /-- The claim finds no row: it is attached, deleted, or another cleanup has taken it. -/
  | misses {gallery : Gallery} {store : MenuStore} {worker : Worker} {started : Timestamp}
      {asset : MenuImageAsset} {rest : List MenuImageAsset}
      (held : gallery.tasks worker = .sweeping started (asset :: rest))
      (ran : Commits (claimAsset asset started (now + leaseMs)) gallery.store 0 store) :
      Step storage now (.worker worker) gallery
        { gallery.proceed worker (.sweeping started rest) with store }
  | removes {gallery : Gallery} {worker : Worker} {started : Timestamp} {claim : Claim}
      {rest : List MenuImageAsset} (held : gallery.tasks worker = .claimed started claim rest) :
      Step storage now (.worker worker) gallery
        { gallery.proceed worker (.removing started claim rest) with
          removals := claim :: gallery.removals }
  /-- The storage answers with an error, or its answer is lost. -/
  | fails {gallery : Gallery} {worker : Worker} {started : Timestamp} {claim : Claim}
      {rest : List MenuImageAsset} (held : gallery.tasks worker = .removing started claim rest) :
      Step storage now (.worker worker) gallery (gallery.proceed worker (.sweeping started rest))
  | answers {gallery : Gallery} {worker : Worker} {started : Timestamp} {claim : Claim}
      {rest : List MenuImageAsset} (held : gallery.tasks worker = .removing started claim rest) :
      Step storage now (.worker worker) gallery
        { gallery.proceed worker (.removed started claim rest) with
          confirmed := claim :: gallery.confirmed }
  | deletes {gallery : Gallery} {store : MenuStore} {worker : Worker} {started : Timestamp}
      {claim : Claim} {rest : List MenuImageAsset} {count : Nat}
      (held : gallery.tasks worker = .removed started claim rest)
      (ran : Commits (deleteClaimed claim.uploadId claim.lease) gallery.store count store) :
      Step storage now (.worker worker) gallery
        { gallery.proceed worker (.sweeping started rest) with store }
  /-- The process ends or crashes, or a call throws; what it has written stays. -/
  | ends {gallery : Gallery} {worker : Worker} :
      Step storage now (.worker worker) gallery (gallery.proceed worker .idle)

/-- Some process, employee or service takes a step. -/
def Moves (storage : ImageStorage) (before after : Gallery) : Prop :=
  ∃ now actor, Step storage now actor before after

def Reachable (storage : ImageStorage) (gallery : Gallery) : Prop :=
  ∃ store, Relation.ReflTransGen (Moves storage) (.start store) gallery

end MenuImages

end CoffeeShop
