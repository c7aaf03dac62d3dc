import CoffeeShop.Orders.Sessions

/-!
What a customer does with a pickup code: tracking the order and rating it.
-/

namespace CoffeeShop

open Transaction SalesStore

structure TakeawayFeedback where
  id : Id
  invoiceId : Id
  rating : Nat
  comment : Option String
  createdAt : Timestamp

/-- The database with the feedback of the takeaway orders. -/
structure FeedbackStore where
  database : Database
  feedback : Table TakeawayFeedback.invoiceId

namespace FeedbackStore

@[simps] def databasePart : Part FeedbackStore Database where
  get := database
  set value store := { store with database := value }
  get_set _ _ := rfl

@[simps] def takeawayFeedback : Part FeedbackStore (Table TakeawayFeedback.invoiceId) where
  get := feedback
  set value store := { store with feedback := value }
  get_set _ _ := rfl

end FeedbackStore

inductive PickupProgress where
  | preparing
  | partiallyReady
  | ready
  | collected
  deriving DecidableEq, Repr

structure PickupItem where
  id : Id
  name : Option String
  quantity : Nat
  serveStatus : ServeStatus

structure PickupStatus where
  invoiceId : Id
  status : PickupProgress
  expiresAt : Timestamp
  feedback : Option TakeawayFeedback
  items : List PickupItem

structure SubmitTakeawayFeedbackInput where
  claim : PickupClaim
  rating : Nat
  comment : Option String

namespace TakeawayService

open FeedbackStore

def isAvailable : ServeStatus → Bool
  | .ready | .served => true
  | .pending | .cooking | .cancelled => false

def progressOf (statuses : List ServeStatus) : PickupProgress :=
  if statuses.all (· = .served) then .collected
  else if statuses.all isAvailable then .ready
  else if statuses.any isAvailable then .partiallyReady
  else .preparing

/-- The items of the invoice by their creation. -/
def pickupItems (sales : SalesStore) (invoiceId : Id) : List OrderItem :=
  (sales.items.select fun item => item.invoiceId = some invoiceId).mergeSort fun left right =>
    left.createdAt < right.createdAt ||
      (left.createdAt = right.createdAt && left.id ≤ right.id)

/-- The invoice that the code opens. -/
def openPickup (claim : PickupClaim) (now : Timestamp) : Tx FeedbackStore Failure Invoice := do
  let found ← within databasePart (salesTx (findPickupInvoice claim.invoiceId))
  require (verifyPickupCode claim found now) (.notFound "Pickup code is not available.")
  pure found

def getPickupStatus (claim : PickupClaim) (now : Timestamp) :
    Tx FeedbackStore Failure PickupStatus := do
  let found ← openPickup claim now
  let store ← get
  let items := pickupItems store.database.sales claim.invoiceId
  pure {
    invoiceId := claim.invoiceId
    status := progressOf (items.map (·.serveStatus))
    expiresAt := (getPickupCodeExpiry found).getD 0
    feedback := store.feedback.find? claim.invoiceId
    items := items.map fun item => {
      id := item.id
      name := (store.database.catalog.menuItems.find? item.menuItemId).map (·.name)
      quantity := item.quantity
      serveStatus := item.serveStatus } }

def submitTakeawayFeedback (input : SubmitTakeawayFeedbackInput) (now : Timestamp) :
    Tx FeedbackStore Failure TakeawayFeedback := do
  let comment := (input.comment.map (·.trimAscii.toString)).filter (· ≠ "")
  let _ ← openPickup input.claim now
  let store ← get
  require ((pickupItems store.database.sales input.claim.invoiceId).all (·.serveStatus = .served))
    (.conflict "Order is not collected yet.")
  let id ← within databasePart freshId
  when (store.feedback.find? input.claim.invoiceId).isNone (create takeawayFeedback {
    id
    invoiceId := input.claim.invoiceId
    rating := input.rating
    comment
    createdAt := now } (.constraint "TakeawayFeedback_pkey"))
  let feedback ← findUniqueOrFail takeawayFeedback input.claim.invoiceId
    (.notFound "Record not found.")
  require (feedback.rating = input.rating ∧ feedback.comment = comment)
    (.conflict "Feedback already exists for this invoice.")
  pure feedback

/-- What `provisionPickupCode` answers. -/
structure ProvisionedCode where
  invoiceId : Id
  code : PickupCode
  expiresAt : Timestamp

/-- `provisionPickupCode` with its answer: the code that is still good, or a new one. -/
def provision (invoiceId employeeId : Id) (currentCode : Option PickupCode) (now : Timestamp) :
    Transact ProvisionedCode := do
  assertActiveEmployee employeeId
  salesTx do
    let found ← findPickupInvoice invoiceId
    require (currentCode.all fun code => verifyPickupCode { invoiceId, code } found now)
      (.conflict "Pickup code changed or expired.")
    if currentCode.isNone && (getPickupCodeExpiry found).any (now < ·) then
      pure {
        invoiceId
        code := { invoiceId, version := found.pickupCodeVersion }
        expiresAt := (getPickupCodeExpiry found).getD 0 }
    else do
      renewPickupCode found (some now)
      pure {
        invoiceId
        code := { invoiceId, version := some (found.pickupCodeVersion.getD 0 + 1) }
        expiresAt := now + pickupCodeTtl }

end TakeawayService

end CoffeeShop
