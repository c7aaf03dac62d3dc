import CoffeeShop.Store.Sales

/-!
Print devices and print jobs.
-/

namespace CoffeeShop

inductive PrintDeviceType where
  | receipt
  | kitchen
  deriving DecidableEq, Repr

inductive PrintDeviceStatus where
  | ready
  | error
  | paused
  deriving DecidableEq, Repr

structure PrintDevice where
  id : Id
  name : String
  type : PrintDeviceType
  paperSize : String
  isActive : Bool
  isDefault : Bool
  status : PrintDeviceStatus
  lastSeenAt : Option Timestamp
  lastError : Option String
  deletedAt : Option Timestamp

inductive PrintJobType where
  | receipt
  | kitchenTicket
  | precheck
  deriving DecidableEq, Repr

inductive PrintJobStatus where
  | pending
  | processing
  | requiresReview
  | printed
  | failed
  | cancelled
  deriving DecidableEq, Repr

structure KitchenPrintItem where
  orderItemId : Id
  name : String
  quantity : Nat
  note : Option String
  selectedOptions : List SelectedMenuOption
  deriving DecidableEq

/-- The fields that turn a ticket into a `KITCHEN_CANCELLATION` slip. -/
structure KitchenCancellation where
  title : String
  originalJobId : Id
  reason : String
  deriving DecidableEq

structure KitchenPrintPayload where
  ticketId : Id
  stationCode : String
  stationName : String
  tableName : Option String
  orderSessionId : Id
  dueAt : Timestamp
  availableAt : Timestamp
  cancellation : Option KitchenCancellation
  items : List KitchenPrintItem
  deriving DecidableEq

structure ReceiptPrintItem where
  orderItemId : Id
  name : String
  quantity : Nat
  unitPrice : Money
  lineTotal : Money
  selectedOptions : List SelectedMenuOption
  deriving DecidableEq

structure ReceiptPrintPayload where
  isReprint : Bool
  invoiceId : Id
  invoiceNumber : InvoiceNumber
  createdAt : Timestamp
  tableName : Option String
  cashierName : String
  paymentMethod : PaymentMethod
  paymentStatus : PaymentStatus
  subTotal : Money
  discountAmount : Money
  taxAmount : Money
  totalAmount : Money
  amountTendered : Option Money
  changeAmount : Option Money
  items : List ReceiptPrintItem
  deriving DecidableEq

structure PrecheckPrintPayload where
  orderSessionId : Id
  createdAt : Timestamp
  tableName : Option String
  cashierName : String
  promotionId : Option Id
  subTotal : Money
  discountAmount : Money
  taxAmount : Money
  taxRate : Money
  totalAmount : Money
  items : List ReceiptPrintItem
  deriving DecidableEq

inductive PrintPayload where
  | kitchen (payload : KitchenPrintPayload)
  | receipt (payload : ReceiptPrintPayload)
  | precheck (payload : PrecheckPrintPayload)
  deriving DecidableEq

/-- The payload, if `isKitchenOrderPayload` accepts it. -/
def PrintPayload.kitchenOrder? : PrintPayload → Option KitchenPrintPayload
  | .kitchen payload => if payload.cancellation.isNone then some payload else none
  | .receipt _ => none
  | .precheck _ => none

/-- `deduplicationKey`, one constructor for each form of the text. -/
inductive PrintJobKey where
  /-- `KITCHEN_TICKET:<ticket>`. -/
  | kitchenTicket (ticketId : Id)
  /-- `KITCHEN_TICKET:<job>:SPLIT:<session>`. -/
  | kitchenSplit (jobId destinationSessionId : Id)
  /-- `KITCHEN_CANCELLATION:<job>:<signature>`, with the items that the signature digests. -/
  | kitchenCancellation (jobId : Id) (orderItemIds : List Id)
  | autoReceipt (invoiceId : Id)
  | reprint (invoiceId employeeId : Id) (idempotencyKey : String)
  | precheck (employeeId : Id) (idempotencyKey : String)
  deriving DecidableEq

/-- `{ startsWith: 'KITCHEN_TICKET:' }`. -/
def PrintJobKey.isKitchenOrder : PrintJobKey → Bool
  | .kitchenTicket _ => true
  | .kitchenSplit _ _ => true
  | _ => false

structure PrintJob where
  id : Id
  type : PrintJobType
  status : PrintJobStatus := .pending
  payload : PrintPayload
  copies : Nat := 1
  attempts : Nat := 0
  maxAttempts : Nat := 5
  availableAt : Timestamp
  lockedAt : Option Timestamp := none
  leaseExpiresAt : Option Timestamp := none
  /-- The token that the hash is of. -/
  leaseTokenHash : Option Id := none
  printedAt : Option Timestamp := none
  failedAt : Option Timestamp := none
  lastError : Option String := none
  deduplicationKey : PrintJobKey
  createdAt : Timestamp
  updatedAt : Timestamp
  deviceId : Option Id
  requestedById : Option Id := none
  invoiceId : Option Id := none
  orderSessionId : Option Id := none
  kitchenTicketId : Option Id := none
  reprintOfId : Option Id := none

theorem PrintJob.id_withStatus (status : PrintJobStatus) (job : PrintJob) :
    { job with status }.id = job.id := rfl

/-- `PrintJob_state_check`. -/
def PrintJob.stateCheck (job : PrintJob) : Bool :=
  match job.status with
  | .pending | .cancelled => job.lockedAt.isNone && job.leaseExpiresAt.isNone &&
      job.leaseTokenHash.isNone && job.printedAt.isNone && job.failedAt.isNone
  | .processing => job.deviceId.isSome && job.lockedAt.isSome && job.leaseExpiresAt.isSome &&
      job.leaseTokenHash.isSome && job.printedAt.isNone && job.failedAt.isNone
  | .requiresReview => job.lockedAt.isNone && job.leaseExpiresAt.isNone &&
      job.printedAt.isNone && job.failedAt.isNone
  | .printed => job.deviceId.isSome && job.lockedAt.isNone && job.leaseExpiresAt.isNone &&
      job.printedAt.isSome && job.failedAt.isNone
  | .failed => job.lockedAt.isNone && job.leaseExpiresAt.isNone &&
      job.leaseTokenHash.isNone && job.printedAt.isNone && job.failedAt.isSome

/-- `PrintJob_values_check`. -/
def PrintJob.valuesCheck (job : PrintJob) : Bool :=
  1 ≤ job.copies && job.copies ≤ 10 && job.attempts ≤ job.maxAttempts &&
    1 ≤ job.maxAttempts && job.maxAttempts ≤ 20

/-- The tables of the printing service. -/
structure PrintStore where
  devices : Table PrintDevice.id
  jobs : Table PrintJob.id

namespace PrintStore

open Transaction

def empty : PrintStore where
  devices := .empty
  jobs := .empty

@[simps] def printDevice : Part PrintStore (Table PrintDevice.id) where
  get := devices
  set value store := { store with devices := value }
  get_set _ _ := rfl

@[simps] def printJob : Part PrintStore (Table PrintJob.id) where
  get := jobs
  set value store := { store with jobs := value }
  get_set _ _ := rfl

end PrintStore

end CoffeeShop
