import CoffeeShop.Invoices.Service
import CoffeeShop.Printing.Kitchen

/-!
Print devices, receipts and the agents that print.
-/

namespace CoffeeShop

structure CreatePrintDeviceInput where
  name : String
  type : PrintDeviceType
  paperSize : String
  isDefault : Option Bool

structure UpdatePrintDeviceInput where
  name : Option String
  type : Option PrintDeviceType
  paperSize : Option String
  isActive : Option Bool
  isDefault : Option Bool
  status : Option PrintDeviceStatus

structure PrintAgentHeartbeatInput where
  status : PrintDeviceStatus
  error : Option String

structure CreatePrecheckInput extends CreateInvoiceInput where
  copies : Nat
  deviceId : Option Id
  idempotencyKey : String

structure ReprintReceiptInput where
  copies : Nat
  deviceId : Option Id
  idempotencyKey : String

namespace PrintingService

open Transaction PrintStore

def kitchenDefault : Failure :=
  .conflict "Kitchen printers must be assigned to a station, not set as default."

def deviceMissing (id : Id) : Failure := .notFound s!"Print device {id} not found."

def findDevice (id : Id) : Tx PrintStore Failure PrintDevice := do
  let device ← findUniqueOrFail printDevice id (deviceMissing id)
  require device.deletedAt.isNone (deviceMissing id)
  pure device

def clearDefault (type : PrintDeviceType) (exceptId : Option Id) : Tx PrintStore Failure Unit := do
  let _ ← updateMany printDevice
    (fun device => device.type = type && device.isDefault && device.deletedAt.isNone &&
      exceptId ≠ some device.id)
    (fun device => { device with isDefault := false })

def assignPendingDefaultJobs (deviceId : Id) (now : Timestamp) : Tx PrintStore Failure Unit := do
  let _ ← updateJobs
    (fun job => (job.type = .receipt || job.type = .precheck) && job.status = .pending &&
      job.deviceId.isNone)
    (fun job => { job with deviceId := some deviceId }) now

def createDevice (employeeId : Id) (input : CreatePrintDeviceInput) (now : Timestamp) :
    Transact Unit := do
  require (¬(input.type = .kitchen ∧ input.isDefault = some true)) kitchenDefault
  assertActiveEmployee employeeId
  let id ← freshId
  printingTx do
    let others ← findMany printDevice fun device => device.type = .receipt && device.isActive &&
      device.isDefault && device.deletedAt.isNone
    let isDefault := input.type = .receipt && input.isDefault.getD others.isEmpty
    when isDefault (clearDefault input.type none)
    create printDevice {
      id
      name := input.name
      type := input.type
      paperSize := input.paperSize
      isActive := true
      isDefault
      status := .ready
      lastSeenAt := none
      lastError := none
      deletedAt := none } (.constraint "PrintDevice_pkey")
    when isDefault (assignPendingDefaultJobs id now)

/-- The status of a device after an update that may switch it off or on. -/
def updatedStatus (input : UpdatePrintDeviceInput) (current : PrintDeviceStatus) :
    PrintDeviceStatus :=
  input.status.getD (match input.isActive with
    | some false => .paused
    | some true => .ready
    | none => current)

/-- `updatedDefault`: only an active receipt printer is the default one. -/
def updatedDefault (input : UpdatePrintDeviceInput) (existing : PrintDevice) : Bool :=
  let type := input.type.getD existing.type
  input.isActive.getD existing.isActive && type = .receipt &&
    input.isDefault.getD (type = existing.type && existing.isDefault)

/-- Let the agent finish what it has leased before its device goes. -/
def assertNoLeases (deviceId : Id) (message : String) (locked : Id → Bool) (now : Timestamp) :
    Tx PrintStore Failure Unit := do
  recoverExpiredJobs (some deviceId) locked now
  let leased ← findMany printJob fun job =>
    job.deviceId = some deviceId && job.status = .processing
  require (leased = []) (.conflict message)

/-- Pending jobs of a device that goes wait for another one. -/
def unassignJobs (deviceId : Id) (now : Timestamp) : Tx PrintStore Failure Unit := do
  let _ ← updateJobs (fun job => job.deviceId = some deviceId && job.status = .pending)
    (fun job => { job with deviceId := none }) now

def updateDevice (id employeeId : Id) (input : UpdatePrintDeviceInput) (locked : Id → Bool)
    (now : Timestamp) : Transact Unit := do
  assertActiveEmployee employeeId
  let catalog ← readCatalog
  printingTx do
    let existing ← findDevice id
    let jobs ← findMany printJob fun job => job.deviceId = some id
    let type := input.type.getD existing.type
    require (¬(type = .kitchen ∧ input.isDefault = some true)) kitchenDefault
    require (type = .kitchen ∨
        (catalog.kitchenStations.first? (·.printDeviceId = some id)).isNone)
      (.conflict "A device assigned to kitchen stations must remain a kitchen printer.")
    require (type = existing.type ∨ jobs = [])
      (.conflict "A print device type cannot change after jobs have been assigned.")
    let isDefault := updatedDefault input existing
    when (input.isActive = some false) (assertNoLeases id
      "Wait for active print leases to finish before disabling the device." locked now)
    when isDefault (clearDefault type (some id))
    updateExpecting printDevice id (fun _ => true)
      (fun row => { row with
        name := input.name.getD row.name
        type
        paperSize := input.paperSize.getD row.paperSize
        isActive := input.isActive.getD existing.isActive
        isDefault
        status := updatedStatus input row.status }) (.notFound "Record to update not found.")
    if input.isActive = some false then unassignJobs id now
    else when isDefault (assignPendingDefaultJobs id now)

def deleteDevice (id employeeId : Id) (locked : Id → Bool) (now : Timestamp) : Transact Unit := do
  assertActiveEmployee employeeId
  printingTx do
    let _ ← findDevice id
    assertNoLeases id "Cannot delete a print device while it has leased jobs." locked now
  let _ ← updateMany Database.stationPart (fun station => station.printDeviceId = some id)
    (fun station => { station with printDeviceId := none })
  printingTx do
    unassignJobs id now
    updateExpecting printDevice id (fun _ => true)
      (fun row => { row with
        deletedAt := some now
        isActive := false
        isDefault := false
        status := .paused }) (.notFound "Record to update not found.")

def heartbeat (deviceId : Id) (input : PrintAgentHeartbeatInput) (now : Timestamp) :
    Tx PrintStore Failure Unit := do
  let isOwn : PrintDevice → Bool := fun device =>
    device.id = deviceId && device.isActive && device.deletedAt.isNone
  let updated ← updateMany printDevice (fun device => isOwn device && device.status ≠ .paused)
    (fun device => { device with
      status := input.status
      lastSeenAt := some now
      lastError := if input.status = .error then input.error else none })
  when (updated = 0) do
    let _ ← updateMany printDevice isOwn fun device => { device with lastSeenAt := some now }

def claim (deviceId : Id) (limit : Nat) (locked : Id → Bool) (now : Timestamp) :
    Transact Unit := do
  let leaseToken ← freshId
  let _ ← printingTx (claimJobs deviceId limit locked leaseToken now)

def fail (deviceId jobId leaseToken : Id) (error : String) (outcome : PrintFailureOutcome)
    (now : Timestamp) : Transact Unit := do
  let database ← get
  printingTx (failJob deviceId jobId leaseToken error outcome
    database.sales.cancelledTicketItems now)

/-- `job.kitchenTicket?.availableAt`. -/
def releasedAt (sales : SalesStore) (ticketId : Option Id) : Timestamp :=
  ((ticketId.bind sales.tickets.find?).bind (·.availableAt)).getD 0

def retry (id employeeId : Id) (deviceId : Option (Option Id)) (now : Timestamp) :
    Transact Unit := do
  assertActiveEmployee employeeId
  let database ← get
  printingTx (retryJob id deviceId database.sales.cancelledTicketItems
    (releasedAt database.sales) now)

def resolve (id employeeId : Id) (outcome : PrintResolution) (expectedUpdatedAt now : Timestamp) :
    Transact Unit := do
  assertActiveEmployee employeeId
  printingTx (resolveJob id outcome expectedUpdatedAt now)

/-- The requested receipt printer, or the default one. -/
def resolveReceiptDevice (requestedDeviceId : Option Id) : Tx PrintStore Failure (Option Id) :=
  ifSome requestedDeviceId
    (fun deviceId => do
      assertCompatibleDevice deviceId .receipt
      pure (some deviceId))
    (do
      let device ← findFirst printDevice fun device => device.type = .receipt &&
        device.isActive && device.isDefault && device.deletedAt.isNone
      pure (device.map (·.id)))

def isPrintable (invoice : Invoice) : Bool :=
  invoice.paymentStatus = .paid || invoice.paymentStatus = .partiallyRefunded ||
    invoice.paymentStatus = .refunded

def findPrintableInvoice (invoiceId : Id) : Tx SalesStore Failure Invoice := do
  let unpaid : Failure := .conflict "Only paid invoices can be printed."
  let found ← findUniqueOrFail SalesStore.invoice invoiceId unpaid
  require (isPrintable found) unpaid
  pure found

def snapshotItem (line : InvoiceSnapshotLine) : ReceiptPrintItem where
  orderItemId := line.orderItemId
  name := line.name
  quantity := line.quantity
  unitPrice := line.unitPrice
  lineTotal := line.unitPrice * line.quantity
  selectedOptions := line.selectedOptions

def receiptItem (catalog : Catalog) (item : OrderItem) : ReceiptPrintItem where
  orderItemId := item.id
  name := KitchenRouting.menuItemName catalog item.menuItemId
  quantity := item.quantity
  unitPrice := item.priceAtTime
  lineTotal := item.priceAtTime * item.quantity
  selectedOptions := item.selectedOptions

/-- The sale as it was captured, or with the current names where it was not. -/
def receiptPayload (database : Database) (invoice : Invoice) : ReceiptPrintPayload where
  isReprint := false
  invoiceId := invoice.id
  invoiceNumber := invoice.invoiceNumber
  createdAt := invoice.createdAt
  tableName := match invoice.documentSnapshot with
    | some snapshot => snapshot.tableName
    | none => KitchenRouting.tableNameOf database.sales invoice.orderSessionId
  cashierName := InvoicesService.employeeName database.catalog invoice.employeeId
  paymentMethod := invoice.paymentMethod
  paymentStatus := invoice.paymentStatus
  subTotal := invoice.subTotal
  discountAmount := invoice.discountAmount
  taxAmount := invoice.taxAmount
  totalAmount := invoice.totalAmount
  amountTendered := invoice.amountTendered
  changeAmount := invoice.changeAmount
  items := match invoice.documentSnapshot with
    | some snapshot => snapshot.items.map snapshotItem
    | none => (database.sales.items.select fun item => item.invoiceId = some invoice.id).map
        (receiptItem database.catalog)

/-- The payload of the first receipt, marked as a reprint. -/
def reprintPayload (original : Option PrintJob) (receipt : ReceiptPrintPayload) : PrintPayload :=
  match original.map PrintJob.payload with
  | some (.receipt payload) => .receipt { payload with isReprint := true }
  | _ => .receipt { receipt with isReprint := true }

def reprintReceipt (invoiceId employeeId : Id) (input : ReprintReceiptInput) (now : Timestamp) :
    Transact Unit := do
  assertActiveEmployee employeeId
  let invoice ← salesTx (findPrintableInvoice invoiceId)
  let database ← get
  let id ← freshId
  printingTx do
    let uncertain ← findFirst printJob fun job => job.invoiceId = some invoiceId &&
      job.type = .receipt && job.status = .requiresReview
    require uncertain.isNone
      (requiresReview "Reconcile the uncertain receipt before requesting another copy.")
    let deviceId ← resolveReceiptDevice input.deviceId
    let receipts ← findMany printJob fun job => job.invoiceId = some invoiceId &&
      job.type = .receipt && job.reprintOfId.isNone
    let original := (receipts.insertionSort fun left right => createdFirst left right).head?
    insertJob {
      id
      type := .receipt
      payload := reprintPayload original (receiptPayload database invoice)
      copies := input.copies
      availableAt := now
      deduplicationKey := .reprint invoiceId employeeId input.idempotencyKey
      createdAt := now
      updatedAt := now
      deviceId
      requestedById := some employeeId
      invoiceId := some invoiceId
      reprintOfId := original.map (·.id) }

def createAutomaticReceipt (invoiceId : Id) (now : Timestamp) : Transact Unit := do
  let existing ← printingTx (findFirst printJob fun job =>
    job.deduplicationKey = .autoReceipt invoiceId)
  let database ← get
  let printable := (database.sales.invoices.find? invoiceId).filter isPrintable
  when existing.isNone (whenSome printable fun invoice => do
    let id ← freshId
    printingTx do
      let deviceId ← resolveReceiptDevice none
      insertJob {
        id
        type := .receipt
        payload := .receipt (receiptPayload database invoice)
        availableAt := now
        deduplicationKey := .autoReceipt invoiceId
        createdAt := now
        updatedAt := now
        deviceId
        invoiceId := some invoiceId })

def createPrecheck (employeeId : Id) (input : CreatePrecheckInput) (now : Timestamp) :
    Transact Unit := do
  let quote ← InvoicesService.quoteInvoiceInTransaction employeeId input.toCreateInvoiceInput now
  let database ← get
  let id ← freshId
  printingTx do
    let deviceId ← resolveReceiptDevice input.deviceId
    insertJob {
      id
      type := .precheck
      payload := .precheck {
        orderSessionId := input.orderSessionId
        createdAt := now
        tableName := KitchenRouting.tableNameOf database.sales input.orderSessionId
        cashierName := InvoicesService.employeeName database.catalog employeeId
        promotionId := input.promotionId
        subTotal := quote.calculation.subTotal
        discountAmount := quote.calculation.discountAmount
        taxAmount := quote.calculation.taxAmount
        taxRate := quote.calculation.taxRate
        totalAmount := quote.calculation.totalAmount
        items := quote.items.map (receiptItem database.catalog) }
      copies := input.copies
      availableAt := now
      deduplicationKey := .precheck employeeId input.idempotencyKey
      createdAt := now
      updatedAt := now
      deviceId
      requestedById := some employeeId
      orderSessionId := some input.orderSessionId }

end PrintingService

end CoffeeShop
