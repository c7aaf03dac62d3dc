import CoffeeShop.Store.Basic

/-!
Tables, order sessions, order lines, invoices and online order requests.
-/

namespace CoffeeShop

inductive TableStatus where
  | empty
  | occupied
  | reserved
  deriving DecidableEq, Repr

def TableStatus.text : TableStatus → String
  | empty => "EMPTY"
  | occupied => "OCCUPIED"
  | reserved => "RESERVED"

structure DiningTable where
  id : Id
  name : String
  status : TableStatus
  deletedAt : Option Timestamp

theorem DiningTable.id_withStatus (status : TableStatus) (table : DiningTable) :
    { table with status }.id = table.id := rfl

inductive SessionStatus where
  | active
  | completed
  | cancelled
  deriving DecidableEq, Repr

structure OrderSession where
  id : Id
  sessionStatus : SessionStatus
  guestCount : Option Nat
  createdAt : Timestamp
  tableId : Option Id
  employeeId : Id
  shiftId : Option Id

theorem OrderSession.id_withStatus (status : SessionStatus) (session : OrderSession) :
    { session with sessionStatus := status }.id = session.id := rfl

inductive ServeStatus where
  | pending
  | cooking
  | ready
  | served
  | cancelled
  deriving DecidableEq, Repr

structure SelectedMenuOption where
  id : Id
  groupName : String
  name : String
  priceDelta : Money
  deriving DecidableEq, Repr

structure OrderItem where
  id : Id
  quantity : Nat
  priceAtTime : Money
  note : Option String
  selectedOptions : List SelectedMenuOption
  recipeSnapshottedAt : Option Timestamp
  serveStatus : ServeStatus
  isPaid : Bool
  readyAt : Option Timestamp
  createdAt : Timestamp
  orderSessionId : Id
  menuItemId : Id
  invoiceId : Option Id

theorem OrderItem.id_withStatus (status : ServeStatus) (item : OrderItem) :
    { item with serveStatus := status }.id = item.id := rfl

structure OrderItemRecipeIngredient where
  orderItemId : Id
  inventoryItemId : Id
  quantityPerItem : Quantity

def OrderItemRecipeIngredient.key (row : OrderItemRecipeIngredient) : Id × Id :=
  (row.orderItemId, row.inventoryItemId)

structure OrderRemake where
  originalItemId : Id
  replacementItemId : Id
  requestedById : Id
  reason : String
  idempotencyKey : String
  createdAt : Timestamp

structure KitchenTicket where
  id : Id
  stationId : Id
  orderSessionId : Id
  dueAt : Timestamp
  availableAt : Option Timestamp
  createdAt : Timestamp

structure KitchenTicketItem where
  orderItemId : Id
  ticketId : Id
  itemName : String
  quantity : Nat
  note : Option String
  selectedOptions : List SelectedMenuOption

inductive PaymentMethod where
  | cash
  | card
  | transfer
  deriving DecidableEq, Repr

inductive PaymentStatus where
  | unpaid
  | paid
  | voided
  | partiallyRefunded
  | refunded
  deriving DecidableEq, Repr

/-- The calendar day and the daily counter of `INV-YYYYMMDD-000001`. -/
structure InvoiceNumber where
  day : Nat
  sequence : Nat
  deriving DecidableEq, Repr

structure InvoiceSnapshotLine where
  orderItemId : Id
  menuItemId : Id
  name : String
  quantity : Nat
  unitPrice : Money
  note : Option String
  selectedOptions : List SelectedMenuOption
  deriving DecidableEq

inductive SnapshotSource where
  | issued
  | legacyBackfill
  deriving DecidableEq, Repr

structure InvoiceDocumentSnapshot where
  source : SnapshotSource
  tableId : Option Id
  tableName : Option String
  issuedByName : String
  promotionName : Option String
  items : List InvoiceSnapshotLine
  deriving DecidableEq

structure Invoice where
  id : Id
  invoiceNumber : InvoiceNumber
  subTotal : Money
  discountAmount : Money
  totalAmount : Money
  amountTendered : Option Money
  changeAmount : Option Money
  paymentMethod : PaymentMethod
  paymentStatus : PaymentStatus
  pickupCodeVersion : Option Nat
  pickupCodeIssuedAt : Option Timestamp
  taxAmount : Money
  taxRate : Money
  documentSnapshot : Option InvoiceDocumentSnapshot
  createdAt : Timestamp
  orderSessionId : Id
  employeeId : Id
  shiftId : Option Id
  promotionId : Option Id

inductive OnlineOrderStatus where
  | pending
  | accepted
  | rejected
  | cancelled
  deriving DecidableEq, Repr

structure OnlineOrderRequestItem where
  menuItemId : Id
  quantity : Nat
  note : Option String
  quotedUnitPrice : Money
  quotedOptions : List SelectedMenuOption
  quantity_pos : 0 < quantity

structure OnlineOrderRequest where
  id : Id
  quotedSubtotal : Money
  pickupAt : Option Timestamp
  status : OnlineOrderStatus
  rejectionReason : Option String
  cancellationReason : Option String
  createdAt : Timestamp
  expiresAt : Timestamp
  reviewedAt : Option Timestamp
  cancelledAt : Option Timestamp
  noShowAt : Option Timestamp
  reviewedById : Option Id
  orderSessionId : Option Id
  /-- The request's lines in `lineNumber` order. -/
  items : List OnlineOrderRequestItem

inductive ReservationStatus where
  | pending
  | arrived
  | cancelled
  | noShow
  deriving DecidableEq, Repr

structure Reservation where
  id : Id
  customerName : Option String
  phoneNumber : String
  startsAt : Timestamp
  endsAt : Timestamp
  guestCount : Nat
  notes : Option String
  checkedInAt : Option Timestamp
  cancelledAt : Option Timestamp
  cancellationReason : Option String
  noShowAt : Option Timestamp
  status : ReservationStatus
  createdAt : Timestamp
  updatedAt : Timestamp
  tableId : Id
  employeeId : Id
  orderSessionId : Option Id

/-- The tables of the order, invoice, reservation and online order services. -/
structure SalesStore where
  tables : Table DiningTable.id
  sessions : Table OrderSession.id
  items : Table OrderItem.id
  recipes : Table OrderItemRecipeIngredient.key
  remakes : Table OrderRemake.originalItemId
  tickets : Table KitchenTicket.id
  ticketItems : Table KitchenTicketItem.orderItemId
  invoices : Table Invoice.id
  requests : Table OnlineOrderRequest.id
  reservations : Table Reservation.id

namespace SalesStore

open Transaction

def empty : SalesStore where
  tables := .empty
  sessions := .empty
  items := .empty
  recipes := .empty
  remakes := .empty
  tickets := .empty
  ticketItems := .empty
  invoices := .empty
  requests := .empty
  reservations := .empty

@[simps] def diningTable : Part SalesStore (Table DiningTable.id) where
  get := tables
  set value store := { store with tables := value }
  get_set _ _ := rfl

@[simps] def orderSession : Part SalesStore (Table OrderSession.id) where
  get := sessions
  set value store := { store with sessions := value }
  get_set _ _ := rfl

@[simps] def orderItem : Part SalesStore (Table OrderItem.id) where
  get := items
  set value store := { store with items := value }
  get_set _ _ := rfl

@[simps] def recipeIngredient : Part SalesStore (Table OrderItemRecipeIngredient.key) where
  get := recipes
  set value store := { store with recipes := value }
  get_set _ _ := rfl

@[simps] def orderRemake : Part SalesStore (Table OrderRemake.originalItemId) where
  get := remakes
  set value store := { store with remakes := value }
  get_set _ _ := rfl

@[simps] def kitchenTicket : Part SalesStore (Table KitchenTicket.id) where
  get := tickets
  set value store := { store with tickets := value }
  get_set _ _ := rfl

@[simps] def kitchenTicketItem : Part SalesStore (Table KitchenTicketItem.orderItemId) where
  get := ticketItems
  set value store := { store with ticketItems := value }
  get_set _ _ := rfl

@[simps] def invoice : Part SalesStore (Table Invoice.id) where
  get := invoices
  set value store := { store with invoices := value }
  get_set _ _ := rfl

@[simps] def onlineOrderRequest : Part SalesStore (Table OnlineOrderRequest.id) where
  get := requests
  set value store := { store with requests := value }
  get_set _ _ := rfl

@[simps] def reservation : Part SalesStore (Table Reservation.id) where
  get := reservations
  set value store := { store with reservations := value }
  get_set _ _ := rfl

end SalesStore

end CoffeeShop
