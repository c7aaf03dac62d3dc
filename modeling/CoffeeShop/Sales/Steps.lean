import CoffeeShop.Footprints

/-!
What the services do to tables, sessions, items and invoices.

A transaction of any service takes the sales tables through a list of these steps.  A
step is as large as the invariants need: the rows that have to change together are
written in one step, with what the guards of the service have established.
-/

namespace CoffeeShop

open Transaction SalesStore InventoryConsumption

/-- The item goes on without a change to its bill. -/
structure OrderItem.Advances (before after : OrderItem) : Prop where
  id : after.id = before.id
  quantity : after.quantity = before.quantity
  priceAtTime : after.priceAtTime = before.priceAtTime
  isPaid : after.isPaid = before.isPaid
  orderSessionId : after.orderSessionId = before.orderSessionId
  invoiceId : after.invoiceId = before.invoiceId
  cancelled : after.serveStatus = .cancelled ↔ before.serveStatus = .cancelled
  served : before.serveStatus = .served → after.serveStatus = .served
  recipeSnapshottedAt : after.recipeSnapshottedAt = before.recipeSnapshottedAt

/-- Neither paid nor on an invoice. -/
def OrderItem.isOpen (item : OrderItem) : Bool := !item.isPaid && item.invoiceId.isNone

/-- The guests have paid for the item, if it was not cancelled. -/
def OrderItem.isDone (item : OrderItem) : Prop :=
  item.serveStatus = .cancelled ∨ item.isPaid = true

/-- The item is served on a bill, and replaces no other. -/
structure OrderItem.HandedOff (item : OrderItem) (sales : SalesStore) : Prop where
  served : item.serveStatus = .served
  paid : item.isPaid = true
  billed : item.invoiceId ≠ none
  first : sales.isReplacement item.id = false

/-- The amounts and the references of the invoice stay. -/
structure Invoice.Agrees (before after : Invoice) : Prop where
  id : after.id = before.id
  subTotal : after.subTotal = before.subTotal
  totalAmount : after.totalAmount = before.totalAmount
  orderSessionId : after.orderSessionId = before.orderSessionId

/-- The session may end: what it still has is cancelled or paid, and at a table served. -/
def OrderSession.MayComplete (session : OrderSession) (items : Table OrderItem.id) : Prop :=
  ∀ item ∈ items, item.orderSessionId = session.id →
    item.isDone ∧
      (session.tableId.isSome = true → item.serveStatus = .cancelled ∨ item.serveStatus = .served)

/-- Nothing of the session is left to prepare or to pay. -/
def OrderSession.MayCancel (session : OrderSession) (items : Table OrderItem.id) : Prop :=
  ∀ item ∈ items, item.orderSessionId = session.id → item.serveStatus = .cancelled

/-- The line that opens for a part of an item. -/
def OrderItem.part (item : OrderItem) (id orderSessionId : Id) (quantity : Nat)
    (createdAt : Timestamp) : OrderItem :=
  { item with
    id
    quantity
    isPaid := false
    readyAt := none
    createdAt
    orderSessionId
    invoiceId := none }

theorem OrderItem.ticketItem_key (item : OrderItem) (quantity : Nat) (row : KitchenTicketItem) :
    { row with quantity := item.quantity - quantity }.orderItemId = row.orderItemId := rfl

/-- The kitchen's line of an item is divided as the item is. -/
def divideTicketItem (ticketItems : Table KitchenTicketItem.orderItemId) (item : OrderItem)
    (movedId : Id) (quantity : Nat) : Option (Table KitchenTicketItem.orderItemId) :=
  match ticketItems.find? item.id with
  | none => some ticketItems
  | some ticketItem =>
      (ticketItems.update (fun row => row.orderItemId = item.id)
        (fun row => { row with quantity := item.quantity - quantity })
        (item.ticketItem_key quantity)).insert? { ticketItem with orderItemId := movedId, quantity }

/-- A line of one session is now another's, or a part of it is. -/
inductive LineMoved (source destination : Id) (sales : SalesStore) : SalesStore → Prop
  | whole {item : OrderItem} (found : item ∈ sales.items) (own : item.orderSessionId = source)
      (open_ : item.isOpen = true) :
      LineMoved source destination sales { sales with
        items := sales.items.update (fun row => row.id = item.id) fun row =>
          { row with orderSessionId := destination } }
  | divided {item : OrderItem} {id : Id} {quantity : Nat} {now : Timestamp}
      {items : Table OrderItem.id} {recipes : Table OrderItemRecipeIngredient.key}
      {ticketItems : Table KitchenTicketItem.orderItemId}
      (found : item ∈ sales.items) (own : item.orderSessionId = source)
      (open_ : item.isOpen = true) (positive : 0 < quantity) (less : quantity < item.quantity)
      (inserted : (sales.items.update (fun row => row.id = item.id) fun row =>
        { row with quantity := item.quantity - quantity }).insert?
          (item.part id destination quantity now) = some items)
      (recorded : sales.recipes.insertAll? (if item.recipeSnapshottedAt.isSome then
        recipeRows id (snapshotRecipe sales item.id) else []) = some recipes)
      (ticketed : divideTicketItem sales.ticketItems item id quantity = some ticketItems) :
      LineMoved source destination sales { sales with items, recipes, ticketItems }

theorem LineMoved.sessions_eq {source destination : Id} {before after : SalesStore}
    (moved : LineMoved source destination before after) : after.sessions = before.sessions := by
  cases moved with
  | whole => rfl
  | divided => rfl

theorem LineMoved.tables_eq {source destination : Id} {before after : SalesStore}
    (moved : LineMoved source destination before after) : after.tables = before.tables := by
  cases moved with
  | whole => rfl
  | divided => rfl

/-- One step of the sales tables, where invoices may be refunded by the given method. -/
inductive SalesStep (refunds : Option PaymentMethod) (sales : SalesStore) : SalesStore → Prop
  /-- Tickets, requests and reservations are none of its concern. -/
  | besides {after : SalesStore} (tables : after.tables = sales.tables)
      (sessions : after.sessions = sales.sessions) (items : after.items = sales.items)
      (invoices : after.invoices = sales.invoices) (remakes : after.remakes = sales.remakes)
      (recipes : after.recipes = sales.recipes)
      (ticketItems : after.ticketItems = sales.ticketItems) : SalesStep refunds sales after
  | tableCreated {table : DiningTable} {tables : Table DiningTable.id}
      (empty : table.status = .empty) (inserted : sales.tables.insert? table = some tables) :
      SalesStep refunds sales { sales with tables }
  | tableRenamed (condition : DiningTable → Bool) (name : String) :
      SalesStep refunds sales { sales with
        tables := sales.tables.update condition fun row => { row with name } }
  | tableDeleted (condition : DiningTable → Bool) (now : Timestamp)
      (free : ∀ table ∈ sales.tables, condition table = true → table.status = .empty ∧
        ∀ session ∈ sales.sessions, session.sessionStatus = .active →
          session.tableId ≠ some table.id) :
      SalesStep refunds sales { sales with
        tables := sales.tables.update condition fun row => { row with deletedAt := some now } }
  | sessionOpened {session : OrderSession} {sessions : Table OrderSession.id}
      (occupies : DiningTable → Bool)
      (active : session.sessionStatus = .active)
      (only : ∀ table ∈ sales.tables, occupies table = true → session.tableId = some table.id)
      (taken : ∀ tableId, session.tableId = some tableId → ∃ table,
        sales.tables.find? tableId = some table ∧ table.deletedAt = none ∧ occupies table = true)
      (free : session.tableId.isSome = true → ∀ other ∈ sales.sessions,
        other.sessionStatus = .active → other.tableId ≠ session.tableId)
      (inserted : sales.sessions.insert? session = some sessions) :
      SalesStep refunds sales { sales with
        tables := sales.tables.update occupies fun row => { row with status := .occupied }
        sessions }
  | sessionMoved (id fromTableId toTableId : Id) (moves : OrderSession → Bool)
      (occupies empties : DiningTable → Bool) (tables_ne : fromTableId ≠ toTableId)
      (moved : ∀ session ∈ sales.sessions, moves session = true → session.id = id ∧
        session.sessionStatus = .active ∧ session.tableId = some fromTableId)
      (moving : ∃ session ∈ sales.sessions, moves session = true)
      (only : ∀ table ∈ sales.tables, occupies table = true → table.id = toTableId)
      (taken : ∃ table, sales.tables.find? toTableId = some table ∧ table.deletedAt = none ∧
        occupies table = true)
      (free : ∀ other ∈ sales.sessions, other.sessionStatus = .active →
        other.tableId ≠ some toTableId)
      (left : ∀ table, empties table = true → table.id = fromTableId)
      (emptied : ∀ table, table.id = fromTableId → table.status = .occupied →
        empties table = true) :
      SalesStep refunds sales { sales with
        tables := (sales.tables.update occupies fun row => { row with status := .occupied }).update
          empties fun row => { row with status := .empty }
        sessions := sales.sessions.update moves fun row =>
          { row with tableId := some toTableId } }
  | sessionsClosed (status : SessionStatus) (closes : OrderSession → Bool)
      (empties : DiningTable → Bool)
      (active : ∀ session ∈ sales.sessions, closes session = true →
        session.sessionStatus = .active)
      (done : ∀ session ∈ sales.sessions, closes session = true →
        (status = .completed ∧ session.MayComplete sales.items) ∨
          (status = .cancelled ∧ session.MayCancel sales.items))
      (freed : ∀ session ∈ sales.sessions, closes session = true →
        ∀ table ∈ sales.tables, session.tableId = some table.id → table.status = .occupied →
          empties table = true)
      (emptied : ∀ table ∈ sales.tables, empties table = true →
        ∀ session ∈ sales.sessions, session.sessionStatus = .active →
          session.tableId = some table.id → ∃ closed ∈ sales.sessions,
            closes closed = true ∧ closed.tableId = some table.id) :
      SalesStep refunds sales { sales with
        tables := sales.tables.update empties fun row => { row with status := .empty }
        sessions := sales.sessions.update closes fun row => { row with sessionStatus := status } }
  | sessionsMerged (tableIds : List Id) (closes : OrderSession → Bool) (nodup : tableIds.Nodup)
      (count : (sales.sessions.select closes).length = tableIds.length)
      (sources : ∀ session ∈ sales.sessions, closes session = true →
        session.sessionStatus = .active ∧ session.MayComplete sales.items ∧
          ∃ tableId ∈ tableIds, session.tableId = some tableId) :
      SalesStep refunds sales { sales with
        tables := sales.tables.update (fun row => row.id ∈ tableIds) fun row =>
          { row with status := .empty }
        sessions := sales.sessions.update closes fun row =>
          { row with sessionStatus := .completed } }
  | itemsAdded {rows : List OrderItem} {lines : List OrderItemRecipeIngredient}
      {items : Table OrderItem.id} {recipes : Table OrderItemRecipeIngredient.key}
      (fresh : ∀ row ∈ rows, row.isOpen = true ∧ row.serveStatus = .pending ∧ 0 < row.quantity ∧
        row.recipeSnapshottedAt.isSome = true)
      (priced : ∀ row ∈ rows, 0 ≤ row.priceAtTime)
      (active : ∀ row ∈ rows, ∃ session, sales.sessions.find? row.orderSessionId = some session ∧
        session.sessionStatus = .active)
      (owned : ∀ line ∈ lines, ∃ row ∈ rows, line.orderItemId = row.id)
      (inserted : sales.items.insertAll? rows = some items)
      (recorded : sales.recipes.insertAll? lines = some recipes) :
      SalesStep refunds sales { sales with items, recipes }
  | itemRemade {item : OrderItem} {remake : OrderRemake} {lines : List OrderItemRecipeIngredient}
      {items : Table OrderItem.id} {remakes : Table OrderRemake.originalItemId}
      {recipes : Table OrderItemRecipeIngredient.key}
      (paid : item.isPaid = true) (free : item.invoiceId = none)
      (pending : item.serveStatus = .pending) (price : item.priceAtTime = 0)
      (snapshotted : item.recipeSnapshottedAt.isSome = true)
      (copied : ∃ original ∈ sales.items, item.quantity = original.quantity ∧
        original.id = remake.originalItemId ∧ original.orderSessionId = item.orderSessionId ∧
        original.HandedOff sales)
      (open_ : ∃ session, sales.sessions.find? item.orderSessionId = some session ∧
        session.sessionStatus ≠ .cancelled ∧
        (session.tableId.isSome = true → session.sessionStatus = .active))
      (replaces : remake.replacementItemId = item.id)
      (owned : ∀ line ∈ lines, line.orderItemId = item.id)
      (inserted : sales.items.insert? item = some items)
      (copiedRecipe : sales.recipes.insertAll? lines = some recipes)
      (recorded : sales.remakes.insert? remake = some remakes) :
      SalesStep refunds sales { sales with items, recipes, remakes }
  /-- Items from before the snapshots are given one. -/
  | recipesSnapshotted (condition : OrderItem → Bool) (now : Timestamp)
      {lines : List OrderItemRecipeIngredient} {recipes : Table OrderItemRecipeIngredient.key}
      (owned : ∀ line ∈ lines, ∃ item ∈ sales.items, item.recipeSnapshottedAt = none ∧
        line.orderItemId = item.id)
      (legacy : ∀ item ∈ sales.items, condition item = true → item.recipeSnapshottedAt = none)
      (recorded : sales.recipes.insertAll? lines = some recipes) :
      SalesStep refunds sales { sales with
        recipes
        items := sales.items.update condition fun item =>
          { item with recipeSnapshottedAt := some now } }
  | ticketed {rows : List KitchenTicketItem} {ticketItems : Table KitchenTicketItem.orderItemId}
      (agrees : ∀ row ∈ rows, ∃ item ∈ sales.items, row.orderItemId = item.id ∧
        row.quantity = item.quantity)
      (inserted : sales.ticketItems.insertAll? rows = some ticketItems) :
      SalesStep refunds sales { sales with ticketItems }
  | itemsAdvanced (condition : OrderItem → Bool) (change : OrderItem → OrderItem)
      (keeps : ∀ row, (change row).id = row.id)
      (advances : ∀ row ∈ sales.items, condition row = true → row.Advances (change row)) :
      SalesStep refunds sales { sales with items := sales.items.update condition change keeps }
  | itemsCancelled (condition : OrderItem → Bool) (note : OrderItem → Option String)
      (free : ∀ row ∈ sales.items, condition row = true → row.invoiceId = none) :
      SalesStep refunds sales { sales with
        items := sales.items.update condition fun row =>
          { row with serveStatus := .cancelled, note := note row } }
  | itemsMoved (condition : OrderItem → Bool) (target : Id)
      (free : ∀ row ∈ sales.items, condition row = true → row.isOpen = true)
      (active : ∃ session, sales.sessions.find? target = some session ∧
        session.sessionStatus = .active) :
      SalesStep refunds sales { sales with
        items := sales.items.update condition fun row => { row with orderSessionId := target } }
  | lineMoved {source destination : Id} {after : SalesStore}
      (active : ∃ session, sales.sessions.find? destination = some session ∧
        session.sessionStatus = .active)
      (moved : LineMoved source destination sales after) : SalesStep refunds sales after
  | invoiceIssued {invoice : Invoice} {invoices : Table Invoice.id} (links : OrderItem → Bool)
      (status : invoice.paymentStatus = .unpaid ∨ invoice.paymentStatus = .paid)
      (billable : ∀ row ∈ sales.items, links row = true → row.isOpen = true ∧
        row.serveStatus ≠ .cancelled ∧ row.orderSessionId = invoice.orderSessionId)
      (total : (∀ row ∈ sales.items, 0 ≤ row.priceAtTime) →
        invoice.subTotal = sales.items.sumWhere links OrderItem.lineTotal)
      (nonneg : 0 ≤ invoice.totalAmount)
      (inserted : sales.invoices.insert? invoice = some invoices) :
      SalesStep refunds sales { sales with
        invoices
        items := sales.items.update links fun row => { row with
          invoiceId := some invoice.id
          isPaid := if invoice.paymentStatus = .paid then true else row.isPaid } }
  | invoicePaid (id : Id) (condition : Invoice → Bool) (change : Invoice → Invoice)
      (keeps : ∀ row, (change row).id = row.id)
      (found : ∀ row ∈ sales.invoices, condition row = true ↔ row.id = id)
      (unpaid : ∃ row, sales.invoices.find? id = some row ∧ row.paymentStatus = .unpaid)
      (pays : ∀ row ∈ sales.invoices, condition row = true →
        row.Agrees (change row) ∧ (change row).paymentStatus = .paid) :
      SalesStep refunds sales { sales with
        invoices := sales.invoices.update condition change keeps
        items := sales.items.update (fun item => item.invoiceId = some id && !item.isPaid)
          fun item => { item with isPaid := true } }
  | invoiceVoided (id : Id) (change : Invoice → Invoice)
      (keeps : ∀ row, (change row).id = row.id)
      (unpaid : ∃ row, sales.invoices.find? id = some row ∧ row.paymentStatus = .unpaid)
      (voids : ∀ row ∈ sales.invoices, row.Agrees (change row) ∧
        (change row).paymentStatus = .voided) :
      SalesStep refunds sales { sales with
        invoices := sales.invoices.update (fun row => row.id = id && true) change keeps
        items := sales.items.update (fun item => item.invoiceId = some id && !item.isPaid)
          fun item => { item with invoiceId := none, isPaid := false } }
  | invoicesTouched (condition : Invoice → Bool) (change : Invoice → Invoice)
      (keeps : ∀ row, (change row).id = row.id)
      (agrees : ∀ row ∈ sales.invoices, condition row = true → row.Agrees (change row) ∧
        (change row).paymentMethod = row.paymentMethod ∧
        (change row).paymentStatus = row.paymentStatus) :
      SalesStep refunds sales { sales with
        invoices := sales.invoices.update condition change keeps }
  | invoicesRefunded (condition : Invoice → Bool) (method : PaymentMethod)
      (status : PaymentStatus) (allowed : refunds = some method) (settled : status.isSettled = true)
      (paid : ∀ row ∈ sales.invoices, condition row = true → row.paymentStatus.isSettled = true ∧
        (method = .cash → row.paymentMethod = .cash)) :
      SalesStep refunds sales { sales with
        invoices := sales.invoices.update condition fun row => { row with paymentStatus := status } }

/-- Any number of steps. -/
abbrev SalesSteps (refunds : Option PaymentMethod) : SalesStore → SalesStore → Prop :=
  Relation.ReflTransGen (SalesStep refunds)

/-- The tables that the steps are about. -/
def SalesStore.billed (sales : SalesStore) : Table DiningTable.id × Table OrderSession.id ×
    Table OrderItem.id × Table Invoice.id × Table OrderRemake.originalItemId ×
    Table OrderItemRecipeIngredient.key × Table KitchenTicketItem.orderItemId :=
  (sales.tables, sales.sessions, sales.items, sales.invoices, sales.remakes, sales.recipes,
    sales.ticketItems)

instance : Apart billed kitchenTicket := ⟨fun _ _ => rfl⟩
instance : Apart billed onlineOrderRequest := ⟨fun _ _ => rfl⟩
instance : Apart billed reservation := ⟨fun _ _ => rfl⟩

namespace SalesSteps

variable {refunds : Option PaymentMethod} {before after : SalesStore} {α : Type}

theorem of_billed_eq (same : after.billed = before.billed) : SalesSteps refunds before after := by
  simp only [billed, Prod.mk.injEq] at same
  obtain ⟨tables, sessions, items, invoices, remakes, recipes, ticketItems⟩ := same
  exact .single (.besides tables sessions items invoices remakes recipes ticketItems)

instance (priority := low) besides {program : Tx SalesStore Failure α} [Keeps billed program] :
    Respects (SalesSteps refunds) program where
  step _ _ _ committed := of_billed_eq (Keeps.eq billed committed)

section Statements

variable {condition : OrderItem → Bool} {change : OrderItem → OrderItem}
variable {keeps : ∀ row, (change row).id = row.id}

theorem advance (advances : ∀ row, condition row = true → row.Advances (change row)) :
    Respects (SalesSteps refunds) (updateMany orderItem condition change keeps :
      Tx SalesStore Failure Nat) where
  step before result after committed := by
    obtain ⟨-, rfl⟩ := commits_updateMany.mp committed
    exact .single (.itemsAdvanced condition change keeps fun row _ holds => advances row holds)

theorem advanceExpecting {wanted : Id} {guard : OrderItem → Bool} {failure : Failure}
    (advances : ∀ row, guard row = true → row.Advances (change row)) :
    Respects (SalesSteps refunds) (updateExpecting orderItem wanted guard change failure keeps) := by
  have single : Respects (SalesSteps refunds) (updateMany orderItem
      (fun row => row.id = wanted && guard row) change keeps : Tx SalesStore Failure Nat) := by
    refine advance fun row holds => advances row ?_
    exact (Bool.and_eq_true_iff.mp holds).2
  unfold Transaction.updateExpecting
  infer_instance

theorem touchInvoice {wanted : Id} {guard : Invoice → Bool} {change : Invoice → Invoice}
    {keeps : ∀ row, (change row).id = row.id} {failure : Failure}
    (agrees : ∀ row, row.Agrees (change row) ∧ (change row).paymentMethod = row.paymentMethod ∧
      (change row).paymentStatus = row.paymentStatus) :
    Respects (SalesSteps refunds) (updateExpecting invoice wanted guard change failure keeps) where
  step before result after committed := by
    obtain ⟨-, rfl⟩ := commits_updateExpecting.mp committed
    exact .single (.invoicesTouched _ change keeps fun row _ _ => agrees row)

end Statements

end SalesSteps

end CoffeeShop
