import CoffeeShop.Sales.Steps

/-!
The steps of the order and table services.
-/

namespace CoffeeShop

open Transaction SalesStore OrdersService

namespace SalesSteps

set_option synthInstance.maxSize 100000

variable {refunds : Option PaymentMethod} {now : Timestamp} {id employeeId : Id}
variable {before after : SalesStore}

/-- The sales tables go through steps. -/
abbrev Taken (refunds : Option PaymentMethod) : Database → Database → Prop :=
  On Database.sales (SalesSteps refunds)

theorem taken_of_salesTx {α : Type} {program : Tx SalesStore Failure α}
    (respects : Respects (SalesSteps refunds) program) :
    Respects (Taken refunds) (salesTx program) := inferInstance

section Tables

instance createTable {name : String} :
    Respects (Taken refunds) (DiningTablesService.createTable name) := by
  have creates (id : Id) : Respects (SalesSteps refunds) (create diningTable
      { id, name, status := .empty, deletedAt := none }
      (.constraint "DiningTable_pkey" : Failure)) := ⟨by
    intro before result after committed
    obtain ⟨tables, inserted, rfl⟩ := commits_create.mp committed
    exact .single (.tableCreated rfl inserted)⟩
  unfold DiningTablesService.createTable
  infer_instance

instance updateTable {name : String} :
    Respects (Taken refunds) (DiningTablesService.updateTable id name) := by
  have renames : Respects (SalesSteps refunds) (updateExpecting diningTable id (fun _ => true)
      (fun row => { row with name }) (.notFound "Record to update not found." : Failure)) := ⟨by
    intro before result after committed
    obtain ⟨-, rfl⟩ := commits_updateExpecting.mp committed
    exact .single (.tableRenamed _ name)⟩
  unfold DiningTablesService.updateTable
  infer_instance

instance deleteTable : Respects (Taken refunds) (DiningTablesService.deleteTable id now) := by
  refine taken_of_salesTx ⟨fun before result after committed => ?_⟩
  simp only [commits_bind, commits_findFirstOrFail, commits_require, commits_get,
    commits_updateExpecting] at committed
  obtain ⟨_, _, ⟨-, rfl⟩, _, _, ⟨-, rfl⟩, _, _, ⟨rfl, rfl⟩, -, rfl⟩ := committed
  refine .single (.tableDeleted _ now fun table _ holds => ?_)
  simp only [Bool.and_eq_true, decide_eq_true_eq, Option.isNone_iff_eq_none] at holds
  obtain ⟨rfl, ⟨-, empty⟩, free⟩ := holds
  refine ⟨empty, fun session membership active same => ?_⟩
  have occupied := Table.first?_eq_none.mp free session membership
  simp [active, same] at occupied

end Tables

section Reads

theorem commits_findSession {session : OrderSession} {start final : Database}
    (committed : Commits (salesTx (findSession id)) start session final) :
    start.sales.sessions.find? id = some session := by
  obtain ⟨_, read, -⟩ := commits_salesTx.mp committed
  exact (commits_findUniqueOrFail.mp read).1

end Reads

section Opening

/-- No active session is at the table of the new one. -/
theorem commits_insertSession {session : OrderSession} {result : Unit}
    (committed : Commits (insertSession session) before result after) :
    (session.tableId.isSome = true → ∀ other ∈ before.sessions, other.sessionStatus = .active →
        other.tableId ≠ session.tableId) ∧
      ∃ sessions, before.sessions.insert? session = some sessions ∧
        after = { before with sessions } := by
  simp only [insertSession, commits_bind, commits_findFirst, commits_require, commits_create,
    Option.isNone_iff_eq_none] at committed
  obtain ⟨_, _, ⟨rfl, rfl⟩, _, _, ⟨free, rfl⟩, sessions, inserted, rfl⟩ := committed
  refine ⟨fun atTable other membership active same => ?_, sessions, inserted, rfl⟩
  have occupied := Table.first?_eq_none.mp free other membership
  simp [atTable, active, same] at occupied

/-- A session without a table. -/
theorem opened {session : OrderSession} {sessions : Table OrderSession.id}
    (active : session.sessionStatus = .active) (takeaway : session.tableId = none)
    (inserted : before.sessions.insert? session = some sessions) :
    SalesSteps refunds before { before with sessions } := by
  have same : before.tables.update (fun _ => false) (fun row => { row with status := .occupied })
      = before.tables := Table.update_eq_self fun _ _ => rfl
  have step : SalesStep refunds before _ := .sessionOpened (fun _ => false) active
    (fun _ _ never => Bool.noConfusion never) (fun _ some => by simp [takeaway] at some)
    (fun atTable => by simp [takeaway] at atTable) inserted
  rw [same] at step
  exact .single step

theorem commits_claimTable {tableId : Id} {result : Unit}
    (committed : Commits (claimTable tableId) before result after) :
    ∃ table, before.tables.find? tableId = some table ∧ table.deletedAt = none ∧
      table.status = .empty ∧ after = { before with
        tables := before.tables.update
          (fun row => row.id = tableId && (row.deletedAt.isNone && row.status = .empty))
          fun row => { row with status := .occupied } } := by
  simp only [claimTable, commits_bind, commits_findUniqueOrFail, commits_require,
    commits_updateExpecting, Bool.and_eq_true, decide_eq_true_eq] at committed
  obtain ⟨table, _, ⟨found, rfl⟩, _, _, ⟨present, rfl⟩, ⟨row, same, -, empty⟩, rfl⟩ := committed
  obtain rfl : table = row := Option.some.inj (found.symm.trans same)
  exact ⟨table, found, Option.isNone_iff_eq_none.mp present, empty, rfl⟩

theorem open_ {tableId : Option Id} {session : OrderSession} (atTable : session.tableId = tableId)
    (active : session.sessionStatus = .active) :
    Respects (SalesSteps refunds) (do whenSome tableId claimTable; insertSession session) where
  step before result after committed := by
    subst atTable
    obtain ⟨_, middle, claimed, inserts⟩ := commits_bind.mp committed
    obtain ⟨free, sessions, inserted, rfl⟩ := commits_insertSession inserts
    rcases commits_whenSome.mp claimed with ⟨tableId, atTable, claims⟩ | ⟨takeaway, rfl⟩
    · obtain ⟨table, found, present, empty, rfl⟩ := commits_claimTable claims
      refine .single (.sessionOpened _ active (fun row _ holds => ?_) (fun other same => ?_) free
        inserted)
      · simp only [Bool.and_eq_true, decide_eq_true_eq] at holds
        rw [atTable, holds.1]
      · obtain rfl : tableId = other := Option.some.inj (atTable.symm.trans same)
        exact ⟨table, found, present, by simp [Table.find?_key found, present, empty]⟩
    · exact opened active takeaway inserted

instance createOrderSession {tableId : Option Id} {guestCount : Option Nat} :
    Respects (Taken refunds) (createOrderSession tableId employeeId guestCount now) := by
  have opens (id : Id) (shiftId : Option Id) : Respects (SalesSteps refunds) (do
      whenSome tableId claimTable
      insertSession {
        id
        sessionStatus := .active
        guestCount
        createdAt := now
        tableId
        employeeId
        shiftId }) := open_ rfl rfl
  unfold OrdersService.createOrderSession
  infer_instance

instance checkInReservation {reservationId : Id} :
    Respects (Taken refunds) (OrdersService.checkInReservation reservationId employeeId now) := by
  unfold OrdersService.checkInReservation
  infer_instance

end Opening

section Tickets

theorem ticketed {catalog : Catalog} {orderSessionId : Id} {items : List OrderItem}
    {pickupAt : Option Timestamp} {station : KitchenStation} {result : Unit}
    {start final : Database}
    (committed : Commits (KitchenRouting.createTicket catalog orderSessionId items pickupAt now
      station) start result final)
    (inStore : ∀ item ∈ items, item ∈ start.sales.items) :
    SalesSteps refunds start.sales final.sales ∧ final.sales.items = start.sales.items := by
  simp only [KitchenRouting.createTicket, commits_bind, commits_salesTx, commits_create,
    commits_createMany, commits_get] at committed
  obtain ⟨id, _, drawn, _, _, ⟨_, ⟨_, _, ⟨tickets, -, rfl⟩, ticketItems, inserted, rfl⟩, rfl⟩, _, _,
    ⟨rfl, rfl⟩, printed⟩ := committed
  obtain ⟨-, rfl⟩ := commits_freshId.mp drawn
  have kept := Keeps.eq Database.sales printed
  rw [kept]
  refine ⟨?_, rfl⟩
  refine .tail (of_billed_eq (by rfl : SalesStore.billed { start.sales with tickets } = start.sales.billed))
    (.ticketed (fun row membership => ?_) inserted)
  obtain ⟨item, routed, rfl⟩ := List.mem_map.mp membership
  exact ⟨item, inStore item (List.mem_filter.mp routed).1, rfl, rfl⟩

theorem ticketedAll {orderSessionId : Id} {items : List OrderItem} {pickupAt : Option Timestamp}
    {result : Unit} {start final : Database}
    (committed : Commits (KitchenRouting.createTickets orderSessionId items pickupAt now) start
      result final)
    (inStore : ∀ item ∈ items, item ∈ start.sales.items) :
    SalesSteps refunds start.sales final.sales := by
  simp only [KitchenRouting.createTickets, commits_bind] at committed
  obtain ⟨_, _, checked, catalog, _, read, _, _, routed, tickets⟩ := committed
  cases Respects.step (R := Eq) checked
  cases Respects.step (R := Eq) read
  cases Respects.step (R := Eq) routed
  clear checked read routed
  generalize (KitchenRouting.stationsOf catalog items).filterMap catalog.kitchenStations.find? =
    stations at tickets
  induction stations generalizing start with
  | nil =>
      rw [commits_forEach_nil.mp tickets]
  | cons station rest inductionHypothesis =>
      obtain ⟨middle, head, tail⟩ := commits_forEach_cons.mp tickets
      obtain ⟨steps, same⟩ := ticketed head inStore
      refine steps.trans (inductionHypothesis (fun item membership => ?_) tail)
      rw [same]
      exact inStore item membership

instance cancelKitchenItems {orderItemIds : List Id} {reason : String} : Respects (Taken refunds)
    (PrintingService.cancelKitchenItems orderItemIds employeeId reason now) := by
  unfold PrintingService.cancelKitchenItems PrintingService.findKitchenJobs
  infer_instance

instance splitKitchenItems {input : KitchenPrintSplit} :
    Respects (Taken refunds) (PrintingService.splitKitchenItems input now) := by
  unfold PrintingService.splitKitchenItems PrintingService.findKitchenJobs
  infer_instance

end Tickets

section Recipes

theorem snapshotted {catalog : Catalog} {legacyItems : List OrderItem} {result : Unit}
    (committed : Commits (InventoryConsumption.snapshotLegacyRecipes catalog legacyItems now) before
      result after)
    (legacy : ∀ item ∈ legacyItems, item ∈ before.items ∧ item.recipeSnapshottedAt = none) :
    SalesSteps refunds before after := by
  simp only [InventoryConsumption.snapshotLegacyRecipes, commits_ite, commits_bind,
    commits_createMany, commits_updateMany, commits_pure] at committed
  rcases committed with ⟨-, -, rfl⟩ | ⟨-, _, _, ⟨recipes, recorded, rfl⟩, _, _, ⟨-, rfl⟩, -, rfl⟩
  · exact .refl
  · refine .single (.recipesSnapshotted _ now (fun line membership => ?_)
      (fun item _ holds => ?_) recorded)
    · obtain ⟨item, inItems, inRows⟩ := List.mem_flatMap.mp membership
      obtain ⟨inStore, unmarked⟩ := legacy item inItems
      obtain ⟨_, -, rfl⟩ := List.mem_map.mp inRows
      exact ⟨item, inStore, unmarked, rfl⟩
    · simp only [Bool.and_eq_true, Option.isNone_iff_eq_none] at holds
      exact holds.2

instance reservePendingItems {condition : OrderItem → Bool} :
    Respects (Taken refunds) (InventoryConsumption.reservePendingItems condition now) where
  step start result final committed := by
    simp only [InventoryConsumption.reservePendingItems, commits_bind, commits_get,
      commits_salesTx] at committed
    obtain ⟨_, _, ⟨rfl, rfl⟩, _, _, ⟨_, snapshots, rfl⟩, reserves⟩ := committed
    have kept := Keeps.eq Database.sales reserves
    unfold Taken On
    rw [kept]
    refine snapshotted snapshots fun item membership => ?_
    obtain ⟨selected, unmarked⟩ := List.mem_filter.mp membership
    exact ⟨(Table.mem_select.mp selected).1, Option.isNone_iff_eq_none.mp unmarked⟩

end Recipes

section Adding

/-- An item as it is planned is pending and not paid, and has its recipe. -/
theorem fresh_planItem {catalog : Catalog} {line : OrderItemInput × Option OnlineOrderQuote}
    {plan : PlannedItem} {start final : Database}
    (committed : Commits (planItem catalog id now line) start plan final) :
    (plan.item.isOpen = true ∧ plan.item.serveStatus = .pending ∧ 0 < plan.item.quantity ∧
      plan.item.recipeSnapshottedAt.isSome = true) ∧ plan.item.orderSessionId = id := by
  simp only [planItem, commits_bind, commits_pure] at committed
  obtain ⟨_, _, -, _, _, -, _, _, -, _, _, -, _, _, -, rfl, -⟩ := committed
  exact ⟨⟨rfl, rfl, line.1.quantity_pos, rfl⟩, rfl⟩

theorem fresh_planned {catalog : Catalog} {lines : List (OrderItemInput × Option OnlineOrderQuote)}
    {planned : List PlannedItem} {start final : Database}
    (committed : Commits (collect lines (planItem catalog id now)) start planned final)
    {row : OrderItem} (membership : row ∈ planned.map (·.item)) :
    (row.isOpen = true ∧ row.serveStatus = .pending ∧ 0 < row.quantity ∧
      row.recipeSnapshottedAt.isSome = true) ∧ row.orderSessionId = id := by
  obtain ⟨plan, inPlanned, rfl⟩ := List.mem_map.mp membership
  obtain ⟨_, -, fresh⟩ := exists_left (committed.forall₂_collect
    fun _ _ _ _ _ ran => fresh_planItem ran) inPlanned
  exact fresh

/-- Planning reads the sales tables only. -/
theorem sales_planItems {catalog : Catalog} {lines : List (OrderItemInput × Option OnlineOrderQuote)}
    {planned : List PlannedItem} {start final : Database}
    (committed : Commits (collect lines (planItem catalog id now)) start planned final) :
    final.sales = start.sales := Keeps.eq Database.sales committed

theorem commits_insertItems {rows : List OrderItem} {result : Unit}
    (committed : Commits (insertItems rows) before result after) :
    (∀ row ∈ rows, 0 ≤ row.priceAtTime) ∧
      ∃ items, before.items.insertAll? rows = some items ∧ after = { before with items } := by
  simp only [insertItems, commits_bind, commits_require, commits_createMany] at committed
  obtain ⟨_, _, ⟨-, rfl⟩, _, _, ⟨priced, rfl⟩, items, inserted, rfl⟩ := committed
  exact ⟨priced, items, inserted, rfl⟩

instance addOrderItemsInTransaction {orderSessionId : Id} {items : List OrderItemInput}
    {quotes : Option (List OnlineOrderQuote)} {pickupAt : Option Timestamp} :
    Respects (Taken refunds)
      (addOrderItemsInTransaction orderSessionId items quotes pickupAt now) where
  step before result after committed := by
    simp only [OrdersService.addOrderItemsInTransaction, commits_bind, commits_get, commits_require,
      commits_orFail, OrderPolicy.assertActiveSession] at committed
    obtain ⟨session, _, loaded, _, _, ⟨active, rfl⟩, _, _, ⟨rfl, rfl⟩, _, _, ⟨-, rfl⟩, lines, _,
      ⟨-, rfl⟩, planned, middle, collected, _, _, adding, tickets⟩ := committed
    have found := commits_findSession loaded
    cases Respects.step (R := Eq) loaded
    obtain ⟨written, adds, rfl⟩ := commits_salesTx.mp adding
    obtain ⟨_, _, inserting, recording⟩ := commits_bind.mp adds
    obtain ⟨priced, table, inserted, rfl⟩ := commits_insertItems inserting
    obtain ⟨recipes, recorded, rfl⟩ := commits_createMany.mp recording
    have fresh := fun row (membership : row ∈ planned.map (·.item)) =>
      fresh_planned collected membership
    rw [sales_planItems collected] at inserted recorded
    refine .head (.itemsAdded (fun row membership => (fresh row membership).1) priced
      (fun row membership => ?_) (fun line membership => ?_) inserted recorded) ?_
    · rw [(fresh row membership).2]
      exact ⟨session, found, active⟩
    · obtain ⟨plan, inPlanned, inRows⟩ := List.mem_flatMap.mp membership
      obtain ⟨_, -, rfl⟩ := List.mem_map.mp inRows
      exact ⟨plan.item, List.mem_map_of_mem inPlanned, rfl⟩
    · have written : SalesSteps refunds _ after.sales := ticketedAll tickets fun item membership =>
        (Table.mem_insertAll? inserted).mpr (.inr membership)
      rw [sales_planItems collected] at written
      exact written

end Adding

section Items

/-- Neither end of an allowed transition is a cancelled item, and it starts at no served one. -/
theorem of_isAllowedTransition {current next : ServeStatus}
    (allowed : OrderPolicy.isAllowedTransition current next = true) :
    next ≠ .cancelled ∧ current ≠ .cancelled ∧ current ≠ .served := by
  revert allowed
  cases current <;> cases next <;> decide

instance changeItemStatus {serveStatus : ServeStatus} {handoffOnly : Bool}
    {pickup : Option PickupClaim} : Respects (Taken refunds)
      (OrdersService.changeItemStatus id employeeId serveStatus handoffOnly pickup now) := by
  have changes (item : OrderItem) (guard : OrderItem → Bool)
      (transition : OrderPolicy.isAllowedTransition item.serveStatus serveStatus = true) :
      Respects (SalesSteps refunds) (updateExpecting orderItem id
        (fun row => row.serveStatus = item.serveStatus && guard row)
        (fun row => { row with
          serveStatus
          readyAt := if serveStatus = .ready then some now else row.readyAt }) itemChanged) := by
    obtain ⟨next, current, served⟩ := of_isAllowedTransition transition
    refine advanceExpecting fun row holds => ?_
    simp only [Bool.and_eq_true, decide_eq_true_eq] at holds
    rw [← holds.1] at current served
    exact ⟨rfl, rfl, rfl, rfl, rfl, rfl, iff_of_false next current, fun was => (served was).elim,
      rfl⟩
  dsimp only [OrdersService.changeItemStatus, OrderPolicy.assertServeStatusTransition]
  refine Respects.andThen inferInstance fun _ => Respects.andThen inferInstance fun item =>
    Respects.andThen inferInstance fun _ => Respects.andThen inferInstance fun _ =>
      Respects.andThen inferInstance fun _ => Respects.andThen inferInstance fun _ =>
        Respects.andThen inferInstance fun _ => Respects.andThen inferInstance fun _ =>
          Respects.andThen inferInstance fun _ => Respects.andThen inferInstance fun _ => ?_
  split
  · infer_instance
  · refine Respects.requireThen fun transition => ?_
    have changes (guard : OrderItem → Bool) := changes item guard transition
    infer_instance

instance cancelItem {reason : Option String} :
    Respects (Taken refunds) (OrdersService.cancelItem id employeeId reason now) := by
  have cancels (item : OrderItem) (given : Option String) (isReplacement : Bool) :
      Respects (SalesSteps refunds) (updateExpecting orderItem id
        (fun row => row.isPaid = isReplacement && row.invoiceId.isNone &&
          row.serveStatus = item.serveStatus)
        (fun row => { row with serveStatus := .cancelled, note := cancelNote item.note given })
        itemChanged) := ⟨by
    intro before result after committed
    obtain ⟨-, rfl⟩ := commits_updateExpecting.mp committed
    refine .single (.itemsCancelled _ (fun _ => cancelNote item.note given) fun row _ holds => ?_)
    simp only [Bool.and_eq_true, Option.isNone_iff_eq_none] at holds
    exact holds.2.1.2⟩
  dsimp only [OrdersService.cancelItem]
  infer_instance

theorem isRemakeable_session {item : OrderItem} {session : OrderSession}
    (remakeable : isRemakeable before item session = true) :
    session.sessionStatus ≠ .cancelled ∧
      (session.tableId.isSome = true → session.sessionStatus = .active) := by
  simp only [isRemakeable, Bool.and_eq_true, Bool.or_eq_true, decide_eq_true_eq] at remakeable
  obtain ⟨⟨-, open_⟩, takeaway | active⟩ := remakeable
  · refine ⟨open_, fun atTable => ?_⟩
    rw [Option.isNone_iff_eq_none.mp takeaway] at atTable
    cases atTable
  · exact ⟨open_, fun _ => active⟩

theorem isRemakeable_handedOff {item : OrderItem} {session : OrderSession}
    (remakeable : isRemakeable before item session = true)
    (first : before.isReplacement item.id = false) : item.HandedOff before := by
  simp only [isRemakeable, Bool.and_eq_true, decide_eq_true_eq] at remakeable
  obtain ⟨⟨⟨⟨paid, served⟩, billed⟩, -⟩, -⟩ := remakeable
  refine ⟨served, paid, fun absent => ?_, first⟩
  rw [absent] at billed
  cases billed

instance createRemake {input : RemakeInput} :
    Respects (Taken refunds) (OrdersService.createRemake id employeeId input now) where
  step before result after committed := by
    simp only [OrdersService.createRemake, commits_bind, commits_get, commits_require] at committed
    obtain ⟨_, _, ⟨rfl, rfl⟩, original, _, loaded, session, _, sessioned, _, _, ⟨remakeable, rfl⟩,
      _, _, ⟨⟨-, first⟩, rfl⟩, _, _, ⟨-, rfl⟩, _, start, ⟨-, rfl⟩, newId, _, drawn, _, _, writing,
      _, _, wasted, tickets⟩ := committed
    have found := commits_findSession sessioned
    obtain ⟨_, reading, -⟩ := commits_salesTx.mp loaded
    have located := (commits_findUniqueOrFail.mp reading).1
    have member := Table.mem_of_find? located
    have same := Table.find?_key located
    cases Respects.step (R := Eq) loaded
    cases Respects.step (R := Eq) sessioned
    have handedOff := isRemakeable_handedOff remakeable (by simpa [same] using first)
    obtain ⟨-, rfl⟩ := commits_freshId.mp drawn
    obtain ⟨written, writes, rfl⟩ := commits_salesTx.mp writing
    simp only [commits_bind, commits_create, commits_createMany] at writes
    obtain ⟨_, _, ⟨items, inserted, rfl⟩, _, _, ⟨recipes, copied, rfl⟩, remakes, recorded, rfl⟩ :=
      writes
    obtain ⟨open_, atTable⟩ := isRemakeable_session remakeable
    have kept := Keeps.eq Database.sales wasted
    have remade := @SalesStep.itemRemade refunds _ (replacementOf original newId input.reason now)
      _ _ _ _ _ rfl rfl rfl rfl rfl ⟨original, member, rfl, same, rfl, handedOff⟩
      ⟨session, found, open_, atTable⟩ rfl
      (fun line membership => ?_) inserted copied recorded
    · refine .head remade ?_
      have written : SalesSteps refunds _ after.sales := ticketedAll tickets fun item membership => ?_
      · rw [kept] at written
        exact written
      · rw [kept, List.mem_singleton.mp membership]
        exact (Table.mem_insert? inserted).mpr (.inr rfl)
    · obtain ⟨_, -, rfl⟩ := List.mem_map.mp membership
      rfl

end Items

section Closing

theorem commits_cancelActiveSession {session : OrderSession} {paidMessage processedMessage : String}
    {ids : List Id}
    (committed : Commits (cancelActiveSession session paidMessage processedMessage) before ids after) :
    (∀ item ∈ before.items, item.orderSessionId = session.id → item.isOpen = true) ∧
      (∃ row, before.sessions.find? session.id = some row ∧ row.sessionStatus = .active) ∧
      after = { before with
        items := before.items.update
          (fun item => item.orderSessionId = session.id && !item.isPaid && item.invoiceId.isNone)
          fun item => { item with serveStatus := .cancelled }
        sessions := before.sessions.update
          (fun row => row.id = session.id && row.sessionStatus = .active)
          fun row => { row with sessionStatus := .cancelled } } := by
  simp only [cancelActiveSession, itemsOf, OrderPolicy.assertNoPaidOrInvoicedItems,
    OrderPolicy.assertNoProcessedItems, commits_bind, commits_findMany, commits_require,
    commits_updateMany, commits_updateExpecting, commits_pure, decide_eq_true_eq] at committed
  obtain ⟨_, _, ⟨rfl, rfl⟩, _, _, ⟨free, rfl⟩, _, _, ⟨-, rfl⟩, _, _, ⟨-, rfl⟩, _, _, ⟨found, rfl⟩,
    -, rfl⟩ := committed
  refine ⟨fun item membership own => ?_, found, rfl⟩
  have unpaid := free item (Table.mem_select.mpr ⟨membership, by simpa using own⟩)
  simpa [OrderItem.isOpen, not_or] using unpaid

/-- The cancelled session leaves its table, with all of its items cancelled. -/
theorem cancelled {session : OrderSession} {paidMessage processedMessage : String} {ids : List Id}
    {empties : DiningTable → Bool}
    (committed : Commits (cancelActiveSession session paidMessage processedMessage) before ids after)
    (found : before.sessions.find? session.id = some session)
    (freed : ∀ table ∈ before.tables, session.tableId = some table.id → empties table = true)
    (emptied : ∀ table ∈ before.tables, empties table = true → session.tableId = some table.id) :
    SalesSteps refunds before { after with
      tables := after.tables.update empties fun row => { row with status := .empty } } := by
  obtain ⟨free, ⟨row, same, active⟩, rfl⟩ := commits_cancelActiveSession committed
  obtain rfl : session = row := Option.some.inj (found.symm.trans same)
  have closed (other : OrderSession) (membership : other ∈ before.sessions)
      (closes : (other.id = session.id && other.sessionStatus = .active) = true) :
      other = session := by
    simp only [Bool.and_eq_true, decide_eq_true_eq] at closes
    exact Table.eq_of_key_eq membership (Table.mem_of_find? found) closes.1
  refine .tail (.single (.itemsCancelled (fun item => item.orderSessionId = session.id &&
      !item.isPaid && item.invoiceId.isNone) (·.note) fun item _ holds => ?_))
    (.sessionsClosed .cancelled _ empties (fun other membership closes => ?_)
      (fun other membership closes => .inr ⟨rfl, fun item inItems own => ?_⟩)
      (fun other membership closes table inTables same _ => ?_)
      fun table inTables empties other membership _ same => ?_)
  · simp only [Bool.and_eq_true, Option.isNone_iff_eq_none] at holds
    exact holds.2
  · rw [closed other membership closes]
    exact active
  · rw [closed other membership closes] at own
    simp only [Table.mem_update] at inItems
    obtain ⟨item, inStore, rfl⟩ := inItems
    split
    · rfl
    · next kept =>
        rw [if_neg kept] at own
        have unpaid := free item inStore own
        simp only [OrderItem.isOpen, Bool.and_eq_true] at unpaid
        simp [own, unpaid] at kept
  · rw [closed other membership closes] at same
    exact freed table inTables same
  · refine ⟨session, Table.mem_of_find? found, ?_, emptied table inTables empties⟩
    simp [active]

theorem cancelled_takeaway {session : OrderSession} {paidMessage processedMessage : String}
    {ids : List Id}
    (committed : Commits (cancelActiveSession session paidMessage processedMessage) before ids after)
    (found : before.sessions.find? session.id = some session) (takeaway : session.tableId = none) :
    SalesSteps refunds before after := by
  have steps : SalesSteps refunds before { after with
      tables := after.tables.update (fun _ => false) fun row => { row with status := .empty } } :=
    cancelled committed found (fun table _ same => by simp [takeaway] at same)
      fun _ _ never => Bool.noConfusion never
  have same : after.tables.update (fun _ => false) (fun row => { row with status := .empty })
      = after.tables := Table.update_eq_self fun _ _ => rfl
  rwa [same] at steps

instance cancelSession {reason : String} :
    Respects (Taken refunds) (OrdersService.cancelSession id employeeId reason now) where
  step start result final committed := by
    simp only [OrdersService.cancelSession, commits_bind, commits_get, commits_require,
      OrderPolicy.assertActiveSession] at committed
    obtain ⟨_, _, employed, session, _, loaded, _, _, ⟨-, rfl⟩, _, _, ⟨rfl, rfl⟩, _, _, ⟨-, rfl⟩,
      itemIds, _, cancelling, _, _, released, _, _, printed, emptying⟩ := committed
    have found := commits_findSession loaded
    obtain rfl : session.id = id := Table.find?_key found
    cases Respects.step (R := Eq) employed
    cases Respects.step (R := Eq) loaded
    obtain ⟨written, cancels, rfl⟩ := commits_salesTx.mp cancelling
    have kept : _ = written :=
      (Keeps.eq Database.sales printed).trans (Keeps.eq Database.sales released)
    rcases commits_whenSome.mp emptying with ⟨tableId, atTable, empties⟩ | ⟨takeaway, rfl⟩
    · obtain ⟨tables, emptied, rfl⟩ := commits_salesTx.mp empties
      simp only [setTableStatus, commits_bind, commits_updateMany, commits_pure] at emptied
      obtain ⟨_, _, ⟨-, rfl⟩, -, rfl⟩ := emptied
      rw [kept]
      refine cancelled cancels found (fun table _ same => ?_) fun table _ empties => ?_
      · simp [Option.some.inj (atTable.symm.trans same)]
      · rw [atTable, of_decide_eq_true empties]
    · unfold Taken On
      rw [kept]
      exact cancelled_takeaway cancels found takeaway

/-- Sessions without a table end. -/
theorem ended {status : SessionStatus} {closes : OrderSession → Bool}
    (takeaway : ∀ session ∈ before.sessions, closes session = true →
      session.sessionStatus = .active ∧ session.tableId = none)
    (done : ∀ session ∈ before.sessions, closes session = true →
      (status = .completed ∧ session.MayComplete before.items) ∨
        (status = .cancelled ∧ session.MayCancel before.items)) :
    SalesSteps refunds before { before with
      sessions := before.sessions.update closes fun row => { row with sessionStatus := status } } := by
  have same : before.tables.update (fun _ => false) (fun row => { row with status := .empty })
      = before.tables := Table.update_eq_self fun _ _ => rfl
  have step : SalesStep refunds before _ := .sessionsClosed status closes (fun _ => false)
    (fun session membership closing => (takeaway session membership closing).1) done
    (fun session membership closing table _ atTable => by
      simp [(takeaway session membership closing).2] at atTable)
    fun _ _ never => Bool.noConfusion never
  rw [same] at step
  exact .single step

/-- Tables without an active session are set free. -/
theorem cleared {empties : DiningTable → Bool}
    (free : ∀ table ∈ before.tables, empties table = true → ∀ session ∈ before.sessions,
      session.sessionStatus = .active → session.tableId ≠ some table.id) :
    SalesSteps refunds before { before with
      tables := before.tables.update empties fun row => { row with status := .empty } } := by
  have same : before.sessions.update (fun _ => false)
      (fun row => { row with sessionStatus := .completed }) = before.sessions :=
    Table.update_eq_self fun _ _ => rfl
  have step : SalesStep refunds before _ := .sessionsClosed .completed (fun _ => false) empties
    (fun _ _ never => Bool.noConfusion never) (fun _ _ never => Bool.noConfusion never)
    (fun _ _ never => Bool.noConfusion never)
    (fun table inTables emptied session membership active same =>
      (free table inTables emptied session membership active same).elim)
  rw [same] at step
  exact .single step

instance clearTable {tableId : Id} {expected : Option Id} {reason : String} : Respects (Taken refunds)
    (OrdersService.clearTable tableId expected employeeId reason now) where
  step start result final committed := by
    simp only [OrdersService.clearTable, commits_bind, commits_salesTx, setTableStatus,
      commits_updateMany, commits_pure] at committed
    obtain ⟨_, _, employed, active, _, reading, _, _, cancelling, tables, emptied, rfl⟩ := committed
    obtain ⟨_, _, ⟨-, rfl⟩, -, rfl⟩ := emptied
    cases Respects.step (R := Eq) employed
    obtain ⟨_, reads, rfl⟩ := reading
    simp only [findActiveSession, commits_findFirst, commits_require] at reads
    obtain ⟨_, _, located, _, _, ⟨rfl, rfl⟩, _, _, ⟨-, rfl⟩, rfl, rfl⟩ := reads
    cases Respects.step (R := Eq) located
    rcases commits_whenSome.mp cancelling with ⟨session, first, cancels⟩ | ⟨free, rfl⟩
    · simp only [commits_bind, commits_salesTx] at cancels
      obtain ⟨itemIds, _, ⟨written, cancels, rfl⟩, _, _, released, printed⟩ := cancels
      have kept : _ = written :=
        (Keeps.eq Database.sales printed).trans (Keeps.eq Database.sales released)
      obtain ⟨membership, holds⟩ := Table.mem_of_first? first
      simp only [Bool.and_eq_true, decide_eq_true_eq] at holds
      rw [kept]
      refine cancelled cancels (Table.find?_of_mem membership) (fun table _ same => ?_)
        fun table _ empties => ?_
      · simp [Option.some.inj (holds.1.symm.trans same)]
      · rw [holds.1, of_decide_eq_true empties]
    · refine cleared fun table _ empties session membership active same => ?_
      have occupied := Table.first?_eq_none.mp free session membership
      simp [active, same, of_decide_eq_true empties] at occupied

instance completeSession : Respects (Taken refunds) (OrdersService.completeSession id employeeId) := by
  unfold OrdersService.completeSession
  refine Respects.andThen inferInstance fun _ => taken_of_salesTx ⟨fun before result after committed => ?_⟩
  simp only [itemsOf, commits_bind, commits_findUniqueOrFail, commits_orFail, commits_ite,
    commits_pure, commits_findMany, commits_require, commits_updateExpecting] at committed
  obtain ⟨session, _, ⟨found, rfl⟩, tableId, _, ⟨atTable, rfl⟩, ⟨-, -, rfl⟩ | ⟨-, _, _, ⟨rfl, rfl⟩,
    _, _, ⟨⟨active, done⟩, rfl⟩, _, _, ⟨-, rfl⟩, -, rfl⟩⟩ := committed
  · exact .refl
  · refine .single (.sessionsClosed .completed (fun row => row.id = id && row.sessionStatus = .active)
      (fun row => row.id = tableId && row.status = .occupied)
      (fun other membership closes => ?_)
      (fun other membership closes => .inl ⟨rfl, fun item inItems own => ?_⟩)
      (fun other membership closes table inTables same occupied => ?_)
      fun table inTables empties other membership _ same => ?_)
    all_goals simp only [Bool.and_eq_true, decide_eq_true_eq] at *
    · exact closes.2
    · rw [closes.1] at own
      have settled := done item (Table.mem_select.mpr ⟨inItems, by simpa using own⟩)
      rcases settled with dead | ⟨paid, served⟩
      · exact ⟨.inl dead, fun _ => .inl dead⟩
      · exact ⟨.inr paid, fun _ => .inr served⟩
    · obtain rfl := Table.eq_of_find? found membership closes.1
      exact ⟨(Option.some.inj (atTable.symm.trans same)).symm, occupied⟩
    · refine ⟨session, Table.mem_of_find? found, ⟨Table.find?_key found, active⟩, ?_⟩
      rw [atTable, empties.1]

instance transferTable {input : TransferDiningTableInput} :
    Respects (Taken refunds) (OrdersService.transferTable input employeeId) := by
  unfold OrdersService.transferTable
  refine Respects.andThen inferInstance fun _ => taken_of_salesTx ⟨fun before result after committed => ?_⟩
  simp only [findTable, findActiveSession, setTableStatus, commits_bind, commits_findUniqueOrFail,
    commits_require, commits_pure, commits_findFirstOrFail, commits_findFirst,
    commits_updateExpecting, commits_updateMany, Option.isNone_iff_eq_none] at committed
  obtain ⟨_, _, ⟨_, _, ⟨-, rfl⟩, _, _, ⟨-, rfl⟩, -, rfl⟩, table, _, ⟨_, _, ⟨found, rfl⟩, _, _,
    ⟨present, rfl⟩, rfl, rfl⟩, _, _, ⟨empty, rfl⟩, session, _, ⟨first, rfl⟩, _, _, ⟨rfl, rfl⟩, _, _,
    ⟨free, rfl⟩, _, _, ⟨-, rfl⟩, _, _, ⟨-, rfl⟩, _, _, ⟨-, rfl⟩, -, rfl⟩ := committed
  obtain ⟨membership, holds⟩ := Table.mem_of_first? first
  simp only [Bool.and_eq_true, decide_eq_true_eq] at holds
  obtain ⟨⟨-, atTable⟩, active⟩ := holds
  refine .single (.sessionMoved session.id input.fromTableId input.toTableId
    (fun row => row.id = session.id &&
      (row.tableId = some input.fromTableId && row.sessionStatus = .active))
    (fun row => row.id = input.toTableId && row.status = .empty)
    (fun row => row.id = input.fromTableId && row.status = .occupied)
    input.tables_ne (fun other _ moves => ?_) ⟨session, membership, ?_⟩ (fun other _ holds => ?_)
    ⟨table, found, present, ?_⟩ (fun other others occupied same => ?_) (fun other empties => ?_)
    fun other same occupied => ?_)
  · simp only [Bool.and_eq_true, decide_eq_true_eq] at moves
    exact ⟨moves.1, moves.2.2, moves.2.1⟩
  · simp [atTable, active]
  · simp only [Bool.and_eq_true, decide_eq_true_eq] at holds
    exact holds.1
  · simp [Table.find?_key found, empty]
  · have taken := Table.first?_eq_none.mp free other others
    simp [occupied, same] at taken
  · simp only [Bool.and_eq_true, decide_eq_true_eq] at empties
    exact empties.1
  · simp [same, occupied]

/-- The source sessions end and their items are items of the target. -/
structure TablesMerged (input : MergeDiningTableInput) (target : OrderSession)
    (sourceIds : List Id) (before after : SalesStore) : Prop where
  target_id : target.id = input.destinationOrderSessionId
  listed : ∀ id ∈ sourceIds, id ∈ input.sourceOrderSessionIds
  complete : ∀ id ∈ input.sourceOrderSessionIds, id ∈ sourceIds
  located : ∀ id ∈ sourceIds, ∃ session ∈ before.sessions, session.id = id
  found : before.sessions.find? target.id = some target
  active : target.sessionStatus = .active
  apart : target.id ∉ sourceIds
  sources : ∀ session ∈ before.sessions, session.id ∈ sourceIds →
    session.sessionStatus = .active ∧ ∃ tableId ∈ input.sourceTableIds, session.tableId = some tableId
  count : (before.sessions.select fun session =>
    session.id ∈ sourceIds && session.sessionStatus = .active).length = input.sourceTableIds.length
  free : ∀ item ∈ before.items, item.orderSessionId = target.id ∨ item.orderSessionId ∈ sourceIds →
    item.isOpen = true
  after_eq : after = { before with
    items := before.items.update
      (fun item => item.orderSessionId ∈ sourceIds && !item.isPaid && item.invoiceId.isNone)
      fun item => { item with orderSessionId := target.id }
    sessions := before.sessions.update
      (fun session => session.id ∈ sourceIds && session.sessionStatus = .active)
      fun session => { session with sessionStatus := .completed }
    tables := before.tables.update (fun row => row.id ∈ input.sourceTableIds)
      fun row => { row with status := .empty } }

theorem commits_mergeTables {input : MergeDiningTableInput} {result : Unit}
    {start final : Database}
    (committed : Commits (mergeTables input employeeId) start result final) :
    ∃ target sourceIds, TablesMerged input target sourceIds start.sales final.sales := by
  simp only [OrdersService.mergeTables, OrderPolicy.assertNoPaidOrInvoicedItems, setTableStatus,
    commits_bind, commits_salesTx, commits_findFirstOrFail, commits_findMany, commits_require,
    commits_updateMany, commits_pure] at committed
  obtain ⟨_, _, employed, _, ⟨target, _, ⟨first, rfl⟩, sources, _, ⟨selected, rfl⟩, _, _,
    ⟨count, rfl⟩, _, store, ⟨rfl, rfl⟩, _, _, ⟨free, rfl⟩, _, _, ⟨-, rfl⟩, _, _, ⟨merged, rfl⟩, _, _,
    ⟨same, rfl⟩, _, _, ⟨-, rfl⟩, -, rfl⟩, rfl⟩ := committed
  cases Respects.step (R := Eq) employed
  obtain ⟨member, holds⟩ := Table.mem_of_first? first
  simp only [Bool.and_eq_true, decide_eq_true_eq] at holds
  have source (session : OrderSession) (inSources : session ∈ sources) :
      session ∈ start.sales.sessions ∧ session.id ∈ input.sourceOrderSessionIds ∧
        session.sessionStatus = .active ∧
        ∃ tableId ∈ input.sourceTableIds, session.tableId = some tableId := by
    rw [selected] at inSources
    simpa [Option.any_eq_true, and_assoc, and_comm, and_left_comm] using inSources
  have listed : ∀ id ∈ sources.map (·.id), id ∈ input.sourceOrderSessionIds := by
    intro id among
    obtain ⟨session, inSources, rfl⟩ := List.mem_map.mp among
    exact (source session inSources).2.1
  have distinct : (sources.map (·.id)).Nodup := by
    rw [selected]
    exact start.sales.sessions.distinct.sublist (List.filter_sublist.map _)
  refine ⟨target, sources.map (·.id), holds.1.1, listed, fun id asked => ?_, fun id among => ?_,
    Table.find?_of_mem member, holds.2, fun among => ?_, fun session membership among => ?_, ?_,
    fun item membership own => ?_, rfl⟩
  -- There are as many sources as the request names.
  · have few : input.sourceOrderSessionIds.length ≤ (sources.map (·.id)).length := by
      rw [List.length_map, count, input.lengths_eq]
    exact ((distinct.subperm listed).perm_of_length_le few).mem_iff.mpr asked
  · obtain ⟨session, inSources, same⟩ := List.mem_map.mp among
    exact ⟨session, (source session inSources).1, same⟩
  · obtain ⟨session, inSources, equal⟩ := List.mem_map.mp among
    refine input.session_not_mem ?_
    rw [← holds.1.1, ← equal]
    exact (source session inSources).2.1
  · obtain ⟨other, inSources, equal⟩ := List.mem_map.mp among
    obtain ⟨inStore, -, active⟩ := source other inSources
    obtain rfl := Table.eq_of_key_eq inStore membership equal
    exact active
  · have ids : sources.length = (sources.map (·.id)).length := (List.length_map _).symm
    rw [← count, ids, ← same, merged, Table.select, ← List.countP_eq_length_filter]
    rfl
  · have unpaid := free item (Table.mem_select.mpr ⟨membership, by simpa using own⟩)
    simpa [OrderItem.isOpen, not_or] using unpaid

instance mergeTables {input : MergeDiningTableInput} :
    Respects (Taken refunds) (OrdersService.mergeTables input employeeId) where
  step start result final committed := by
    obtain ⟨target, sourceIds, -, -, -, -, found, active, apart, sources, count, free, after_eq⟩ :=
      commits_mergeTables committed
    unfold Taken On
    rw [after_eq]
    refine .tail (.single (.itemsMoved (fun item => item.orderSessionId ∈ sourceIds &&
        !item.isPaid && item.invoiceId.isNone) target.id (fun item membership moves => ?_)
        ⟨target, found, active⟩))
      (.sessionsMerged input.sourceTableIds _ input.tables_nodup count
        fun session membership closes => ?_)
    · simp only [Bool.and_eq_true, decide_eq_true_eq] at moves
      exact free item membership (.inr moves.1.1)
    · simp only [Bool.and_eq_true, decide_eq_true_eq] at closes
      obtain ⟨-, located⟩ := sources session membership closes.1
      refine ⟨closes.2, fun item inItems own => ?_, located⟩
      simp only [Table.mem_update] at inItems
      obtain ⟨old, inStore, rfl⟩ := inItems
      split at own
      · have equal : target.id = session.id := own
        exact (apart (equal ▸ closes.1)).elim
      · next kept =>
          -- An item that stays behind would be paid or invoiced.
          have unpaid := free old inStore (.inr (own ▸ closes.1))
          simp only [OrderItem.isOpen, Bool.and_eq_true] at unpaid
          simp [own, closes.1, unpaid] at kept

end Closing

section Splitting

variable {source destination : Id} {item : OrderItem} {split : SplitItem}

/-- What the checks on one line of the request establish. -/
structure Splittable (source : Id) (item : OrderItem) (split : SplitItem) : Prop where
  own : item.orderSessionId = source
  open_ : item.isOpen = true
  uncancelled : item.serveStatus ≠ .cancelled
  expected : item.quantity = split.expectedOriginalQuantity
  quantity : split.quantityToMove ≤ item.quantity
  pending : split.quantityToMove < item.quantity → item.serveStatus = .pending

theorem commits_assertSplittable {result : Unit}
    (committed : Commits (assertSplittable source item split) before result after) :
    Splittable source item split ∧ after = before := by
  simp only [assertSplittable, commits_bind, commits_require] at committed
  obtain ⟨_, _, ⟨own, rfl⟩, _, _, ⟨unpaid, rfl⟩, _, _, ⟨uncancelled, rfl⟩, _, _, ⟨expected, rfl⟩, _, _,
    ⟨quantity, rfl⟩, processed, rfl⟩ := committed
  refine ⟨⟨own, ?_, uncancelled, expected, quantity, fun less => ?_⟩, rfl⟩
  · simpa [OrderItem.isOpen, not_or] using unpaid
  · by_contra status
    exact processed ⟨less, status⟩

/-- The item is still as it was read. -/
theorem commits_updateSplitItem {change : OrderItem → OrderItem}
    {keeps : ∀ row, (change row).id = row.id} {result : Unit}
    (committed : Commits (updateSplitItem source item split change keeps) before result after)
    (found : item ∈ before.items) :
    after = { before with
      items := before.items.update (fun row => row.id = item.id) change keeps } := by
  obtain ⟨⟨row, same, guard⟩, rfl⟩ := commits_updateExpecting.mp committed
  obtain rfl : item = row := Option.some.inj ((Table.find?_of_mem found).symm.trans same)
  have whole : before.items.update (fun row => row.id = item.id && (row.orderSessionId = source &&
      row.quantity = split.expectedOriginalQuantity && !row.isPaid && row.invoiceId.isNone &&
      row.serveStatus = item.serveStatus)) change keeps =
      before.items.update (fun row => row.id = item.id) change keeps := by
    refine Table.update_congr fun row membership => ?_
    by_cases equal : row.id = item.id
    · rw [Table.eq_of_key_eq membership found equal]
      simpa using guard
    · simp [equal]
  exact congrArg (fun items => { before with items }) whole

theorem commits_splitTicketItem {movedId : Id} {quantity : Nat} {result : Unit}
    (committed : Commits (splitTicketItem item movedId quantity) before result after) :
    ∃ ticketItems, divideTicketItem before.ticketItems item movedId quantity = some ticketItems ∧
      after = { before with ticketItems } := by
  simp only [splitTicketItem, commits_bind, commits_findUnique] at committed
  obtain ⟨_, _, ⟨rfl, rfl⟩, divides⟩ := committed
  unfold divideTicketItem
  rcases commits_whenSome.mp divides with ⟨row, present, writes⟩ | ⟨absent, rfl⟩
  · simp only [commits_bind, commits_updateExpecting, commits_create, Bool.and_true] at writes
    obtain ⟨_, _, ⟨-, rfl⟩, ticketItems, inserted, rfl⟩ := writes
    rw [kitchenTicketItem_get] at present
    rw [present]
    exact ⟨ticketItems, inserted, rfl⟩
  · rw [kitchenTicketItem_get] at absent
    rw [absent]
    exact ⟨_, rfl, rfl⟩

/-- One line of the request moves one line of the session and leaves the others. -/
theorem commits_moveLine {pair : OrderItem × SplitItem} {moved : Option KitchenPrintMove}
    {start final : Database}
    (committed : Commits (moveLine source destination now pair) start moved final)
    (found : pair.1 ∈ start.sales.items) (splits : Splittable source pair.1 pair.2) :
    LineMoved source destination start.sales final.sales ∧
      ∀ row ∈ start.sales.items, row.id ≠ pair.1.id → row ∈ final.sales.items := by
  obtain ⟨item, split⟩ := pair
  simp only [moveLine, commits_bind, commits_ite, commits_salesTx, commits_pure] at committed
  obtain ⟨movedId, _, drawn, ⟨whole, _, _, ⟨_, moves, rfl⟩, -, rfl⟩ |
    ⟨partial_, _, _, ⟨_, moves, rfl⟩, -, rfl⟩⟩ := committed
  all_goals obtain ⟨-, rfl⟩ := commits_freshId.mp drawn
  · have after_eq := commits_updateSplitItem moves found
    subst after_eq
    refine ⟨.whole found splits.own splits.open_, fun row membership differs => ?_⟩
    simp only [Table.mem_update]
    exact ⟨row, membership, by simp [differs]⟩
  · simp only [dividePart, commits_bind, commits_create] at moves
    obtain ⟨_, _, reduces, _, _, ⟨items, inserted, rfl⟩, _, _, records, divides⟩ := moves
    have after_eq := commits_updateSplitItem reduces found
    subst after_eq
    have less : split.quantityToMove < item.quantity :=
      lt_of_le_of_ne splits.quantity partial_
    have kept (row : OrderItem) (membership : row ∈ start.sales.items) (differs : row.id ≠ item.id) :
        row ∈ items := by
      refine (Table.mem_insert? inserted).mpr (.inl ?_)
      simp only [orderItem_get, Table.mem_update]
      exact ⟨row, membership, by simp [differs]⟩
    rcases commits_when.mp records with ⟨snapshotted, copies⟩ | ⟨legacy, rfl⟩
    · simp only [commits_bind, commits_get, commits_createMany] at copies
      obtain ⟨_, _, ⟨rfl, rfl⟩, recipes, recorded, rfl⟩ := copies
      obtain ⟨ticketItems, ticketed, rfl⟩ := commits_splitTicketItem divides
      refine ⟨.divided found splits.own splits.open_ split.quantityToMove_pos less inserted ?_
        ticketed, kept⟩
      rw [if_pos snapshotted]
      exact recorded
    · obtain ⟨ticketItems, ticketed, rfl⟩ := commits_splitTicketItem divides
      refine ⟨.divided found splits.own splits.open_ split.quantityToMove_pos less inserted ?_
        ticketed, kept⟩
      rw [if_neg legacy]
      rfl

/-- The lines of the request move one after the other. -/
theorem commits_moveLines {lines : List (OrderItem × SplitItem)}
    {moves : List (Option KitchenPrintMove)} {start final : Database}
    (committed : Commits (collect lines (moveLine source destination now)) start moves final)
    (nodup : (lines.map (·.1.id)).Nodup)
    (found : ∀ pair ∈ lines, pair.1 ∈ start.sales.items ∧ Splittable source pair.1 pair.2) :
    Relation.ReflTransGen (LineMoved source destination) start.sales final.sales := by
  induction lines generalizing start moves with
  | nil =>
      obtain ⟨-, rfl⟩ := commits_collect_nil.mp committed
      exact .refl
  | cons pair rest inductionHypothesis =>
      obtain ⟨move, middle, others, head, tail, -⟩ := commits_collect_cons.mp committed
      obtain ⟨apart, restNodup⟩ := List.nodup_cons.mp nodup
      obtain ⟨inStore, splits⟩ := found pair List.mem_cons_self
      obtain ⟨moved, kept⟩ := commits_moveLine head inStore splits
      refine .head moved (inductionHypothesis tail restNodup fun other inRest => ?_)
      obtain ⟨otherInStore, otherSplits⟩ := found other (List.mem_cons_of_mem pair inRest)
      refine ⟨kept other.1 otherInStore fun same => apart ?_, otherSplits⟩
      exact List.mem_map.mpr ⟨other, inRest, same⟩

/-- What has been checked before the first line moves. -/
structure Prepared (input : SplitOrderSessionInput) (prepared : PreparedSplit)
    (sales : SalesStore) : Prop where
  source : sales.sessions.find? input.sourceOrderSessionId = some prepared.source
  active : prepared.source.sessionStatus = .active
  found : sales.tables.find? input.destinationTableId = some prepared.destination
  present : prepared.destination.deletedAt = none
  empty : prepared.destination.status = .empty
  free : ∀ other ∈ sales.sessions, other.sessionStatus = .active →
    other.tableId ≠ some input.destinationTableId
  nodup : (prepared.lines.map (·.1.id)).Nodup
  lines : ∀ pair ∈ prepared.lines,
    pair.1 ∈ sales.items ∧ Splittable prepared.source.id pair.1 pair.2
  complete : ∀ split ∈ input.itemsToMove, ∃ item, (item, split) ∈ prepared.lines ∧
    item.id = split.orderItemId

theorem commits_prepareSplit {input : SplitOrderSessionInput} {prepared : PreparedSplit}
    (committed : Commits (prepareSplit input) before prepared after) :
    Prepared input prepared before ∧ after = { before with
      tables := before.tables.update
        (fun row => row.id = input.destinationTableId && row.status = .empty)
        fun row => { row with status := .occupied } } := by
  simp only [prepareSplit, findTable, findActiveSession, commits_bind, commits_findUniqueOrFail,
    commits_require, commits_pure, commits_findFirst, commits_get, commits_updateExpecting,
    Option.isNone_iff_eq_none] at committed
  obtain ⟨destination, _, ⟨_, _, ⟨found, rfl⟩, _, _, ⟨present, rfl⟩, rfl, rfl⟩, _, _, ⟨empty, rfl⟩,
    source, _, ⟨located, rfl⟩, _, _, ⟨active, rfl⟩, _, _, ⟨rfl, rfl⟩, _, _, ⟨-, rfl⟩, _, _,
    ⟨rfl, rfl⟩, _, _, ⟨free, rfl⟩, items, _, collected, _, _, checked, _, _, ⟨-, rfl⟩, rfl, rfl⟩ :=
    committed
  obtain ⟨read, rfl⟩ := collected.collect_forall₂ fun split _ item middle reads =>
    commits_findUniqueOrFail.mp reads
  have named (pair : OrderItem × SplitItem) (inLines : pair ∈ items.zip input.itemsToMove) :=
    (List.forall₂_iff_zip.mp read.flip).2 inLines
  have splits := checked.forall_forEach fun pair _ _ _ _ ran => (commits_assertSplittable ran).1
  have whole := List.map_snd_zip read.length_eq.le
  cases Respects.step (R := Eq) checked
  refine ⟨⟨located, active, found, present, empty, fun other membership occupied same => ?_, ?_,
    fun pair inLines => ⟨Table.mem_of_find? (named pair inLines), splits pair inLines⟩,
    fun split asked => ?_⟩, rfl⟩
  · have taken := Table.first?_eq_none.mp free other membership
    simp [occupied, same] at taken
  · have ids : (items.zip input.itemsToMove).map (·.1.id) =
        ((items.zip input.itemsToMove).map Prod.snd).map (·.orderItemId) := by
      rw [List.map_map]
      exact List.map_congr_left fun pair inLines => Table.find?_key (named pair inLines)
    rw [ids, whole]
    exact input.items_nodup
  · rw [← whole] at asked
    obtain ⟨⟨item, _⟩, inLines, rfl⟩ := List.mem_map.mp asked
    exact ⟨item, inLines, Table.find?_key (named _ inLines)⟩

/-- The split opens a session and moves lines into it. -/
theorem commits_splitTable {input : SplitOrderSessionInput} {result : Unit}
    {start final : Database}
    (committed : Commits (splitTable input employeeId now) start result final) :
    ∃ prepared, Prepared input prepared start.sales ∧ ∃ session sessions,
      session.sessionStatus = .active ∧ session.tableId = some input.destinationTableId ∧
      start.sales.sessions.insert? session = some sessions ∧
      Relation.ReflTransGen (LineMoved prepared.source.id session.id)
        { start.sales with
          tables := start.sales.tables.update
            (fun row => row.id = input.destinationTableId && row.status = .empty)
            fun row => { row with status := .occupied }
          sessions } final.sales := by
  simp only [OrdersService.splitTable, commits_bind, commits_salesTx] at committed
  obtain ⟨_, _, employed, prepared, _, ⟨_, prepares, rfl⟩, destinationId, _, drawn, _, _,
    ⟨_, inserts, rfl⟩, moves, _, collected, printed⟩ := committed
  cases Respects.step (R := Eq) employed
  obtain ⟨-, rfl⟩ := commits_freshId.mp drawn
  obtain ⟨checked, rfl⟩ := commits_prepareSplit prepares
  obtain ⟨-, sessions, inserted, rfl⟩ := commits_insertSession inserts
  refine ⟨prepared, checked, _, sessions, rfl, rfl, inserted, ?_⟩
  have moved := commits_moveLines collected checked.nodup checked.lines
  rw [Keeps.eq Database.sales printed]
  exact moved

theorem moved {sales next : SalesStore}
    (active : ∃ session, sales.sessions.find? destination = some session ∧
      session.sessionStatus = .active)
    (lines : Relation.ReflTransGen (LineMoved source destination) sales next) :
    SalesSteps refunds sales next := by
  induction lines using Relation.ReflTransGen.head_induction_on with
  | refl => exact .refl
  | head line rest inductionHypothesis =>
      refine .head (.lineMoved active line) (inductionHypothesis ?_)
      rw [line.sessions_eq]
      exact active

instance splitTable {input : SplitOrderSessionInput} :
    Respects (Taken refunds) (OrdersService.splitTable input employeeId now) where
  step start result final committed := by
    obtain ⟨prepared, checked, session, sessions, active, atTable, inserted, lines⟩ :=
      commits_splitTable committed
    refine .head (.sessionOpened
      (fun row => row.id = input.destinationTableId && row.status = .empty) active
      (fun row _ holds => ?_) (fun tableId same => ?_) (fun _ => ?_) inserted) (moved ?_ lines)
    · simp only [Bool.and_eq_true, decide_eq_true_eq] at holds
      rw [atTable, holds.1]
    · obtain rfl : input.destinationTableId = tableId := Option.some.inj (atTable.symm.trans same)
      exact ⟨_, checked.found, checked.present, by simp [Table.find?_key checked.found, checked.empty]⟩
    · rw [atTable]
      exact checked.free
    · exact ⟨session, by simp [Table.find?_insert? inserted], active⟩

end Splitting

section Commands

instance remakeItem {input : RemakeInput} :
    Respects (Taken refunds) (OrdersService.remakeItem id employeeId input now) := by
  unfold OrdersService.remakeItem
  infer_instance

theorem renewPickupCode {found : Invoice} {issuedAt : Option Timestamp} :
    Respects (SalesSteps refunds) (TakeawayService.renewPickupCode found issuedAt) := by
  have touches (guard : Invoice → Bool) (failure : Failure) : Respects (SalesSteps refunds)
      (updateExpecting invoice found.id guard
        (fun row => { row with
          pickupCodeVersion := some (found.pickupCodeVersion.getD 0 + 1)
          pickupCodeIssuedAt := issuedAt }) failure) :=
    touchInvoice fun row => ⟨⟨rfl, rfl, rfl, rfl⟩, rfl, rfl⟩
  unfold TakeawayService.renewPickupCode
  infer_instance

instance revokePickupCode {claim : PickupClaim} :
    Respects (Taken refunds) (TakeawayService.revokePickupCode claim employeeId now) := by
  have renews (found : Invoice) : Respects (SalesSteps refunds)
      (TakeawayService.renewPickupCode found none) := renewPickupCode
  unfold TakeawayService.revokePickupCode
  refine Respects.andThen inferInstance fun _ => taken_of_salesTx ?_
  infer_instance

instance provisionPickupCode {invoiceId : Id} {currentCode : Option PickupCode} :
    Respects (Taken refunds)
      (TakeawayService.provisionPickupCode invoiceId employeeId currentCode now) := by
  have renews (found : Invoice) : Respects (SalesSteps refunds)
      (TakeawayService.renewPickupCode found (some now)) := renewPickupCode
  unfold TakeawayService.provisionPickupCode
  refine Respects.andThen inferInstance fun _ => taken_of_salesTx ?_
  infer_instance

instance openSession {tableId : Option Id} {guestCount : Option Nat} :
    Respects (Taken refunds) (OrdersService.openSession tableId employeeId guestCount now) := by
  unfold OrdersService.openSession
  infer_instance

instance addOrderItems {items : List OrderItemInput} :
    Respects (Taken refunds) (OrdersService.addOrderItems id items employeeId now) := by
  unfold OrdersService.addOrderItems
  infer_instance

end Commands

end SalesSteps

end CoffeeShop
