import CoffeeShop.Runs
import CoffeeShop.Sales.Floor

/-!
The identifiers of sessions are drawn from the counter.
-/

-- An instance for a program has one node for each of its statements.
set_option synthInstance.maxSize 100000

namespace CoffeeShop

open Transaction SalesStore OrdersService

/-- Every session has an identifier under the bound. -/
def SalesStore.SessionsBelow (bound : Id) (sales : SalesStore) : Prop :=
  ∀ session ∈ sales.sessions, session.id < bound

/-- The counter is ahead of every session. -/
def Database.SessionsDrawn (database : Database) : Prop :=
  database.sales.SessionsBelow database.nextId

namespace SessionIds

variable {bound id employeeId : Id} {now : Timestamp} {α : Type}

instance : OffFloor (SessionsBelow bound) where
  orderItem := ⟨fun _ _ => rfl⟩
  recipeIngredient := ⟨fun _ _ => rfl⟩
  orderRemake := ⟨fun _ _ => rfl⟩
  kitchenTicket := ⟨fun _ _ => rfl⟩
  kitchenTicketItem := ⟨fun _ _ => rfl⟩

instance : Apart (SessionsBelow bound) diningTable := ⟨fun _ _ => rfl⟩
instance : Apart (SessionsBelow bound) invoice := ⟨fun _ _ => rfl⟩
instance : Apart (SessionsBelow bound) onlineOrderRequest := ⟨fun _ _ => rfl⟩
instance : Apart (SessionsBelow bound) reservation := ⟨fun _ _ => rfl⟩

instance : OffSessions (SessionsBelow bound) Implies where
  updateMany := by
    intro condition change keeps
    constructor
    intro before result after committed below session membership
    obtain ⟨-, rfl⟩ := commits_updateMany.mp committed
    obtain ⟨old, known, rfl⟩ := (@Table.mem_update _ _ _ _ _ _ keeps _).mp membership
    split
    · rw [keeps old]
      exact below old known
    · exact below old known

/-- A program that opens no session draws identifiers only. -/
instance (priority := low) bounded {program : Transact α}
    [keeps : ∀ bound, Respects (On Database.sales (On (SessionsBelow bound) Implies)) program]
    [draws : Respects (On Database.nextId (· ≤ ·)) program] :
    Preserves Database.SessionsDrawn program where
  step before result after committed drawn session membership := by
    have below := (keeps before.nextId).step committed drawn session membership
    exact below.trans_le (draws.step committed)

/-- A session is inserted under a drawn identifier. -/
theorem insertion {session : OrderSession} {failure : Failure} (drawn : session.id < bound) :
    Preserves (SessionsBelow bound) (create orderSession session failure) where
  step before result after committed below other membership := by
    obtain ⟨sessions, inserted, rfl⟩ := commits_create.mp committed
    rcases (Table.mem_insert? inserted).mp membership with known | rfl
    · exact below other known
    · exact drawn

/-- What follows the drawing of an identifier may insert a session under it. -/
theorem drawing {next : Id → Transact α}
    (rest : ∀ id bound, id < bound →
      Respects (On Database.sales (On (SessionsBelow bound) Implies)) (next id))
    [draws : ∀ id, Respects (On Database.nextId (· ≤ ·)) (next id)] :
    Preserves Database.SessionsDrawn (freshId >>= next) where
  step before result after committed drawn session membership := by
    obtain ⟨id, middle, fresh, continued⟩ := commits_bind.mp committed
    obtain ⟨rfl, rfl⟩ := commits_freshId.mp fresh
    have below := (rest before.nextId (before.nextId + 1) (Nat.lt_succ_self _)).step continued
      (fun other known => Nat.lt_succ_of_lt (drawn other known)) session membership
    exact below.trans_le ((draws before.nextId).step continued)

theorem insertSession {session : OrderSession} (drawn : session.id < bound) :
    Preserves (SessionsBelow bound) (insertSession session) := by
  have inserts := @insertion bound session (.constraint "OrderSession_pkey") drawn
  dsimp only [OrdersService.insertSession]
  infer_instance

instance createOrderSession {tableId : Option Id} {guestCount : Option Nat} :
    Preserves Database.SessionsDrawn
      (createOrderSession tableId employeeId guestCount now) := by
  have opens (shiftId : Option Id) : Preserves Database.SessionsDrawn (do
      let id ← freshId
      salesTx do
        whenSome tableId claimTable
        OrdersService.insertSession {
          id
          sessionStatus := .active
          guestCount
          createdAt := now
          tableId
          employeeId
          shiftId }
      pure id) := by
    apply drawing
    intro id bound drawn
    have inserts := @insertSession bound {
      id
      sessionStatus := .active
      guestCount
      createdAt := now
      tableId
      employeeId
      shiftId } drawn
    infer_instance
  dsimp only [OrdersService.createOrderSession]
  infer_instance

instance splitTable {input : SplitOrderSessionInput} :
    Preserves Database.SessionsDrawn (splitTable input employeeId now) := by
  have divides (prepared : PreparedSplit) : Preserves Database.SessionsDrawn (do
      let destinationSessionId ← freshId
      salesTx (OrdersService.insertSession {
        id := destinationSessionId
        sessionStatus := .active
        guestCount := none
        createdAt := now
        tableId := some input.destinationTableId
        employeeId := prepared.source.employeeId
        shiftId := prepared.source.shiftId })
      let moves ← collect prepared.lines
        (moveLine prepared.source.id destinationSessionId now)
      PrintingService.splitKitchenItems {
        employeeId
        destinationSessionId
        destinationTableName := prepared.destination.name
        moves := moves.reduceOption } now) := by
    apply drawing
    intro id bound drawn
    have inserts := @insertSession bound {
      id
      sessionStatus := .active
      guestCount := none
      createdAt := now
      tableId := some input.destinationTableId
      employeeId := prepared.source.employeeId
      shiftId := prepared.source.shiftId } drawn
    infer_instance
  have prepares (bound : Id) : Respects (On Database.sales (On (SessionsBelow bound) Implies))
      (salesTx (prepareSplit input)) := by
    dsimp only [OrdersService.prepareSplit]
    infer_instance
  dsimp only [OrdersService.splitTable]
  infer_instance

/-- A command that opens no session. -/
theorem opensNone {command : Command} (keeps : ∀ bound,
      Respects (On Database.sales (On (SessionsBelow bound) Implies)) (command.execute now)) :
    Preserves Database.SessionsDrawn (command.execute now) :=
  have : Respects (On Database.nextId (· ≤ ·)) (command.execute now) := Command.drawsIds
  bounded

theorem command {command : Command} : Preserves Database.SessionsDrawn (command.execute now) := by
  cases command with
  | inventory command =>
      refine opensNone fun bound => ?_
      cases command <;> (dsimp only [Command.execute, InventoryCommand.execute]; infer_instance)
  | cash command =>
      refine opensNone fun bound => ?_
      cases command <;> (dsimp only [Command.execute, CashCommand.execute]; infer_instance)
  | order command =>
      cases command with
      | openSession tableId employeeId guestCount =>
          dsimp only [Command.execute, OrderCommand.execute, OrdersService.openSession]
          infer_instance
      | splitTable input employeeId => exact splitTable
      | _ =>
          refine opensNone fun bound => ?_
          dsimp only [Command.execute, OrderCommand.execute, TakeawayService.revokePickupCode,
            TakeawayService.provisionPickupCode]
          infer_instance
  | invoice command => exact opensNone fun bound => OffFloor.invoiceCommand
  | online command =>
      cases command with
      | accept id employeeId =>
          dsimp only [Command.execute, OnlineCommand.execute, OnlineOrders.accept,
            OrdersService.createOnlineTakeawaySession]
          infer_instance
      | _ =>
          refine opensNone fun bound => ?_
          dsimp only [Command.execute, OnlineCommand.execute, OnlineOrders.receive,
            OnlineOrders.reject, OnlineOrders.cancelPublicRequest, OnlineOrders.cancelUnprepared,
            OnlineOrders.cancelAccepted, OnlineOrders.markNoShow,
            OnlineOrders.cancelAcceptedRequest, OnlineOrders.closeCancelled]
          infer_instance
  | payment command => exact opensNone fun bound => OffFloor.paymentCommand
  | table command =>
      cases command with
      | checkInReservation id employeeId =>
          dsimp only [Command.execute, TableCommand.execute, OrdersService.checkInReservation]
          infer_instance
      | _ =>
          refine opensNone fun bound => ?_
          dsimp only [Command.execute, TableCommand.execute]
          infer_instance
  | print command =>
      refine opensNone fun bound => ?_
      cases command <;> (dsimp only [Command.execute, PrintCommand.execute]; infer_instance)

end SessionIds

theorem Reachable.sessionsDrawn {database : Database} (reachable : Reachable database) :
    database.SessionsDrawn :=
  reachable.preserved Database.SessionsDrawn (fun _ membership => nomatch membership)
    (fun _ _ => SessionIds.command) fun _ _ _ drawn => drawn

end CoffeeShop
