import CoffeeShop.Reservations.Lifecycle
import CoffeeShop.Sales.Occupancy
import CoffeeShop.Sales.SessionIds

/-!
The tables of pending reservations.

A reservation checks its table before it is written, and a deletion of a table does not look
for reservations.
-/

-- An instance for a program has one node for each of its statements.
set_option synthInstance.maxSize 100000

namespace CoffeeShop

open Transaction ReservationsService OrdersService SalesStore ReservationBook

/-- The table is there and not deleted. -/
def SalesStore.liveTable (sales : SalesStore) (id : Id) : Bool :=
  (sales.tables.find? id).any (·.deletedAt.isNone)

/-- No table goes. -/
def KeepsTables (before after : Id → Bool) : Prop := ∀ id, before id = true → after id = true

instance : IsPreorder (Id → Bool) KeepsTables where
  refl _ _ live := live
  trans _ _ _ first second id live := second id (first id live)

namespace LiveTables

variable {id employeeId : Id} {now : Timestamp}

instance : OffFloor liveTable where
  orderItem := ⟨fun _ _ => rfl⟩
  recipeIngredient := ⟨fun _ _ => rfl⟩
  orderRemake := ⟨fun _ _ => rfl⟩
  kitchenTicket := ⟨fun _ _ => rfl⟩
  kitchenTicketItem := ⟨fun _ _ => rfl⟩

instance : Apart liveTable orderSession := ⟨fun _ _ => rfl⟩
instance : Apart liveTable invoice := ⟨fun _ _ => rfl⟩
instance : Apart liveTable onlineOrderRequest := ⟨fun _ _ => rfl⟩
instance : Apart liveTable reservation := ⟨fun _ _ => rfl⟩

theorem updateTables {condition : DiningTable → Bool} {change : DiningTable → DiningTable}
    {keeps : ∀ row, (change row).id = row.id}
    (kept : ∀ row, (change row).deletedAt = row.deletedAt) : Respects (On liveTable KeepsTables)
      (updateMany diningTable condition change keeps : Tx SalesStore Failure Nat) where
  step before result after committed wanted live := by
    obtain ⟨-, rfl⟩ := commits_updateMany.mp committed
    obtain ⟨table, found, present⟩ := (Option.any_eq_true _ _).mp live
    simp only [liveTable, diningTable_set_tables, diningTable_get, Table.find?_update, found,
      Option.map_some, Option.any_some]
    split
    · rw [kept]
      exact present
    · exact present

instance : OffTables liveTable KeepsTables where
  insert := by
    intro row failure
    constructor
    intro before result after committed wanted live
    obtain ⟨tables, inserted, rfl⟩ := commits_create.mp committed
    obtain ⟨table, found, present⟩ := (Option.any_eq_true _ _).mp live
    change before.tables.insert? row = some tables at inserted
    have other : row.id ≠ wanted := by
      intro same
      have fresh := (Table.rows_insert? inserted).2 table (Table.mem_of_find? found)
      exact fresh ((Table.find?_key found).trans same.symm)
    simp only [liveTable, diningTable_set_tables, Table.find?_insert? inserted, if_neg other,
      found, Option.any_some]
    exact present
  setStatus := updateTables fun _ => rfl
  rename := updateTables fun _ => rfl

/-- The table that a command deletes. -/
def deletes : Command → Option Id
  | .table (.deleteTable id) => some id
  | _ => none

theorem deleteTable_spares {before after : Database} {result : Unit}
    (committed : Commits (DiningTablesService.deleteTable id now) before result after)
    {other : Id} (differs : other ≠ id) (live : before.sales.liveTable other = true) :
    after.sales.liveTable other = true := by
  simp only [DiningTablesService.deleteTable, commits_salesTx, commits_bind,
    commits_findFirstOrFail, commits_require, commits_get, commits_updateExpecting] at committed
  obtain ⟨_, ⟨_, _, ⟨-, rfl⟩, _, _, ⟨-, rfl⟩, _, _, ⟨rfl, rfl⟩, -, rfl⟩, rfl⟩ := committed
  obtain ⟨table, found, present⟩ := (Option.any_eq_true _ _).mp live
  have same := Table.find?_key found
  simp only [liveTable, diningTable_set_tables, diningTable_get, Table.find?_update, found,
    Option.map_some, Option.any_some]
  rw [if_neg (by simp [same, differs])]
  exact present

/-- Every other command keeps the tables. -/
theorem command_keeps {command : Command} (other : deletes command = none) :
    Respects (On Database.sales (On liveTable KeepsTables)) (command.execute now) := by
  cases command with
  | inventory command =>
      cases command <;> (dsimp only [Command.execute, InventoryCommand.execute]; infer_instance)
  | cash command =>
      cases command <;> (dsimp only [Command.execute, CashCommand.execute]; infer_instance)
  | order command => exact OffFloor.orderCommand
  | invoice command => exact OffFloor.invoiceCommand
  | online command => exact OffFloor.onlineCommand
  | payment command => exact OffFloor.paymentCommand
  | table command =>
      cases command with
      | deleteTable id => exact nomatch other
      | _ => dsimp only [Command.execute, TableCommand.execute]; infer_instance
  | print command =>
      cases command <;> (dsimp only [Command.execute, PrintCommand.execute]; infer_instance)

end LiveTables

/-- A pending reservation was pending at its table, or is put at the given one. -/
def PutsAt (place : Option Id) (before after : Table Reservation.id) : Prop :=
  ∀ row ∈ after, row.status = .pending →
    (∃ old ∈ before, old.status = .pending ∧ old.tableId = row.tableId) ∨ place = some row.tableId

instance {place : Option Id} : IsPreorder (Table Reservation.id) (PutsAt place) where
  refl _ row known pending := .inl ⟨row, known, pending, rfl⟩
  trans _ _ _ first second row known pending := by
    rcases second row known pending with ⟨old, was, waiting, same⟩ | put
    · rw [← same]
      exact first old was waiting
    · exact .inr put

namespace PutsAt

variable {place : Option Id} {id employeeId : Id} {now : Timestamp}

theorem update {rows : Table Reservation.id} {condition : Reservation → Bool}
    {change : Reservation → Reservation} {keeps : ∀ row, (change row).id = row.id}
    (settles : ∀ row, condition row = true → (change row).status ≠ .pending) :
    PutsAt place rows (rows.update condition change keeps) := by
  intro row present pending
  obtain ⟨old, known, rfl⟩ := Table.mem_update.mp present
  split at pending
  · rename_i holds
    exact (settles old holds pending).elim
  · rename_i untouched
    rw [if_neg untouched]
    exact .inl ⟨old, known, pending, rfl⟩

theorem updateExpecting {wanted : Id} {guard : Reservation → Bool}
    {change : Reservation → Reservation} {keeps : ∀ row, (change row).id = row.id}
    {failure : Failure} (settles : ∀ row, (change row).status ≠ .pending) :
    Respects (On SalesStore.reservations (PutsAt place))
      (updateExpecting reservation wanted guard change failure keeps) where
  step before result after committed := by
    obtain ⟨-, rfl⟩ := commits_updateExpecting.mp committed
    exact @update _ _ _ _ keeps fun row _ => settles row

instance checkInReservation : Respects (On Database.sales (On SalesStore.reservations
    (PutsAt place))) (checkInReservation id employeeId now) := by
  have seats (sessionId : Id) : Respects (On SalesStore.reservations (PutsAt place))
      (Transaction.updateExpecting reservation id isWaiting
        (fun row => { row with
          status := .arrived
          checkedInAt := some now
          orderSessionId := some sessionId
          updatedAt := now }) (Failure.conflict "Reservation status has changed.")) :=
    updateExpecting fun _ => nofun
  dsimp only [OrdersService.checkInReservation]
  infer_instance

instance command {command : Command} : Respects (On Database.sales (On SalesStore.reservations
    (PutsAt place))) (command.execute now) := by
  cases command with
  | inventory command =>
      cases command <;> (dsimp only [Command.execute, InventoryCommand.execute]; infer_instance)
  | cash command =>
      cases command <;> (dsimp only [Command.execute, CashCommand.execute]; infer_instance)
  | order command => exact OffFloor.orderCommand
  | invoice command => exact OffFloor.invoiceCommand
  | online command => exact OffFloor.onlineCommand
  | payment command => exact OffFloor.paymentCommand
  | table command =>
      cases command <;> (dsimp only [Command.execute, TableCommand.execute]; infer_instance)
  | print command =>
      cases command <;> (dsimp only [Command.execute, PrintCommand.execute]; infer_instance)

section Service

variable {dto : CreateReservationDto}

theorem insertReservation (put : place = some dto.tableId) : Respects (On ReservationBook.database
    (On Database.sales (On SalesStore.reservations (PutsAt place))))
      (insertReservation dto employeeId now) where
  step before result after committed := by
    simp only [ReservationsService.insertReservation, ReservationsService.reservationTx,
      commits_bind, commits_within, commits_salesTx, commits_create, commits_pure] at committed
    obtain ⟨id, middle, drawn, _, _, ⟨_, ⟨sales, ⟨_, _, ⟨rows, inserted, rfl⟩, checked⟩, rfl⟩,
      rfl⟩, -, rfl⟩ := committed
    have same : middle.database = before.database := Keeps.eq ReservationBook.database drawn
    obtain ⟨rfl, -⟩ := ReservationMoves.fits_of_constraints checked
    change middle.database.sales.reservations.insert? _ = some rows at inserted
    rw [same] at inserted
    intro row present pending
    rcases (Table.mem_insert? inserted).mp present with known | rfl
    · exact .inl ⟨row, known, pending, rfl⟩
    · exact .inr put

theorem claimRequest {request : ReservationRequest} {tableId : Id} (put : place = some tableId) :
    Respects (On ReservationBook.database (On Database.sales (On SalesStore.reservations
      (PutsAt place)))) (claimRequest request tableId employeeId now) := by
  have inserts := @insertReservation place employeeId now {
    customerName := some request.customerName
    phoneNumber := request.phoneNumber
    tableId
    startsAt := request.startsAt
    endsAt := request.endsAt
    guestCount := request.guestCount
    notes := request.notes } put
  dsimp only [ReservationsService.claimRequest]
  infer_instance

theorem saveReservation {existing : Reservation} {dto : UpdateReservationDto}
    (put : place = dto.tableId) : Respects (On SalesStore.reservations (PutsAt place))
      (saveReservation existing dto now) where
  step before result after committed := by
    obtain ⟨_, _, saved, checked⟩ := commits_bind.mp committed
    obtain ⟨-, rfl⟩ := commits_updateExpecting.mp saved
    obtain ⟨rfl, -⟩ := ReservationMoves.fits_of_constraints checked
    intro row present pending
    obtain ⟨old, known, rfl⟩ := (@Table.mem_update _ _ _ _ _ _ (by intro; rfl) _).mp present
    split at pending
    · rename_i holds
      rw [if_pos holds]
      cases moved : dto.tableId with
      | none => exact .inl ⟨old, known, pending, by simp [applyChanges, moved]⟩
      | some tableId => exact .inr (by simp [applyChanges, moved, put])
    · rename_i untouched
      rw [if_neg untouched]
      exact .inl ⟨old, known, pending, rfl⟩

instance closeReservation {reason : String} : Respects (On SalesStore.reservations (PutsAt place))
    (closeReservation id reason now) :=
  updateExpecting fun _ => nofun

instance markOverdueNoShows : Respects (On ReservationBook.database (On Database.sales
    (On SalesStore.reservations (PutsAt place)))) (markOverdueNoShows now) := by
  have marks : Respects (On SalesStore.reservations (PutsAt place)) (updateMany
      SalesStore.reservation
      (fun row => row.status = .pending && row.startsAt + reservationNoShowGraceMs ≤ now)
      (fun row => { row with
        status := .noShow
        noShowAt := some now
        updatedAt := now }) : Tx SalesStore Failure Nat) := by
    constructor
    intro before result after committed
    obtain ⟨-, rfl⟩ := commits_updateMany.mp committed
    exact @update _ _ _ _ (by intro; rfl) fun row _ => nofun
  dsimp only [ReservationsService.markOverdueNoShows]
  infer_instance

end Service

end PutsAt

namespace ReservationBook

/-- The table at which the next statement of the transaction puts a reservation. -/
def places : ReservationTask → Option Id
  | .insert dto => some dto.tableId
  | .claim _ tableId => some tableId
  | .save _ dto => dto.tableId
  | _ => none

variable {book before after : ReservationBook} {employeeId : Id} {now : Timestamp}

theorem advance_puts {task : ReservationTask} : Respects (On ReservationBook.database
    (On Database.sales (On SalesStore.reservations (PutsAt (places task)))))
      (ReservationsService.advance employeeId now task) := by
  refine advance (fun dto same => ?_) (fun request tableId same => ?_) (fun existing dto same => ?_)
    fun id reason => inferInstance
  · subst same
    exact PutsAt.insertReservation rfl
  · subst same
    exact PutsAt.claimRequest rfl
  · subst same
    have saves := @PutsAt.saveReservation (places (.save existing dto)) now existing dto rfl
    infer_instance

/-- A view of the sales apart from the reservations is kept by the service. -/
theorem advance_apart {τ : Type} {view : SalesStore → τ} {S : τ → τ → Prop} [IsPreorder τ S]
    [Apart view reservation] {task : ReservationTask} : Respects (On ReservationBook.database
      (On Database.sales (On view S))) (ReservationsService.advance employeeId now task) := by
  refine advance (fun dto _ => ?_) (fun request tableId _ => ?_) (fun existing dto _ => ?_)
    fun id reason => ?_
  · dsimp only [insertReservation, assertConstraints]
    infer_instance
  · dsimp only [claimRequest, insertReservation, assertConstraints]
    infer_instance
  · dsimp only [saveReservation, assertConstraints]
    infer_instance
  · dsimp only [closeReservation]
    infer_instance

/-- The parts of the database other than the sales. -/
def others (database : Database) : Catalog × InventoryStore × CashStore × PaymentStore ×
    PrintStore × Id :=
  (database.catalog, database.inventory, database.cash, database.payments, database.printing,
    database.nextId)

instance : Apart others Database.salesPart := ⟨fun _ _ => rfl⟩

/-- The sales without the reservations. -/
def unbooked (sales : SalesStore) : SalesStore := { sales with reservations := .empty }

instance : Apart unbooked reservation := ⟨fun _ _ => rfl⟩

/-- An action is a command, or edits the master data and the reservations. -/
theorem Step.database (taken : Step before after) :
    CoffeeShop.Step before.database after.database := by
  obtain ⟨action, committed⟩ := taken
  by_cases other : ∃ command now, action = .perform command now
  · obtain ⟨command, now, rfl⟩ := other
    obtain ⟨database, ran, rfl⟩ := commits_within.mp committed
    exact .commit command now ran
  by_cases edits : ∃ catalog, action = .administer catalog
  · obtain ⟨catalog, rfl⟩ := edits
    rw [commits_modify.mp committed]
    exact .administer catalog _
  have keepsSales : unbooked after.database.sales = unbooked before.database.sales := by
    have keeps : Respects (On ReservationBook.database (On Database.sales (On unbooked Eq)))
        action.execute := by
      refine respects_action (fun command now same => (other ⟨command, now, same⟩).elim)
        (fun _ catalog same => (edits ⟨catalog, same⟩).elim) (fun _ _ _ _ _ => advance_apart)
        fun now => ?_
      dsimp only [markOverdueNoShows]
      infer_instance
    exact (keeps.step committed).symm
  have keepsOthers : others after.database = others before.database := by
    have keeps : Respects (On ReservationBook.database (On others Eq)) action.execute := by
      refine respects_action (fun command now same => (other ⟨command, now, same⟩).elim)
        (fun _ catalog same => (edits ⟨catalog, same⟩).elim)
        (fun _ now employeeId _ _ => advance (fun dto _ => ?_) (fun request tableId _ => ?_)
          (fun _ _ _ => inferInstance) fun _ _ => inferInstance) fun now => ?_
      · dsimp only [insertReservation]
        infer_instance
      · dsimp only [claimRequest, insertReservation]
        infer_instance
      · dsimp only [markOverdueNoShows]
        infer_instance
    exact (keeps.step committed).symm
  have rebuilt (database : Database) : database = {
      catalog := (others database).1
      inventory := (others database).2.1
      cash := (others database).2.2.1
      payments := (others database).2.2.2.1
      printing := (others database).2.2.2.2.1
      nextId := (others database).2.2.2.2.2
      sales := { unbooked database.sales with reservations := database.sales.reservations } } := rfl
  rw [rebuilt after.database, keepsOthers, keepsSales]
  exact .administer before.database.catalog after.database.sales.reservations

theorem Reachable.database (reached : Reachable book) : CoffeeShop.Reachable book.database := by
  induction reached with
  | refl => exact .refl
  | tail _ taken inductionHypothesis => exact inductionHypothesis.tail taken.database

/-- A deletion leaves the tables of pending reservations, and a reservation is written only
while its table is there. -/
def spares (book : ReservationBook) : ReservationAction → Bool
  | .perform (.table (.deleteTable id)) _ =>
      (book.reservations.first? fun row => row.tableId = id && row.status = .pending).isNone
  | .resume taskId _ => ((book.tasks.find? taskId).bind fun running => places running.task).all
      book.database.sales.liveTable
  | _ => true

def SparingStep (before after : ReservationBook) : Prop :=
  ∃ action : ReservationAction, Commits action.execute before () after ∧ before.spares action

/-- Every pending reservation is for a table that is there. -/
def TablesLive (book : ReservationBook) : Prop :=
  ∀ row ∈ book.reservations, row.status = .pending →
    book.database.sales.liveTable row.tableId = true

/-- Where the action puts a reservation, and what becomes of the tables. -/
theorem SparingStep.tablesLive (taken : SparingStep before after) (live : before.TablesLive) :
    after.TablesLive := by
  obtain ⟨action, committed, sparing⟩ := taken
  by_cases resumes : ∃ taskId now, action = .resume taskId now
  · obtain ⟨taskId, now, rfl⟩ := resumes
    obtain ⟨running, next, middle, found, advanced, same⟩ := commits_resume committed
    have puts := advance_puts.step advanced
    have keeps : Respects (On ReservationBook.database (On Database.sales (On liveTable Eq)))
        (ReservationsService.advance running.employeeId now running.task) := advance_apart
    have stays := keeps.step advanced
    change PutsAt _ before.reservations middle.reservations at puts
    change before.database.sales.liveTable = middle.database.sales.liveTable at stays
    intro row known pending
    rw [same, ← stays]
    have known : row ∈ middle.reservations := by
      unfold ReservationBook.reservations at known ⊢
      rw [← same]
      exact known
    rcases puts row known pending with ⟨old, was, waiting, at_⟩ | put
    · rw [← at_]
      exact live old was waiting
    · simp only [spares, found, Option.bind_some, put, Option.all_some] at sparing
      exact sparing
  have puts : PutsAt none before.reservations after.reservations := by
    have respects : Respects (On ReservationBook.database (On Database.sales
        (On SalesStore.reservations (PutsAt none)))) action.execute :=
      respects_action (fun _ _ _ => PutsAt.command) (fun _ _ _ => refl_of (PutsAt none) _)
        (fun taskId now _ _ same => (resumes ⟨taskId, now, same⟩).elim)
        fun _ => PutsAt.markOverdueNoShows
    exact respects.step committed
  have stays (row : Reservation) (known : row ∈ before.reservations)
      (pending : row.status = .pending) : after.database.sales.liveTable row.tableId = true := by
    have present := live row known pending
    by_cases deletes : ∃ id now, action = .perform (.table (.deleteTable id)) now
    · obtain ⟨id, now, rfl⟩ := deletes
      obtain ⟨database, ran, rfl⟩ := commits_within.mp committed
      apply LiveTables.deleteTable_spares ran _ present
      intro same
      have none := Table.first?_eq_none.mp (Option.isNone_iff_eq_none.mp sparing) row known
      simp [same, pending] at none
    have respects : Respects (On ReservationBook.database (On Database.sales
        (On liveTable KeepsTables))) action.execute := by
      refine respects_action (fun command now same => LiveTables.command_keeps ?_)
        (fun _ _ _ => refl_of KeepsTables _) (fun _ _ _ _ _ => advance_apart) fun now => ?_
      · unfold LiveTables.deletes
        split
        · exact (deletes ⟨_, now, same⟩).elim
        · rfl
      · dsimp only [markOverdueNoShows]
        infer_instance
    exact respects.step committed row.tableId present
  intro row known pending
  rcases puts row known pending with ⟨old, was, waiting, at_⟩ | put
  · rw [← at_]
    exact stays old was waiting
  · exact nomatch put

/-- A session can be opened at an empty table. -/
theorem exists_createOrderSession {database : Database} {table : DiningTable}
    {guestCount : Option Nat} (reached : CoffeeShop.Reachable database)
    (active : database.catalog.isActiveEmployee employeeId = true)
    (found : database.sales.tables.find? table.id = some table) (live : table.deletedAt = none)
    (empty : table.status = .empty) : ∃ sessionId after,
      Commits (createOrderSession (some table.id) employeeId guestCount now) database
        sessionId after := by
  obtain ⟨tables, claimed⟩ : ∃ tables, Commits (claimTable table.id) database.sales ()
      { database.sales with tables } := by
    simp only [claimTable, commits_bind, commits_findUniqueOrFail, commits_require]
    exact ⟨_, table, _, ⟨found, rfl⟩, (), _, ⟨by simp [live], rfl⟩,
      commits_updateExpecting.mpr ⟨⟨table, found, by simp [live, empty]⟩, rfl⟩⟩
  -- Nobody sits at the table, and the identifier is new.
  have free : ∀ session ∈ database.sales.sessions, session.sessionStatus = .active →
      session.tableId ≠ some table.id := by
    apply (reached.occupied_iff (Table.mem_of_find? found)).2
    exact .inl (by simp [empty])
  let shiftId := (database.cash.shifts.first? fun shift =>
    shift.employeeId = employeeId && shift.status = .opened).map (·.id)
  let session : OrderSession := {
    id := database.nextId
    sessionStatus := .active
    guestCount
    createdAt := now
    tableId := some table.id
    employeeId
    shiftId }
  obtain ⟨sessions, inserted⟩ : ∃ sessions,
      database.sales.sessions.insert? session = some sessions := by
    apply Option.isSome_iff_exists.mp
    rw [Table.insert?_isSome]
    intro other known same
    exact absurd same (Nat.ne_of_lt (reached.sessionsDrawn other known))
  have opened : Commits (insertSession session) { database.sales with tables } ()
      { database.sales with tables, sessions } := by
    have none_sits : (database.sales.sessions.first? fun other => session.tableId.isSome &&
        other.tableId = session.tableId && other.sessionStatus = .active) = none := by
      rw [Table.first?_eq_none]
      intro other known
      by_cases active : other.sessionStatus = .active
      · simp [session, free other known active]
      · simp [active]
    simp only [insertSession, commits_bind, commits_findFirst, commits_require, commits_create]
    exact ⟨_, _, ⟨rfl, rfl⟩, (), _, ⟨Option.isNone_iff_eq_none.mpr none_sits, rfl⟩, sessions,
      inserted, rfl⟩
  have checked : Commits (assertActiveEmployee employeeId) database () database := by
    simp only [assertActiveEmployee, commits_bind, commits_readCatalog, commits_require]
    exact ⟨_, _, ⟨rfl, rfl⟩, active, rfl⟩
  have looked : Commits (cashTx (CashierShiftLedger.findOpenShiftId employeeId)) database shiftId
      database := by
    simp only [CashierShiftLedger.findOpenShiftId, commits_cashTx, commits_bind,
      commits_findFirst, commits_pure]
    exact ⟨_, ⟨_, _, ⟨rfl, rfl⟩, rfl, rfl⟩, rfl⟩
  let drawn : Database := { database with nextId := database.nextId + 1 }
  refine ⟨database.nextId, { drawn with sales := { database.sales with tables, sessions } }, ?_⟩
  simp only [createOrderSession, commits_bind, commits_freshId, commits_salesTx, commits_pure,
    whenSome, ifSome]
  exact ⟨(), database, checked, shiftId, database, looked, database.nextId, drawn, ⟨rfl, rfl⟩, (),
    _, ⟨_, ⟨(), { database.sales with tables }, claimed, opened⟩, rfl⟩, rfl, rfl⟩

/-- A pending reservation whose table is empty can be checked in. -/
theorem checkIn_of_live {row : Reservation} (reached : Reachable book) (live : book.TablesLive)
    (known : row ∈ book.reservations) (pending : row.status = .pending)
    (active : book.database.catalog.isActiveEmployee employeeId = true)
    (opened : row.startsAt ≤ now + reservationCheckInEarlyMs)
    (unclosed : now < row.startsAt + reservationNoShowGraceMs)
    (empty : ∀ table, book.database.sales.tables.find? row.tableId = some table →
      table.status = .empty) :
    ∃ after, Commits (checkInReservation row.id employeeId now) book.database () after := by
  obtain ⟨table, found, present⟩ := (Option.any_eq_true _ _).mp (live row known pending)
  have same := Table.find?_key found
  rw [checkIn_iff reached.orderly known, ← same]
  refine ⟨pending, opened, unclosed, ?_⟩
  exact exists_createOrderSession reached.database active (same ▸ found)
    (Option.isNone_iff_eq_none.mp present) (empty table found)

theorem SparingStep.step (taken : SparingStep before after) : Step before after := by
  obtain ⟨action, committed, -⟩ := taken
  exact ⟨action, committed⟩

theorem tablesLive_of_runs (runs : Relation.ReflTransGen SparingStep ReservationBook.empty book) :
    book.TablesLive := by
  induction runs with
  | refl =>
      intro row known
      exact (Table.not_mem_empty known).elim
  | tail _ taken inductionHypothesis => exact taken.tablesLive inductionHypothesis

/-- As long as no table of a pending reservation goes, and no reservation is written for one that
went, every pending reservation can be checked in at its empty table. -/
theorem pending_usable (runs : Relation.ReflTransGen SparingStep ReservationBook.empty book)
    {row : Reservation} (known : row ∈ book.reservations) (pending : row.status = .pending) :
    (∃ table, book.database.sales.tables.find? row.tableId = some table ∧
      table.deletedAt = none) ∧
    ∀ employeeId now, book.database.catalog.isActiveEmployee employeeId = true →
      row.startsAt ≤ now + reservationCheckInEarlyMs →
      now < row.startsAt + reservationNoShowGraceMs →
      (∀ table, book.database.sales.tables.find? row.tableId = some table →
        table.status = .empty) →
      ∃ after, Commits (checkInReservation row.id employeeId now) book.database () after := by
  have reached : Reachable book :=
    Relation.ReflTransGen.mono (fun _ _ => SparingStep.step) ReservationBook.empty book runs
  have live := tablesLive_of_runs runs
  obtain ⟨table, found, present⟩ := (Option.any_eq_true _ _).mp (live row known pending)
  refine ⟨⟨table, found, Option.isNone_iff_eq_none.mp present⟩, ?_⟩
  intro employeeId now active opened unclosed empty
  exact checkIn_of_live reached live known pending active opened unclosed empty

section Samples

/-- Every action spares the tables when its turn comes. -/
def sparesAll (book : ReservationBook) : List ReservationAction → Bool
  | [] => true
  | action :: actions => book.spares action && (book.perform action).sparesAll actions

theorem runs_sparing {actions : List ReservationAction} {start : ReservationBook}
    (runs : Relation.ReflTransGen SparingStep start book)
    (sparing : book.sparesAll actions = true) :
    Relation.ReflTransGen SparingStep start (book.performAll actions) := by
  induction actions generalizing book with
  | nil => exact runs
  | cons action actions inductionHypothesis =>
      simp only [sparesAll, Bool.and_eq_true] at sparing
      refine inductionHypothesis ?_ sparing.2
      unfold perform
      split
      · rename_i after committed
        exact runs.tail ⟨action, committed, sparing.1⟩
      · exact runs

/-- The reservation of the sample book can be checked in at its start. -/
theorem pending_usable_booked : ∃ row ∈ booked.reservations, row.status = .pending ∧
    ∃ after, Commits (checkInReservation row.id 0 3600000) booked.database () after := by
  have waits : (booked.reservations.find? 1).any (fun row => row.status = .pending &&
      row.tableId = 0 && row.startsAt = 3600000) = true := by decide +kernel
  obtain ⟨row, found, passed⟩ := (Option.any_eq_true _ _).mp waits
  simp only [Bool.and_eq_true, decide_eq_true_eq] at passed
  obtain ⟨⟨pending, place⟩, start⟩ := passed
  have emptyTable : (booked.database.sales.tables.find? 0).all (·.status = .empty) = true := by
    decide +kernel
  have runs : Relation.ReflTransGen SparingStep ReservationBook.empty booked :=
    runs_sparing .refl (by decide +kernel)
  have usable := pending_usable runs (Table.mem_of_find? found) pending
  refine ⟨row, Table.mem_of_find? found, pending, usable.2 0 3600000 (by decide +kernel) ?_ ?_ ?_⟩
  · rw [start]
    decide
  · rw [start]
    decide
  · intro table known
    rw [place] at known
    rw [known] at emptyTable
    exact of_decide_eq_true emptyTable

/-- The table of the sample book is deleted under its reservation. -/
def tableDeleted : ReservationBook := booked.performAll [.perform (.table (.deleteTable 0)) 5]

theorem exists_pending_deletedTable : ∃ book, Reachable book ∧ ∃ row ∈ book.reservations,
    row.status = .pending ∧ ∃ table, book.database.sales.tables.find? row.tableId = some table ∧
      table.deletedAt ≠ none := by
  have waits : (tableDeleted.reservations.find? 1).any (fun row => row.status = .pending &&
      (tableDeleted.database.sales.tables.find? row.tableId).any (·.deletedAt.isSome)) = true := by
    decide +kernel
  obtain ⟨row, found, passed⟩ := (Option.any_eq_true _ _).mp waits
  simp only [Bool.and_eq_true, decide_eq_true_eq, Option.any_eq_true] at passed
  obtain ⟨pending, table, known, gone⟩ := passed
  have reached : Reachable booked := runs_performAll .refl _
  refine ⟨tableDeleted, runs_performAll reached _, row, Table.mem_of_find? found, pending, table,
    known, Option.isSome_iff_ne_none.mp gone⟩

end Samples

end ReservationBook

end CoffeeShop
