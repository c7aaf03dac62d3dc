import CoffeeShop.Execution
import CoffeeShop.Reservations.Service
import CoffeeShop.Sales.Floor

/-!
The life of a reservation.

A reservation is pending until it is settled once: the guests arrive, it is cancelled, or
nobody came.
-/

-- An instance for a program has one node for each of its statements.
set_option synthInstance.maxSize 100000

namespace CoffeeShop

open Transaction ReservationsService OrdersService

def ReservationBook.reservations (book : ReservationBook) : Table Reservation.id :=
  book.database.sales.reservations

/-- No active reservation of the same table overlaps the one with this key. -/
def Fits (id : Id) (rows : Table Reservation.id) : Prop :=
  ∀ row ∈ rows, row.id = id → ∀ other ∈ rows, other.id ≠ id → isActive row = true →
    isActive other = true → other.tableId = row.tableId → overlaps row other = false

/-- The end of a pending reservation. -/
structure Settles (row settled : Reservation) : Prop where
  tableId : settled.tableId = row.tableId
  startsAt : settled.startsAt = row.startsAt
  endsAt : settled.endsAt = row.endsAt
  status : settled.status ≠ .pending
  arrived : settled.status = .arrived ↔ settled.orderSessionId.isSome

inductive ReservationMove (rows : Table Reservation.id) : Table Reservation.id → Prop where
  | added {row : Reservation} {after : Table Reservation.id} (pending : row.status = .pending)
      (unseated : row.orderSessionId = none) (inserted : rows.insert? row = some after)
      (fits : Fits row.id after) : ReservationMove rows after
  | edited {id : Id} {condition : Reservation → Bool} {change : Reservation → Reservation}
      {keeps : ∀ row, (change row).id = row.id}
      (one : ∀ row, condition row = true → row.id = id ∧ row.status = .pending)
      (stays : ∀ row, (change row).status = row.status ∧
        (change row).orderSessionId = row.orderSessionId)
      (fits : Fits id (rows.update condition change keeps)) :
      ReservationMove rows (rows.update condition change keeps)
  | settled {condition : Reservation → Bool} {change : Reservation → Reservation}
      {keeps : ∀ row, (change row).id = row.id}
      (pending : ∀ row, condition row = true → row.status = .pending)
      (settles : ∀ row, row.orderSessionId = none → condition row = true →
        Settles row (change row)) :
      ReservationMove rows (rows.update condition change keeps)

/-- Any number of moves. -/
abbrev ReservationMoves : Table Reservation.id → Table Reservation.id → Prop :=
  Relation.ReflTransGen ReservationMove

/-- What holds of the reservations at any time. -/
structure Orderly (rows : Table Reservation.id) : Prop where
  arrived : ∀ row ∈ rows, row.status = .arrived ↔ row.orderSessionId.isSome
  apart : ∀ row ∈ rows, ∀ other ∈ rows, other.id ≠ row.id → isActive row = true →
    isActive other = true → other.tableId = row.tableId → overlaps row other = false

namespace Orderly

variable {rows after : Table Reservation.id}

theorem overlaps_comm (row other : Reservation) : overlaps row other = overlaps other row := by
  unfold overlaps
  exact Bool.and_comm _ _

theorem empty : Orderly .empty where
  arrived _ known := (Table.not_mem_empty known).elim
  apart _ known := (Table.not_mem_empty known).elim

theorem unseated {row : Reservation} (orderly : Orderly rows) (known : row ∈ rows)
    (pending : row.status = .pending) : row.orderSessionId = none := by
  cases seated : row.orderSessionId with
  | none => rfl
  | some session =>
      have arrived := (orderly.arrived row known).mpr (by rw [seated]; rfl)
      rw [pending] at arrived
      exact nomatch arrived

/-- Two rows that are apart from the one with the key are apart as before. -/
theorem apart_of_fits {id : Id} (fits : Fits id after)
    (others : ∀ row ∈ after, row.id ≠ id → row ∈ rows) (orderly : Orderly rows) :
    ∀ row ∈ after, ∀ other ∈ after, other.id ≠ row.id → isActive row = true →
      isActive other = true → other.tableId = row.tableId → overlaps row other = false := by
  intro row known other present differs active otherActive table
  by_cases here : row.id = id
  · apply fits row known here other present _ active otherActive table
    exact here ▸ differs
  by_cases there : other.id = id
  · rw [overlaps_comm]
    exact fits other present there row known here otherActive active table.symm
  · exact orderly.apart row (others row known here) other (others other present there) differs
      active otherActive table

theorem added {row : Reservation} (orderly : Orderly rows) (pending : row.status = .pending)
    (unseated : row.orderSessionId = none) (inserted : rows.insert? row = some after)
    (fits : Fits row.id after) : Orderly after where
  arrived other present := by
    rcases (Table.mem_insert? inserted).mp present with known | rfl
    · exact orderly.arrived other known
    · simp [pending, unseated]
  apart := by
    refine apart_of_fits fits (fun other present differs => ?_) orderly
    rcases (Table.mem_insert? inserted).mp present with known | rfl
    · exact known
    · exact (differs rfl).elim

theorem edited {id : Id} {condition : Reservation → Bool} {change : Reservation → Reservation}
    {keeps : ∀ row, (change row).id = row.id} (orderly : Orderly rows)
    (one : ∀ row, condition row = true → row.id = id ∧ row.status = .pending)
    (stays : ∀ row, (change row).status = row.status ∧
      (change row).orderSessionId = row.orderSessionId)
    (fits : Fits id (rows.update condition change keeps)) :
    Orderly (rows.update condition change keeps) where
  arrived row present := by
    obtain ⟨old, known, rfl⟩ := Table.mem_update.mp present
    split
    · rw [(stays old).1, (stays old).2]
      exact orderly.arrived old known
    · exact orderly.arrived old known
  apart := by
    refine apart_of_fits fits (fun row present differs => ?_) orderly
    obtain ⟨old, known, rfl⟩ := Table.mem_update.mp present
    split at differs
    · rename_i holds
      exact (differs ((keeps old).trans (one old holds).1)).elim
    · rw [if_neg (by assumption)]
      exact known

theorem settled {condition : Reservation → Bool} {change : Reservation → Reservation}
    {keeps : ∀ row, (change row).id = row.id} (orderly : Orderly rows)
    (pending : ∀ row, condition row = true → row.status = .pending)
    (settles : ∀ row, row.orderSessionId = none → condition row = true →
      Settles row (change row)) : Orderly (rows.update condition change keeps) := by
  -- The row that a row was, on the same table at the same time.
  have was : ∀ row ∈ rows.update condition change keeps, ∃ old ∈ rows, old.id = row.id ∧
      row.tableId = old.tableId ∧ row.startsAt = old.startsAt ∧ row.endsAt = old.endsAt ∧
      (isActive row = true → isActive old = true) ∧
      (row.status = .arrived ↔ row.orderSessionId.isSome) := by
    intro row present
    obtain ⟨old, known, rfl⟩ := Table.mem_update.mp present
    refine ⟨old, known, ?_⟩
    split
    · rename_i holds
      have settle := settles old (orderly.unseated known (pending old holds)) holds
      refine ⟨(keeps old).symm, settle.tableId, settle.startsAt, settle.endsAt, fun _ => ?_,
        settle.arrived⟩
      simp [isActive, pending old holds]
    · exact ⟨rfl, rfl, rfl, rfl, fun active => active, orderly.arrived old known⟩
  constructor
  · intro row present
    obtain ⟨old, -, -, -, -, -, -, arrived⟩ := was row present
    exact arrived
  · intro row present other here differs active otherActive table
    obtain ⟨old, known, sameId, sameTable, start, stop, wasActive, -⟩ := was row present
    obtain ⟨first, found, otherId, otherTable, otherStart, otherStop, firstActive, -⟩ :=
      was other here
    have disjoint := orderly.apart old known first found (by rw [sameId, otherId]; exact differs)
      (wasActive active) (firstActive otherActive) (by rw [← sameTable, ← otherTable]; exact table)
    simpa only [overlaps, start, stop, otherStart, otherStop] using disjoint

theorem move (orderly : Orderly rows) (moved : ReservationMove rows after) : Orderly after := by
  cases moved with
  | added pending unseated inserted fits => exact orderly.added pending unseated inserted fits
  | edited one stays fits => exact orderly.edited one stays fits
  | settled pending settles => exact orderly.settled pending settles

theorem moves (orderly : Orderly rows) (moved : ReservationMoves rows after) : Orderly after := by
  induction moved with
  | refl => exact orderly
  | tail _ moved inductionHypothesis => exact inductionHypothesis.move moved

end Orderly

namespace ReservationBook

section Programs

variable {τ : Type} {view : ReservationBook → τ} {S : τ → τ → Prop} [IsPreorder τ S]
variable {R : Database → Database → Prop} [IsPreorder Database R] {α : Type}

instance : Apart ReservationBook.database reservationRequest := ⟨fun _ _ => rfl⟩
instance : Apart ReservationBook.database runningTask := ⟨fun _ _ => rfl⟩
instance : Apart ReservationBook.database sequence := ⟨fun _ _ => rfl⟩

instance nextSequenceId [Apart view sequence] : Respects (On view S) nextSequenceId where
  step before result after committed := by
    simp only [ReservationsService.nextSequenceId, commits_bind, commits_get, commits_modify,
      commits_pure] at committed
    obtain ⟨_, _, ⟨rfl, rfl⟩, _, _, rfl, -, rfl⟩ := committed
    exact Respects.write _

omit [IsPreorder Database R] in
instance onDatabase {program : Transact α} [respects : Respects R program] :
    Respects (On ReservationBook.database R) (within databasePart program) where
  step before result after committed := by
    obtain ⟨database, ran, rfl⟩ := commits_within.mp committed
    exact respects.step ran

omit [IsPreorder Database R] in
instance reservationTx {program : Tx SalesStore Failure α} [Respects R (salesTx program)] :
    Respects (On ReservationBook.database R) (reservationTx program) := by
  unfold ReservationsService.reservationTx
  infer_instance

/-- A transaction of the service writes as its last statements do. -/
theorem advance {employeeId : Id} {now : Timestamp} {task : ReservationTask}
    (inserts : ∀ dto, task = .insert dto →
      Respects (On ReservationBook.database R) (insertReservation dto employeeId now))
    (claims : ∀ request tableId, task = .claim request tableId →
      Respects (On ReservationBook.database R) (claimRequest request tableId employeeId now))
    (saves : ∀ existing dto, task = .save existing dto →
      Respects R (salesTx (saveReservation existing dto now)))
    (closes : ∀ id reason, Respects R (salesTx (closeReservation id reason now))) :
    Respects (On ReservationBook.database R) (advance employeeId now task) := by
  cases task with
  | insert dto =>
      have := inserts dto rfl
      dsimp only [ReservationsService.advance]
      infer_instance
  | claim request tableId =>
      have := claims request tableId rfl
      dsimp only [ReservationsService.advance]
      infer_instance
  | save existing dto =>
      have := saves existing dto rfl
      dsimp only [ReservationsService.advance]
      infer_instance
  | _ =>
      dsimp only [ReservationsService.advance, assertActiveTable, assertValidWindow,
        findReservation]
      infer_instance

/-- The statement of the transaction, which is then recorded as done. -/
theorem commits_resume {taskId : Id} {now : Timestamp} {before after : ReservationBook}
    {result : Unit} (committed : Commits (resume taskId now) before result after) :
    ∃ running next middle, before.tasks.find? taskId = some running ∧
      Commits (ReservationsService.advance running.employeeId now running.task) before next middle ∧
      after.database = middle.database := by
  simp only [resume, commits_bind, commits_findUniqueOrFail] at committed
  obtain ⟨running, _, ⟨found, rfl⟩, next, middle, advanced, recorded⟩ := committed
  refine ⟨running, next, middle, found, advanced, ?_⟩
  cases next with
  | none =>
      simp only [commits_bind, commits_deleteMany, commits_pure] at recorded
      obtain ⟨_, _, ⟨-, rfl⟩, -, rfl⟩ := recorded
      rfl
  | some task =>
      simp only [commits_bind, commits_updateMany, commits_pure] at recorded
      obtain ⟨_, _, ⟨-, rfl⟩, -, rfl⟩ := recorded
      rfl

/-- What the commands, the running transactions and the sweep respect, everything does. -/
theorem respects_action {action : ReservationAction}
    (commands : ∀ command now, action = .perform command now → Respects R (command.execute now))
    (administers : ∀ database catalog, action = .administer catalog →
      R database (database.administer catalog database.sales.reservations))
    (advances : ∀ taskId now employeeId task, action = .resume taskId now →
      Respects (On ReservationBook.database R) (ReservationsService.advance employeeId now task))
    (sweeps : ∀ now, Respects (On ReservationBook.database R) (markOverdueNoShows now)) :
    Respects (On ReservationBook.database R) action.execute := by
  cases action with
  | perform command now =>
      have := commands command now rfl
      dsimp only [ReservationAction.execute]
      infer_instance
  | administer catalog =>
      constructor
      intro before result after committed
      rw [commits_modify.mp committed]
      exact administers before.database catalog rfl
  | «begin» task employeeId now =>
      dsimp only [ReservationAction.execute, ReservationsService.begin, assertValidWindow]
      cases task <;> infer_instance
  | resume taskId now =>
      constructor
      intro before result after committed
      obtain ⟨running, next, middle, -, advanced, same⟩ := commits_resume committed
      unfold On
      rw [same]
      exact (advances taskId now running.employeeId running.task rfl).step advanced
  | abandon taskId =>
      dsimp only [ReservationAction.execute, ReservationsService.abandon]
      infer_instance
  | markOverdueNoShows now => exact sweeps now
  | markExpiredPublicRequests now =>
      dsimp only [ReservationAction.execute, ReservationsService.markExpiredPublicRequests]
      infer_instance
  | createPublicRequest dto now =>
      dsimp only [ReservationAction.execute, ReservationsService.createPublicRequest,
        assertValidWindow]
      infer_instance
  | cancelPublicRequest accessTokenHash now =>
      dsimp only [ReservationAction.execute, ReservationsService.cancelPublicRequest]
      infer_instance

end Programs

end ReservationBook

namespace ReservationMoves

variable {rows after : Table Reservation.id} {row : Reservation}

/-- A settled reservation is never written again. -/
theorem keeps_settled (moved : ReservationMoves rows after) (known : row ∈ rows)
    (settled : row.status ≠ .pending) : row ∈ after := by
  induction moved with
  | refl => exact known
  | @tail middle last _ moved present =>
      cases moved with
      | added _ _ inserted _ => exact (Table.mem_insert? inserted).mpr (.inl present)
      | edited one _ _ =>
          refine Table.mem_update.mpr ⟨row, present, ?_⟩
          rw [if_neg fun holds => settled (one row holds).2]
      | settled pending _ =>
          refine Table.mem_update.mpr ⟨row, present, ?_⟩
          rw [if_neg fun holds => settled (pending row holds)]

section Programs

variable {id employeeId : Id} {now : Timestamp}

open SalesStore

instance : OffFloor SalesStore.reservations where
  orderItem := ⟨fun _ _ => rfl⟩
  recipeIngredient := ⟨fun _ _ => rfl⟩
  orderRemake := ⟨fun _ _ => rfl⟩
  kitchenTicket := ⟨fun _ _ => rfl⟩
  kitchenTicketItem := ⟨fun _ _ => rfl⟩

instance : Apart SalesStore.reservations orderSession := ⟨fun _ _ => rfl⟩
instance : Apart SalesStore.reservations diningTable := ⟨fun _ _ => rfl⟩
instance : Apart SalesStore.reservations invoice := ⟨fun _ _ => rfl⟩
instance : Apart SalesStore.reservations onlineOrderRequest := ⟨fun _ _ => rfl⟩

theorem settling {wanted : Id} {guard : Reservation → Bool} {change : Reservation → Reservation}
    {keeps : ∀ row, (change row).id = row.id} {failure : Failure}
    (pending : ∀ row, guard row = true → row.status = .pending)
    (settles : ∀ row, row.orderSessionId = none → guard row = true → Settles row (change row)) :
    Respects (On SalesStore.reservations ReservationMoves)
      (updateExpecting reservation wanted guard change failure keeps) where
  step before result after committed := by
    obtain ⟨-, rfl⟩ := commits_updateExpecting.mp committed
    have second {row : Reservation} (holds : (row.id = wanted && guard row) = true) :
        guard row = true := by
      rw [Bool.and_eq_true] at holds
      exact holds.2
    exact .single (@ReservationMove.settled _ _ _ keeps
      (fun row holds => pending row (second holds))
      fun row free holds => settles row free (second holds))

instance checkInReservation : Respects (On Database.sales (On SalesStore.reservations
    ReservationMoves)) (checkInReservation id employeeId now) := by
  have seats (sessionId : Id) : Respects (On SalesStore.reservations ReservationMoves)
      (updateExpecting reservation id isWaiting
        (fun row => { row with
          status := .arrived
          checkedInAt := some now
          orderSessionId := some sessionId
          updatedAt := now }) (Failure.conflict "Reservation status has changed.")) := by
    refine settling (fun row waiting => ?_) fun row _ _ => ⟨rfl, rfl, rfl, nofun, by simp⟩
    simp only [isWaiting, Bool.and_eq_true, decide_eq_true_eq] at waiting
    exact waiting.1
  dsimp only [OrdersService.checkInReservation]
  infer_instance

instance command {command : Command} : Respects (On Database.sales (On SalesStore.reservations
    ReservationMoves)) (command.execute now) := by
  cases command with
  | inventory command =>
      cases command <;> (dsimp only [Command.execute, InventoryCommand.execute]; infer_instance)
  | cash command =>
      cases command <;> (dsimp only [Command.execute, CashCommand.execute]; infer_instance)
  | order command => exact OffFloor.orderCommand
  | invoice command => exact OffFloor.invoiceCommand
  | online command => exact OffFloor.onlineCommand
  | payment command => exact OffFloor.paymentCommand
  | table command =>
      cases command <;> (dsimp only [Command.execute, TableCommand.execute]; infer_instance)
  | print command =>
      cases command <;> (dsimp only [Command.execute, PrintCommand.execute]; infer_instance)

section Service

open ReservationBook

theorem fits_of_constraints {before after : SalesStore} {result : Unit}
    (committed : Commits (assertConstraints id) before result after) :
    after = before ∧ Fits id before.reservations := by
  simp only [assertConstraints, commits_bind, commits_findUniqueOrFail, commits_require,
    commits_findFirst] at committed
  obtain ⟨row, _, ⟨read, rfl⟩, _, _, ⟨-, rfl⟩, _, _, ⟨-, rfl⟩, _, _, ⟨rfl, rfl⟩, free, rfl⟩ :=
    committed
  change (SalesStore.reservations _).find? id = some row at read
  refine ⟨rfl, fun found known here other present differs active otherActive table => ?_⟩
  obtain rfl : row = found := by
    have same := Table.find?_of_mem known
    rw [here, read] at same
    exact Option.some.inj same
  have none_clashes := Table.first?_eq_none.mp (Option.isNone_iff_eq_none.mp free) other present
  simpa [differs, active, otherActive, table] using none_clashes

instance insertReservation {dto : CreateReservationDto} :
    Respects (On ReservationBook.database (On Database.sales (On SalesStore.reservations
      ReservationMoves))) (insertReservation dto employeeId now) where
  step before result after committed := by
    simp only [ReservationsService.insertReservation, ReservationsService.reservationTx,
      commits_bind, commits_within, commits_salesTx, commits_create, commits_pure] at committed
    obtain ⟨id, middle, drawn, _, _, ⟨_, ⟨sales, ⟨_, _, ⟨rows, inserted, rfl⟩, checked⟩, rfl⟩,
      rfl⟩, -, rfl⟩ := committed
    have same : middle.reservations = before.reservations := by
      simp only [ReservationsService.nextSequenceId, commits_bind, commits_get, commits_modify,
        commits_pure] at drawn
      obtain ⟨_, _, ⟨rfl, rfl⟩, _, _, rfl, -, rfl⟩ := drawn
      rfl
    obtain ⟨rfl, fits⟩ := fits_of_constraints checked
    change middle.reservations.insert? _ = some rows at inserted
    rw [same] at inserted
    exact .single (.added rfl rfl inserted fits)

instance claimRequest {request : ReservationRequest} {tableId : Id} :
    Respects (On ReservationBook.database (On Database.sales (On SalesStore.reservations
      ReservationMoves))) (claimRequest request tableId employeeId now) := by
  dsimp only [ReservationsService.claimRequest]
  infer_instance

instance saveReservation {existing : Reservation} {dto : UpdateReservationDto} :
    Respects (On SalesStore.reservations ReservationMoves)
      (saveReservation existing dto now) where
  step before result after committed := by
    obtain ⟨_, _, saved, checked⟩ := commits_bind.mp committed
    obtain ⟨-, rfl⟩ := commits_updateExpecting.mp saved
    obtain ⟨rfl, fits⟩ := fits_of_constraints checked
    refine .single (@ReservationMove.edited _ _ _ _ (by intro; rfl) (fun row holds => ?_)
      (fun row => ⟨rfl, rfl⟩) fits)
    simp only [Bool.and_eq_true, decide_eq_true_eq] at holds
    exact ⟨holds.1, holds.2.1⟩

instance closeReservation {reason : String} :
    Respects (On SalesStore.reservations ReservationMoves)
      (closeReservation id reason now) := by
  refine settling (fun row pending => of_decide_eq_true pending) fun row unseated _ =>
    ⟨rfl, rfl, rfl, nofun, ?_⟩
  simp [unseated]

instance markOverdueNoShows : Respects (On ReservationBook.database (On Database.sales
    (On SalesStore.reservations ReservationMoves))) (markOverdueNoShows now) := by
  have marks : Respects (On SalesStore.reservations ReservationMoves) (updateMany
      SalesStore.reservation
      (fun row => row.status = .pending && row.startsAt + reservationNoShowGraceMs ≤ now)
      (fun row => { row with
        status := .noShow
        noShowAt := some now
        updatedAt := now }) : Tx SalesStore Failure Nat) := by
    constructor
    intro before result after committed
    obtain ⟨-, rfl⟩ := commits_updateMany.mp committed
    refine .single (@ReservationMove.settled _ _ _ (by intro; rfl) (fun row holds => ?_)
      fun row unseated _ => ⟨rfl, rfl, rfl, nofun, ?_⟩)
    · simp only [Bool.and_eq_true, decide_eq_true_eq] at holds
      exact holds.1
    · simp [unseated]
  dsimp only [ReservationsService.markOverdueNoShows]
  infer_instance

theorem action {action : ReservationAction} : Respects (On ReservationBook.database
    (On Database.sales (On SalesStore.reservations ReservationMoves))) action.execute :=
  respects_action (fun _ _ _ => command) (fun _ _ _ => .refl)
    (fun _ _ _ _ _ => ReservationBook.advance (fun _ _ => insertReservation)
      (fun _ _ _ => claimRequest) (fun _ _ _ => inferInstance) fun _ _ => inferInstance)
    fun _ => markOverdueNoShows

end Service

end Programs

end ReservationMoves

namespace ReservationBook

/-- Some action commits. -/
def Step (before after : ReservationBook) : Prop :=
  ∃ action : ReservationAction, Commits action.execute before () after

def Reachable (book : ReservationBook) : Prop := Relation.ReflTransGen Step empty book

variable {book before after : ReservationBook} {row : Reservation} {now : Timestamp}

theorem Step.moves (taken : Step before after) :
    ReservationMoves before.reservations after.reservations := by
  obtain ⟨action, committed⟩ := taken
  exact ReservationMoves.action.step committed

theorem run_moves (runs : Relation.ReflTransGen Step before after) :
    ReservationMoves before.reservations after.reservations := by
  induction runs with
  | refl => exact .refl
  | tail _ taken inductionHypothesis => exact inductionHypothesis.trans taken.moves

theorem Reachable.orderly (reached : Reachable book) : Orderly book.reservations :=
  Orderly.empty.moves (run_moves reached)

/-- The party of the reservation is seated now by someone. -/
def Seats (book : ReservationBook) (row : Reservation) (now : Timestamp) : Prop :=
  ∃ employeeId after, Commits (checkInReservation row.id employeeId now) book.database () after

/-- The sweep marks the party of the reservation as absent now. -/
def MarksAbsent (book : ReservationBook) (row : Reservation) (now : Timestamp) : Prop :=
  ∃ after, Commits (markOverdueNoShows now) book () after ∧
    ∃ marked ∈ after.reservations, marked.id = row.id ∧ marked.status = .noShow ∧
      row.status ≠ .noShow

instance createSession_keeps {tableId : Option Id} {employeeId : Id} {guestCount : Option Nat} :
    Respects (On Database.sales (On SalesStore.reservations Eq))
      (createOrderSession tableId employeeId guestCount now) := inferInstance

/-- The check-in is open from half an hour before the start until a quarter after it. -/
theorem checkIn_iff (orderly : Orderly book.reservations) (known : row ∈ book.reservations)
    {employeeId : Id} :
    (∃ after, Commits (checkInReservation row.id employeeId now) book.database () after) ↔
      row.status = .pending ∧ row.startsAt ≤ now + reservationCheckInEarlyMs ∧
        now < row.startsAt + reservationNoShowGraceMs ∧
        ∃ sessionId after, Commits (createOrderSession (some row.tableId) employeeId
          (some row.guestCount) now) book.database sessionId after := by
  have found : book.database.sales.reservations.find? row.id = some row :=
    Table.find?_of_mem known
  simp only [checkInReservation, commits_bind, commits_salesTx, commits_findUniqueOrFail,
    commits_require]
  constructor
  · rintro ⟨after, same, _, ⟨_, ⟨read, rfl⟩, rfl⟩, _, _, ⟨waiting, rfl⟩, _, _, ⟨opened, rfl⟩,
      _, _, ⟨unclosed, rfl⟩, sessionId, middle, seated, -⟩
    obtain rfl : row = same := Option.some.inj (found.symm.trans read)
    simp only [isWaiting, Bool.and_eq_true, decide_eq_true_eq] at waiting
    exact ⟨waiting.1, opened, unclosed, sessionId, middle, seated⟩
  · rintro ⟨pending, opened, unclosed, sessionId, middle, seated⟩
    have waiting : isWaiting row = true := by
      simp [isWaiting, pending, orderly.unseated known pending]
    have kept : middle.sales.reservations = book.database.sales.reservations :=
      (createSession_keeps.step seated).symm
    have stays : middle.sales.reservations.find? row.id = some row := by
      rw [kept]
      exact found
    obtain ⟨sales, arrived⟩ : ∃ sales, Commits (updateExpecting SalesStore.reservation row.id
        isWaiting (fun row => { row with
          status := .arrived
          checkedInAt := some now
          orderSessionId := some sessionId
          updatedAt := now }) (Failure.conflict "Reservation status has changed.") (by intro; rfl))
        middle.sales () sales :=
      ⟨_, commits_updateExpecting.mpr ⟨⟨row, stays, waiting⟩, rfl⟩⟩
    exact ⟨{ middle with sales }, row, book.database, ⟨_, ⟨found, rfl⟩, rfl⟩, (), _,
      ⟨waiting, rfl⟩, (), _, ⟨opened, rfl⟩, (), _, ⟨unclosed, rfl⟩, sessionId, middle, seated,
      sales, arrived, rfl⟩

theorem id_noShow (now : Timestamp) (row : Reservation) :
    { row with status := .noShow, noShowAt := some now, updatedAt := now }.id = row.id := rfl

/-- The reservations once the overdue ones are marked. -/
def sweep (rows : Table Reservation.id) (now : Timestamp) : Table Reservation.id :=
  rows.update (fun row => row.status = .pending && row.startsAt + reservationNoShowGraceMs ≤ now)
    (fun row => { row with
      status := .noShow
      noShowAt := some now
      updatedAt := now })
    (id_noShow now)

theorem mem_sweep {rows : Table Reservation.id} {marked : Reservation} :
    marked ∈ sweep rows now ↔ ∃ row ∈ rows, (if (row.status = .pending &&
        row.startsAt + reservationNoShowGraceMs ≤ now) = true then
      { row with status := .noShow, noShowAt := some now, updatedAt := now } else row) = marked := by
  unfold sweep
  exact Table.mem_update

/-- The sweep takes whoever has not come a quarter of an hour after the start. -/
theorem marksAbsent_iff (known : row ∈ book.reservations) :
    MarksAbsent book row now ↔
      row.status = .pending ∧ row.startsAt + reservationNoShowGraceMs ≤ now := by
  have swept (after : ReservationBook) : Commits (markOverdueNoShows now) book () after ↔
      after = { book with database := { book.database with sales := { book.database.sales with
        reservations := sweep book.reservations now } } } := by
    simp only [markOverdueNoShows, ReservationsService.reservationTx, commits_within,
      commits_salesTx, commits_bind, commits_updateMany, commits_pure]
    constructor
    · rintro ⟨_, ⟨_, ⟨_, _, ⟨-, rfl⟩, -, rfl⟩, rfl⟩, rfl⟩
      rfl
    · rintro rfl
      exact ⟨_, ⟨_, ⟨_, _, ⟨rfl, rfl⟩, trivial, rfl⟩, rfl⟩, rfl⟩
  constructor
  · rintro ⟨after, committed, marked, present, same, absent, differs⟩
    rw [swept] at committed
    subst committed
    change marked ∈ sweep book.reservations now at present
    obtain ⟨old, wasKnown, rfl⟩ := mem_sweep.mp present
    split at same
    · rename_i overdue
      obtain rfl : row = old := Table.eq_of_key_eq known wasKnown same.symm
      simpa only [Bool.and_eq_true, decide_eq_true_eq] using overdue
    · rename_i early
      obtain rfl : row = old := Table.eq_of_key_eq known wasKnown same.symm
      rw [if_neg early] at absent
      exact (differs absent).elim
  · rintro ⟨pending, late⟩
    have overdue : (row.status = .pending &&
        row.startsAt + reservationNoShowGraceMs ≤ now) = true := by
      simp [pending, late]
    have present : { row with status := .noShow, noShowAt := some now, updatedAt := now } ∈
        sweep book.reservations now := mem_sweep.mpr ⟨row, known, if_pos overdue⟩
    exact ⟨_, (swept _).mpr rfl, _, present, rfl, rfl, by simp [pending]⟩

/-- The life of every reservation, in every reachable state. -/
theorem Reachable.lifecycle (reached : Reachable book) :
    (∀ row ∈ book.reservations, row.status = .arrived ↔ row.orderSessionId.isSome) ∧
    (∀ row ∈ book.reservations, row.status ≠ .pending →
      ∀ later, Relation.ReflTransGen Step book later → row ∈ later.reservations) ∧
    (∀ row ∈ book.reservations, ∀ other ∈ book.reservations, other.id ≠ row.id →
      isActive row = true → isActive other = true → other.tableId = row.tableId →
      row.endsAt ≤ other.startsAt ∨ other.endsAt ≤ row.startsAt) ∧
    ∀ row ∈ book.reservations, ∀ now,
      (Seats book row now ↔ row.status = .pending ∧
        (row.startsAt ≤ now + reservationCheckInEarlyMs ∧
          now < row.startsAt + reservationNoShowGraceMs) ∧
        ∃ employeeId sessionId after, Commits (createOrderSession (some row.tableId) employeeId
          (some row.guestCount) now) book.database sessionId after) ∧
      (MarksAbsent book row now ↔
        row.status = .pending ∧ row.startsAt + reservationNoShowGraceMs ≤ now) ∧
      ¬(Seats book row now ∧ MarksAbsent book row now) := by
  have orderly := reached.orderly
  have seats (row : Reservation) (known : row ∈ book.reservations) (now : Timestamp) :
      Seats book row now ↔ row.status = .pending ∧
        (row.startsAt ≤ now + reservationCheckInEarlyMs ∧
          now < row.startsAt + reservationNoShowGraceMs) ∧
        ∃ employeeId sessionId after, Commits (createOrderSession (some row.tableId) employeeId
          (some row.guestCount) now) book.database sessionId after := by
    unfold Seats
    simp only [checkIn_iff orderly known]
    constructor
    · rintro ⟨employeeId, pending, opened, unclosed, seated⟩
      exact ⟨pending, ⟨opened, unclosed⟩, employeeId, seated⟩
    · rintro ⟨pending, ⟨opened, unclosed⟩, employeeId, seated⟩
      exact ⟨employeeId, pending, opened, unclosed, seated⟩
  refine ⟨orderly.arrived, fun row known settled later runs =>
    (run_moves runs).keeps_settled known settled, fun row known other present differs active
      otherActive table => ?_, fun row known now => ⟨seats row known now, marksAbsent_iff known, ?_⟩⟩
  · have apart := orderly.apart row known other present differs active otherActive table
    simp only [overlaps, Bool.and_eq_false_iff, decide_eq_false_iff_not, not_lt] at apart
    exact apart.symm
  · rintro ⟨seated, absent⟩
    have early := ((seats row known now).mp seated).2.1.2
    have late := ((marksAbsent_iff known).mp absent).2
    exact absurd early (not_lt_of_ge late)

section Samples

/-- The book after the action, which changes nothing if it aborts. -/
def perform (book : ReservationBook) (action : ReservationAction) : ReservationBook :=
  match action.execute book with
  | .ok (_, after) => after
  | .error _ => book

def performAll (book : ReservationBook) (actions : List ReservationAction) : ReservationBook :=
  actions.foldl perform book

theorem runs_performAll {start : ReservationBook} (runs : Relation.ReflTransGen Step start book)
    (actions : List ReservationAction) :
    Relation.ReflTransGen Step start (book.performAll actions) := by
  induction actions generalizing book with
  | nil => exact runs
  | cons action actions inductionHypothesis =>
      apply inductionHypothesis
      unfold perform
      split
      · rename_i after committed
        exact runs.tail ⟨action, committed⟩
      · exact runs

/-- A table, and a reservation of it for the time 3600000. -/
def booked : ReservationBook := empty.performAll [
  .administer .sample,
  .perform (.table (.createTable "T1")) 1,
  .begin (.create {
    customerName := none
    phoneNumber := "0900000000"
    tableId := 0
    startsAt := 3600000
    endsAt := 7200000
    guestCount := 2
    notes := none }) 0 2,
  .resume 0 3,
  .resume 0 4]

theorem Reachable.lifecycle_booked : ∃ row ∈ booked.reservations,
    MarksAbsent booked row 4500000 ∧ ¬Seats booked row 4500000 := by
  have waits : (booked.reservations.find? 1).any (fun row =>
      row.status = .pending && row.startsAt + reservationNoShowGraceMs ≤ 4500000) = true := by
    decide +kernel
  obtain ⟨row, found, passed⟩ := (Option.any_eq_true _ _).mp waits
  simp only [Bool.and_eq_true, decide_eq_true_eq] at passed
  have known := Table.mem_of_find? found
  have life := (Reachable.lifecycle (runs_performAll .refl _) : _ ∧ _).2.2.2 row known 4500000
  exact ⟨row, known, life.2.1.mpr passed, fun seated => life.2.2 ⟨seated, life.2.1.mpr passed⟩⟩

end Samples

end ReservationBook

end CoffeeShop
