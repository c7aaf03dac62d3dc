import CoffeeShop.Execution
import CoffeeShop.Sales.Floor

/-!
No pickup time is booked beyond the capacity of its slot.
-/

-- An instance for a program has one node for each of its statements.
set_option synthInstance.maxSize 100000

namespace CoffeeShop

open Transaction SalesStore OnlineOrders

/-- The request takes a place at the pickup time. -/
def OnlineOrderRequest.isBooked (pickupAt : Timestamp) (request : OnlineOrderRequest) : Bool :=
  request.status = .accepted && request.pickupAt = some pickupAt

/-- The places that are taken at a pickup time. -/
def SalesStore.booked (sales : SalesStore) (pickupAt : Timestamp) : Nat :=
  sales.requests.count (·.isBooked pickupAt)

/-- No pickup time has more bookings than before. -/
abbrev FreesSlots {α : Type} (program : Transact α) : Prop :=
  Respects (On Database.sales (On booked (· ≥ ·))) program

namespace FreesSlots

variable {id employeeId : Id} {now : Timestamp}

instance : OffFloor booked where
  orderItem := ⟨fun _ _ => rfl⟩
  recipeIngredient := ⟨fun _ _ => rfl⟩
  orderRemake := ⟨fun _ _ => rfl⟩
  kitchenTicket := ⟨fun _ _ => rfl⟩
  kitchenTicketItem := ⟨fun _ _ => rfl⟩

instance : Apart booked orderSession := ⟨fun _ _ => rfl⟩
instance : Apart booked diningTable := ⟨fun _ _ => rfl⟩
instance : Apart booked invoice := ⟨fun _ _ => rfl⟩
instance : Apart booked reservation := ⟨fun _ _ => rfl⟩

/-- A change that accepts no request takes no place. -/
theorem updateRequest {wanted : Id} {guard : OnlineOrderRequest → Bool}
    {change : OnlineOrderRequest → OnlineOrderRequest} {keeps : ∀ row, (change row).id = row.id}
    {failure : Failure} (declined : ∀ row, (change row).status ≠ .accepted) :
    Respects (On booked (· ≥ ·))
      (updateExpecting onlineOrderRequest wanted guard change failure keeps) where
  step before result after committed := by
    obtain ⟨-, rfl⟩ := commits_updateExpecting.mp committed
    intro pickupAt
    refine @Table.count_update_le _ _ _ _ _ _ _ keeps fun row _ _ counted => ?_
    simp [OnlineOrderRequest.isBooked, declined row] at counted

instance receive {input : ReceiveOnlineOrderInput} : FreesSlots (receive input now) where
  step before result after committed := by
    simp only [OnlineOrders.receive, commits_bind, commits_freshId, commits_salesTx,
      commits_create] at committed
    obtain ⟨id, _, ⟨-, rfl⟩, _, ⟨requests, inserted, rfl⟩, rfl⟩ := committed
    intro pickupAt
    have rows := (Table.rows_insert? inserted).1
    change requests.count _ ≤ before.sales.requests.count _
    simp [Table.count, rows, OnlineOrderRequest.isBooked]

instance reject {reason : String} : FreesSlots (reject id employeeId reason now) := by
  have rejects (failure : Failure) : Respects (On booked (· ≥ ·))
      (updateExpecting onlineOrderRequest id (isOpen now) (fun row => { row with
        status := .rejected
        rejectionReason := some reason
        reviewedAt := some now
        reviewedById := some employeeId }) failure) := updateRequest fun _ => nofun
  dsimp only [OnlineOrders.reject]
  infer_instance

instance closeCancelled {session : OrderSession} {reason : String} {noShow : Bool} :
    Respects (On booked (· ≥ ·)) (closeCancelled id session reason noShow now) := by
  have closes (guard : OnlineOrderRequest → Bool) : Respects (On booked (· ≥ ·))
      (updateExpecting onlineOrderRequest id guard (fun row => { row with
        status := .cancelled
        cancellationReason := some reason
        cancelledAt := some now
        noShowAt := if noShow then some now else row.noShowAt }) changedDuringCancellation) :=
    updateRequest fun _ => nofun
  dsimp only [OnlineOrders.closeCancelled]
  infer_instance

instance cancelPublicRequest : FreesSlots (cancelPublicRequest id now) := by
  have withdraws : Respects (On booked (· ≥ ·))
      (updateExpecting onlineOrderRequest id (isOpen now)
        (fun row => { row with status := .cancelled, cancelledAt := some now }) notPending) :=
    updateRequest fun _ => nofun
  dsimp only [OnlineOrders.cancelPublicRequest, OnlineOrders.cancelUnprepared]
  infer_instance

instance cancelAcceptedRequest {reason : String} {noShow : Bool} :
    FreesSlots (cancelAcceptedRequest id employeeId reason noShow now) := by
  dsimp only [OnlineOrders.cancelAcceptedRequest]
  infer_instance

end FreesSlots

namespace OnlineOrders

instance : OffFloor requests where
  orderItem := ⟨fun _ _ => rfl⟩
  recipeIngredient := ⟨fun _ _ => rfl⟩
  orderRemake := ⟨fun _ _ => rfl⟩
  kitchenTicket := ⟨fun _ _ => rfl⟩
  kitchenTicketItem := ⟨fun _ _ => rfl⟩

instance : Apart requests orderSession := ⟨fun _ _ => rfl⟩
instance : Apart requests diningTable := ⟨fun _ _ => rfl⟩

variable {id employeeId : Id} {now : Timestamp}

theorem id_accepted (now : Timestamp) (employeeId orderSessionId : Id)
    (request : OnlineOrderRequest) :
    { request with
      status := .accepted
      reviewedAt := some now
      reviewedById := some employeeId
      orderSessionId := some orderSessionId }.id = request.id := rfl

/-- What `accept` does with a request once its slot is admitted. -/
def confirm (request : OnlineOrderRequest) (employeeId : Id) (now : Timestamp) :
    Transact Unit := do
  let orderSessionId ← OrdersService.createOnlineTakeawaySession employeeId
    (request.items.map orderLine) (request.items.map quoteOf) request.pickupAt now
  salesTx (updateExpecting onlineOrderRequest request.id (isOpen now)
    (fun row => { row with
      status := .accepted
      reviewedAt := some now
      reviewedById := some employeeId
      orderSessionId := some orderSessionId }) notPending
    (id_accepted now employeeId orderSessionId))

theorem commits_assertPickupSlot {catalog : Catalog} {pickupAt : Timestamp}
    {before after : SalesStore} {result : Unit} :
    Commits (assertPickupSlot catalog (some pickupAt) now) before result after ↔
      (∃ capacity, catalog.pickupCapacity = some capacity ∧ now < pickupAt ∧
        before.booked pickupAt < capacity) ∧ after = before := by
  simp only [assertPickupSlot, commits_bind, commits_orFail, commits_require, commits_findMany]
  constructor
  · rintro ⟨capacity, _, ⟨configured, rfl⟩, _, _, ⟨inTime, rfl⟩, _, _, ⟨rfl, rfl⟩, free, rfl⟩
    exact ⟨⟨capacity, configured, inTime, by simpa [booked, Table.count, Table.select,
      List.countP_eq_length_filter, OnlineOrderRequest.isBooked] using free⟩, rfl⟩
  · rintro ⟨⟨capacity, configured, inTime, free⟩, rfl⟩
    exact ⟨capacity, _, ⟨configured, rfl⟩, (), _, ⟨inTime, rfl⟩, _, _, ⟨rfl, rfl⟩,
      by simpa [booked, Table.count, Table.select, List.countP_eq_length_filter,
        OnlineOrderRequest.isBooked] using free, rfl⟩

theorem commits_accept {before after : Database} :
    Commits (accept id employeeId now) before () after ↔
      ∃ request, before.sales.requests.find? id = some request ∧ isOpen now request ∧
        (∀ pickupAt, request.pickupAt = some pickupAt → ∃ capacity,
          before.catalog.pickupCapacity = some capacity ∧ now < pickupAt ∧
            before.sales.booked pickupAt < capacity) ∧
        Commits (confirm request employeeId now) before () after := by
  have key {request : OnlineOrderRequest} (found : before.sales.requests.find? id = some request) :
      request.id = id := Table.find?_key found
  simp only [accept, confirm, findRequest, commits_bind, commits_salesTx, commits_require,
    commits_findUniqueOrFail, commits_readCatalog]
  constructor
  · rintro ⟨request, _, ⟨_, ⟨found, rfl⟩, rfl⟩, _, _, ⟨opened, rfl⟩, catalog, _, ⟨rfl, rfl⟩,
      _, _, ⟨sales, admitted, rfl⟩, confirmed⟩
    refine ⟨request, found, opened, ?_, ?_⟩
    · intro pickupAt scheduled
      rw [scheduled] at admitted
      exact (commits_assertPickupSlot.mp admitted).1
    · cases Respects.step (R := Eq) admitted
      rw [key found]
      exact confirmed
  · rintro ⟨request, found, opened, free, confirmed⟩
    have admitted : Commits (assertPickupSlot before.catalog request.pickupAt now) before.sales ()
        before.sales := by
      cases scheduled : request.pickupAt with
      | none => exact commits_pure.mpr ⟨rfl, rfl⟩
      | some pickupAt => exact commits_assertPickupSlot.mpr ⟨free pickupAt scheduled, rfl⟩
    rw [key found] at confirmed
    exact ⟨request, _, ⟨_, ⟨found, rfl⟩, rfl⟩, (), _, ⟨opened, rfl⟩, _, _, ⟨rfl, rfl⟩, (), _,
      ⟨_, admitted, rfl⟩, confirmed⟩

/-- What the rest of `accept` does to the requests. -/
theorem requests_of_confirm {request : OnlineOrderRequest} {before after : Database}
    (committed : Commits (confirm request employeeId now) before () after) :
    ∃ orderSessionId, after.sales.requests = before.sales.requests.update
      (fun row => row.id = request.id && isOpen now row) fun row => { row with
        status := .accepted
        reviewedAt := some now
        reviewedById := some employeeId
        orderSessionId := some orderSessionId } := by
  simp only [confirm, commits_bind, commits_salesTx, commits_updateExpecting] at committed
  obtain ⟨orderSessionId, middle, created, sales, ⟨-, rfl⟩, rfl⟩ := committed
  have kept : middle.sales.requests = before.sales.requests :=
    (Respects.step (R := On Database.sales (On requests Eq)) created).symm
  refine ⟨orderSessionId, ?_⟩
  simp only [onlineOrderRequest_set_requests, onlineOrderRequest_get, kept]

/-- A request that is accepted takes one more place at its pickup time. -/
theorem booked_of_confirm {request : OnlineOrderRequest} {before after : Database}
    (found : before.sales.requests.find? request.id = some request)
    (opened : isOpen now request = true)
    (committed : Commits (confirm request employeeId now) before () after) (pickupAt : Timestamp) :
    after.sales.booked pickupAt = before.sales.booked pickupAt +
      if request.pickupAt = some pickupAt then 1 else 0 := by
  obtain ⟨orderSessionId, same⟩ := requests_of_confirm committed
  have pending : request.isBooked pickupAt = false := by
    have status : request.status = .pending := by
      simp only [isOpen, Bool.and_eq_true, decide_eq_true_eq] at opened
      exact opened.1
    simp [OnlineOrderRequest.isBooked, status]
  have counted := @Table.count_update_key _ _ _ _ before.sales.requests request
    (fun row => row.id = request.id && isOpen now row) (·.isBooked pickupAt)
    (fun row => { row with
        status := .accepted
        reviewedAt := some now
        reviewedById := some employeeId
        orderSessionId := some orderSessionId }) (by intro; rfl) (Table.mem_of_find? found)
    (by simp [opened]) fun other _ chosen => of_decide_eq_true (Bool.and_eq_true_iff.mp chosen).1
  simp only [pending] at counted
  unfold booked
  rw [same]
  simpa [OnlineOrderRequest.isBooked] using counted

/-- A request that is closed gives its place back. -/
theorem booked_of_closeCancelled {request : OnlineOrderRequest} {session : OrderSession}
    {reason : String} {noShow : Bool} {before after : SalesStore} {pickupAt : Timestamp}
    (committed : Commits (closeCancelled request.id session reason noShow now) before () after)
    (found : before.requests.find? request.id = some request)
    (held : request.isBooked pickupAt = true) :
    after.booked pickupAt + 1 = before.booked pickupAt := by
  simp only [closeCancelled, commits_bind, commits_updateExpecting] at committed
  obtain ⟨_, _, ⟨-, rfl⟩, ⟨row, atBefore, passed⟩, rfl⟩ := committed
  change before.requests.find? request.id = some row at atBefore
  obtain rfl : request = row := Option.some.inj (found.symm.trans atBefore)
  have counted := @Table.count_update_key _ _ _ _ before.requests request
    (fun row => row.id = request.id &&
      (row.status = .accepted && row.orderSessionId = some session.id)) (·.isBooked pickupAt)
    (fun row => { row with
        status := .cancelled
        cancellationReason := some reason
        cancelledAt := some now
        noShowAt := if noShow then some now else row.noShowAt }) (by intro; rfl)
    (Table.mem_of_find? found) (by simpa using passed)
    fun other _ chosen => of_decide_eq_true (Bool.and_eq_true_iff.mp chosen).1
  simp only [held, if_true] at counted
  simpa [booked, OnlineOrderRequest.isBooked] using counted

/-- The commands that cancel an accepted request. -/
inductive Cancels (id : Id) : OnlineCommand → Prop
  | customer : Cancels id (.cancelPublicRequest id)
  | staff (employeeId : Id) (reason : String) : Cancels id (.cancelAccepted id employeeId reason)
  | noShow (employeeId : Id) : Cancels id (.markNoShow id employeeId)

/-- Every way to cancel an accepted request frees its place. -/
theorem booked_of_cancelUnprepared {request : OnlineOrderRequest} {before after : Database}
    {pickupAt : Timestamp} (committed : Commits (cancelUnprepared request now) before () after)
    (found : before.sales.requests.find? request.id = some request)
    (held : request.isBooked pickupAt = true) :
    after.sales.booked pickupAt + 1 = before.sales.booked pickupAt := by
  simp only [cancelUnprepared, commits_bind, commits_require, commits_salesTx] at committed
  obtain ⟨_, start, ⟨-, rfl⟩, session, _, ⟨_, read, rfl⟩, _, _, ⟨-, rfl⟩, _, unprinted, jobs,
    _, _, ⟨closed, ⟨_, cancelled, items, closing⟩, rfl⟩, released⟩ := committed
  cases Respects.step (R := Eq) read
  have first : unprinted.sales.requests = start.sales.requests :=
    (Respects.step (R := On Database.sales (On requests Eq)) jobs).symm
  have second : cancelled.requests = unprinted.sales.requests :=
    (Respects.step (R := On requests Eq) items).symm
  have last : after.sales = closed := (Respects.step (R := On Database.sales Eq) released).symm
  have kept : cancelled.requests = start.sales.requests := second.trans first
  rw [last]
  have freed := booked_of_closeCancelled closing (kept ▸ found) held
  simpa only [booked, kept] using freed

theorem booked_of_cancelAcceptedRequest {request : OnlineOrderRequest} {reason : String}
    {noShow : Bool} {before after : Database} {pickupAt : Timestamp}
    (committed : Commits (cancelAcceptedRequest request.id employeeId reason noShow now) before ()
      after)
    (found : before.sales.requests.find? request.id = some request)
    (held : request.isBooked pickupAt = true) :
    after.sales.booked pickupAt + 1 = before.sales.booked pickupAt := by
  have accepted : request.status = .accepted := by
    simp only [OnlineOrderRequest.isBooked, Bool.and_eq_true, decide_eq_true_eq] at held
    exact held.1
  simp only [cancelAcceptedRequest, commits_bind, commits_salesTx,
    commits_findUniqueOrFail] at committed
  obtain ⟨_, _, reviewer, row, _, ⟨_, ⟨read, rfl⟩, rfl⟩, rest⟩ := committed
  cases Respects.step (R := Eq) reviewer
  obtain rfl : request = row := Option.some.inj (found.symm.trans read)
  rw [if_neg (by simp [accepted])] at rest
  simp only [commits_bind, commits_require, commits_salesTx] at rest
  obtain ⟨session, _, ⟨_, sessionRead, rfl⟩, _, _, ⟨-, rfl⟩, _, _, ⟨-, rfl⟩, _, wasted, waste, _, _,
    ⟨items, cancelled, rfl⟩, _, released, release, _, printed, print, closed, closing, rfl⟩ := rest
  cases Respects.step (R := Eq) sessionRead
  have first : wasted.sales = before.sales :=
    (Respects.step (R := On Database.sales Eq) waste).symm
  have second : items.requests = wasted.sales.requests :=
    (Respects.step (R := On requests Eq) cancelled).symm
  have third : released.sales = items := (Respects.step (R := On Database.sales Eq) release).symm
  have fourth : printed.sales = released.sales :=
    (Respects.step (R := On Database.sales Eq) print).symm
  have kept : printed.sales.requests = before.sales.requests := by
    rw [fourth, third, second, first]
  have freed := booked_of_closeCancelled closing (kept ▸ found) held
  simpa only [booked, kept] using freed

theorem Cancels.booked {request : OnlineOrderRequest} {command : OnlineCommand}
    {before after : Database} {pickupAt : Timestamp} (cancels : Cancels request.id command)
    (committed : Commits (command.execute now) before () after)
    (found : before.sales.requests.find? request.id = some request)
    (held : request.isBooked pickupAt = true) :
    after.sales.booked pickupAt + 1 = before.sales.booked pickupAt := by
  cases cancels with
  | staff => exact booked_of_cancelAcceptedRequest committed found held
  | noShow => exact booked_of_cancelAcceptedRequest committed found held
  | customer =>
      have accepted : request.status = .accepted := by
        simp only [OnlineOrderRequest.isBooked, Bool.and_eq_true, decide_eq_true_eq] at held
        exact held.1
      simp only [OnlineCommand.execute, cancelPublicRequest, findRequest, commits_bind,
        commits_salesTx, commits_findUniqueOrFail] at committed
      obtain ⟨row, _, ⟨_, ⟨read, rfl⟩, rfl⟩, rest⟩ := committed
      obtain rfl : request = row := Option.some.inj (found.symm.trans read)
      rw [if_neg (by simp [isOpen, accepted]), if_neg (by simp [accepted])] at rest
      obtain ⟨_, _, checked, cancelled⟩ := commits_bind.mp rest
      obtain ⟨-, rfl⟩ := commits_require.mp checked
      exact booked_of_cancelUnprepared cancelled found held

end OnlineOrders

namespace Database

/-- The pickup schedule, if there is one, takes at most this many orders at a time. -/
def SlotsTake (capacity : Nat) (database : Database) : Prop :=
  ∀ configured ∈ database.catalog.pickupCapacity, configured ≤ capacity

/-- No pickup time has more accepted requests than the capacity. -/
def SlotsFit (capacity : Nat) (database : Database) : Prop :=
  ∀ pickupAt, database.sales.booked pickupAt ≤ capacity

/-- A step of a backend that is configured with the capacity. -/
def ConfiguredStep (capacity : Nat) (before after : Database) : Prop :=
  Step before after ∧ after.SlotsTake capacity

end Database

open Database

theorem Database.SlotsFit.accept {capacity : Nat} {before after : Database} {id employeeId : Id}
    {now : Timestamp} (fits : before.SlotsFit capacity) (configured : before.SlotsTake capacity)
    (committed : Commits (OnlineOrders.accept id employeeId now) before () after) :
    after.SlotsFit capacity := by
  obtain ⟨request, found, opened, free, confirmed⟩ := commits_accept.mp committed
  intro pickupAt
  have same : request.id = id := Table.find?_key found
  rw [booked_of_confirm (same ▸ found) opened confirmed]
  by_cases scheduled : request.pickupAt = some pickupAt
  · obtain ⟨limit, known, -, room⟩ := free pickupAt scheduled
    have bound := configured limit known
    rw [if_pos scheduled]
    omega
  · rw [if_neg scheduled]
    exact fits pickupAt

/-- Every other command leaves each pickup time with the places that it had. -/
theorem Command.frees {command : Command} {now : Timestamp}
    (other : ∀ id employeeId, command ≠ .online (.accept id employeeId)) :
    FreesSlots (command.execute now) := by
  cases command with
  | inventory command =>
      cases command <;> (dsimp only [Command.execute, InventoryCommand.execute]; infer_instance)
  | cash command =>
      cases command <;> (dsimp only [Command.execute, CashCommand.execute]; infer_instance)
  | order command =>
      dsimp only [Command.execute]
      infer_instance
  | invoice command =>
      dsimp only [Command.execute]
      infer_instance
  | online command =>
      cases command with
      | accept id employeeId => exact (other id employeeId rfl).elim
      | receive input => exact FreesSlots.receive
      | reject id employeeId reason => exact FreesSlots.reject
      | cancelPublicRequest id => exact FreesSlots.cancelPublicRequest
      | collect id employeeId amountTendered => exact OffFloor.collect
      | cancelAccepted id employeeId reason => exact FreesSlots.cancelAcceptedRequest
      | markNoShow id employeeId => exact FreesSlots.cancelAcceptedRequest
  | payment command =>
      dsimp only [Command.execute]
      infer_instance
  | table command =>
      cases command <;> (dsimp only [Command.execute, TableCommand.execute]; infer_instance)
  | print command =>
      cases command <;> (dsimp only [Command.execute, PrintCommand.execute]; infer_instance)

theorem Database.SlotsFit.step {capacity : Nat} {before after : Database}
    (fits : before.SlotsFit capacity) (configured : before.SlotsTake capacity)
    (taken : Step before after) : after.SlotsFit capacity := by
  cases taken with
  | administer => exact fits
  | commit command now committed =>
      by_cases accepts : ∃ id employeeId, command = .online (.accept id employeeId)
      · obtain ⟨id, employeeId, rfl⟩ := accepts
        exact fits.accept configured committed
      · push Not at accepts
        have fewer := (Command.frees accepts).step committed
        exact fun pickupAt => (fewer pickupAt).trans (fits pickupAt)

theorem Database.SlotsFit.run {capacity : Nat} {database : Database}
    (run : Relation.ReflTransGen (ConfiguredStep capacity) Database.empty database) :
    database.SlotsTake capacity ∧ database.SlotsFit capacity := by
  induction run with
  | refl => exact ⟨nofun, fun pickupAt => Nat.zero_le capacity⟩
  | tail _ taken inductionHypothesis =>
      obtain ⟨configured, fits⟩ := inductionHypothesis
      exact ⟨taken.2, fits.step configured taken.1⟩

/-- In every state no pickup time has more accepted requests than the capacity.  Once an accepted
request is cancelled, a request for the same time is accepted if nothing but its slot refused it. -/
theorem Database.pickupSlots_fit {capacity : Nat} {database : Database}
    (run : Relation.ReflTransGen (ConfiguredStep capacity) Database.empty database) :
    (∀ pickupAt, database.sales.booked pickupAt ≤ capacity) ∧
    ∀ {cancelled waiting : OnlineOrderRequest} {pickupAt : Timestamp} {cancel : OnlineCommand}
      {cancelledAt now : Timestamp} {freed after : Database} {employeeId : Id},
      database.sales.requests.find? cancelled.id = some cancelled →
      cancelled.isBooked pickupAt = true → Cancels cancelled.id cancel →
      Commits (cancel.execute cancelledAt) database () freed →
      freed.catalog.pickupCapacity = some capacity →
      freed.sales.requests.find? waiting.id = some waiting → waiting.pickupAt = some pickupAt →
      isOpen now waiting = true → now < pickupAt →
      Commits (confirm waiting employeeId now) freed () after →
      Commits (OnlineOrders.accept waiting.id employeeId now) freed () after := by
  obtain ⟨-, fits⟩ := SlotsFit.run run
  refine ⟨fits, ?_⟩
  intro cancelled waiting pickupAt cancel cancelledAt now freed after employeeId known held
    cancels committed configured found scheduled opened inTime confirmed
  have released := cancels.booked committed known held
  have full := fits pickupAt
  refine commits_accept.mpr ⟨waiting, found, opened, fun wanted same => ?_, confirmed⟩
  obtain rfl : pickupAt = wanted := Option.some.inj (scheduled.symm.trans same)
  exact ⟨capacity, configured, inTime, by omega⟩

section Configuration

instance : Apart (fun database : Database => database.catalog.pickupCapacity) inventoryPart :=
  ⟨fun _ _ => rfl⟩
instance : Apart (fun database : Database => database.catalog.pickupCapacity) salesPart :=
  ⟨fun _ _ => rfl⟩
instance : Apart (fun database : Database => database.catalog.pickupCapacity) cashPart :=
  ⟨fun _ _ => rfl⟩
instance : Apart (fun database : Database => database.catalog.pickupCapacity) paymentPart :=
  ⟨fun _ _ => rfl⟩
instance : Apart (fun database : Database => database.catalog.pickupCapacity) printPart :=
  ⟨fun _ _ => rfl⟩
instance : Apart (fun database : Database => database.catalog.pickupCapacity) stationPart :=
  ⟨fun _ _ => rfl⟩
instance : Apart (fun database : Database => database.catalog.pickupCapacity) idPart :=
  ⟨fun _ _ => rfl⟩

/-- No command changes the configuration. -/
instance Command.keepsCapacity {command : Command} {now : Timestamp} :
    Keeps (fun database : Database => database.catalog.pickupCapacity) (command.execute now) := by
  cases command with
  | inventory command =>
      cases command <;> (dsimp only [Command.execute, InventoryCommand.execute]; infer_instance)
  | cash command =>
      cases command <;> (dsimp only [Command.execute, CashCommand.execute]; infer_instance)
  | order command =>
      cases command <;> (dsimp only [Command.execute, OrderCommand.execute]; infer_instance)
  | invoice command =>
      cases command <;> (dsimp only [Command.execute, InvoiceCommand.execute]; infer_instance)
  | online command =>
      cases command <;> (dsimp only [Command.execute, OnlineCommand.execute]; infer_instance)
  | payment command =>
      cases command <;> (dsimp only [Command.execute, PaymentCommand.execute]; infer_instance)
  | table command =>
      cases command <;> (dsimp only [Command.execute, TableCommand.execute]; infer_instance)
  | print command =>
      cases command <;> (dsimp only [Command.execute, PrintCommand.execute]; infer_instance)

theorem configured_performAll {capacity : Nat} {database : Database}
    (run : Relation.ReflTransGen (ConfiguredStep capacity) Database.empty database)
    (commands : List (Command × Timestamp)) :
    Relation.ReflTransGen (ConfiguredStep capacity) Database.empty
      (database.performAll commands) := by
  induction commands generalizing database with
  | nil => exact run
  | cons head tail inductionHypothesis =>
      apply inductionHypothesis
      change Relation.ReflTransGen _ _ (database.perform head.1 head.2)
      unfold Database.perform
      split
      · rename_i after committed
        refine run.tail ⟨.commit head.1 head.2 committed, ?_⟩
        have same : after.catalog.pickupCapacity = database.catalog.pickupCapacity :=
          Keeps.eq (fun database : Database => database.catalog.pickupCapacity) committed
        intro configured known
        rw [same] at known
        exact (SlotsFit.run run).1 configured known
      · exact run

end Configuration

/-- A kitchen without a printer, and one pickup at a time. -/
def Catalog.onePickup : Catalog :=
  { Catalog.kitchen with
    pickupCapacity := some 1
    kitchenStations := ⟨[{
      id := 0
      code := "BAR"
      name := "Bar"
      prepSlaSeconds := 300
      isActive := true
      deletedAt := none
      printDeviceId := none }], by decide⟩ }

/-- One cup at the given time. -/
def ReceiveOnlineOrderInput.sample : ReceiveOnlineOrderInput where
  pickupAt := some 9000000
  quotedSubtotal := 3500000
  expiresAt := 1000000
  items := [{
    menuItemId := 0
    quantity := 1
    note := none
    quotedUnitPrice := 3500000
    quotedOptions := []
    quantity_pos := Nat.one_pos }]

/-- Two requests for the same time, of which one is accepted. -/
def Database.slotTaken : Database := (Database.empty.administer .onePickup .empty).performAll [
  (.online (.receive .sample), 1), (.online (.receive .sample), 2), (.online (.accept 0 0), 3)]

theorem Database.slotTaken_run :
    Relation.ReflTransGen (ConfiguredStep 1) Database.empty Database.slotTaken := by
  apply configured_performAll
  refine Relation.ReflTransGen.single ⟨.administer _ _, ?_⟩
  intro configured known
  obtain rfl : 1 = configured := Option.some.inj known
  exact le_rfl

def Database.slotFreed : Database :=
  Database.slotTaken.perform (.online (.cancelAccepted 0 1 "Closed early.")) 4

theorem Database.pickupSlots_fit_slotTaken :
    Database.slotTaken.sales.booked 9000000 = 1 ∧
      (∀ pickupAt, Database.slotTaken.sales.booked pickupAt ≤ 1) ∧
      ∃ after, Commits (OnlineOrders.accept 1 0 5) Database.slotFreed () after := by
  have cancelled : Commits (Command.execute 4 (.online (.cancelAccepted 0 1 "Closed early.")))
      Database.slotTaken () Database.slotFreed := commits_perform (by decide +kernel)
  rw [Command.execute] at cancelled
  have taken : (Database.slotTaken.sales.requests.find? 0).any (·.isBooked 9000000) = true := by
    decide +kernel
  have waits : (Database.slotFreed.sales.requests.find? 1).any (fun request =>
      request.pickupAt = some 9000000 && isOpen 5 request &&
        (confirm request 0 5 Database.slotFreed).isOk) = true := by decide +kernel
  obtain ⟨accepted, known, held⟩ := (Option.any_eq_true _ _).mp taken
  obtain ⟨waiting, found, passed⟩ := (Option.any_eq_true _ _).mp waits
  simp only [Bool.and_eq_true, decide_eq_true_eq] at passed
  obtain ⟨⟨scheduled, opened⟩, confirmable⟩ := passed
  obtain ⟨after, confirmed⟩ : ∃ after, Commits (confirm waiting 0 5) Database.slotFreed () after := by
    unfold Commits
    cases answer : confirm waiting 0 5 Database.slotFreed with
    | ok value => exact ⟨value.2, rfl⟩
    | error failure =>
        rw [answer] at confirmable
        exact nomatch confirmable
  have first : accepted.id = 0 := Table.find?_key known
  have second : waiting.id = 1 := Table.find?_key found
  rw [← first] at known cancelled
  rw [← second] at found
  have fits := Database.pickupSlots_fit Database.slotTaken_run
  refine ⟨by decide +kernel, fits.1, after, ?_⟩
  rw [← second]
  exact fits.2 known held (.staff 1 "Closed early.") cancelled (by decide +kernel) found scheduled
    opened (by decide) confirmed

end CoffeeShop
