import CoffeeShop.Online.PickupSlots
import CoffeeShop.Sales.Remakes

/-!
The fulfilment queue: the filter of the query, the flags of its rows and the no-show action.
-/

namespace CoffeeShop

open Transaction SalesStore

namespace OnlineOrders

/-- The session that the relation `orderSession` leads to. -/
def sessionOf (sales : SalesStore) (request : OnlineOrderRequest) : Option OrderSession :=
  request.orderSessionId.bind sales.sessions.find?

/-- The items of the session, replacements included. -/
def itemsOf (sales : SalesStore) (session : OrderSession) : List OrderItem :=
  sales.items.select fun item => item.orderSessionId = session.id

/-- The items whose `replacementRemake` is null. -/
def ownItemsOf (sales : SalesStore) (session : OrderSession) : List OrderItem :=
  (itemsOf sales session).filter fun item => !sales.isReplacement item.id

/-- An item that keeps a session without a pickup time from being overdue.  A null `readyAt`
compares as neither greater nor less. -/
def delaysPickup (overdueBefore : Int) (item : OrderItem) : Bool :=
  item.serveStatus ≠ .cancelled &&
    (item.serveStatus ≠ .ready || item.readyAt.isNone ||
      (item.readyAt.any fun readyAt : Nat => overdueBefore < (readyAt : Int)) ||
      item.isPaid || item.invoiceId.isSome)

/-- The rows that `fulfillmentWhere` selects. -/
def fulfillmentWhere (overdueAsOf : Option Timestamp) (sales : SalesStore)
    (request : OnlineOrderRequest) : Bool :=
  request.status = .accepted &&
    (overdueAsOf.all fun now : Nat =>
      let overdueBefore : Int := (now : Int) - noShowGrace
      (request.pickupAt.any fun pickupAt : Nat => (pickupAt : Int) < overdueBefore) ||
        request.pickupAt.isNone && (sessionOf sales request).any fun session =>
          ((ownItemsOf sales session).any fun item => item.serveStatus = .ready) &&
            !(ownItemsOf sales session).any (delaysPickup overdueBefore)) &&
    (sessionOf sales request).any fun session =>
      (ownItemsOf sales session).any fun item => isUncollected item.serveStatus

/-- The items that `findFulfillment` lists with a request. -/
def listedItems (sales : SalesStore) (request : OnlineOrderRequest) : List OrderItem :=
  ((sessionOf sales request).map (ownItemsOf sales)).getD []

/-- The flag `isOverdue` of a row of `findFulfillment`. -/
def isOverdue (sales : SalesStore) (request : OnlineOrderRequest) (now : Timestamp) : Bool :=
  match request.pickupAt with
  | some pickupAt => decide ((pickupAt : Int) < now - noShowGrace)
  | none => isNoShowEligible none (listedItems sales request) now

/-- The flag `isNoShowEligible` of a row of `findFulfillment`. -/
def noShowFlag (sales : SalesStore) (request : OnlineOrderRequest) (now : Timestamp) : Bool :=
  isNoShowEligible request.pickupAt (listedItems sales request) now

/-- What `markNoShow` checks of the items of the session: nothing is paid, invoiced or served, and
the order is eligible. -/
def PassesNoShowChecks (request : OnlineOrderRequest) (items : List OrderItem) (now : Timestamp) :
    Prop :=
  (∀ item ∈ items, ¬(item.isPaid ∨ item.invoiceId.isSome ∨ item.serveStatus = .served)) ∧
    isNoShowEligible request.pickupAt items now = true

section Eligibility

variable {sales : SalesStore} {request : OnlineOrderRequest} {now : Timestamp}
variable {items : List OrderItem} {pickupAt : Option Timestamp}

/-- The item has been ready since the time, and is neither paid nor on an invoice. -/
def ReadySince (latest : Int) (item : OrderItem) : Prop :=
  item.serveStatus = .ready ∧ (∃ readyAt, item.readyAt = some readyAt ∧ (readyAt : Int) ≤ latest) ∧
    item.isPaid = false ∧ item.invoiceId = none

theorem foldl_max_le {times : List Nat} {start bound : Nat} :
    times.foldl max start ≤ bound ↔ start ≤ bound ∧ ∀ time ∈ times, time ≤ bound := by
  induction times generalizing start with
  | nil => simp
  | cons time rest inductionHypothesis =>
      rw [List.foldl_cons, inductionHypothesis, max_le_iff, and_assoc, List.forall_mem_cons]

/-- The maximum of the times is the last one: every live item has been ready for the grace. -/
theorem isNoShowEligible_iff : isNoShowEligible pickupAt items now = true ↔
    (∃ item ∈ items, item.serveStatus ≠ .cancelled) ∧
    (∀ item ∈ items, item.serveStatus ≠ .cancelled → ReadySince (now - noShowGrace) item) ∧
    pickupAt.getD 0 + noShowGrace ≤ now := by
  simp only [isNoShowEligible, Bool.and_eq_true, decide_eq_true_eq, List.all_eq_true,
    List.mem_filter, Bool.not_eq_true', List.isEmpty_eq_false_iff_exists_mem, and_imp]
  constructor
  · rintro ⟨⟨some_, ready⟩, late⟩
    have bounds := foldl_max_le.mp (le_max_right _ _ |>.trans (Nat.le_sub_of_add_le late))
    refine ⟨some_, fun item member live => ?_, ?_⟩
    · obtain ⟨⟨⟨status, timed⟩, unpaid⟩, unbilled⟩ := ready item member live
      obtain ⟨readyAt, given⟩ := Option.isSome_iff_exists.mp timed
      have early := bounds.2 readyAt (List.mem_filterMap.mpr
        ⟨item, List.mem_filter.mpr ⟨member, decide_eq_true live⟩, given⟩)
      exact ⟨status, ⟨readyAt, given, by lia⟩, unpaid, Option.isNone_iff_eq_none.mp unbilled⟩
    · have first := le_max_left (pickupAt.getD 0)
        (((items.filter fun item => item.serveStatus ≠ .cancelled).filterMap (·.readyAt)).foldl max 0)
      lia
  · rintro ⟨some_, ready, late⟩
    refine ⟨⟨some_, fun item member live => ?_⟩, ?_⟩
    · obtain ⟨status, ⟨readyAt, given, -⟩, unpaid, unbilled⟩ := ready item member live
      simp [status, given, unpaid, unbilled]
    · have last : ((items.filter fun item => item.serveStatus ≠ .cancelled).filterMap
          (·.readyAt)).foldl max 0 ≤ now - noShowGrace := by
        refine foldl_max_le.mpr ⟨Nat.zero_le _, fun time isTime => ?_⟩
        obtain ⟨item, active, given⟩ := List.mem_filterMap.mp isTime
        obtain ⟨member, live⟩ := List.mem_filter.mp active
        obtain ⟨-, ⟨readyAt, same, early⟩, -⟩ := ready item member (of_decide_eq_true live)
        rw [given] at same
        cases same
        lia
      have both := max_le (Nat.le_sub_of_add_le late) last
      lia

/-- An item that does not delay the pickup is cancelled or has been ready for long. -/
theorem delaysPickup_eq_false {item : OrderItem} {overdueBefore : Int} :
    delaysPickup overdueBefore item = false ↔
      (item.serveStatus ≠ .cancelled → ReadySince overdueBefore item) := by
  unfold delaysPickup ReadySince
  by_cases live : item.serveStatus = .cancelled
  · simp [live]
  · cases given : item.readyAt <;> simp [live, and_assoc]

end Eligibility

section Queue

variable {sales : SalesStore} {request : OnlineOrderRequest} {now : Timestamp}

/-- The filter for overdue requests selects those of the queue whose flag is set. -/
theorem fulfillmentWhere_overdue_iff : fulfillmentWhere (some now) sales request = true ↔
    fulfillmentWhere none sales request = true ∧ isOverdue sales request now = true := by
  unfold fulfillmentWhere isOverdue listedItems
  cases located : sessionOf sales request with
  | none => simp
  | some session =>
      cases scheduled : request.pickupAt with
      | some pickupAt =>
          simp only [Option.all_some, Option.all_none, Option.any_some, Option.isNone_some,
            Bool.false_and, Bool.or_false, Bool.and_eq_true, decide_eq_true_eq, Bool.and_true]
          tauto
      | none =>
          simp only [Option.all_some, Option.all_none, Option.any_some, Option.any_none,
            Option.isNone_none, Bool.true_and, Bool.false_or, Bool.and_eq_true, decide_eq_true_eq,
            Bool.and_true, Option.map_some, Option.getD_some, isNoShowEligible_iff,
            Bool.not_eq_true', List.any_eq_true, List.any_eq_false, Bool.not_eq_true,
            delaysPickup_eq_false, Option.getD_none, Nat.zero_add]
          constructor
          · rintro ⟨⟨accepted, ⟨item, member, ready⟩, delayed⟩, open_⟩
            have live : item.serveStatus ≠ .cancelled := by
              rw [ready]
              nofun
            obtain ⟨-, ⟨readyAt, -, early⟩, -⟩ := delayed item member live
            exact ⟨⟨accepted, open_⟩, ⟨item, member, live⟩, delayed, by lia⟩
          · rintro ⟨⟨accepted, open_⟩, ⟨item, member, live⟩, ready, -⟩
            exact ⟨⟨accepted, ⟨item, member, (ready item member live).1⟩, ready⟩, open_⟩

end Queue

section NoShow

variable {database : Database} {request : OnlineOrderRequest} {session : OrderSession}
variable {now : Timestamp}

/-- A replacement beside the items of a queue comes with the served item that it replaces. -/
theorem exists_served {sales : SalesStore} (agree : RemakesAgree sales) {item : OrderItem}
    (member : item ∈ itemsOf sales session) (replaces : sales.isReplacement item.id = true) :
    ∃ original ∈ ownItemsOf sales session, original.serveStatus = .served := by
  obtain ⟨inItems, own⟩ := Table.mem_select.mp member
  obtain ⟨remake, found⟩ := Option.isSome_iff_exists.mp replaces
  obtain ⟨recorded, replaced⟩ := Table.mem_of_first? found
  obtain ⟨original, replacement, agrees⟩ := agree remake recorded
  obtain rfl : replacement = item := Table.eq_of_key_eq agrees.replacement_mem inItems
    (agrees.replacement_id.trans (of_decide_eq_true replaced))
  refine ⟨original, List.mem_filter.mpr ⟨Table.mem_select.mpr ⟨agrees.original_mem, ?_⟩, ?_⟩,
    agrees.served⟩
  · rw [← agrees.session]
    exact own
  · rw [Bool.not_eq_true', SalesStore.isReplacement, Option.isSome_eq_false_iff,
      Option.isNone_iff_eq_none, Table.first?_eq_none]
    intro other isOther
    simpa using agrees.first other isOther

/-- Where nothing is served there is no replacement, so the flag and the action see one list. -/
theorem ownItemsOf_eq {sales : SalesStore} (agree : RemakesAgree sales)
    (unserved : ∀ item ∈ ownItemsOf sales session, item.serveStatus ≠ .served) :
    ownItemsOf sales session = itemsOf sales session := by
  refine List.filter_eq_self.mpr fun item member => ?_
  by_contra replaces
  rw [Bool.not_eq_true', Bool.not_eq_false] at replaces
  obtain ⟨original, isOriginal, served⟩ := exists_served agree member replaces
  exact unserved original isOriginal served

theorem unserved_of_eligible {pickupAt : Option Timestamp} {items : List OrderItem}
    (eligible : isNoShowEligible pickupAt items now = true) :
    ∀ item ∈ items, item.serveStatus ≠ .served := by
  intro item member served
  obtain ⟨-, ready, -⟩ := isNoShowEligible_iff.mp eligible
  obtain ⟨status, -⟩ := ready item member (by simp [served])
  rw [served] at status
  cases status

/-- A cancelled item that replaces no other is neither paid nor on an invoice. -/
theorem unpaid_of_cancelled (reachable : Reachable database) {item : OrderItem}
    (inItems : item ∈ database.sales.items) (cancelled : item.serveStatus = .cancelled)
    (first : database.sales.isReplacement item.id = false) :
    item.isPaid = false ∧ item.invoiceId = none := by
  have free := reachable.itemsFit.unbilled item inItems cancelled
  refine ⟨?_, free⟩
  by_contra paid
  rw [Bool.not_eq_false] at paid
  obtain ⟨remake, recorded, replaced⟩ := reachable.billsAgree.unbilled item inItems free paid
  rw [SalesStore.isReplacement, Option.isSome_eq_false_iff, Option.isNone_iff_eq_none,
    Table.first?_eq_none] at first
  have differs := first remake recorded
  simp [replaced] at differs

theorem passesNoShowChecks_of_eligible (reachable : Reachable database)
    (own : ownItemsOf database.sales session = itemsOf database.sales session)
    (eligible : isNoShowEligible request.pickupAt (itemsOf database.sales session) now = true) :
    PassesNoShowChecks request (itemsOf database.sales session) now := by
  refine ⟨fun item member => ?_, eligible⟩
  obtain ⟨-, ready, -⟩ := isNoShowEligible_iff.mp eligible
  by_cases live : item.serveStatus = .cancelled
  · have listed := own ▸ member
    have first : database.sales.isReplacement item.id = false := by
      simpa using (List.mem_filter.mp listed).2
    obtain ⟨unpaid, free⟩ :=
      unpaid_of_cancelled reachable (Table.mem_select.mp member).1 live first
    simp [unpaid, free, live]
  · obtain ⟨status, -, unpaid, free⟩ := ready item member live
    simp [unpaid, free, status]

/-- The filter and the flag agree for any items, and the flag and the action in every reachable
state. -/
theorem overdue_agree :
    (∀ (sales : SalesStore) (request : OnlineOrderRequest) (now : Timestamp),
      fulfillmentWhere (some now) sales request = true ↔
        fulfillmentWhere none sales request = true ∧ isOverdue sales request now = true) ∧
    ∀ (database : Database), Reachable database → ∀ (request : OnlineOrderRequest)
      (session : OrderSession) (now : Timestamp), request.status = .accepted →
      sessionOf database.sales request = some session → session.sessionStatus = .active →
      session.tableId = none →
      (noShowFlag database.sales request now = true ↔
        isNoShowEligible request.pickupAt (itemsOf database.sales session) now = true) ∧
      (noShowFlag database.sales request now = true ↔
        PassesNoShowChecks request (itemsOf database.sales session) now) := by
  refine ⟨fun sales request now => fulfillmentWhere_overdue_iff, ?_⟩
  intro database reachable request session now _ located _ _
  have agree := reachable.remakesAgree
  have flag : noShowFlag database.sales request now =
      isNoShowEligible request.pickupAt (ownItemsOf database.sales session) now := by
    rw [noShowFlag, listedItems, located]
    rfl
  have same : noShowFlag database.sales request now = true ↔
      isNoShowEligible request.pickupAt (itemsOf database.sales session) now = true := by
    rw [flag]
    constructor
    · intro eligible
      rwa [ownItemsOf_eq agree (unserved_of_eligible eligible)] at eligible
    · intro eligible
      have unserved := unserved_of_eligible eligible
      rwa [ownItemsOf_eq agree fun item member => unserved item (List.mem_filter.mp member).1]
  refine ⟨same, fun set => ?_, fun passes => same.mpr passes.2⟩
  have eligible := same.mp set
  have unserved := unserved_of_eligible eligible
  exact passesNoShowChecks_of_eligible reachable
    (ownItemsOf_eq agree fun item member => unserved item (List.mem_filter.mp member).1) eligible

/-- One accepted request whose cup is ready. -/
def prepared : Database := (Database.empty.administer .onePickup .empty).performAll [
  (.online (.receive .sample), 1), (.online (.accept 0 0), 2),
  (.order (.updateItemStatus 2 0 .cooking), 8800000),
  (.order (.updateItemStatus 2 0 .ready), 8900000)]

theorem overdue_agree_prepared : ∃ request session,
    sessionOf prepared.sales request = some session ∧
    PassesNoShowChecks request (itemsOf prepared.sales session) 9900000 := by
  have reachable : Reachable prepared :=
    (Reachable.administer .refl .onePickup .empty).performAll _
  have flagged : (prepared.sales.requests.find? 0).any (fun request =>
      request.status = .accepted && ((sessionOf prepared.sales request).any fun session =>
        session.sessionStatus = .active && session.tableId.isNone) &&
        noShowFlag prepared.sales request 9900000) = true := by decide +kernel
  obtain ⟨request, -, holds⟩ := (Option.any_eq_true _ _).mp flagged
  simp only [Bool.and_eq_true, decide_eq_true_eq] at holds
  obtain ⟨⟨accepted, opened⟩, set⟩ := holds
  obtain ⟨session, located, state⟩ := (Option.any_eq_true _ _).mp opened
  simp only [Bool.and_eq_true, decide_eq_true_eq, Option.isNone_iff_eq_none] at state
  exact ⟨request, session, located, (overdue_agree.2 prepared reachable request session 9900000
    accepted located state.1 state.2).2.mp set⟩

end NoShow

end OnlineOrders

end CoffeeShop
