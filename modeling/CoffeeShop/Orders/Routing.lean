import CoffeeShop.Execution
import CoffeeShop.Footprints

/-!
Where the kitchen tickets of a batch of order items put them.
-/

namespace CoffeeShop

open Transaction SalesStore

namespace KitchenRouting

variable {catalog : Catalog} {orderSessionId : Id} {items : List OrderItem}
variable {pickupAt : Option Timestamp} {now : Timestamp} {before after : Database}

/-- The ticket of a station for a batch that is created now. -/
structure TicketFor (orderSessionId : Id) (pickupAt : Option Timestamp) (now : Timestamp)
    (station : KitchenStation) (ticket : KitchenTicket) : Prop where
  stationId : ticket.stationId = station.id
  orderSessionId : ticket.orderSessionId = orderSessionId
  createdAt : ticket.createdAt = now
  dueAt : ticket.dueAt = pickupAt.getD (now + station.prepSlaSeconds * 1000)
  availableAt : ticket.availableAt =
    some (max now (ticket.dueAt - station.prepSlaSeconds * 1000))

/-- The items that the station prepares. -/
def routedTo (catalog : Catalog) (items : List OrderItem) (stationId : Id) : List OrderItem :=
  items.filter fun item => (stationOf catalog item).any (·.id = stationId)

def ticketItemsOf (catalog : Catalog) (items : List OrderItem) (ticket : KitchenTicket) :
    List KitchenTicketItem :=
  (routedTo catalog items ticket.stationId).map (ticketItem catalog ticket.id)

section Tickets

/-- The rows that one ticket adds. -/
theorem commits_createTicket {station : KitchenStation} {result : Unit}
    (committed : Commits (createTicket catalog orderSessionId items pickupAt now station) before
      result after) :
    ∃ ticket, TicketFor orderSessionId pickupAt now station ticket ∧
      after.sales.tickets.rows = before.sales.tickets.rows ++ [ticket] ∧
      after.sales.ticketItems.rows =
        before.sales.ticketItems.rows ++ ticketItemsOf catalog items ticket := by
  simp only [createTicket, commits_bind, commits_salesTx, commits_create, commits_createMany,
    commits_get] at committed
  obtain ⟨id, _, drawn, _, _, ⟨_, ⟨_, _, ⟨tickets, added, rfl⟩, ticketItems, inserted, rfl⟩, rfl⟩,
    _, _, ⟨rfl, rfl⟩, printed⟩ := committed
  obtain ⟨-, rfl⟩ := commits_freshId.mp drawn
  have kept := Keeps.eq Database.sales printed
  rw [kept]
  exact ⟨_, ⟨rfl, rfl, rfl, rfl, rfl⟩, (Table.rows_insert? added).1, Table.rows_insertAll? inserted⟩

/-- The rows that the tickets of all stations add, one ticket for each. -/
theorem commits_forEach_createTicket {stations : List KitchenStation} {result : Unit}
    (committed : Commits (forEach stations (createTicket catalog orderSessionId items pickupAt now))
      before result after) :
    ∃ tickets, List.Forall₂ (TicketFor orderSessionId pickupAt now) stations tickets ∧
      after.sales.tickets.rows = before.sales.tickets.rows ++ tickets ∧
      after.sales.ticketItems.rows =
        before.sales.ticketItems.rows ++ tickets.flatMap (ticketItemsOf catalog items) := by
  induction stations generalizing before with
  | nil =>
      rw [commits_forEach_nil.mp committed]
      exact ⟨[], .nil, by simp, by simp⟩
  | cons station stations inductionHypothesis =>
      obtain ⟨middle, head, tail⟩ := commits_forEach_cons.mp committed
      obtain ⟨ticket, isFor, ticketRows, itemRows⟩ := commits_createTicket head
      obtain ⟨tickets, areFor, otherTickets, otherItems⟩ := inductionHypothesis tail
      refine ⟨ticket :: tickets, .cons isFor areFor, ?_, ?_⟩
      · rw [otherTickets, ticketRows, List.append_assoc, List.singleton_append]
      · rw [otherItems, itemRows, List.append_assoc, List.flatMap_cons]

end Tickets

section Stations

/-- By induction on the length, as what is left of the tail is shorter. -/
theorem nodup_eraseDups : ∀ ids : List Id, ids.eraseDups.Nodup
  | [] => List.nodup_nil
  | id :: rest => by
      rw [List.eraseDups_cons, List.nodup_cons]
      refine ⟨fun member => ?_, nodup_eraseDups _⟩
      have left := (List.mem_filter.mp (List.mem_eraseDups.mp member)).2
      simp at left
  termination_by ids => ids.length
  decreasing_by
    exact Nat.lt_succ_of_le (List.length_filter_le _ rest)

theorem mem_stationsOf {stationId : Id} : stationId ∈ stationsOf catalog items ↔
    ∃ item ∈ items, ∃ station, stationOf catalog item = some station ∧ station.id = stationId := by
  simp only [stationsOf, List.mem_eraseDups, List.mem_map, List.mem_filterMap]
  constructor
  · rintro ⟨station, ⟨item, member, found⟩, equal⟩
    exact ⟨item, member, station, found, equal⟩
  · rintro ⟨item, member, station, found, equal⟩
    exact ⟨station, ⟨item, member, found⟩, equal⟩

theorem find?_of_stationOf {item : OrderItem} {station : KitchenStation}
    (found : stationOf catalog item = some station) :
    catalog.kitchenStations.find? station.id = some station := by
  simp only [stationOf, Option.bind_eq_bind, Option.bind_eq_some_iff] at found
  obtain ⟨menuItem, -, stationId, -, located⟩ := found
  rw [Table.find?_key located]
  exact located

/-- Each station of the batch once. -/
theorem stations_ids : ((stationsOf catalog items).filterMap catalog.kitchenStations.find?).map
    (·.id) = stationsOf catalog items := by
  have known : ∀ id ∈ stationsOf catalog items, ∃ station,
      catalog.kitchenStations.find? id = some station ∧ station.id = id := by
    intro id member
    obtain ⟨item, -, station, found, rfl⟩ := mem_stationsOf.mp member
    exact ⟨station, find?_of_stationOf found, rfl⟩
  generalize stationsOf catalog items = ids at known ⊢
  induction ids with
  | nil => rfl
  | cons id rest inductionHypothesis =>
      rw [List.forall_mem_cons] at known
      obtain ⟨⟨station, found, equal⟩, others⟩ := known
      rw [List.filterMap_cons, found, List.map_cons, inductionHypothesis others, equal]

theorem stationIds_eq {stations : List KitchenStation} {tickets : List KitchenTicket}
    (areFor : List.Forall₂ (TicketFor orderSessionId pickupAt now) stations tickets) :
    tickets.map (·.stationId) = stations.map (·.id) := by
  induction areFor with
  | nil => rfl
  | cons isFor _ inductionHypothesis =>
      rw [List.map_cons, List.map_cons, inductionHypothesis, isFor.stationId]

/-- Every ticket is for a station. -/
theorem exists_ticketFor {stations : List KitchenStation} {tickets : List KitchenTicket}
    (areFor : List.Forall₂ (TicketFor orderSessionId pickupAt now) stations tickets)
    {ticket : KitchenTicket} (member : ticket ∈ tickets) :
    ∃ station ∈ stations, TicketFor orderSessionId pickupAt now station ticket := by
  induction areFor with
  | nil => cases member
  | cons isFor _ inductionHypothesis =>
      obtain rfl | later := List.mem_cons.mp member
      · exact ⟨_, List.mem_cons_self, isFor⟩
      · obtain ⟨station, isStation, found⟩ := inductionHypothesis later
        exact ⟨station, List.mem_cons_of_mem _ isStation, found⟩

/-- A ticket is available from its creation on, and due when or after it is. -/
theorem TicketFor.availableAt_le {station : KitchenStation} {ticket : KitchenTicket}
    (isFor : TicketFor orderSessionId pickupAt now station ticket)
    (later : pickupAt.all (fun pickupAt => now < pickupAt) = true) :
    ∃ availableAt, ticket.availableAt = some availableAt ∧ ticket.createdAt ≤ availableAt ∧
      availableAt ≤ ticket.dueAt := by
  refine ⟨_, isFor.availableAt, ?_, ?_⟩
  · rw [isFor.createdAt]
    exact le_max_left _ _
  · have due : now ≤ ticket.dueAt := by
      rw [isFor.dueAt]
      cases pickupAt with
      | none => exact Nat.le_add_right _ _
      | some pickupAt => exact (of_decide_eq_true later).le
    exact max_le due (Nat.sub_le _ _)

end Stations

section Batches

theorem mem_ticketItemsOf {ticket : KitchenTicket} {row : KitchenTicketItem} :
    row ∈ ticketItemsOf catalog items ticket ↔ ∃ item ∈ items,
      (∃ station, stationOf catalog item = some station ∧ station.id = ticket.stationId) ∧
      ticketItem catalog ticket.id item = row := by
  simp only [ticketItemsOf, routedTo, List.mem_map, List.mem_filter, Option.any_eq_true,
    decide_eq_true_eq, and_assoc]

/-- Every routed item of a batch is in one ticket of its station, and nothing else is; a batch with
a pickup time is routed as a whole. -/
theorem createTickets_routes {result : Unit}
    (committed : Commits (createTickets orderSessionId items pickupAt now) before result after) :
    ∃ tickets rows, after.sales.tickets.rows = before.sales.tickets.rows ++ tickets ∧
      after.sales.ticketItems.rows = before.sales.ticketItems.rows ++ rows ∧
      (∀ item ∈ items, ∀ station, stationOf before.catalog item = some station →
        ∃ ticket ∈ tickets, ticket.stationId = station.id ∧
          (∀ other ∈ tickets, other.stationId = station.id → other = ticket) ∧
          ∃ row ∈ rows, row.orderItemId = item.id ∧ row.ticketId = ticket.id ∧
            row.quantity = item.quantity ∧
            ∀ other ∈ after.sales.ticketItems, other.orderItemId = item.id → other = row) ∧
      (∀ row ∈ rows, ∃ item ∈ items, row.orderItemId = item.id ∧
        (stationOf before.catalog item).isSome = true) ∧
      (∀ ticket ∈ tickets, ∃ row ∈ rows, row.ticketId = ticket.id) ∧
      (∀ ticket ∈ tickets, ticket.createdAt = now ∧ ∃ availableAt,
        ticket.availableAt = some availableAt ∧ ticket.createdAt ≤ availableAt ∧
          availableAt ≤ ticket.dueAt) ∧
      (pickupAt.isSome = true →
        ∀ item ∈ items, (stationOf before.catalog item).isSome = true) := by
  simp only [createTickets, commits_bind, commits_require, commits_readCatalog] at committed
  obtain ⟨_, _, ⟨later, rfl⟩, _, _, ⟨rfl, rfl⟩, _, start, ⟨routed, rfl⟩, ran⟩ := committed
  obtain ⟨tickets, areFor, ticketRows, itemRows⟩ := commits_forEach_createTicket ran
  have ids : tickets.map (·.stationId) = stationsOf start.catalog items := by
    rw [stationIds_eq areFor, stations_ids]
  have once : (tickets.map (·.stationId)).Nodup := by
    rw [ids]
    exact nodup_eraseDups _
  refine ⟨tickets, _, ticketRows, itemRows, fun item member station found => ?_, fun row member => ?_,
    fun ticket member => ?_, fun ticket member => ?_, fun scheduled item member => ?_⟩
  · have isStation : station.id ∈ tickets.map (·.stationId) := by
      rw [ids]
      exact mem_stationsOf.mpr ⟨item, member, station, found, rfl⟩
    obtain ⟨ticket, isTicket, same⟩ := List.mem_map.mp isStation
    have isRow : ticketItem start.catalog ticket.id item ∈
        tickets.flatMap (ticketItemsOf start.catalog items) :=
      List.mem_flatMap.mpr ⟨ticket, isTicket, mem_ticketItemsOf.mpr
        ⟨item, member, ⟨station, found, same.symm⟩, rfl⟩⟩
    refine ⟨ticket, isTicket, same, fun other isOther equal => ?_, _, isRow, rfl, rfl, rfl,
      fun other isOther equal => ?_⟩
    · exact List.inj_on_of_nodup_map once isOther isTicket (equal.trans same.symm)
    · have stored : ticketItem start.catalog ticket.id item ∈ after.sales.ticketItems := by
        rw [Table.mem_def, itemRows]
        exact List.mem_append_right _ isRow
      exact Table.eq_of_key_eq isOther stored equal
  · obtain ⟨ticket, -, isRow⟩ := List.mem_flatMap.mp member
    obtain ⟨item, isItem, ⟨station, found, -⟩, rfl⟩ := mem_ticketItemsOf.mp isRow
    exact ⟨item, isItem, rfl, by rw [found]; rfl⟩
  · have isStation : ticket.stationId ∈ stationsOf start.catalog items := by
      rw [← ids]
      exact List.mem_map_of_mem member
    obtain ⟨item, isItem, station, found, same⟩ := mem_stationsOf.mp isStation
    exact ⟨_, List.mem_flatMap.mpr ⟨ticket, member, mem_ticketItemsOf.mpr
      ⟨item, isItem, ⟨station, found, same⟩, rfl⟩⟩, rfl⟩
  · obtain ⟨station, -, isFor⟩ := exists_ticketFor areFor member
    exact ⟨isFor.createdAt, isFor.availableAt_le later⟩
  · obtain unscheduled | all := routed
    · rw [Option.isNone_iff_eq_none.mp unscheduled] at scheduled
      cases scheduled
    · exact all item member

/-- Two cups of the sample coffee. -/
def cups (id : Id) : OrderItem where
  id
  quantity := 2
  priceAtTime := 3500000
  note := none
  selectedOptions := []
  recipeSnapshottedAt := some 5
  serveStatus := .pending
  isPaid := false
  readyAt := none
  createdAt := 5
  orderSessionId := 3
  menuItemId := 0
  invoiceId := none

/-- Both lines are in the one ticket of the bar, which is for the pickup. -/
theorem createTickets_routes_cups : ∃ after,
    Commits (createTickets 3 [cups 100, cups 101] (some 400000) 20) Database.jammed () after ∧
      ∃ ticket ∈ after.sales.tickets, ticket.stationId = 0 ∧
        ∃ row ∈ after.sales.ticketItems, row.orderItemId = 101 ∧ row.quantity = 2 := by
  have ran : ((createTickets 3 [cups 100, cups 101] (some 400000) 20)
      Database.jammed).toOption.any (fun outcome => outcome.2.sales.tickets.rows.length = 2) =
        true := by decide +kernel
  obtain ⟨⟨⟩, after, committed, -⟩ := exists_commits_of_any ran
  have station : (stationOf Database.jammed.catalog (cups 101)).any (fun station => station.id = 0) =
      true := by decide +kernel
  obtain ⟨station, found, same⟩ := (Option.any_eq_true _ _).mp station
  obtain ⟨tickets, rows, ticketRows, itemRows, routed, -⟩ := createTickets_routes committed
  obtain ⟨ticket, isTicket, isStation, -, row, isRow, isItem, -, quantity, -⟩ :=
    routed (cups 101) (by simp) station found
  refine ⟨after, committed, ticket, ?_, isStation.trans (of_decide_eq_true same), row, ?_, isItem,
    quantity⟩
  · rw [Table.mem_def, ticketRows]
    exact List.mem_append_right _ isTicket
  · rw [Table.mem_def, itemRows]
    exact List.mem_append_right _ isRow

end Batches

end KitchenRouting

end CoffeeShop
