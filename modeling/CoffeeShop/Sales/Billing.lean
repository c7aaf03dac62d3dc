import CoffeeShop.Sales.Closure

/-!
Invoices and the order items on them agree.
-/

namespace CoffeeShop

open Transaction

/-- The invoice of the item, of the same session, is paid exactly if the item is. -/
def OrderItem.IsOn (item : OrderItem) (invoice : Invoice) : Prop :=
  invoice.paymentStatus ≠ .voided ∧ invoice.orderSessionId = item.orderSessionId ∧
    (item.isPaid = true ↔ invoice.paymentStatus.isSettled = true)

def OrderItem.refersTo (invoiceId : Id) (item : OrderItem) : Bool :=
  item.invoiceId = some invoiceId

/-- What is billed is what the invoices say, and only a replacement is paid without one. -/
structure BillsAgree (sales : SalesStore) : Prop where
  prices : ∀ item ∈ sales.items, 0 ≤ item.priceAtTime
  billed : ∀ item ∈ sales.items, ∀ id, item.invoiceId = some id →
    ∃ invoice, sales.invoices.find? id = some invoice ∧ item.IsOn invoice
  unbilled : ∀ item ∈ sales.items, item.invoiceId = none → item.isPaid = true →
    ∃ remake ∈ sales.remakes, remake.replacementItemId = item.id
  total : ∀ invoice ∈ sales.invoices, invoice.paymentStatus ≠ .voided →
    invoice.subTotal = sales.items.sumWhere (OrderItem.refersTo invoice.id) OrderItem.lineTotal

/-- The change leaves the bill alone; an item without an invoice may move or be reduced. -/
structure OrderItem.BillKept (before after : OrderItem) : Prop where
  id : after.id = before.id
  priceAtTime : after.priceAtTime = before.priceAtTime
  isPaid : after.isPaid = before.isPaid
  invoiceId : after.invoiceId = before.invoiceId
  onBill : before.invoiceId ≠ none →
    after.orderSessionId = before.orderSessionId ∧ after.quantity = before.quantity

namespace BillsAgree

variable {sales after : SalesStore}

theorem empty : BillsAgree SalesStore.empty where
  prices _ membership := (Table.not_mem_empty membership).elim
  billed _ membership := (Table.not_mem_empty membership).elim
  unbilled _ membership := (Table.not_mem_empty membership).elim
  total _ membership := (Table.not_mem_empty membership).elim

theorem congr (agree : BillsAgree sales) (items : after.items = sales.items)
    (invoices : after.invoices = sales.invoices) (remakes : after.remakes = sales.remakes) :
    BillsAgree after := by
  constructor
  · rw [items]
    exact agree.prices
  · rw [items, invoices]
    exact agree.billed
  · rw [items, remakes]
    exact agree.unbilled
  · rw [items, invoices]
    exact agree.total

theorem itemsKept {condition : OrderItem → Bool} {change : OrderItem → OrderItem}
    {keeps : ∀ row, (change row).id = row.id} (agree : BillsAgree sales)
    (kept : ∀ item ∈ sales.items, condition item = true → item.BillKept (change item)) :
    BillsAgree { sales with items := sales.items.update condition change keeps } where
  prices item membership := by
    simp only [Table.mem_update_iff] at membership
    rcases membership with ⟨old, inStore, holds, rfl⟩ | ⟨inStore, -⟩
    · rw [(kept old inStore holds).priceAtTime]
      exact agree.prices old inStore
    · exact agree.prices item inStore
  billed item membership id same := by
    simp only [Table.mem_update_iff] at membership
    rcases membership with ⟨old, inStore, holds, rfl⟩ | ⟨inStore, -⟩
    · have unchanged := kept old inStore holds
      rw [unchanged.invoiceId] at same
      obtain ⟨invoice, found, live, session, paid⟩ := agree.billed old inStore id same
      obtain ⟨stays, -⟩ := unchanged.onBill (by simp [same])
      refine ⟨invoice, found, live, session.trans stays.symm, ?_⟩
      rw [unchanged.isPaid]
      exact paid
    · exact agree.billed item inStore id same
  unbilled item membership free paid := by
    simp only [Table.mem_update_iff] at membership
    rcases membership with ⟨old, inStore, holds, rfl⟩ | ⟨inStore, -⟩
    · have unchanged := kept old inStore holds
      rw [unchanged.invoiceId] at free
      rw [unchanged.isPaid] at paid
      rw [unchanged.id]
      exact agree.unbilled old inStore free paid
    · exact agree.unbilled item inStore free paid
  total invoice membership live := by
    rw [agree.total invoice membership live]
    refine (Table.sumWhere_update keeps (fun item inStore holds => ?_) fun _ _ _ => rfl).symm
    have unchanged := kept item inStore holds
    unfold OrderItem.refersTo
    rw [unchanged.invoiceId]
    by_cases own : item.invoiceId = some invoice.id
    · obtain ⟨-, quantity⟩ := unchanged.onBill (by simp [own])
      simp [own, OrderItem.lineTotal, unchanged.priceAtTime, quantity]
    · simp [own]

theorem itemsInserted {rows : List OrderItem} {items : Table OrderItem.id}
    (agree : BillsAgree sales) (remakes : Table OrderRemake.originalItemId)
    (inserted : sales.items.insertAll? rows = some items)
    (priced : ∀ row ∈ rows, 0 ≤ row.priceAtTime) (free : ∀ row ∈ rows, row.invoiceId = none)
    (grows : ∀ remake ∈ sales.remakes, remake ∈ remakes)
    (replaces : ∀ row ∈ rows, row.isPaid = true →
      ∃ remake ∈ remakes, remake.replacementItemId = row.id) :
    BillsAgree { sales with items, remakes } where
  prices item membership := by
    rcases (Table.mem_insertAll? inserted).mp membership with old | fresh
    · exact agree.prices item old
    · exact priced item fresh
  billed item membership id same := by
    rcases (Table.mem_insertAll? inserted).mp membership with old | fresh
    · exact agree.billed item old id same
    · rw [free item fresh] at same
      cases same
  unbilled item membership none paid := by
    rcases (Table.mem_insertAll? inserted).mp membership with old | fresh
    · obtain ⟨remake, inRemakes, replaced⟩ := agree.unbilled item old none paid
      exact ⟨remake, grows remake inRemakes, replaced⟩
    · exact replaces item fresh paid
  total invoice membership live := by
    rw [agree.total invoice membership live]
    refine (Table.sumWhere_insertAll? inserted fun row fresh => ?_).symm
    simp [OrderItem.refersTo, free row fresh]

/-- A change of invoices that neither voids nor settles. -/
theorem invoicesChanged {condition : Invoice → Bool} {change : Invoice → Invoice}
    {keeps : ∀ row, (change row).id = row.id} (agree : BillsAgree sales)
    (same : ∀ row ∈ sales.invoices, condition row = true → row.Agrees (change row) ∧
      ((change row).paymentStatus = .voided ↔ row.paymentStatus = .voided) ∧
      (change row).paymentStatus.isSettled = row.paymentStatus.isSettled) :
    BillsAgree { sales with invoices := sales.invoices.update condition change keeps } where
  prices := agree.prices
  billed item membership id own := by
    obtain ⟨invoice, found, live, session, paid⟩ := agree.billed item membership id own
    rw [Table.find?_update, found, Option.map_some]
    refine ⟨_, rfl, ?_⟩
    split
    · next holds =>
        obtain ⟨agrees, void, settled⟩ := same invoice (Table.mem_of_find? found) holds
        refine ⟨fun voided => live (void.mp voided), agrees.orderSessionId.trans session, ?_⟩
        rw [settled]
        exact paid
    · exact ⟨live, session, paid⟩
  unbilled := agree.unbilled
  total invoice membership live := by
    simp only [Table.mem_update_iff] at membership
    rcases membership with ⟨old, inStore, holds, rfl⟩ | ⟨inStore, -⟩
    · obtain ⟨agrees, void, -⟩ := same old inStore holds
      rw [agrees.subTotal, agrees.id]
      exact agree.total old inStore fun voided => live (void.mpr voided)
    · exact agree.total invoice inStore live

theorem invoiceIssued {invoice : Invoice} {invoices : Table Invoice.id} {links : OrderItem → Bool}
    (agree : BillsAgree sales)
    (status : invoice.paymentStatus = .unpaid ∨ invoice.paymentStatus = .paid)
    (billable : ∀ row ∈ sales.items, links row = true → row.isOpen = true ∧
      row.serveStatus ≠ .cancelled ∧ row.orderSessionId = invoice.orderSessionId)
    (total : invoice.subTotal = sales.items.sumWhere links OrderItem.lineTotal)
    (inserted : sales.invoices.insert? invoice = some invoices) :
    BillsAgree { sales with
      invoices
      items := sales.items.update links fun row => { row with
        invoiceId := some invoice.id
        isPaid := if invoice.paymentStatus = .paid then true else row.isPaid } } := by
  have unlinked (item : OrderItem) (membership : item ∈ sales.items) :
      item.invoiceId ≠ some invoice.id := by
    intro own
    obtain ⟨other, found, -⟩ := agree.billed item membership invoice.id own
    exact (Table.rows_insert? inserted).2 other (Table.mem_of_find? found) (Table.find?_key found)
  have open_ (item : OrderItem) (membership : item ∈ sales.items) (linked : links item = true) :
      item.isPaid = false ∧ item.invoiceId = none := by
    have unpaid := (billable item membership linked).1
    simpa [OrderItem.isOpen] using unpaid
  constructor
  · intro item membership
    simp only [Table.mem_update_iff] at membership
    rcases membership with ⟨old, inStore, -, rfl⟩ | ⟨inStore, -⟩
    · exact agree.prices old inStore
    · exact agree.prices item inStore
  · intro item membership id own
    simp only [Table.mem_update_iff] at membership
    rcases membership with ⟨old, inStore, linked, rfl⟩ | ⟨inStore, -⟩
    · obtain rfl : invoice.id = id := Option.some.inj own
      obtain ⟨unpaid, -⟩ := open_ old inStore linked
      refine ⟨invoice, by simp [Table.find?_insert? inserted], ?_,
        (billable old inStore linked).2.2.symm, ?_⟩
      · rcases status with status | status
        · simp [status]
        · simp [status]
      · rcases status with status | status
        · simp [status, unpaid, PaymentStatus.isSettled]
        · simp [status, PaymentStatus.isSettled]
    · obtain ⟨other, found, bill⟩ := agree.billed item inStore id own
      have differs : invoice.id ≠ id := by
        rintro rfl
        exact unlinked item inStore own
      refine ⟨other, ?_, bill⟩
      rw [Table.find?_insert? inserted, if_neg differs]
      exact found
  · intro item membership free paid
    simp only [Table.mem_update_iff] at membership
    rcases membership with ⟨old, -, -, rfl⟩ | ⟨inStore, -⟩
    · cases free
    · exact agree.unbilled item inStore free paid
  · intro other membership live
    rcases (Table.mem_insert? inserted).mp membership with old | rfl
    · rw [agree.total other old live]
      refine (Table.sumWhere_update (by intro; rfl) (fun item inStore linked => ?_)
        fun _ _ _ => rfl).symm
      have differs : invoice.id ≠ other.id := (Table.rows_insert? inserted).2 other old |>.symm
      obtain ⟨-, free⟩ := open_ item inStore linked
      simp [OrderItem.refersTo, free, differs]
    · rw [total]
      refine (Table.sumWhere_update (by intro; rfl) (fun item inStore linked => ?_)
        fun item inStore kept => ?_).symm
      · simp [OrderItem.refersTo, linked, OrderItem.lineTotal]
      · simp [OrderItem.refersTo, unlinked item inStore, kept]

/-- The items of an unpaid invoice are not paid either. -/
theorem unpaid_of_refersTo (agree : BillsAgree sales) {id : Id} {invoice : Invoice}
    (found : sales.invoices.find? id = some invoice) (unpaid : invoice.paymentStatus = .unpaid)
    {item : OrderItem} (membership : item ∈ sales.items) (own : item.invoiceId = some id) :
    item.isPaid = false := by
  obtain ⟨other, same, -, -, paid⟩ := agree.billed item membership id own
  obtain rfl : invoice = other := Option.some.inj (found.symm.trans same)
  rw [unpaid] at paid
  exact Bool.eq_false_iff.mpr fun isPaid => Bool.noConfusion (paid.mp isPaid)

theorem invoicePaid {id : Id} {condition : Invoice → Bool} {change : Invoice → Invoice}
    {keeps : ∀ row, (change row).id = row.id} (agree : BillsAgree sales)
    (found : ∀ row ∈ sales.invoices, condition row = true ↔ row.id = id)
    (unpaid : ∃ row, sales.invoices.find? id = some row ∧ row.paymentStatus = .unpaid)
    (pays : ∀ row ∈ sales.invoices, condition row = true →
      row.Agrees (change row) ∧ (change row).paymentStatus = .paid) :
    BillsAgree { sales with
      invoices := sales.invoices.update condition change keeps
      items := sales.items.update (fun item => item.invoiceId = some id && !item.isPaid)
        fun item => { item with isPaid := true } } := by
  obtain ⟨invoice, located, open_⟩ := unpaid
  have inStore := Table.mem_of_find? located
  have named := Table.find?_key located
  have passes := (found invoice inStore).mpr named
  obtain ⟨agrees, settled⟩ := pays invoice inStore passes
  constructor
  · intro item membership
    simp only [Table.mem_update_iff] at membership
    rcases membership with ⟨old, inStore, -, rfl⟩ | ⟨inStore, -⟩
    · exact agree.prices old inStore
    · exact agree.prices item inStore
  · intro item membership other own
    simp only [Table.mem_update_iff] at membership
    rcases membership with ⟨old, inItems, holds, rfl⟩ | ⟨inItems, kept⟩
    · simp only [Bool.and_eq_true, decide_eq_true_eq] at holds
      obtain rfl : id = other := Option.some.inj (holds.1.symm.trans own)
      obtain ⟨row, same, -, session, -⟩ := agree.billed old inItems id holds.1
      obtain rfl : invoice = row := Option.some.inj (located.symm.trans same)
      refine ⟨change invoice, ?_, ?_, agrees.orderSessionId.trans session, ?_⟩
      · rw [Table.find?_update, located, Option.map_some, if_pos passes]
      · simp [settled]
      · simp [settled, PaymentStatus.isSettled]
    · obtain ⟨row, same, bill⟩ := agree.billed item inItems other own
      have differs : ¬condition row = true := by
        intro holds
        have ids := (found row (Table.mem_of_find? same)).mp holds
        rw [Table.find?_key same] at ids
        rw [ids] at own
        simp [own, agree.unpaid_of_refersTo located open_ inItems own] at kept
      refine ⟨row, ?_, bill⟩
      rw [Table.find?_update, same, Option.map_some, if_neg differs]
  · intro item membership free paid
    simp only [Table.mem_update_iff] at membership
    rcases membership with ⟨old, inItems, holds, rfl⟩ | ⟨inItems, -⟩
    · simp only [Bool.and_eq_true, decide_eq_true_eq] at holds
      rw [holds.1] at free
      cases free
    · exact agree.unbilled item inItems free paid
  · intro other membership live
    have sums (invoiceId : Id) :
        (sales.items.update (fun item => item.invoiceId = some id && !item.isPaid)
          fun item => { item with isPaid := true }).sumWhere (OrderItem.refersTo invoiceId)
            OrderItem.lineTotal =
        sales.items.sumWhere (OrderItem.refersTo invoiceId) OrderItem.lineTotal :=
      Table.sumWhere_update (by intro; rfl) (fun _ _ _ => rfl) fun _ _ _ => rfl
    rw [sums]
    simp only [Table.mem_update_iff] at membership
    rcases membership with ⟨old, inOld, holds, rfl⟩ | ⟨inOld, -⟩
    · obtain rfl : old = invoice := Table.eq_of_find? located inOld ((found old inOld).mp holds)
      rw [agrees.subTotal, agrees.id]
      exact agree.total old inStore (by simp [open_])
    · exact agree.total other inOld live

theorem invoiceVoided {id : Id} {change : Invoice → Invoice}
    {keeps : ∀ row, (change row).id = row.id} (agree : BillsAgree sales)
    (unpaid : ∃ row, sales.invoices.find? id = some row ∧ row.paymentStatus = .unpaid)
    (voids : ∀ row ∈ sales.invoices, row.Agrees (change row) ∧
      (change row).paymentStatus = .voided) :
    BillsAgree { sales with
      invoices := sales.invoices.update (fun row => row.id = id && true) change keeps
      items := sales.items.update (fun item => item.invoiceId = some id && !item.isPaid)
        fun item => { item with invoiceId := none, isPaid := false } } := by
  obtain ⟨invoice, located, open_⟩ := unpaid
  -- No item is left on the invoice, since all of its items are unpaid.
  have freed (item : OrderItem) (membership : item ∈ sales.items)
      (kept : (item.invoiceId = some id && !item.isPaid) = false) : item.invoiceId ≠ some id := by
    intro own
    simp [own, agree.unpaid_of_refersTo located open_ membership own] at kept
  constructor
  · intro item membership
    simp only [Table.mem_update_iff] at membership
    rcases membership with ⟨old, inStore, -, rfl⟩ | ⟨inStore, -⟩
    · exact agree.prices old inStore
    · exact agree.prices item inStore
  · intro item membership other own
    simp only [Table.mem_update_iff] at membership
    rcases membership with ⟨old, -, -, rfl⟩ | ⟨inItems, kept⟩
    · cases own
    · obtain ⟨row, same, bill⟩ := agree.billed item inItems other own
      have differs : row.id ≠ id := by
        rw [Table.find?_key same]
        rintro rfl
        exact freed item inItems kept own
      refine ⟨row, ?_, bill⟩
      rw [Table.find?_update, same, Option.map_some, if_neg (by simpa using differs)]
  · intro item membership free paid
    simp only [Table.mem_update_iff] at membership
    rcases membership with ⟨old, -, -, rfl⟩ | ⟨inItems, -⟩
    · cases paid
    · exact agree.unbilled item inItems free paid
  · intro other membership live
    simp only [Table.mem_update_iff] at membership
    rcases membership with ⟨old, inOld, -, rfl⟩ | ⟨inOld, kept⟩
    · exact (live (voids old inOld).2).elim
    · rw [agree.total other inOld live]
      refine (Table.sumWhere_update (by intro; rfl) (fun item inItems holds => ?_)
        fun _ _ _ => rfl).symm
      simp only [Bool.and_eq_true, decide_eq_true_eq] at holds
      have differs : id ≠ other.id := by
        rintro rfl
        simp at kept
      simp [OrderItem.refersTo, holds.1, differs]

theorem lineMoved {source destination : Id} (agree : BillsAgree sales)
    (moved : LineMoved source destination sales after) : BillsAgree after := by
  cases moved with
  | @whole item inStore own unpaid =>
      refine agree.itemsKept fun row membership holds => ⟨rfl, rfl, rfl, rfl, fun billed => ?_⟩
      rw [Table.eq_of_key_eq membership inStore (of_decide_eq_true holds)] at billed
      simp only [OrderItem.isOpen, Bool.and_eq_true, Option.isNone_iff_eq_none] at unpaid
      exact (billed unpaid.2).elim
  | @divided item _ quantity _ _ _ _ inStore own unpaid positive less inserted =>
      have reduced : BillsAgree { sales with
          items := sales.items.update (fun row => row.id = item.id) fun row =>
            { row with quantity := item.quantity - quantity } } := by
        refine agree.itemsKept fun row membership holds => ⟨rfl, rfl, rfl, rfl, fun billed => ?_⟩
        rw [Table.eq_of_key_eq membership inStore (of_decide_eq_true holds)] at billed
        simp only [OrderItem.isOpen, Bool.and_eq_true, Option.isNone_iff_eq_none] at unpaid
        exact (billed unpaid.2).elim
      have added := reduced.itemsInserted sales.remakes
        (Table.insertAll?_singleton.trans inserted) (fun row membership => ?_)
        (fun row membership => ?_) (fun _ kept => kept) fun row membership paid => ?_
      · exact added.congr rfl rfl rfl
      · rw [List.mem_singleton.mp membership]
        exact agree.prices item inStore
      · rw [List.mem_singleton.mp membership]
        rfl
      · rw [List.mem_singleton.mp membership] at paid
        cases paid

theorem step {refunds : Option PaymentMethod} (taken : SalesStep refunds sales after)
    (agree : BillsAgree sales) : BillsAgree after := by
  cases taken with
  | besides tables sessions items invoices remakes => exact agree.congr items invoices remakes
  | itemsAdded fresh priced active owned inserted =>
      have added := agree.itemsInserted sales.remakes inserted priced
        (fun row membership => ?_) (fun _ kept => kept) fun row membership paid => ?_
      · exact added.congr rfl rfl rfl
      · have unpaid := (fresh row membership).1
        simp only [OrderItem.isOpen, Bool.and_eq_true, Option.isNone_iff_eq_none] at unpaid
        exact unpaid.2
      · have unpaid := (fresh row membership).1
        simp [OrderItem.isOpen, paid] at unpaid
  | itemRemade paid free pending price snapshotted copied open_ replaces owned inserted copiedRecipe
      recorded =>
      have added := agree.itemsInserted _ (Table.insertAll?_singleton.trans inserted)
        (fun row membership => ?_) (fun row membership => ?_)
        (fun remake kept => (Table.mem_insert? recorded).mpr (.inl kept))
        fun row membership _ => ⟨_, (Table.mem_insert? recorded).mpr (.inr rfl), ?_⟩
      · exact added.congr rfl rfl rfl
      · rw [List.mem_singleton.mp membership, price]
      · rw [List.mem_singleton.mp membership]
        exact free
      · rw [List.mem_singleton.mp membership]
        exact replaces
  | recipesSnapshotted condition now owned legacy recorded =>
      have kept : BillsAgree { sales with
          items := sales.items.update condition fun item =>
            { item with recipeSnapshottedAt := some now } } :=
        agree.itemsKept fun _ _ _ => ⟨rfl, rfl, rfl, rfl, fun _ => ⟨rfl, rfl⟩⟩
      exact kept.congr rfl rfl rfl
  | itemsAdvanced condition change keeps advances =>
      refine agree.itemsKept fun item membership holds => ?_
      have goesOn := advances item membership holds
      exact ⟨goesOn.id, goesOn.priceAtTime, goesOn.isPaid, goesOn.invoiceId,
        fun _ => ⟨goesOn.orderSessionId, goesOn.quantity⟩⟩
  | itemsCancelled condition note free =>
      exact agree.itemsKept fun _ _ _ => ⟨rfl, rfl, rfl, rfl, fun _ => ⟨rfl, rfl⟩⟩
  | itemsMoved condition target free active =>
      refine agree.itemsKept fun row membership holds => ⟨rfl, rfl, rfl, rfl, fun billed => ?_⟩
      have unpaid := free row membership holds
      simp only [OrderItem.isOpen, Bool.and_eq_true, Option.isNone_iff_eq_none] at unpaid
      exact (billed unpaid.2).elim
  | lineMoved active moved => exact agree.lineMoved moved
  | invoiceIssued links status billable total nonneg inserted =>
      exact agree.invoiceIssued status billable (total agree.prices) inserted
  | invoicePaid id condition change keeps found unpaid pays =>
      exact agree.invoicePaid found unpaid pays
  | invoiceVoided id change keeps unpaid voids => exact agree.invoiceVoided unpaid voids
  | invoicesTouched condition change keeps agrees =>
      refine agree.invoicesChanged fun row membership holds => ?_
      obtain ⟨same, -, status⟩ := agrees row membership holds
      exact ⟨same, by rw [status], by rw [status]⟩
  | invoicesRefunded condition method status allowed settled paid =>
      refine agree.invoicesChanged fun row membership holds => ⟨⟨rfl, rfl, rfl, rfl⟩, ?_, ?_⟩
      · have before := (paid row membership holds).1
        refine iff_of_false ?_ ?_
        · rintro rfl
          cases settled
        · intro voided
          rw [voided] at before
          cases before
      · exact settled.trans (paid row membership holds).1.symm
  | _ => exact agree.congr rfl rfl rfl

end BillsAgree

theorem Reachable.billsAgree {database : Database} (reachable : Reachable database) :
    BillsAgree database.sales :=
  reachable.salesInvariant BillsAgree .empty fun _ _ _ taken agree => agree.step taken

/-- An invoice bills what its items cost, and an item is paid exactly by a settled invoice. -/
theorem Reachable.billing_integrity {database : Database} (reachable : Reachable database) :
    (∀ invoice ∈ database.sales.invoices, invoice.paymentStatus ≠ .voided →
      invoice.subTotal = database.sales.items.sumWhere
        (fun item => item.invoiceId = some invoice.id) OrderItem.lineTotal ∧
      ∀ item ∈ database.sales.items, item.invoiceId = some invoice.id →
        item.orderSessionId = invoice.orderSessionId ∧ item.serveStatus ≠ .cancelled) ∧
    (∀ invoice ∈ database.sales.invoices, invoice.paymentStatus = .voided →
      ∀ item ∈ database.sales.items, item.invoiceId ≠ some invoice.id) ∧
    ∀ item ∈ database.sales.items, database.sales.isReplacement item.id = false →
      (item.isPaid = true ↔ ∃ invoiceId invoice, item.invoiceId = some invoiceId ∧
        database.sales.invoices.find? invoiceId = some invoice ∧
        (invoice.paymentStatus = .paid ∨ invoice.paymentStatus = .partiallyRefunded ∨
          invoice.paymentStatus = .refunded)) := by
  have agree := reachable.billsAgree
  have bill (invoice : Invoice) (membership : invoice ∈ database.sales.invoices)
      (item : OrderItem) (inItems : item ∈ database.sales.items)
      (own : item.invoiceId = some invoice.id) : item.IsOn invoice := by
    obtain ⟨other, found, isOn⟩ := agree.billed item inItems invoice.id own
    rw [Table.eq_of_find? found membership rfl]
    exact isOn
  have settled_iff (status : PaymentStatus) : status.isSettled = true ↔
      status = .paid ∨ status = .partiallyRefunded ∨ status = .refunded := by
    cases status <;> decide
  refine ⟨fun invoice membership live => ⟨?_, fun item inItems own => ?_⟩,
    fun invoice membership voided item inItems own => ?_, fun item inItems original => ?_⟩
  · exact agree.total invoice membership live
  · refine ⟨(bill invoice membership item inItems own).2.1.symm, fun dead => ?_⟩
    rw [reachable.itemsFit.unbilled item inItems dead] at own
    cases own
  · exact (bill invoice membership item inItems own).1 voided
  · constructor
    · intro paid
      cases own : item.invoiceId with
      | none =>
          obtain ⟨remake, inRemakes, replaced⟩ := agree.unbilled item inItems own paid
          rw [SalesStore.isReplacement, Option.isSome_eq_false_iff, Option.isNone_iff_eq_none] at original
          have other := Table.first?_eq_none.mp original remake inRemakes
          simp [replaced] at other
      | some id =>
          obtain ⟨invoice, found, isOn⟩ := agree.billed item inItems id own
          exact ⟨id, invoice, rfl, found, (settled_iff _).mp (isOn.2.2.mp paid)⟩
    · rintro ⟨id, invoice, own, found, settled⟩
      obtain ⟨other, same, isOn⟩ := agree.billed item inItems id own
      obtain rfl : invoice = other := Option.some.inj (found.symm.trans same)
      exact isOn.2.2.mpr ((settled_iff _).mpr settled)

/-- The invoice of the sale bills its cups. -/
theorem Reachable.billing_integrity_sold : ∃ invoice ∈ Database.sold.sales.invoices,
    invoice.subTotal = Database.sold.sales.items.sumWhere
      (fun item => item.invoiceId = some invoice.id) OrderItem.lineTotal := by
  have settled : (Database.sold.sales.invoices.find? 3).any (·.paymentStatus ≠ .voided) = true := by
    decide +kernel
  cases found : Database.sold.sales.invoices.find? 3 with
  | none =>
      rw [found] at settled
      cases settled
  | some invoice =>
      rw [found] at settled
      have membership := Table.mem_of_find? found
      exact ⟨invoice, membership, (Reachable.sold.billing_integrity.1 invoice membership
        (of_decide_eq_true settled)).1⟩

end CoffeeShop
