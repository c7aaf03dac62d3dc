import CoffeeShop.Sales.Billing

/-!
A replacement stays in the session of the served item that it replaces.
-/

namespace CoffeeShop

open Transaction

/-- The replaced item and its replacement, as they were when the remake was recorded. -/
structure OrderRemake.Agrees (remake : OrderRemake) (sales : SalesStore)
    (original replacement : OrderItem) : Prop where
  original_mem : original ∈ sales.items
  original_id : original.id = remake.originalItemId
  served : original.serveStatus = .served
  originalPaid : original.isPaid = true
  billed : original.invoiceId ≠ none
  first : ∀ other ∈ sales.remakes, other.replacementItemId ≠ original.id
  replacement_mem : replacement ∈ sales.items
  replacement_id : replacement.id = remake.replacementItemId
  paid : replacement.isPaid = true
  session : replacement.orderSessionId = original.orderSessionId

def RemakesAgree (sales : SalesStore) : Prop :=
  ∀ remake ∈ sales.remakes, ∃ original replacement, remake.Agrees sales original replacement

/-- What stays of an item that is paid. -/
structure OrderItem.PaidKept (before after : OrderItem) : Prop where
  id : after.id = before.id
  paid : after.isPaid = true
  orderSessionId : after.orderSessionId = before.orderSessionId
  served : before.serveStatus = .served → before.invoiceId ≠ none → after.serveStatus = .served
  billed : before.invoiceId ≠ none → after.invoiceId ≠ none

theorem OrderItem.PaidKept.refl {item : OrderItem} (paid : item.isPaid = true) :
    item.PaidKept item := ⟨rfl, paid, rfl, fun served _ => served, fun billed => billed⟩

/-- An item that is paid is not open. -/
theorem OrderItem.isOpen_eq_false {item : OrderItem} (paid : item.isPaid = true) :
    item.isOpen = false := by
  simp [isOpen, paid]

namespace RemakesAgree

variable {sales after : SalesStore}

theorem empty : RemakesAgree SalesStore.empty := fun _ membership =>
  (Table.not_mem_empty membership).elim

/-- The remakes are the same, and of every paid item there is what stays. -/
theorem continued (agree : RemakesAgree sales) (remakes : after.remakes = sales.remakes)
    (kept : ∀ item ∈ sales.items, item.isPaid = true → ∃ next ∈ after.items, item.PaidKept next) :
    RemakesAgree after := by
  intro remake recorded
  rw [remakes] at recorded
  obtain ⟨original, replacement, agrees⟩ := agree remake recorded
  obtain ⟨next, isNext, same⟩ := kept original agrees.original_mem agrees.originalPaid
  obtain ⟨copy, isCopy, alike⟩ := kept replacement agrees.replacement_mem agrees.paid
  refine ⟨next, copy, {
    original_mem := isNext
    original_id := same.id.trans agrees.original_id
    served := same.served agrees.served agrees.billed
    originalPaid := same.paid
    billed := same.billed agrees.billed
    first := fun other isOther => ?_
    replacement_mem := isCopy
    replacement_id := alike.id.trans agrees.replacement_id
    paid := alike.paid
    session := ?_ }⟩
  · rw [remakes] at isOther
    rw [same.id]
    exact agrees.first other isOther
  · rw [alike.orderSessionId, same.orderSessionId]
    exact agrees.session

theorem updated {condition : OrderItem → Bool} {change : OrderItem → OrderItem}
    (keeps : ∀ row, (change row).id = row.id) (agree : RemakesAgree sales)
    (remakes : after.remakes = sales.remakes)
    (items : after.items = sales.items.update condition change keeps)
    (kept : ∀ item ∈ sales.items, condition item = true → item.isPaid = true →
      item.PaidKept (change item)) : RemakesAgree after := by
  refine agree.continued remakes fun item membership paid => ?_
  rw [items]
  refine ⟨_, Table.mem_update.mpr ⟨item, membership, rfl⟩, ?_⟩
  split
  · next holds => exact kept item membership holds paid
  · exact .refl paid

theorem inserted {rows : List OrderItem} {items : Table OrderItem.id} (agree : RemakesAgree sales)
    (remakes : after.remakes = sales.remakes) (added : sales.items.insertAll? rows = some items)
    (same : after.items = items) : RemakesAgree after := by
  refine agree.continued remakes fun item membership paid => ?_
  rw [same]
  exact ⟨item, (Table.mem_insertAll? added).mpr (.inl membership), .refl paid⟩

/-- Only open lines move. -/
theorem lineMoved {source destination : Id} (agree : RemakesAgree sales)
    (moved : LineMoved source destination sales after) : RemakesAgree after := by
  have notOpen {item other : OrderItem} (membership : item ∈ sales.items)
      (isOther : other ∈ sales.items) (same : other.id = item.id) (open_ : item.isOpen = true)
      (paid : other.isPaid = true) : False := by
    obtain rfl := Table.eq_of_key_eq isOther membership same
    rw [OrderItem.isOpen_eq_false paid] at open_
    cases open_
  cases moved with
  | whole found own open_ =>
      refine agree.updated (by intro; rfl) rfl rfl fun other isOther holds paid => ?_
      exact (notOpen found isOther (of_decide_eq_true holds) open_ paid).elim
  | divided found own open_ positive less added recorded ticketed =>
      rename_i item id quantity now items recipes ticketItems
      have reduced : RemakesAgree { sales with
          items := sales.items.update (fun row => row.id = item.id) fun row =>
            { row with quantity := item.quantity - quantity } } := by
        refine agree.updated (by intro; rfl) rfl rfl fun other isOther holds paid => ?_
        exact (notOpen found isOther (of_decide_eq_true holds) open_ paid).elim
      exact reduced.inserted rfl (Table.insertAll?_singleton.trans added) rfl

/-- The new remake is of an item that is served on a bill, and the others keep theirs. -/
theorem remade {item : OrderItem} {remake : OrderRemake} {items : Table OrderItem.id}
    {remakes : Table OrderRemake.originalItemId} (agree : RemakesAgree sales)
    (paid : item.isPaid = true) (replaces : remake.replacementItemId = item.id)
    (copied : ∃ original ∈ sales.items, item.quantity = original.quantity ∧
      original.id = remake.originalItemId ∧ original.orderSessionId = item.orderSessionId ∧
      original.HandedOff sales)
    (added : sales.items.insert? item = some items)
    (recorded : sales.remakes.insert? remake = some remakes) (same : after.items = items)
    (sameRemakes : after.remakes = remakes) : RemakesAgree after := by
  have fresh := (Table.rows_insert? added).2
  have kept (other : OrderItem) (membership : other ∈ sales.items) : other ∈ after.items := by
    rw [same]
    exact (Table.mem_insert? added).mpr (.inl membership)
  have new : item ∈ after.items := by
    rw [same]
    exact (Table.mem_insert? added).mpr (.inr rfl)
  intro other isOther
  rw [sameRemakes] at isOther
  obtain old | rfl := (Table.mem_insert? recorded).mp isOther
  · obtain ⟨original, replacement, agrees⟩ := agree other old
    refine ⟨original, replacement, { agrees with
      original_mem := kept original agrees.original_mem
      replacement_mem := kept replacement agrees.replacement_mem
      first := fun next isNext => ?_ }⟩
    rw [sameRemakes] at isNext
    obtain before | rfl := (Table.mem_insert? recorded).mp isNext
    · exact agrees.first next before
    · rw [replaces]
      exact (fresh original agrees.original_mem).symm
  · obtain ⟨original, membership, -, id, session, handedOff⟩ := copied
    refine ⟨original, item, {
      original_mem := kept original membership
      original_id := id
      served := handedOff.served
      originalPaid := handedOff.paid
      billed := handedOff.billed
      first := fun next isNext => ?_
      replacement_mem := new
      replacement_id := replaces.symm
      paid
      session := session.symm }⟩
    rw [sameRemakes] at isNext
    obtain before | rfl := (Table.mem_insert? recorded).mp isNext
    · intro replaced
      have first := handedOff.first
      rw [SalesStore.isReplacement, Option.isSome_eq_false_iff, Option.isNone_iff_eq_none,
        Table.first?_eq_none] at first
      have differs := first next before
      simp [replaced] at differs
    · rw [replaces]
      exact (fresh original membership).symm

theorem step {refunds : Option PaymentMethod} (agree : RemakesAgree sales)
    (taken : SalesStep refunds sales after) : RemakesAgree after := by
  have closed {item : OrderItem} (paid : item.isPaid = true) (open_ : item.isOpen = true) : False := by
    rw [OrderItem.isOpen_eq_false paid] at open_
    cases open_
  have same (remakes : after.remakes = sales.remakes) (items : after.items = sales.items) :
      RemakesAgree after :=
    agree.continued remakes fun item membership paid => ⟨item, items ▸ membership, .refl paid⟩
  cases taken with
  | besides tables sessions items invoices remakes recipes ticketItems => exact same remakes items
  | tableCreated | tableRenamed | tableDeleted | sessionOpened | sessionMoved | sessionsClosed
  | sessionsMerged | ticketed | invoicesTouched | invoicesRefunded => exact same rfl rfl
  | itemsAdded fresh priced active owned inserted => exact agree.inserted rfl inserted rfl
  | itemRemade paid free pending price snapshotted copied open_ replaces owned inserted
      copiedRecipe recorded =>
      exact agree.remade paid replaces copied inserted recorded rfl rfl
  | recipesSnapshotted condition now owned legacy recorded =>
      exact agree.updated (by intro; rfl) rfl rfl fun item _ _ paid => ⟨rfl, paid, rfl, fun served _ => served, fun billed => billed⟩
  | itemsAdvanced condition change keeps advances =>
      refine agree.updated keeps rfl rfl fun item membership holds paid => ?_
      have goesOn := advances item membership holds
      exact ⟨goesOn.id, goesOn.isPaid.trans paid, goesOn.orderSessionId,
        fun served _ => goesOn.served served, fun billed => goesOn.invoiceId ▸ billed⟩
  | itemsCancelled condition note free =>
      refine agree.updated (by intro; rfl) rfl rfl fun item membership holds paid => ?_
      have unbilled := free item membership holds
      exact ⟨rfl, paid, rfl, fun _ billed => (billed unbilled).elim,
        fun billed => billed⟩
  | itemsMoved condition target free active =>
      refine agree.updated (by intro; rfl) rfl rfl fun item membership holds paid => ?_
      exact (closed paid (free item membership holds)).elim
  | lineMoved active moved => exact agree.lineMoved moved
  | invoiceIssued links status billable total nonneg inserted =>
      refine agree.updated (by intro; rfl) rfl rfl fun item membership holds paid => ?_
      exact (closed paid (billable item membership holds).1).elim
  | invoicePaid id condition change keeps found unpaid pays =>
      refine agree.updated (by intro; rfl) rfl rfl fun item membership holds paid => ?_
      exact ⟨rfl, rfl, rfl, fun served _ => served, fun billed => billed⟩
  | invoiceVoided id change keeps unpaid voids =>
      refine agree.updated (by intro; rfl) rfl rfl fun item membership holds paid => ?_
      simp [paid] at holds

end RemakesAgree

theorem Reachable.remakesAgree {database : Database} (reachable : Reachable database) :
    RemakesAgree database.sales :=
  reachable.salesInvariant RemakesAgree .empty fun _ _ _ taken agree => agree.step taken

end CoffeeShop
