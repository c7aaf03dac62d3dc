import CoffeeShop.Execution
import CoffeeShop.Sales.Runs

/-!
The kitchen's line of an item says how much of it was ordered.

Only a split changes the quantity of an item that is there, and it changes the kitchen's
line of the item and of the part along with it.
-/

namespace CoffeeShop

open Transaction

/-- What is ordered is at least one, and the kitchen knows how much it is. -/
structure QuantitiesAgree (sales : SalesStore) : Prop where
  positive : ∀ item ∈ sales.items, 0 < item.quantity
  ticketed : ∀ row ∈ sales.ticketItems, ∃ item ∈ sales.items,
    item.id = row.orderItemId ∧ item.quantity = row.quantity

namespace QuantitiesAgree

variable {sales after : SalesStore}

theorem empty : QuantitiesAgree SalesStore.empty where
  positive _ membership := (Table.not_mem_empty membership).elim
  ticketed _ membership := (Table.not_mem_empty membership).elim

/-- Items are added and the quantities of the others stay. -/
theorem grown (agree : QuantitiesAgree sales)
    (kept : ∀ item ∈ sales.items, ∃ next ∈ after.items, next.id = item.id ∧
      next.quantity = item.quantity)
    (positive : ∀ item ∈ after.items, 0 < item.quantity)
    (ticketItems : after.ticketItems = sales.ticketItems) : QuantitiesAgree after where
  positive := positive
  ticketed row membership := by
    rw [ticketItems] at membership
    obtain ⟨item, inStore, same, quantity⟩ := agree.ticketed row membership
    obtain ⟨next, isNext, nextId, nextQuantity⟩ := kept item inStore
    exact ⟨next, isNext, nextId.trans same, nextQuantity.trans quantity⟩

theorem inserted {rows : List OrderItem} (agree : QuantitiesAgree sales)
    (added : sales.items.insertAll? rows = some after.items)
    (positive : ∀ row ∈ rows, 0 < row.quantity)
    (ticketItems : after.ticketItems = sales.ticketItems) : QuantitiesAgree after := by
  refine agree.grown (fun item membership => ?_) (fun item membership => ?_) ticketItems
  · exact ⟨item, (Table.mem_insertAll? added).mpr (.inl membership), rfl, rfl⟩
  · rcases (Table.mem_insertAll? added).mp membership with old | fresh
    · exact agree.positive item old
    · exact positive item fresh

theorem updated {condition : OrderItem → Bool} {change : OrderItem → OrderItem}
    (keeps : ∀ row, (change row).id = row.id) (agree : QuantitiesAgree sales)
    (same : ∀ item ∈ sales.items, condition item = true →
      (change item).quantity = item.quantity)
    (items : after.items = sales.items.update condition change keeps)
    (ticketItems : after.ticketItems = sales.ticketItems) : QuantitiesAgree after := by
  refine agree.grown (fun item membership => ?_) (fun item membership => ?_) ticketItems
  · rw [items]
    refine ⟨_, Table.mem_update.mpr ⟨item, membership, rfl⟩, ?_⟩
    split
    · next holds => exact ⟨keeps item, same item membership holds⟩
    · exact ⟨rfl, rfl⟩
  · rw [items, Table.mem_update_iff] at membership
    rcases membership with ⟨old, inStore, holds, rfl⟩ | ⟨kept, -⟩
    · rw [same old inStore holds]
      exact agree.positive old inStore
    · exact agree.positive item kept

/-- An item and its kitchen line are divided alike. -/
theorem divided {item : OrderItem} {id destination : Id} {quantity : Nat} {now : Timestamp}
    {items : Table OrderItem.id} {ticketItems : Table KitchenTicketItem.orderItemId}
    (agree : QuantitiesAgree sales) (found : item ∈ sales.items) (positive : 0 < quantity)
    (less : quantity < item.quantity)
    (inserted : (sales.items.update (fun row => row.id = item.id) fun row =>
      { row with quantity := item.quantity - quantity }).insert?
        (item.part id destination quantity now) = some items)
    (ticketed : divideTicketItem sales.ticketItems item id quantity = some ticketItems)
    (sameItems : after.items = items) (sameTickets : after.ticketItems = ticketItems) :
    QuantitiesAgree after where
  positive other membership := by
    rw [sameItems] at membership
    rcases (Table.mem_insert? inserted).mp membership with old | rfl
    · rcases Table.mem_update_iff.mp old with ⟨row, -, -, rfl⟩ | ⟨kept, -⟩
      · exact Nat.sub_pos_of_lt less
      · exact agree.positive other kept
    · exact positive
  ticketed row membership := by
    rw [sameTickets] at membership
    rw [sameItems]
    have kept {old : KitchenTicketItem} (inStore : old ∈ sales.ticketItems)
        (apart : old.orderItemId ≠ item.id) :
        ∃ other ∈ items, other.id = old.orderItemId ∧ other.quantity = old.quantity := by
      obtain ⟨other, isOther, same, quantity⟩ := agree.ticketed old inStore
      refine ⟨other, (Table.mem_insert? inserted).mpr (.inl ?_), same, quantity⟩
      refine Table.mem_update_iff.mpr (.inr ⟨isOther, ?_⟩)
      simpa [same] using apart
    have reduced : ∃ other ∈ items, other.id = item.id ∧
        other.quantity = item.quantity - quantity := by
      refine ⟨{ item with quantity := item.quantity - quantity },
        (Table.mem_insert? inserted).mpr (.inl ?_), rfl, rfl⟩
      exact Table.mem_update_iff.mpr (.inl ⟨item, found, by simp, rfl⟩)
    unfold divideTicketItem at ticketed
    split at ticketed
    · next absent =>
        cases ticketed
        exact kept membership (Table.find?_eq_none.mp absent row membership)
    · next old isOld =>
        rcases (Table.mem_insert? ticketed).mp membership with stays | rfl
        · rcases Table.mem_update_iff.mp stays with ⟨line, inStore, holds, rfl⟩ | ⟨inStore, fails⟩
          · obtain ⟨other, isOther, same, equal⟩ := reduced
            exact ⟨other, isOther, same.trans (of_decide_eq_true holds).symm, equal⟩
          · exact kept inStore (of_decide_eq_false fails)
        · exact ⟨_, (Table.mem_insert? inserted).mpr (.inr rfl), rfl, rfl⟩

theorem step {refunds : Option PaymentMethod} (taken : SalesStep refunds sales after)
    (agree : QuantitiesAgree sales) : QuantitiesAgree after := by
  cases taken with
  | besides tables sessions items invoices remakes recipes ticketItems =>
      refine agree.grown (fun item membership => ?_) (fun item membership => ?_) ticketItems
      · exact ⟨item, items ▸ membership, rfl, rfl⟩
      · exact agree.positive item (items ▸ membership)
  | itemsAdded fresh priced active owned added recorded =>
      exact agree.inserted added (fun row membership => (fresh row membership).2.2.1) rfl
  | itemRemade paid free pending price snapshotted copied open_ replaces owned added copiedRecipe
      recorded =>
      refine agree.inserted (Table.insertAll?_singleton.trans added) (fun row membership => ?_) rfl
      obtain ⟨original, inStore, quantity, -⟩ := copied
      rw [List.mem_singleton.mp membership, quantity]
      exact agree.positive original inStore
  | ticketed agrees added =>
      refine ⟨agree.positive, fun row membership => ?_⟩
      rcases (Table.mem_insertAll? added).mp membership with old | fresh
      · exact agree.ticketed row old
      · obtain ⟨item, inStore, same, quantity⟩ := agrees row fresh
        exact ⟨item, inStore, same.symm, quantity.symm⟩
  | itemsAdvanced condition change keeps advances =>
      exact agree.updated keeps (fun item membership holds =>
        (advances item membership holds).quantity) rfl rfl
  | lineMoved active moved =>
      cases moved with
      | whole found own open_ =>
          exact agree.updated (by intro; rfl) (fun _ _ _ => by rfl) rfl rfl
      | divided found own open_ positive less added recorded ticketed =>
          exact agree.divided found positive less added ticketed rfl rfl
  | itemsCancelled | itemsMoved | recipesSnapshotted | invoiceIssued | invoicePaid
  | invoiceVoided => exact agree.updated (by intro; rfl) (fun _ _ _ => by rfl) rfl rfl
  | _ => exact ⟨agree.positive, agree.ticketed⟩

end QuantitiesAgree

theorem Reachable.quantitiesAgree {database : Database} (reachable : Reachable database) :
    QuantitiesAgree database.sales :=
  reachable.salesInvariant QuantitiesAgree .empty fun _ _ _ taken agree => agree.step taken

theorem QuantitiesAgree.quantity_eq {sales : SalesStore} (agree : QuantitiesAgree sales)
    {row : KitchenTicketItem} (member : row ∈ sales.ticketItems) :
    ∃ item, sales.items.find? row.orderItemId = some item ∧ item.quantity = row.quantity := by
  obtain ⟨item, inStore, same, quantity⟩ := agree.ticketed row member
  exact ⟨item, same ▸ Table.find?_of_mem inStore, quantity⟩

/-- Every item is of at least one serving, and the kitchen's line of it says of how many. -/
theorem Reachable.quantities_agree {database : Database} (reachable : Reachable database) :
    (∀ item ∈ database.sales.items, 0 < item.quantity) ∧
      ∀ row ∈ database.sales.ticketItems, ∃ item,
        database.sales.items.find? row.orderItemId = some item ∧ item.quantity = row.quantity :=
  ⟨reachable.quantitiesAgree.positive, fun _ member => reachable.quantitiesAgree.quantity_eq member⟩

theorem Reachable.quantities_agree_jammed :
    (∀ item ∈ Database.jammed.sales.items, 0 < item.quantity) ∧
      ∀ row ∈ Database.jammed.sales.ticketItems, ∃ item,
        Database.jammed.sales.items.find? row.orderItemId = some item ∧
          item.quantity = row.quantity := Reachable.jammed.quantities_agree

end CoffeeShop
