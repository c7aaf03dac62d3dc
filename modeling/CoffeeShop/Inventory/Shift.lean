import CoffeeShop.Inventory.Consumption
import CoffeeShop.Store.Frames

/-!
What the stock updates do to the quantities of every inventory item.

A `Shift` adds amounts to the stock and to the reserved stock of each item and keeps
the rest of what the stock services check.  Shifts add up, so a loop of updates is
the shift by its totals.
-/

namespace CoffeeShop

open Transaction InventoryStore

/-- Every item moves by the amounts of its identifier. -/
structure Shift (stock reserved : Id → Quantity) (before after : Table InventoryItem.id) :
    Prop where
  back : ∀ id new, after.find? id = some new → ∃ old, before.find? id = some old ∧
    new.stock = old.stock + stock id ∧ new.reservedStock = old.reservedStock + reserved id ∧
    new.deletedAt = old.deletedAt
  forth : ∀ id old, before.find? id = some old → ∃ new, after.find? id = some new

/-- The item exists and is not deleted. -/
def Active (items : Table InventoryItem.id) (id : Id) : Prop :=
  ∃ item, items.find? id = some item ∧ item.deletedAt = none

namespace Shift

variable {first second third : Table InventoryItem.id}

theorem refl (items : Table InventoryItem.id) : Shift (fun _ => 0) (fun _ => 0) items items where
  back _ new found := ⟨new, found, by simp, by simp, rfl⟩
  forth _ old found := ⟨old, found⟩

theorem trans {stock stock' reserved reserved' : Id → Quantity}
    (early : Shift stock reserved first second) (late : Shift stock' reserved' second third) :
    Shift (fun id => stock id + stock' id) (fun id => reserved id + reserved' id) first third where
  back id new found := by
    obtain ⟨middle, atMiddle, lateStock, lateReserved, lateDeleted⟩ := late.back id new found
    obtain ⟨old, atFirst, earlyStock, earlyReserved, earlyDeleted⟩ := early.back id middle atMiddle
    exact ⟨old, atFirst, by lia, by lia, lateDeleted.trans earlyDeleted⟩
  forth id old found := by
    obtain ⟨middle, atMiddle⟩ := early.forth id old found
    exact late.forth id middle atMiddle

theorem congr {stock stock' reserved reserved' : Id → Quantity}
    (shift : Shift stock reserved first second) (sameStock : ∀ id, stock id = stock' id)
    (sameReserved : ∀ id, reserved id = reserved' id) : Shift stock' reserved' first second := by
  rw [← funext sameStock, ← funext sameReserved]
  exact shift

theorem active_iff {stock reserved : Id → Quantity} (shift : Shift stock reserved first second)
    {id : Id} : Active first id ↔ Active second id := by
  constructor
  · rintro ⟨old, before, active⟩
    obtain ⟨new, after⟩ := shift.forth id old before
    obtain ⟨same, atFirst, -, -, deletedAt⟩ := shift.back id new after
    rw [before] at atFirst
    exact ⟨new, after, by rw [deletedAt, ← Option.some.inj atFirst, active]⟩
  · rintro ⟨new, after, active⟩
    obtain ⟨old, before, -, -, deletedAt⟩ := shift.back id new after
    exact ⟨old, before, deletedAt ▸ active⟩

/-- An item with the given identifier moves by the amount, the others stay. -/
def single (wanted : Id) (amount : Quantity) (id : Id) : Quantity :=
  if wanted = id then amount else 0

theorem single_zero (wanted id : Id) : single wanted 0 id = 0 := by
  simp [single]

/-- The update of one item. -/
theorem update {items : Table InventoryItem.id} {wanted : Id} {guard : InventoryItem → Bool}
    {change : InventoryItem → InventoryItem} {keeps : ∀ row, (change row).id = row.id}
    {stock reserved : Quantity} {row : InventoryItem} (found : items.find? wanted = some row)
    (passed : guard row) (stockMoves : (change row).stock = row.stock + stock)
    (reservedMoves : (change row).reservedStock = row.reservedStock + reserved)
    (staysDeleted : (change row).deletedAt = row.deletedAt) :
    Shift (single wanted stock) (single wanted reserved) items
      (items.update (fun row => row.id = wanted && guard row) change keeps) where
  back id new atAfter := by
    simp only [Table.find?_update, Option.map_eq_some_iff] at atAfter
    obtain ⟨old, atBefore, changed⟩ := atAfter
    refine ⟨old, atBefore, ?_⟩
    by_cases same : wanted = id
    · have equal : old = row := by
        rw [← same, found] at atBefore
        exact (Option.some.inj atBefore).symm
      subst equal
      simp only [Table.find?_key found, passed, decide_true, Bool.and_self, if_true] at changed
      subst changed
      simp [single, same, stockMoves, reservedMoves, staysDeleted]
    · have differs : old.id ≠ wanted := fun equal =>
        same (equal.symm.trans (Table.find?_key atBefore))
      simp only [differs, decide_false, Bool.false_and, Bool.false_eq_true, if_false] at changed
      subst changed
      simp [single, same]
  forth id old atBefore := by simp [atBefore]

theorem updateExpecting {wanted : Id} {guard : InventoryItem → Bool}
    {change : InventoryItem → InventoryItem} {keeps : ∀ row, (change row).id = row.id}
    {failure : Failure} {stock reserved : Quantity} {before after : InventoryStore}
    (committed : Commits (updateExpecting inventoryItem wanted guard change failure keeps)
      before () after)
    (moves : ∀ row, guard row → (change row).stock = row.stock + stock ∧
      (change row).reservedStock = row.reservedStock + reserved ∧
      (change row).deletedAt = row.deletedAt) :
    Shift (single wanted stock) (single wanted reserved) before.items after.items := by
  obtain ⟨⟨row, found, passed⟩, rfl⟩ := commits_updateExpecting.mp committed
  obtain ⟨stockMoves, reservedMoves, staysDeleted⟩ := moves row passed
  change Shift _ _ before.items (before.items.update _ change keeps)
  exact update found passed stockMoves reservedMoves staysDeleted

/-- A loop of updates is the shift by the totals of its entries. -/
theorem forEach {α : Type} {entries : List α} {body : α → Tx InventoryStore Failure Unit}
    {item : α → Id} {stock reserved : α → Quantity} {before after : InventoryStore}
    (each : ∀ entry ∈ entries, ∀ before after, Commits (body entry) before () after →
      Shift (single (item entry) (stock entry)) (single (item entry) (reserved entry))
        before.items after.items)
    (committed : Commits (Transaction.forEach entries body) before () after) :
    Shift (GroupedSum.total (entries.map fun entry => (item entry, stock entry)))
      (GroupedSum.total (entries.map fun entry => (item entry, reserved entry)))
      before.items after.items := by
  induction entries generalizing before with
  | nil =>
      rw [commits_forEach_nil.mp committed]
      exact refl before.items
  | cons head tail inductionHypothesis =>
      obtain ⟨middle, ran, rest⟩ := commits_forEach_cons.mp committed
      have early := each head List.mem_cons_self before middle ran
      have late := inductionHypothesis
        (fun entry inTail => each entry (List.mem_cons_of_mem head inTail)) rest
      refine (early.trans late).congr (fun id => ?_) fun id => ?_
      · simp [single]
      · simp [single]

/-- Every item that a loop of updates of active items went through was active before it. -/
theorem active_of_forEach {α : Type} {entries : List α}
    {body : α → Tx InventoryStore Failure Unit} {item : α → Id} {stock reserved : α → Quantity}
    {before after : InventoryStore}
    (each : ∀ entry ∈ entries, ∀ before after, Commits (body entry) before () after →
      Active before.items (item entry) ∧
        Shift (single (item entry) (stock entry)) (single (item entry) (reserved entry))
          before.items after.items)
    (committed : Commits (Transaction.forEach entries body) before () after) :
    ∀ entry ∈ entries, Active before.items (item entry) := by
  induction entries generalizing before with
  | nil => simp
  | cons head tail inductionHypothesis =>
      obtain ⟨middle, ran, rest⟩ := commits_forEach_cons.mp committed
      obtain ⟨active, early⟩ := each head List.mem_cons_self before middle ran
      intro entry membership
      rcases List.mem_cons.mp membership with rfl | inTail
      · exact active
      · exact early.active_iff.mpr (inductionHypothesis
          (fun other others => each other (List.mem_cons_of_mem head others)) rest entry inTail)

end Shift

end CoffeeShop
