import CoffeeShop.Execution
import CoffeeShop.Inventory.Accounting

/-!
The average cost of an item stays between the costs that its stock was bought at.

Rounding each import to two decimals never leaves the interval, so an induction over the
ledger rows suffices.
-/

namespace CoffeeShop

/-- The costs that bound the average, with the stock that they are of. -/
structure CostWindow where
  stock : Quantity
  costs : List Money

namespace CostWindow

/-- An import into empty stock starts a new window; what moves stock at no price keeps it. -/
def post (window : CostWindow) (row : InventoryTransaction) : CostWindow where
  stock := window.stock + row.type.signed row.quantity
  costs := if row.isPriced then
      if window.stock = 0 then [row.unitPrice.getD 0] else row.unitPrice.getD 0 :: window.costs
    else window.costs

/-- The cost is between two costs of the window. -/
def Bounds (window : CostWindow) (cost : Money) : Prop :=
  (∃ cheapest ∈ window.costs, cheapest ≤ cost) ∧ ∃ dearest ∈ window.costs, cost ≤ dearest

instance (window : CostWindow) (cost : Money) : Decidable (window.Bounds cost) :=
  inferInstanceAs (Decidable ((∃ cheapest ∈ window.costs, cheapest ≤ cost) ∧
    ∃ dearest ∈ window.costs, cost ≤ dearest))

/-- The window before any row. -/
def opening (item : InventoryItem) : CostWindow where
  stock := item.stock
  costs := [item.averageUnitCost]

end CostWindow

/-- A money amount fits its column of eighteen digits. -/
def Money.fits (amount : Money) : Bool := amount.natAbs < 10 ^ 18

/-- The stock after each row and the price of each row fit their columns. -/
def fitColumns (stock : Quantity) : List InventoryTransaction → Bool
  | [] => true
  | row :: rows =>
      let next := stock + row.type.signed row.quantity
      next < 10 ^ 18 && row.unitPrice.all (·.fits) && fitColumns next rows

section Window

variable {carrying before after : Carrying} {window : CostWindow} {row : InventoryTransaction}
  {rows : List InventoryTransaction}

theorem Money.fits_range {amount : Money} (fits : amount.fits) :
    -10 ^ 18 ≤ amount ∧ amount ≤ 10 ^ 18 := by
  have bound : amount.natAbs < 10 ^ 18 := by simpa [Money.fits] using fits
  constructor
  · lia
  · lia

/-- The average of a priced import stays within the old costs and the price. -/
theorem CostWindow.Bounds.import (bounds : window.Bounds carrying.averageUnitCost)
    (ranges : ∀ cost ∈ window.costs, Money.fits cost) (stock : 0 ≤ carrying.stock)
    (positive : 0 < row.quantity) (fits : carrying.stock + row.quantity < 10 ^ 18)
    {price : Money} (priceFits : price.fits) :
    CostWindow.Bounds ⟨window.stock, price :: window.costs⟩ (calculateWeightedAverageCost {
      stock := carrying.stock
      averageUnitCost := carrying.averageUnitCost
      importedQuantity := row.quantity
      importedUnitCost := price }) := by
  obtain ⟨⟨cheapest, isCheapest, above⟩, dearest, isDearest, below⟩ := bounds
  have cheapestRange := Money.fits_range (ranges cheapest isCheapest)
  have dearestRange := Money.fits_range (ranges dearest isDearest)
  have priceRange := Money.fits_range priceFits
  have within := @calculateWeightedAverageCost_mem {
      stock := carrying.stock
      averageUnitCost := carrying.averageUnitCost
      importedQuantity := row.quantity
      importedUnitCost := price } (min cheapest price) (max dearest price) stock positive fits
    (le_min cheapestRange.1 priceRange.1) (max_le dearestRange.2 priceRange.2)
    ⟨(min_le_left _ _).trans above, below.trans (le_max_left _ _)⟩
    ⟨min_le_right _ _, le_max_right _ _⟩
  refine ⟨⟨min cheapest price, ?_, within.1⟩, max dearest price, ?_, within.2⟩
  · rcases min_choice cheapest price with same | same
    · rw [same]
      exact List.mem_cons_of_mem price isCheapest
    · rw [same]
      exact List.mem_cons_self
  · rcases max_choice dearest price with same | same
    · rw [same]
      exact List.mem_cons_of_mem price isDearest
    · rw [same]
      exact List.mem_cons_self

/-- One row: the new average is within the new window. -/
theorem CostWindow.Bounds.post (bounds : window.Bounds carrying.averageUnitCost)
    (ranges : ∀ cost ∈ window.costs, Money.fits cost) (same : window.stock = carrying.stock)
    (positive : 0 < row.quantity)
    (priced : row.isPriced = true → 0 ≤ carrying.stock ∧ row.unitPrice.isSome = true)
    (fits : carrying.stock + row.type.signed row.quantity < 10 ^ 18)
    (pricesFit : row.unitPrice.all (·.fits)) :
    (window.post row).Bounds (carrying.post row).averageUnitCost := by
  by_cases isPriced : row.isPriced = true
  · obtain ⟨stock, isSome⟩ := priced isPriced
    obtain ⟨price, unitPrice⟩ := Option.isSome_iff_exists.mp isSome
    have priceFits : Money.fits price := by simpa [unitPrice] using pricesFit
    have type : row.type = .importTx := by
      simp only [InventoryTransaction.isPriced, Bool.and_eq_true, decide_eq_true_eq] at isPriced
      exact isPriced.1
    rw [type, InventoryTxType.signed] at fits
    simp only [CostWindow.post, Carrying.post, isPriced, if_true, unitPrice, Option.getD_some, same]
    by_cases empty : carrying.stock = 0
    · have priceRange := Money.fits_range priceFits
      have restart := @calculateWeightedAverageCost_empty {
          stock := carrying.stock
          averageUnitCost := carrying.averageUnitCost
          importedQuantity := row.quantity
          importedUnitCost := price } empty positive (by lia) priceRange.1 priceRange.2
      rw [if_pos empty, restart]
      exact ⟨⟨price, List.mem_singleton_self price, le_rfl⟩, price,
        List.mem_singleton_self price, le_rfl⟩
    · rw [if_neg empty]
      exact bounds.import ranges stock positive fits priceFits
  · simp only [CostWindow.post, Carrying.post, isPriced]
    exact bounds

theorem CostWindow.post_fits (ranges : ∀ cost ∈ window.costs, Money.fits cost)
    (priced : row.isPriced = true → row.unitPrice.isSome = true)
    (pricesFit : row.unitPrice.all (·.fits)) :
    ∀ cost ∈ (window.post row).costs, Money.fits cost := by
  intro cost member
  by_cases isPriced : row.isPriced = true
  · obtain ⟨price, unitPrice⟩ := Option.isSome_iff_exists.mp (priced isPriced)
    have priceFits : Money.fits price := by simpa [unitPrice] using pricesFit
    simp only [CostWindow.post, isPriced, if_true, unitPrice, Option.getD_some] at member
    split at member
    · rwa [List.mem_singleton.mp member]
    · rcases List.mem_cons.mp member with rfl | old
      · exact priceFits
      · exact ranges cost old
  · simp only [CostWindow.post, isPriced] at member
    exact ranges cost member

/-- All rows: the induction carries the window with the stock. -/
theorem Explains.bounds (explains : Explains before rows after)
    (bounds : window.Bounds before.averageUnitCost)
    (ranges : ∀ cost ∈ window.costs, Money.fits cost) (same : window.stock = before.stock)
    (fits : fitColumns before.stock rows) :
    (rows.foldl CostWindow.post window).Bounds after.averageUnitCost := by
  induction explains generalizing window with
  | nil => exact bounds
  | @cons before _ row rows positive priced _ inductionHypothesis =>
      simp only [fitColumns, Bool.and_eq_true, decide_eq_true_eq] at fits
      apply inductionHypothesis
      · exact bounds.post ranges same positive priced fits.1.1 fits.1.2
      · exact CostWindow.post_fits ranges (fun isPriced => (priced isPriced).2) fits.1.2
      · simp only [CostWindow.post, Carrying.post, same]
      · exact fits.2

theorem Explains.window_stock (explains : Explains before rows after)
    (same : window.stock = before.stock) :
    (rows.foldl CostWindow.post window).stock = after.stock := by
  induction explains generalizing window with
  | nil => exact same
  | cons _ _ _ inductionHypothesis =>
      apply inductionHypothesis
      simp only [CostWindow.post, Carrying.post, same]

/-- Without a priced import the average stays as it is. -/
theorem Explains.averageUnitCost_eq (explains : Explains before rows after)
    (unpriced : ∀ row ∈ rows, row.isPriced = false) :
    after.averageUnitCost = before.averageUnitCost := by
  induction explains with
  | nil => rfl
  | @cons before after row rows _ _ _ inductionHypothesis =>
      rw [inductionHypothesis fun later member => unpriced later (List.mem_cons_of_mem row member)]
      have free : row.isPriced = false := unpriced row List.mem_cons_self
      simp only [Carrying.post, free]
      rfl

end Window

/-- The ledger rows of the item that a run adds. -/
def newRowsOf (start database : Database) (id : Id) : List InventoryTransaction :=
  rowsOf (database.inventory.transactions.drop start.inventory.transactions.length) id

theorem runs_keepsBooks {start database : Database}
    (runs : Relation.ReflTransGen Step start database) :
    Bookkeeping start.inventory.books database.inventory.books := by
  induction runs with
  | refl => exact refl_of Bookkeeping _
  | tail _ taken inductionHypothesis =>
      exact trans_of Bookkeeping inductionHypothesis taken.keepsBooks

/-- A run accounts for every item that it starts with. -/
theorem Reachable.explains {start database : Database} (reachable : Reachable start)
    (runs : Relation.ReflTransGen Step start database) {id : Id} {old new : InventoryItem}
    (known : start.inventory.items.find? id = some old)
    (found : database.inventory.items.find? id = some new) :
    start.inventory.transactions <+: database.inventory.transactions ∧
      Explains old.carrying (newRowsOf start database id) new.carrying := by
  obtain ⟨-, rows, appended, booked⟩ :=
    runs_keepsBooks runs reachable.stockConsistent
  change database.inventory.transactions = start.inventory.transactions ++ rows at appended
  obtain ⟨last, atDatabase, explained⟩ := booked id old known
  obtain rfl : new = last := Option.some.inj (found.symm.trans atDatabase)
  rw [newRowsOf, appended, List.drop_left]
  exact ⟨List.prefix_append _ rows, explained⟩

/-- From any reachable state on, the average cost of an item lies between two costs of its window:
the costs imported since the last import into empty stock, or with none the cost at the start and
all since.  What imports nothing at a price leaves the average as it is. -/
theorem Reachable.averageUnitCost_mem {start database : Database} (reachable : Reachable start)
    (runs : Relation.ReflTransGen Step start database) {id : Id} {old new : InventoryItem}
    (known : start.inventory.items.find? id = some old)
    (found : database.inventory.items.find? id = some new)
    (costFits : Money.fits old.averageUnitCost)
    (rowsFit : fitColumns old.stock (newRowsOf start database id)) :
    let window := (newRowsOf start database id).foldl CostWindow.post (.opening old)
    start.inventory.transactions <+: database.inventory.transactions ∧
      window.stock = new.stock ∧ window.Bounds new.averageUnitCost ∧
        ((∀ row ∈ newRowsOf start database id, row.isPriced = false) →
          new.averageUnitCost = old.averageUnitCost) := by
  obtain ⟨grown, explains⟩ := reachable.explains runs known found
  have initial : (CostWindow.opening old).Bounds old.averageUnitCost :=
    ⟨⟨_, List.mem_singleton_self _, le_rfl⟩, _, List.mem_singleton_self _, le_rfl⟩
  have ranges : ∀ cost ∈ (CostWindow.opening old).costs, Money.fits cost := by
    intro cost member
    rw [List.mem_singleton.mp member]
    exact costFits
  refine ⟨grown, explains.window_stock rfl, ?_, fun unpriced => ?_⟩
  · exact explains.bounds initial ranges rfl rowsFit
  · exact explains.averageUnitCost_eq unpriced

/-- Two kilograms of beans that cost 10.00 each. -/
def Database.stocked : Database := Database.sample.performAll [
  (.inventory (.createItem 0 {
    name := "Coffee beans"
    stock := some 20000
    initialUnitCost := some 1000
    reorderPoint := none
    categoryId := 0
    unitId := 0 }), 1)]

theorem Reachable.stocked : Reachable Database.stocked := Reachable.sample.performAll _

/-- Two more are imported for 20.00 each, which makes 15.00 on average. -/
def Database.restocked : Database := Database.stocked.performAll [
  (.inventory (.importItem 0 0 20000 2000 none), 2)]

theorem Database.stocked_runs_restocked :
    Relation.ReflTransGen Step Database.stocked Database.restocked :=
  runs_performAll .refl _

theorem Reachable.averageUnitCost_mem_restocked :
    ∃ old new, Database.stocked.inventory.items.find? 0 = some old ∧
      Database.restocked.inventory.items.find? 0 = some new ∧
      ((newRowsOf Database.stocked Database.restocked 0).foldl CostWindow.post
        (.opening old)).Bounds new.averageUnitCost := by
  have stocked : (Database.stocked.inventory.items.find? 0).any (fun old =>
      Money.fits old.averageUnitCost &&
        fitColumns old.stock (newRowsOf Database.stocked Database.restocked 0)) = true := by
    decide +kernel
  have restocked : (Database.restocked.inventory.items.find? 0).isSome = true := by decide +kernel
  obtain ⟨old, known, fits⟩ := (Option.any_eq_true _ _).mp stocked
  obtain ⟨new, found⟩ := Option.isSome_iff_exists.mp restocked
  rw [Bool.and_eq_true] at fits
  exact ⟨old, new, known, found, (Reachable.averageUnitCost_mem Reachable.stocked
    Database.stocked_runs_restocked known found fits.1 fits.2).2.2.1⟩

/-- All of them leave, and nothing comes after that. -/
def Database.emptied : Database := Database.restocked.performAll [
  (.inventory (.exportItem 0 0 40000 none), 3)]

/-- One kilogram leaves before the same import. -/
def Database.exportedFirst : Database := Database.stocked.performAll [
  (.inventory (.exportItem 0 0 10000 none), 2), (.inventory (.importItem 0 0 20000 2000 none), 3)]

/-- The window restarts, with no cost in it, whenever the stock is zero. -/
def CostWindow.postSinceZero (window : CostWindow) (row : InventoryTransaction) : CostWindow :=
  let stock := window.stock + row.type.signed row.quantity
  { stock
    costs := if stock = 0 then [] else
      if row.isPriced then row.unitPrice.getD 0 :: window.costs else window.costs }

/-- The average of an emptied item is none of the costs since its stock was zero or created, and
the average after an import depends on an export that left stock. -/
theorem exists_averageUnitCost_outside :
    (Relation.ReflTransGen Step Database.stocked Database.emptied ∧
      (Database.stocked.inventory.items.find? 0).any (fun old =>
        let window := (newRowsOf Database.stocked Database.emptied 0).foldl
          CostWindow.postSinceZero ⟨old.stock, []⟩
        (Database.emptied.inventory.items.find? 0).any fun new => new.stock = window.stock &&
          !decide (CostWindow.Bounds ⟨new.stock, old.averageUnitCost :: window.costs⟩
            new.averageUnitCost)) = true) ∧
    Relation.ReflTransGen Step Database.stocked Database.restocked ∧
    Relation.ReflTransGen Step Database.stocked Database.exportedFirst ∧
      (newRowsOf Database.stocked Database.restocked 0).map (·.type) = [.importTx] ∧
      (newRowsOf Database.stocked Database.exportedFirst 0).map (·.type) =
        [.exportTx, .importTx] ∧
      (Database.restocked.inventory.items.find? 0).map (·.averageUnitCost) = some 1500 ∧
      (Database.exportedFirst.inventory.items.find? 0).map (·.averageUnitCost) = some 1667 := by
  refine ⟨⟨runs_performAll Database.stocked_runs_restocked _, by decide +kernel⟩,
    Database.stocked_runs_restocked, runs_performAll .refl _, ?_⟩
  decide +kernel

end CoffeeShop
