import CoffeeShop.Library.Respects
import CoffeeShop.Store.Database

/-!
Which parts of the database a transaction of one of its stores leaves alone.
-/

namespace CoffeeShop

open Transaction

section Stores

variable {α τ : Type} {view : Database → τ} {S : τ → τ → Prop} [IsPreorder τ S]

instance Respects.onInventory {R : InventoryStore → InventoryStore → Prop}
    {program : Tx InventoryStore Failure α} [Respects R program] :
    Respects (On Database.inventory R) (inventoryTx program) where
  step before result after committed := by
    obtain ⟨value, ran, rfl⟩ := commits_inventoryTx.mp committed
    exact Respects.step (R := R) ran

instance Respects.onSales {R : SalesStore → SalesStore → Prop}
    {program : Tx SalesStore Failure α} [Respects R program] :
    Respects (On Database.sales R) (salesTx program) where
  step before result after committed := by
    obtain ⟨value, ran, rfl⟩ := commits_salesTx.mp committed
    exact Respects.step (R := R) ran

instance Respects.onCash {R : CashStore → CashStore → Prop}
    {program : Tx CashStore Failure α} [Respects R program] :
    Respects (On Database.cash R) (cashTx program) where
  step before result after committed := by
    obtain ⟨value, ran, rfl⟩ := commits_cashTx.mp committed
    exact Respects.step (R := R) ran

instance Respects.onPayments {R : PaymentStore → PaymentStore → Prop}
    {program : Tx PaymentStore Failure α} [Respects R program] :
    Respects (On Database.payments R) (paymentTx program) where
  step before result after committed := by
    obtain ⟨value, ran, rfl⟩ := commits_paymentTx.mp committed
    exact Respects.step (R := R) ran

instance Respects.onPrinting {R : PrintStore → PrintStore → Prop}
    {program : Tx PrintStore Failure α} [Respects R program] :
    Respects (On Database.printing R) (printingTx program) where
  step before result after committed := by
    obtain ⟨value, ran, rfl⟩ := commits_printingTx.mp committed
    exact Respects.step (R := R) ran

theorem Respects.inPrinting {R : PrintStore → PrintStore → Prop}
    {program : Tx PrintStore Failure α} (respects : Respects R program) :
    Respects (On Database.printing R) (printingTx program) := inferInstance

instance Respects.inventoryTx [Apart view Database.inventoryPart]
    {program : Tx InventoryStore Failure α} : Respects (On view S) (inventoryTx program) :=
  inferInstanceAs (Respects (On view S) (within Database.inventoryPart program))

instance Respects.salesTx [Apart view Database.salesPart]
    {program : Tx SalesStore Failure α} : Respects (On view S) (salesTx program) :=
  inferInstanceAs (Respects (On view S) (within Database.salesPart program))

instance Respects.cashTx [Apart view Database.cashPart]
    {program : Tx CashStore Failure α} : Respects (On view S) (cashTx program) :=
  inferInstanceAs (Respects (On view S) (within Database.cashPart program))

instance Respects.paymentTx [Apart view Database.paymentPart]
    {program : Tx PaymentStore Failure α} : Respects (On view S) (paymentTx program) :=
  inferInstanceAs (Respects (On view S) (within Database.paymentPart program))

instance Respects.printingTx [Apart view Database.printPart]
    {program : Tx PrintStore Failure α} : Respects (On view S) (printingTx program) :=
  inferInstanceAs (Respects (On view S) (within Database.printPart program))

instance Respects.freshId [apart : Apart view Database.idPart] : Respects (On view S) freshId where
  step before result after committed := by
    obtain ⟨rfl, rfl⟩ := commits_freshId.mp committed
    exact Respects.write Database.idPart

end Stores

section Reads

variable {α : Type} {R : Database → Database → Prop} [IsPreorder Database R]

/-- A transaction that only reads its store changes nothing. -/
instance Respects.inventoryReads {program : Tx InventoryStore Failure α} [Respects Eq program] :
    Respects R (CoffeeShop.inventoryTx program) where
  step before result after committed := by
    obtain ⟨value, ran, rfl⟩ := commits_inventoryTx.mp committed
    rw [← Respects.step (R := Eq) ran]
    exact Std.Refl.refl before

instance Respects.salesReads {program : Tx SalesStore Failure α} [Respects Eq program] :
    Respects R (CoffeeShop.salesTx program) where
  step before result after committed := by
    obtain ⟨value, ran, rfl⟩ := commits_salesTx.mp committed
    rw [← Respects.step (R := Eq) ran]
    exact Std.Refl.refl before

instance Respects.cashReads {program : Tx CashStore Failure α} [Respects Eq program] :
    Respects R (CoffeeShop.cashTx program) where
  step before result after committed := by
    obtain ⟨value, ran, rfl⟩ := commits_cashTx.mp committed
    rw [← Respects.step (R := Eq) ran]
    exact Std.Refl.refl before

instance Respects.paymentReads {program : Tx PaymentStore Failure α} [Respects Eq program] :
    Respects R (CoffeeShop.paymentTx program) where
  step before result after committed := by
    obtain ⟨value, ran, rfl⟩ := commits_paymentTx.mp committed
    rw [← Respects.step (R := Eq) ran]
    exact Std.Refl.refl before

instance Respects.printingReads {program : Tx PrintStore Failure α} [Respects Eq program] :
    Respects R (CoffeeShop.printingTx program) where
  step before result after committed := by
    obtain ⟨value, ran, rfl⟩ := commits_printingTx.mp committed
    rw [← Respects.step (R := Eq) ran]
    exact Std.Refl.refl before

instance Respects.readCatalog : Respects R readCatalog := by
  unfold CoffeeShop.readCatalog
  infer_instance

instance Respects.assertActiveEmployee {employeeId : Id} :
    Respects R (assertActiveEmployee employeeId) := by
  unfold CoffeeShop.assertActiveEmployee
  infer_instance

instance Respects.assertActiveEmployeePolicy {employeeId : Id} :
    Respects R (assertActiveEmployeePolicy employeeId) := by
  unfold CoffeeShop.assertActiveEmployeePolicy
  infer_instance

end Reads

section Views

open Database

instance : Apart inventory salesPart := ⟨fun _ _ => rfl⟩
instance : Apart inventory cashPart := ⟨fun _ _ => rfl⟩
instance : Apart inventory paymentPart := ⟨fun _ _ => rfl⟩
instance : Apart inventory printPart := ⟨fun _ _ => rfl⟩
instance : Apart inventory stationPart := ⟨fun _ _ => rfl⟩
instance : Apart inventory idPart := ⟨fun _ _ => rfl⟩
instance : Apart sales inventoryPart := ⟨fun _ _ => rfl⟩
instance : Apart sales cashPart := ⟨fun _ _ => rfl⟩
instance : Apart sales paymentPart := ⟨fun _ _ => rfl⟩
instance : Apart sales printPart := ⟨fun _ _ => rfl⟩
instance : Apart sales stationPart := ⟨fun _ _ => rfl⟩
instance : Apart sales idPart := ⟨fun _ _ => rfl⟩
instance : Apart cash inventoryPart := ⟨fun _ _ => rfl⟩
instance : Apart cash salesPart := ⟨fun _ _ => rfl⟩
instance : Apart cash paymentPart := ⟨fun _ _ => rfl⟩
instance : Apart cash printPart := ⟨fun _ _ => rfl⟩
instance : Apart cash stationPart := ⟨fun _ _ => rfl⟩
instance : Apart cash idPart := ⟨fun _ _ => rfl⟩
instance : Apart payments inventoryPart := ⟨fun _ _ => rfl⟩
instance : Apart payments salesPart := ⟨fun _ _ => rfl⟩
instance : Apart payments cashPart := ⟨fun _ _ => rfl⟩
instance : Apart payments printPart := ⟨fun _ _ => rfl⟩
instance : Apart payments stationPart := ⟨fun _ _ => rfl⟩
instance : Apart payments idPart := ⟨fun _ _ => rfl⟩
instance : Apart printing inventoryPart := ⟨fun _ _ => rfl⟩
instance : Apart printing salesPart := ⟨fun _ _ => rfl⟩
instance : Apart printing cashPart := ⟨fun _ _ => rfl⟩
instance : Apart printing paymentPart := ⟨fun _ _ => rfl⟩
instance : Apart printing stationPart := ⟨fun _ _ => rfl⟩
instance : Apart printing idPart := ⟨fun _ _ => rfl⟩
instance : Apart catalog inventoryPart := ⟨fun _ _ => rfl⟩
instance : Apart catalog salesPart := ⟨fun _ _ => rfl⟩
instance : Apart catalog cashPart := ⟨fun _ _ => rfl⟩
instance : Apart catalog paymentPart := ⟨fun _ _ => rfl⟩
instance : Apart catalog printPart := ⟨fun _ _ => rfl⟩
instance : Apart catalog idPart := ⟨fun _ _ => rfl⟩

end Views

end CoffeeShop
