import CoffeeShop.Cash.ShiftPreservation
import CoffeeShop.Execution
import CoffeeShop.Invoices.Effects

/-!
Every transaction keeps the shifts consistent: the rows of an open shift account for the balance
of its fund, and the ending cash of a closed one stays what the shift stored.
-/

-- An instance for a program has one node for each of its statements.
set_option synthInstance.maxSize 100000

namespace CoffeeShop

open Transaction CashStore CashierShifts

namespace KeepsShifts

variable {id employeeId : Id} {now : Timestamp}

theorem insertFund {row : Fund} {failure : Failure} :
    Preserves ShiftsConsistent (create fund row failure) where
  step before result after committed consistent := by
    obtain ⟨funds, inserted, rfl⟩ := commits_create.mp committed
    refine consistent.withFunds fun fundId old found => ⟨old, ?_, rfl, fun _ => rfl⟩
    have differs : row.id ≠ fundId := fun same =>
      (Table.rows_insert? inserted).2 old (Table.mem_of_find? found)
        ((Table.find?_key found).trans same.symm)
    rw [Table.find?_insert? inserted, if_neg differs]
    exact found

instance createFund {input : CreateFundInput} :
    KeepsShifts (FundsService.create employeeId input) := by
  have inserts (id : Id) : Preserves ShiftsConsistent (create fund {
      id
      name := input.name
      balance := input.openingBalance
      type := input.type
      deletedAt := none
      openingBalance := input.openingBalance } (Failure.constraint "Fund_pkey")) := insertFund
  dsimp only [FundsService.create]
  infer_instance

/-- An edit of one fund that keeps its balance, and its type while an open shift uses it. -/
theorem editFund {change : Fund → Fund} {keeps : ∀ row, (change row).id = row.id}
    {failure : Failure} {before after : CashStore} {result : Unit}
    (consistent : ShiftsConsistent before)
    (committed : Commits (updateExpecting fund id (fun _ => true) change failure keeps)
      before result after)
    (balance : ∀ row, (change row).balance = row.balance)
    (type : ∀ row, before.funds.find? id = some row →
      (∃ shift ∈ before.shifts, shift.status = .opened ∧ shift.fundId = some id) →
        (change row).type = row.type) : ShiftsConsistent after := by
  obtain ⟨-, rfl⟩ := commits_updateExpecting.mp committed
  refine consistent.withFunds fun fundId old found => ?_
  simp only [fund_get, Table.find?_update, found, Option.map_some, Option.some.injEq,
    exists_eq_left']
  by_cases same : old.id = id
  · have key : fundId = id := (Table.find?_key found).symm.trans same
    subst key
    rw [if_pos (by simpa using same)]
    exact ⟨balance old, type old found⟩
  · rw [if_neg (by simpa using same)]
    exact ⟨rfl, fun _ => rfl⟩

instance updateFund {input : UpdateFundInput} :
    KeepsShifts (FundsService.update id employeeId input) where
  step before result after committed consistent := by
    simp only [FundsService.update, commits_bind, commits_cashTx, commits_when] at committed
    obtain ⟨_, _, active, store, ⟨existing, _, found, _, _, checked, _, _, named, updated⟩,
      rfl⟩ := committed
    cases Respects.step (R := Eq) active
    cases Respects.step (R := Eq) named
    simp only [FundsService.findActive, commits_bind, commits_findUniqueOrFail, commits_require,
      commits_pure] at found
    obtain ⟨_, _, ⟨atId, rfl⟩, _, _, ⟨-, rfl⟩, rfl, rfl⟩ := found
    rcases checked with ⟨-, checked⟩ | ⟨same, rfl⟩
    · simp only [FundsService.assertTypeChangeable, commits_bind, commits_get,
        commits_require] at checked
      obtain ⟨_, _, ⟨rfl, rfl⟩, _, _, ⟨-, rfl⟩, _, _, ⟨-, rfl⟩, unused, rfl⟩ := checked
      refine editFund consistent updated (fun _ => rfl) fun row _ => ?_
      rintro ⟨shift, membership, opened, own⟩
      have free : before.cash.shifts.first? (fun shift => shift.fundId = some id &&
          shift.status = .opened) = none := by
        simpa [FundsService.isUsedByOpenShift] using unused
      have fails := Table.first?_eq_none.mp free shift membership
      simp [own, opened] at fails
    · refine editFund consistent updated (fun _ => rfl) fun row atRow _ => ?_
      rw [fund_get, atRow] at atId
      cases atId
      exact not_not.mp same

instance removeFund : KeepsShifts (FundsService.remove id employeeId now) := by
  have edits : Preserves ShiftsConsistent (updateExpecting fund id (fun _ => true)
      (fun row => { row with deletedAt := some now })
      (Failure.notFound "Record to update not found.")) :=
    ⟨fun _ _ _ committed consistent =>
      editFund consistent committed (fun _ => rfl) fun _ _ _ => rfl⟩
  dsimp only [FundsService.remove]
  infer_instance

instance createImport {fundId : Id} :
    KeepsShifts (BankReconciliation.createImport fundId) := by
  dsimp only [BankReconciliation.createImport]
  infer_instance

instance openShift {input : OpenCashierShiftInput} :
    KeepsShifts (CashierShifts.openShift employeeId input) where
  step before result after committed consistent := by
    simp only [CashierShifts.openShift, commits_bind, commits_freshId, commits_cashTx,
      commits_findUniqueOrFail, commits_require, commits_get, commits_findFirst, commits_create,
      Option.isNone_iff_eq_none] at committed
    obtain ⟨_, _, active, _, _, ⟨rfl, rfl⟩, _, ⟨held, _, ⟨found, rfl⟩, _, _, ⟨-, rfl⟩, _, _,
      ⟨type, rfl⟩, _, _, ⟨rfl, rfl⟩, _, _, ⟨-, rfl⟩, _, _, ⟨rfl, rfl⟩, _, _, ⟨free, rfl⟩, shifts,
      inserted, rfl⟩, rfl⟩ := committed
    cases Respects.step (R := Eq) active
    refine consistent.insertShift inserted rfl rfl ?_ type rfl fun other membership opened own => ?_
    · rw [Table.find?_key found]
      exact found
    · have fails := Table.first?_eq_none.mp free other membership
      simp [opened, own] at fails

instance addMovement {input : CreateCashMovementInput} :
    KeepsShifts (CashierShifts.addMovement employeeId input now) where
  step before result after committed consistent := by
    simp only [CashierShifts.addMovement, commits_bind, commits_cashTx, commits_require,
      commits_readCatalog, commits_ite, commits_freshId, commits_pure] at committed
    obtain ⟨_, _, active, shift, _, ⟨_, current, rfl⟩, _, _, ⟨-, rfl⟩, _, _, ⟨rfl, rfl⟩, moved⟩ :=
      committed
    cases Respects.step (R := Eq) active
    obtain ⟨isOpen, rfl⟩ := CashierShiftLedger.commits_requireOpenShift current
    rcases moved with ⟨-, _, _, ⟨rfl, rfl⟩, _, requested, rfl⟩ | ⟨-, _, _, posted, -, rfl⟩
    · exact Preserves.holds ShiftsConsistent requested consistent
    · exact postMovement_shifts consistent isOpen posted

instance resolveExpenseRequest {input : ResolveExpenseRequestInput} :
    KeepsShifts (CashierShifts.resolveExpenseRequest input now) := by
  dsimp only [CashierShifts.resolveExpenseRequest]
  infer_instance

instance rejectExpenseRequest {reason : String} :
    KeepsShifts (CashierShifts.rejectExpenseRequest id employeeId reason now) := by
  dsimp only [CashierShifts.rejectExpenseRequest]
  infer_instance

instance cancelExpenseRequest :
    KeepsShifts (CashierShifts.cancelExpenseRequest id employeeId now) := by
  dsimp only [CashierShifts.cancelExpenseRequest]
  infer_instance

instance approveExpenseRequest {note : Option String} :
    KeepsShifts (CashierShifts.approveExpenseRequest id employeeId note now) where
  step before result after committed consistent := by
    simp only [CashierShifts.approveExpenseRequest, commits_bind, commits_cashTx] at committed
    obtain ⟨_, _, active, request, _, ⟨_, reviewed, rfl⟩, _, posted, moved, _, resolved, rfl⟩ :=
      committed
    cases Respects.step (R := Eq) active
    simp only [reviewExpenseRequest, findExpenseRequestOrThrow, commits_bind, commits_require,
      commits_findUniqueOrFail, commits_pure] at reviewed
    obtain ⟨_, _, ⟨-, rfl⟩, _, _, ⟨-, rfl⟩, _, _, ⟨-, rfl⟩, shift, _, ⟨atShift, rfl⟩, _, _,
      ⟨-, rfl⟩, _, _, ⟨⟨opened, own, -⟩, rfl⟩, rfl, rfl⟩ := reviewed
    have isOpen : OpenCashierShiftContext.IsOpen
        { id := request.shiftId, fundId := request.fundId } before.cash.shifts :=
      ⟨shift, atShift, opened, own⟩
    have kept : ShiftsConsistent posted.cash := postMovement_shifts consistent isOpen moved
    exact Preserves.holds ShiftsConsistent resolved kept

instance createHandover {input : CreateCashHandoverInput} :
    KeepsShifts (CashHandovers.create employeeId input) := by
  dsimp only [CashHandovers.create]
  infer_instance

instance approveHandover {note : Option String} :
    KeepsShifts (CashHandovers.approve id employeeId note now) where
  step before result after committed consistent := by
    simp only [CashHandovers.approve, commits_bind, commits_readCatalog, commits_freshId,
      commits_cashTx, commits_when] at committed
    obtain ⟨_, _, active, _, _, ⟨rfl, rfl⟩, _, _, ⟨rfl, rfl⟩, _, _, ⟨rfl, rfl⟩, _, _, ⟨rfl, rfl⟩,
      _, ⟨⟨handover, destination⟩, _, reviewed, _, debited, source, _, credited, target,
      resolved⟩, rfl⟩ := committed
    cases Respects.step (R := Eq) active
    simp only [CashHandovers.reviewHandover, commits_bind, commits_require,
      commits_findUniqueOrFail, commits_pure, Prod.mk.injEq] at reviewed
    obtain ⟨_, _, found, _, _, pending, _, _, ⟨-, rfl⟩, _, _, ⟨-, rfl⟩, _, _, ⟨atTarget, rfl⟩, _, _,
      ⟨-, rfl⟩, _, _, free, ⟨rfl, rfl⟩, rfl⟩ := reviewed
    cases Respects.step (R := Eq) found
    cases Respects.step (R := Eq) pending
    obtain ⟨rfl, unused⟩ := CashHandovers.commits_assertFundsHaveNoOpenShift free
    obtain ⟨kept, sameShifts⟩ := CashHandovers.postSourceEntries_shifts consistent
      (fun id shift found opened => (unused id shift found opened).1) source
    have paid : ShiftsConsistent credited := by
      rcases target with ⟨-, posted⟩ | ⟨-, rfl⟩
      · refine CashHandovers.postDestinationEntry_shifts kept (fun id shift found opened => ?_) posted
        rw [sameShifts] at found
        by_cases type : destination.type = .cash
        · rw [← Table.find?_key atTarget]
          exact (unused id shift found opened).2 type
        · exact consistent.free atTarget type id shift found opened
      · exact kept
    exact Preserves.holds ShiftsConsistent resolved paid

instance settleHandover {deposit : BankDeposit} :
    KeepsShifts (CashHandovers.settle id employeeId deposit now) where
  step before result after committed consistent := by
    simp only [CashHandovers.settle, CashHandovers.findOrThrow, commits_bind, commits_freshId,
      commits_cashTx, commits_require, commits_findUniqueOrFail] at committed
    obtain ⟨_, _, active, _, _, ⟨rfl, rfl⟩, _, ⟨handover, _, ⟨-, rfl⟩, _, _, ⟨-, rfl⟩, _, _,
      ⟨-, rfl⟩, destination, _, ⟨atTarget, rfl⟩, _, _, ⟨⟨-, type⟩, rfl⟩, _, _, ⟨-, rfl⟩, _, credited,
      posted, _, _, unused, settled⟩, rfl⟩ := committed
    cases Respects.step (R := Eq) active
    cases Respects.step (R := Eq) unused
    have bank : destination.type ≠ .cash := by
      rw [type]
      decide
    have kept : ShiftsConsistent credited :=
      CashHandovers.postDestinationEntry_shifts consistent (consistent.free atTarget bank) posted
    exact Preserves.holds ShiftsConsistent settled kept

instance registerDeposit {deposit : BankDeposit} :
    KeepsShifts (CashHandovers.registerDeposit id employeeId deposit) := by
  dsimp only [CashHandovers.registerDeposit]
  infer_instance

instance resolveHandover {status : CashHandoverStatus} {note : String} :
    Preserves ShiftsConsistent (CashHandovers.resolve id employeeId status note now) := by
  dsimp only [CashHandovers.resolve]
  infer_instance

instance rejectHandover {reason : String} :
    KeepsShifts (CashHandovers.reject id employeeId reason now) := by
  dsimp only [CashHandovers.reject]
  infer_instance

instance cancelHandover : KeepsShifts (CashHandovers.cancel id employeeId now) := by
  dsimp only [CashHandovers.cancel]
  infer_instance

instance createCashRefund {input : CreateCashRefundInput} :
    KeepsShifts (CashRefunds.createRefund id employeeId input now) where
  step before result after committed consistent := by
    simp only [CashRefunds.createRefund, commits_bind, commits_get, commits_salesTx,
      commits_cashTx, commits_require, commits_freshId] at committed
    obtain ⟨_, _, ⟨rfl, rfl⟩, _, _, ⟨_, -, rfl⟩, _, _, refundable, _, _, ⟨-, rfl⟩, shift, _,
      ⟨_, current, rfl⟩, _, _, ⟨-, rfl⟩, _, _, ⟨rfl, rfl⟩, _, _, ⟨rfl, rfl⟩, _, _,
      ⟨_, refunded, rfl⟩, _, -, rfl⟩ := committed
    cases Respects.step (R := Eq) refundable
    obtain ⟨isOpen, rfl⟩ := CashierShiftLedger.commits_requireOpenShift current
    exact CashRefunds.postRefund_shifts consistent isOpen refunded

instance cashRefund {input : CreateCashRefundInput} :
    KeepsShifts (CashRefunds.create id employeeId input now) := by
  dsimp only [CashRefunds.create]
  infer_instance

/-- Recording a sale in a shift that was open when the sale began. -/
theorem recordSale {shift : OpenCashierShiftContext} {method : PaymentMethod} {invoiceId : Id}
    {amount : Money} {before after : Database} (consistent : ShiftsConsistent before.cash)
    (isOpen : shift.IsOpen before.cash.shifts)
    (committed : Commits (when (method = .cash) (CashierShiftLedger.recordCashInvoice
      { shift, invoiceId, employeeId, amount } now)) before () after) :
    ShiftsConsistent after.cash := by
  rcases commits_when.mp committed with ⟨-, recorded⟩ | ⟨-, rfl⟩
  · exact CashierShiftLedger.recordCashInvoice_shifts consistent isOpen recorded
  · exact consistent

instance createInvoiceInTransaction {request : InvoicesService.CreateInvoiceRequest}
    {onlinePickup : Bool} :
    KeepsShifts (InvoicesService.createInvoiceInTransaction request onlinePickup now) where
  step before result after committed consistent := by
    obtain ⟨issue⟩ := InvoicesService.commits_createInvoiceInTransaction committed
    have required := issue.required
    rw [← issue.reserved_cash] at consistent
    change ShiftsConsistent after.cash
    rw [issue.recorded_cash]
    rcases commits_whenSome.mp issue.record with ⟨shift, present, recorded⟩ | ⟨-, kept⟩
    · simp only [InvoicesService.requireShiftIfPaid, present, commits_ite, commits_bind,
        commits_cashTx, commits_pure, Option.some.injEq] at required
      obtain ⟨-, _, _, ⟨_, current, -⟩, rfl, -⟩ | ⟨-, never, -⟩ := required
      · obtain ⟨isOpen, -⟩ := CashierShiftLedger.commits_requireOpenShift current
        rw [← issue.reserved_cash] at isOpen
        exact recordSale consistent isOpen recorded
      · exact nomatch never
    · rw [kept]
      exact consistent

instance createInvoice {input : CreateInvoiceInput} :
    KeepsShifts (InvoicesService.createInvoice employeeId input now) := by
  dsimp only [InvoicesService.createInvoice]
  infer_instance

instance checkoutInvoice {input : CheckoutInvoiceInput} :
    KeepsShifts (InvoicesService.checkoutInvoice employeeId input now) := by
  dsimp only [InvoicesService.checkoutInvoice]
  infer_instance

instance checkoutOnlinePickup {amountTendered : Money} : KeepsShifts
    (InvoicesService.checkoutOnlinePickupInTransaction employeeId id amountTendered now) := by
  dsimp only [InvoicesService.checkoutOnlinePickupInTransaction]
  infer_instance

instance updatePayment {input : UpdateInvoicePaymentInput} :
    KeepsShifts (InvoicesService.updatePayment id employeeId input now) where
  step before result after committed consistent := by
    obtain ⟨payment⟩ := InvoicesService.commits_updatePayment committed
    obtain ⟨isOpen, -⟩ := CashierShiftLedger.commits_requireOpenShift payment.required
    rw [← payment.reserved_cash] at consistent isOpen
    rw [payment.recorded_cash]
    exact recordSale consistent isOpen payment.record

instance collectRequest {amountTendered : Money} :
    KeepsShifts (OnlineOrders.collect id employeeId amountTendered now) := by
  dsimp only [OnlineOrders.collect]
  infer_instance

end KeepsShifts

/-- What a shift stores when it closes is the ending cash by its ledger rows. -/
theorem CashierShifts.close_shifts {employeeId : Id} {input : CloseCashierShiftInput}
    {now : Timestamp} {before after : Database} (consistent : ShiftsConsistent before.cash)
    (billed : ∀ id, cashSales before.sales id = invoiceIncome before.cash.transactions id)
    (committed : Commits (close employeeId input now) before () after) :
    ShiftsConsistent after.cash := by
  simp only [close, commits_bind, commits_get, commits_cashTx, commits_findFirstOrFail,
    commits_require, commits_updateExpecting] at committed
  obtain ⟨_, _, active, shift, _, ⟨_, ⟨found, rfl⟩, rfl⟩, _, _, ⟨rfl, rfl⟩, _, _, ⟨-, rfl⟩, _, _,
    ⟨-, rfl⟩, _, _, ⟨-, rfl⟩, _, _, ⟨-, rfl⟩, _, ⟨-, rfl⟩, rfl⟩ := committed
  cases Respects.step (R := Eq) active
  have atShift := Table.find?_of_mem (Table.mem_of_first? found).1
  refine consistent.closeShift shift.id (fun row holds => ?_) fun row atRow => ?_
  · simp only [Bool.and_eq_true, decide_eq_true_eq] at holds
    exact holds.1
  · change before.cash.shifts.find? shift.id = some shift at atShift
    rw [atShift] at atRow
    cases atRow
    refine ⟨rfl, congrArg some ?_⟩
    change endingCash shift.expectedStartingCash (cashSales before.sales shift.id)
      (manualTotal before.cash shift.id .income) (manualTotal before.cash shift.id .expense)
      (cashRefundAmount before.cash shift.id) = _
    rw [billed]
    rfl

end CoffeeShop
