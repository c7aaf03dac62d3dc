import CoffeeShop.Cash.Posting
import CoffeeShop.Execution
import CoffeeShop.Footprints

/-!
The balance of every fund is what its ledger says, in every reachable state.
-/

-- An instance for a program has one node for each of its statements.
set_option synthInstance.maxSize 100000

namespace CoffeeShop

open Transaction CashStore

/-- The amounts of the ledger rows of one type of a fund. -/
def fundTotal (transactions : Table CashTransaction.id) (type : CashFlowType) (id : Id) : Money :=
  transactions.sumWhere (fun row => row.type = type && row.fundId = id) (·.amount)

/-- The incomes of a fund less its expenses. -/
def fundLedger (transactions : Table CashTransaction.id) (id : Id) : Money :=
  fundTotal transactions .income id - fundTotal transactions .expense id

theorem fundLedger_eq (transactions : Table CashTransaction.id) (id : Id) :
    fundLedger transactions id = GroupedSum.total (transactions.rows.map (·.entry)) id := by
  unfold fundLedger fundTotal Table.sumWhere Table.select
  induction transactions.rows with
  | nil => rfl
  | cons head tail inductionHypothesis =>
      rw [List.map_cons, GroupedSum.total_cons, ← inductionHypothesis]
      by_cases same : head.fundId = id
      · cases type : head.type with
        | income =>
            simp [CashTransaction.entry, CashFlowType.signed, same, type]
            lia
        | expense =>
            simp [CashTransaction.entry, CashFlowType.signed, same, type]
            lia
      · simp [CashTransaction.entry, same]

theorem fundLedger_posts {fundId : Id} {rows : List CashTransaction} {before after : CashStore}
    (posts : Posts fundId rows before after) (id : Id) :
    fundLedger after.transactions id = fundLedger before.transactions id +
      if fundId = id then (rows.map fun row => row.type.signed row.amount).sum else 0 := by
  have added : GroupedSum.total (rows.map (·.entry)) id =
      if fundId = id then (rows.map fun row => row.type.signed row.amount).sum else 0 := by
    have own := posts.own
    clear posts
    induction rows with
    | nil => simp
    | cons head tail inductionHypothesis =>
        have rest := inductionHypothesis fun row inTail => own row (List.mem_cons_of_mem head inTail)
        rw [List.map_cons, GroupedSum.total_cons, rest]
        by_cases same : fundId = id
        · simp [CashTransaction.entry, own head List.mem_cons_self, same]
        · simp [CashTransaction.entry, own head List.mem_cons_self, same]
  rw [fundLedger_eq, fundLedger_eq, posts.appended, List.map_append, GroupedSum.total_append, added]

structure FundsBalanced (funds : Table Fund.id) (transactions : Table CashTransaction.id) :
    Prop where
  ledger : ∀ id fund, funds.find? id = some fund →
    fund.balance = fund.openingBalance + fundLedger transactions id
  nonneg : ∀ id fund, funds.find? id = some fund → 0 ≤ fund.balance
  posts : ∀ row ∈ transactions, ∃ fund, funds.find? row.fundId = some fund

def CashStore.Balanced (store : CashStore) : Prop := FundsBalanced store.funds store.transactions

theorem FundsBalanced.post {fundId : Id} {rows : List CashTransaction} {before after : CashStore}
    (balanced : before.Balanced) (posts : Posts fundId rows before after) : after.Balanced where
  ledger id new found := by
    obtain ⟨old, atBefore, balance, opening, -⟩ := posts.credit.back id new found
    rw [balance, opening, balanced.ledger id old atBefore, fundLedger_posts posts, Int.add_assoc]
  nonneg id new found := by
    obtain ⟨old, atBefore, -, -, -, -, covers⟩ := posts.credit.back id new found
    exact covers (balanced.nonneg id old atBefore)
  posts row membership := by
    rw [Table.mem_def, posts.appended] at membership
    rcases List.mem_append.mp membership with old | added
    · obtain ⟨fund, found⟩ := balanced.posts row old
      exact posts.credit.forth row.fundId fund found
    · obtain ⟨fund, found⟩ := posts.credit.held
      rw [posts.own row added]
      exact posts.credit.forth fundId fund found

section Frames

instance : Apart Balanced cashierShift := ⟨fun _ _ => rfl⟩
instance : Apart Balanced cashExpenseRequest := ⟨fun _ _ => rfl⟩
instance : Apart Balanced cashHandover := ⟨fun _ _ => rfl⟩
instance : Apart Balanced cashRefund := ⟨fun _ _ => rfl⟩
instance : Apart Balanced bankStatementImport := ⟨fun _ _ => rfl⟩

end Frames

/-- A new fund has no ledger rows yet. -/
theorem FundsBalanced.insert {funds after : Table Fund.id}
    {transactions : Table CashTransaction.id} {fund : Fund}
    (balanced : FundsBalanced funds transactions) (inserted : funds.insert? fund = some after)
    (opening : fund.balance = fund.openingBalance) (nonneg : 0 ≤ fund.balance) :
    FundsBalanced after transactions := by
  have missing : funds.find? fund.id = none :=
    Table.find?_eq_none.mpr (Table.rows_insert? inserted).2
  constructor
  · intro id found atId
    rw [Table.find?_insert? inserted] at atId
    by_cases same : fund.id = id
    · rw [if_pos same] at atId
      cases atId
      have empty : fundLedger transactions id = 0 := by
        rw [fundLedger_eq]
        refine GroupedSum.total_eq_zero fun entry membership equal => ?_
        obtain ⟨row, inTable, rfl⟩ := List.mem_map.mp membership
        obtain ⟨holder, held⟩ := balanced.posts row inTable
        rw [show row.fundId = fund.id from equal.trans same.symm, missing] at held
        exact nomatch held
      rw [empty, opening, Int.add_zero]
    · rw [if_neg same] at atId
      exact balanced.ledger id found atId
  · intro id found atId
    rw [Table.find?_insert? inserted] at atId
    by_cases same : fund.id = id
    · rw [if_pos same] at atId
      cases atId
      exact nonneg
    · rw [if_neg same] at atId
      exact balanced.nonneg id found atId
  · intro row membership
    obtain ⟨holder, held⟩ := balanced.posts row membership
    rw [Table.find?_insert? inserted]
    split
    · exact ⟨fund, rfl⟩
    · exact ⟨holder, held⟩

/-- An edit of a fund that leaves its amounts alone. -/
theorem FundsBalanced.edit {id : Id} {change : Fund → Fund}
    {keeps : ∀ row, (change row).id = row.id} {failure : Failure}
    (balance : ∀ row, (change row).balance = row.balance)
    (opening : ∀ row, (change row).openingBalance = row.openingBalance) :
    Preserves Balanced (updateExpecting fund id (fun _ => true) change failure keeps) where
  step before result after committed balanced := by
    obtain ⟨-, rfl⟩ := commits_updateExpecting.mp committed
    have back {wanted : Id} {new : Fund}
        (found : (before.funds.update (fun row => row.id = id && true) change keeps).find? wanted =
          some new) : ∃ old, before.funds.find? wanted = some old ∧ new.balance = old.balance ∧
            new.openingBalance = old.openingBalance := by
      simp only [Table.find?_update, Option.map_eq_some_iff] at found
      obtain ⟨old, atBefore, rfl⟩ := found
      refine ⟨old, atBefore, ?_⟩
      split
      · exact ⟨balance old, opening old⟩
      · exact ⟨rfl, rfl⟩
    constructor
    · intro wanted new found
      obtain ⟨old, atBefore, sameBalance, sameOpening⟩ := back found
      rw [sameBalance, sameOpening]
      exact balanced.ledger wanted old atBefore
    · intro wanted new found
      obtain ⟨old, atBefore, sameBalance, -⟩ := back found
      rw [sameBalance]
      exact balanced.nonneg wanted old atBefore
    · intro row membership
      obtain ⟨holder, held⟩ := balanced.posts row membership
      change ∃ held, (before.funds.update _ change keeps).find? row.fundId = some held
      simp [held]

/-- The balances of the database agree with the ledger if they did. -/
abbrev KeepsBalances {α : Type} (program : Transact α) : Prop :=
  Respects (On Database.cash (On Balanced Implies)) program

namespace KeepsBalances

variable {id employeeId : Id} {now : Timestamp}

instance recordCashInvoice {input : CashierShiftLedger.RecordCashInvoiceInput} :
    KeepsBalances (CashierShiftLedger.recordCashInvoice input now) where
  step _ _ _ committed balanced :=
    FundsBalanced.post balanced (CashierShiftLedger.recordCashInvoice_posts committed).1

instance postMovement {input : CashierShifts.MovementInput} :
    KeepsBalances (CashierShifts.postMovement input now) where
  step _ _ _ committed balanced :=
    FundsBalanced.post balanced (CashierShifts.postMovement_posts committed).1

instance postDestinationEntry {handover : CashHandover} {entryId : Id} {type : FundType} :
    Preserves Balanced
      (CashHandovers.postDestinationEntry handover employeeId entryId now type) where
  step _ _ _ committed balanced :=
    FundsBalanced.post balanced (CashHandovers.postDestinationEntry_posts committed)

instance postSourceEntries {handover : CashHandover} {varianceId sourceId : Id} :
    Preserves Balanced
      (CashHandovers.postSourceEntries handover employeeId varianceId sourceId now) where
  step _ _ _ committed balanced :=
    FundsBalanced.post balanced (CashHandovers.postSourceEntries_posts committed)

instance postRefund {input : CreateCashRefundInput} {shift : OpenCashierShiftContext}
    {movementId refundId : Id} : Preserves Balanced
      (CashRefunds.postRefund id employeeId input shift movementId refundId now) where
  step _ _ _ committed balanced := by
    obtain ⟨middle, refunds, posts, -, rfl⟩ := CashRefunds.postRefund_posts committed
    have kept : middle.Balanced := FundsBalanced.post balanced posts
    exact kept

instance resolveHandover {status : CashHandoverStatus} {note : String} :
    Preserves Balanced (CashHandovers.resolve id employeeId status note now) := by
  dsimp only [CashHandovers.resolve]
  infer_instance

theorem insertFund {row : Fund} {failure : Failure} (opening : row.balance = row.openingBalance)
    (nonneg : 0 ≤ row.balance) : Preserves Balanced (create fund row failure) where
  step before result after committed balanced := by
    obtain ⟨next, inserted, rfl⟩ := commits_create.mp committed
    exact FundsBalanced.insert balanced inserted opening nonneg

instance updateFund {input : UpdateFundInput} :
    KeepsBalances (FundsService.update id employeeId input) := by
  have edits : Preserves Balanced (updateExpecting fund id (fun _ => true)
      (fun row => { row with
        name := input.name.getD row.name
        type := input.type.getD row.type }) (Failure.notFound "Record to update not found.")) :=
    FundsBalanced.edit (fun _ => rfl) fun _ => rfl
  dsimp only [FundsService.update]
  infer_instance

instance removeFund : KeepsBalances (FundsService.remove id employeeId now) := by
  have edits : Preserves Balanced (updateExpecting fund id (fun _ => true)
      (fun row => { row with deletedAt := some now })
      (Failure.notFound "Record to update not found.")) :=
    FundsBalanced.edit (fun _ => rfl) fun _ => rfl
  dsimp only [FundsService.remove]
  infer_instance

instance resolveExpenseRequest {input : CashierShifts.ResolveExpenseRequestInput} :
    KeepsBalances (CashierShifts.resolveExpenseRequest input now) := by
  dsimp only [CashierShifts.resolveExpenseRequest]
  infer_instance

instance rejectExpenseRequest {reason : String} :
    KeepsBalances (CashierShifts.rejectExpenseRequest id employeeId reason now) := by
  dsimp only [CashierShifts.rejectExpenseRequest]
  infer_instance

instance cancelExpenseRequest :
    KeepsBalances (CashierShifts.cancelExpenseRequest id employeeId now) := by
  dsimp only [CashierShifts.cancelExpenseRequest]
  infer_instance

instance closeShift {input : CloseCashierShiftInput} :
    KeepsBalances (CashierShifts.close employeeId input now) := by
  dsimp only [CashierShifts.close]
  infer_instance

instance registerDeposit {deposit : BankDeposit} :
    KeepsBalances (CashHandovers.registerDeposit id employeeId deposit) := by
  dsimp only [CashHandovers.registerDeposit]
  infer_instance

instance rejectHandover {reason : String} :
    KeepsBalances (CashHandovers.reject id employeeId reason now) := by
  dsimp only [CashHandovers.reject]
  infer_instance

instance cancelHandover : KeepsBalances (CashHandovers.cancel id employeeId now) := by
  dsimp only [CashHandovers.cancel]
  infer_instance

instance createFund {input : CreateFundInput} :
    KeepsBalances (FundsService.create employeeId input) := by
  have inserts (id : Id) : Preserves Balanced (create fund {
      id
      name := input.name
      balance := input.openingBalance
      type := input.type
      deletedAt := none
      openingBalance := input.openingBalance } (Failure.constraint "Fund_pkey")) :=
    insertFund rfl input.openingBalance.property
  dsimp only [FundsService.create]
  infer_instance

instance createImport {fundId : Id} :
    KeepsBalances (BankReconciliation.createImport fundId) := by
  dsimp only [BankReconciliation.createImport]
  infer_instance

instance openShift {input : OpenCashierShiftInput} :
    KeepsBalances (CashierShifts.openShift employeeId input) := by
  dsimp only [CashierShifts.openShift]
  infer_instance

instance addMovement {input : CreateCashMovementInput} :
    KeepsBalances (CashierShifts.addMovement employeeId input now) := by
  dsimp only [CashierShifts.addMovement]
  infer_instance

instance approveExpenseRequest {note : Option String} :
    KeepsBalances (CashierShifts.approveExpenseRequest id employeeId note now) := by
  dsimp only [CashierShifts.approveExpenseRequest]
  infer_instance

instance createHandover {input : CreateCashHandoverInput} :
    KeepsBalances (CashHandovers.create employeeId input) := by
  dsimp only [CashHandovers.create]
  infer_instance

instance approveHandover {note : Option String} :
    KeepsBalances (CashHandovers.approve id employeeId note now) := by
  dsimp only [CashHandovers.approve]
  infer_instance

instance settleHandover {deposit : BankDeposit} :
    KeepsBalances (CashHandovers.settle id employeeId deposit now) := by
  dsimp only [CashHandovers.settle]
  infer_instance

instance createCashRefund {input : CreateCashRefundInput} :
    KeepsBalances (CashRefunds.createRefund id employeeId input now) := by
  dsimp only [CashRefunds.createRefund]
  infer_instance

instance cashRefund {input : CreateCashRefundInput} :
    KeepsBalances (CashRefunds.create id employeeId input now) := by
  dsimp only [CashRefunds.create]
  infer_instance

instance createInvoiceInTransaction {request : InvoicesService.CreateInvoiceRequest} {onlinePickup : Bool} :
    KeepsBalances (InvoicesService.createInvoiceInTransaction request onlinePickup now) := by
  dsimp only [InvoicesService.createInvoiceInTransaction]
  infer_instance

instance createInvoice {input : CreateInvoiceInput} :
    KeepsBalances (InvoicesService.createInvoice employeeId input now) := by
  dsimp only [InvoicesService.createInvoice]
  infer_instance

instance checkoutInvoice {input : CheckoutInvoiceInput} :
    KeepsBalances (InvoicesService.checkoutInvoice employeeId input now) := by
  dsimp only [InvoicesService.checkoutInvoice]
  infer_instance

instance checkoutOnlinePickup {amountTendered : Money} :
    KeepsBalances (InvoicesService.checkoutOnlinePickupInTransaction employeeId id amountTendered now) := by
  dsimp only [InvoicesService.checkoutOnlinePickupInTransaction]
  infer_instance

instance updatePayment {input : UpdateInvoicePaymentInput} :
    KeepsBalances (InvoicesService.updatePayment id employeeId input now) := by
  dsimp only [InvoicesService.updatePayment]
  infer_instance

instance collectRequest {amountTendered : Money} :
    KeepsBalances (OnlineOrders.collect id employeeId amountTendered now) := by
  dsimp only [OnlineOrders.collect]
  infer_instance

end KeepsBalances

instance Command.keepsBalances {command : Command} {now : Timestamp} :
    KeepsBalances (command.execute now) := by
  cases command with
  | inventory command =>
      cases command <;> (dsimp only [Command.execute, InventoryCommand.execute]; infer_instance)
  | cash command =>
      cases command <;> (dsimp only [Command.execute, CashCommand.execute]; infer_instance)
  | order command =>
      cases command <;> (dsimp only [Command.execute, OrderCommand.execute]; infer_instance)
  | invoice command =>
      cases command <;> (dsimp only [Command.execute, InvoiceCommand.execute]; infer_instance)
  | online command =>
      cases command <;> (dsimp only [Command.execute, OnlineCommand.execute]; infer_instance)
  | payment command =>
      cases command <;> (dsimp only [Command.execute, PaymentCommand.execute]; infer_instance)
  | table command =>
      cases command <;> (dsimp only [Command.execute, TableCommand.execute]; infer_instance)
  | print command =>
      cases command <;> (dsimp only [Command.execute, PrintCommand.execute]; infer_instance)

theorem CashStore.balanced_empty : CashStore.empty.Balanced where
  ledger _ _ found := nomatch found
  nonneg _ _ found := nomatch found
  posts _ membership := (Table.not_mem_empty membership).elim

theorem Reachable.balanced {database : Database} (reachable : Reachable database) :
    database.cash.Balanced := by
  refine reachable.preserved (fun database => database.cash.Balanced) CashStore.balanced_empty
    (fun command now => ?_) fun _ _ _ holds => holds
  exact Command.keepsBalances

/-- The balance of every fund is its opening balance with its incomes less its expenses, and
no fund is overdrawn. -/
theorem Reachable.balance_eq {database : Database} (reachable : Reachable database) :
    ∀ fund ∈ database.cash.funds,
      fund.balance = fund.openingBalance +
        fundTotal database.cash.transactions .income fund.id -
        fundTotal database.cash.transactions .expense fund.id ∧ 0 ≤ fund.balance := by
  intro fund membership
  have balanced := reachable.balanced
  have found := Table.find?_of_mem membership
  refine ⟨?_, balanced.nonneg fund.id fund found⟩
  rw [balanced.ledger fund.id fund found, fundLedger, Int.add_sub_assoc]

theorem Reachable.balance_eq_sold :
    (∀ fund ∈ Database.sold.cash.funds,
      fund.balance = fund.openingBalance +
        fundTotal Database.sold.cash.transactions .income fund.id -
        fundTotal Database.sold.cash.transactions .expense fund.id ∧ 0 ≤ fund.balance) ∧
      Database.sold.cash.funds.rows.map (·.balance) = [57000000] :=
  ⟨Reachable.balance_eq Reachable.sold, by decide +kernel⟩

end CoffeeShop
