import CoffeeShop.Cash.Funds
import CoffeeShop.Cash.Handovers
import CoffeeShop.Cash.Shifts
import CoffeeShop.Invoices.CashRefunds
import CoffeeShop.Library.GroupedSum
import CoffeeShop.Store.Frames

/-!
What the cash services post to a fund.

A posting changes the balance of one fund by the sum of the ledger rows that it
appends.  Sales, movements, expenses, refunds and hand-overs are postings.
-/

namespace CoffeeShop

open Transaction CashStore

/-- The fund of a ledger row and the amount as its balance sees it. -/
def CashTransaction.entry (row : CashTransaction) : Id × Money :=
  (row.fundId, row.type.signed row.amount)

/-- One fund moves by the amount, and no fund that was covered is overdrawn. -/
structure Credit (fundId : Id) (amount : Money) (before after : Table Fund.id) : Prop where
  back : ∀ id new, after.find? id = some new → ∃ old, before.find? id = some old ∧
    new.balance = old.balance + (if fundId = id then amount else 0) ∧
    new.openingBalance = old.openingBalance ∧ new.type = old.type ∧ new.deletedAt = old.deletedAt ∧
    (0 ≤ old.balance → 0 ≤ new.balance)
  forth : ∀ id old, before.find? id = some old → ∃ new, after.find? id = some new
  held : ∃ old, before.find? fundId = some old

theorem Credit.updateExpecting (amount : Money) {fundId : Id} {guard : Fund → Bool}
    {change : Fund → Fund} {keeps : ∀ row, (change row).id = row.id} {failure : Failure}
    {before after : CashStore}
    (committed : Commits (updateExpecting fund fundId guard change failure keeps) before () after)
    (moves : ∀ row, guard row → (change row).balance = row.balance + amount ∧
      (change row).openingBalance = row.openingBalance ∧ (change row).type = row.type ∧
      (change row).deletedAt = row.deletedAt ∧ (0 ≤ row.balance → 0 ≤ (change row).balance)) :
    Credit fundId amount before.funds after.funds ∧
      after = { before with funds := after.funds } := by
  obtain ⟨⟨row, found, passed⟩, rfl⟩ := commits_updateExpecting.mp committed
  change before.funds.find? fundId = some row at found
  refine ⟨⟨fun id new atAfter => ?_, fun id old atBefore => ?_, row, found⟩, rfl⟩
  · simp only [fund_set_funds, fund_get, Table.find?_update, Option.map_eq_some_iff] at atAfter
    obtain ⟨old, atBefore, changed⟩ := atAfter
    refine ⟨old, atBefore, ?_⟩
    by_cases same : fundId = id
    · have equal : old = row := by
        rw [← same, found] at atBefore
        exact (Option.some.inj atBefore).symm
      subst equal
      simp only [Table.find?_key found, passed, decide_true, Bool.and_self, if_true] at changed
      subst changed
      rw [if_pos same]
      exact moves old passed
    · have differs : old.id ≠ fundId := fun equal =>
        same (equal.symm.trans (Table.find?_key atBefore))
      simp only [differs, decide_false, Bool.false_and, Bool.false_eq_true, if_false] at changed
      subst changed
      simp [same]
  · simp [atBefore]

/-- The rows are appended to the ledger and their sum is credited to the fund. -/
structure Posts (fundId : Id) (rows : List CashTransaction) (before after : CashStore) : Prop where
  credit : Credit fundId (rows.map fun row => row.type.signed row.amount).sum
    before.funds after.funds
  appended : after.transactions.rows = before.transactions.rows ++ rows
  own : ∀ row ∈ rows, row.fundId = fundId
  shifts : after.shifts = before.shifts
  refunds : after.refunds = before.refunds

theorem Posts.fresh {fundId : Id} {rows : List CashTransaction} {before after : CashStore}
    (posts : Posts fundId rows before after) :
    ∀ row ∈ rows, ∀ other ∈ before.transactions, other.id ≠ row.id := by
  have distinct := after.transactions.distinct
  rw [posts.appended, List.map_append, List.nodup_append] at distinct
  exact fun row added other old => distinct.2.2 _ (List.mem_map_of_mem old) _
    (List.mem_map_of_mem added)

/-- What `createTransaction` checks and writes. -/
theorem commits_createTransaction {row : CashTransaction} {before after : CashStore}
    (committed : Commits (CashierShiftLedger.createTransaction row) before () after) :
    0 < row.amount ∧ after.transactions.rows = before.transactions.rows ++ [row] ∧
      after = { before with transactions := after.transactions } := by
  simp only [CashierShiftLedger.createTransaction, commits_bind, commits_require, commits_findFirst,
    commits_create] at committed
  obtain ⟨_, _, ⟨positive, rfl⟩, _, _, ⟨-, rfl⟩, _, _, ⟨-, rfl⟩, next, inserted, rfl⟩ := committed
  exact ⟨positive, (Table.rows_insert? inserted).1, rfl⟩

/-- A balance update followed by one ledger row for it. -/
theorem Posts.ofCredit {row : CashTransaction} {before middle after : CashStore}
    (credit : Credit row.fundId (row.type.signed row.amount) before.funds middle.funds)
    (updated : middle = { before with funds := middle.funds })
    (created : Commits (CashierShiftLedger.createTransaction row) middle () after) :
    Posts row.fundId [row] before after := by
  obtain ⟨-, appended, same⟩ := commits_createTransaction created
  rw [same, updated] at *
  exact ⟨by simpa using credit, appended, by simp, rfl, rfl⟩

section Leaves

variable {now : Timestamp}

theorem CashierShiftLedger.recordCashInvoice_posts
    {input : CashierShiftLedger.RecordCashInvoiceInput} {before after : Database} {result : Unit}
    (committed : Commits (CashierShiftLedger.recordCashInvoice input now) before result after) :
    Posts input.shift.fundId [CashierShiftLedger.invoiceEntry input before.nextId now]
        before.cash after.cash ∧
      after = { before with cash := after.cash, nextId := before.nextId + 1 } := by
  simp only [CashierShiftLedger.recordCashInvoice, commits_bind, commits_freshId,
    commits_cashTx] at committed
  obtain ⟨_, _, ⟨rfl, rfl⟩, store, ⟨_, middle, created, credited⟩, rfl⟩ := committed
  obtain ⟨positive, appended, same⟩ := commits_createTransaction created
  obtain ⟨credit, updated⟩ := Credit.updateExpecting input.amount credited
    fun row _ => ⟨rfl, rfl, rfl, rfl, fun nonneg => Int.add_nonneg nonneg positive.le⟩
  refine ⟨?_, rfl⟩
  rw [same] at credit updated
  rw [updated]
  exact ⟨by simpa [CashFlowType.signed, invoiceEntry] using credit, appended,
    by simp [invoiceEntry], rfl, rfl⟩

theorem CashierShifts.moveBalance_credit {input : CashierShifts.MovementInput}
    (nonneg : 0 ≤ input.amount) {before after : CashStore}
    (committed : Commits (CashierShifts.moveBalance input) before () after) :
    Credit input.shift.fundId (input.type.signed input.amount) before.funds after.funds ∧
      after = { before with funds := after.funds } := by
  unfold CashierShifts.moveBalance at committed
  cases type : input.type with
  | income =>
      rw [type] at committed
      exact Credit.updateExpecting input.amount committed
        fun row _ => ⟨rfl, rfl, rfl, rfl, fun covered => Int.add_nonneg covered nonneg⟩
  | expense =>
      rw [type] at committed
      refine Credit.updateExpecting (-input.amount) committed
        fun row passed => ⟨Int.sub_eq_add_neg, rfl, rfl, rfl, fun _ => ?_⟩
      simp only [Bool.and_eq_true, decide_eq_true_eq] at passed
      exact Int.sub_nonneg_of_le passed.2

theorem CashierShifts.postMovement_posts {input : CashierShifts.MovementInput}
    {before after : Database} {id : Id}
    (committed : Commits (CashierShifts.postMovement input now) before id after) :
    Posts input.shift.fundId [CashierShifts.movementEntry input before.nextId now]
        before.cash after.cash ∧
      after = { before with cash := after.cash, nextId := before.nextId + 1 } := by
  simp only [CashierShifts.postMovement, commits_bind, commits_freshId, commits_cashTx,
    commits_pure] at committed
  obtain ⟨_, _, ⟨rfl, rfl⟩, _, _, ⟨store, ⟨_, middle, moved, created⟩, rfl⟩, rfl, rfl⟩ := committed
  have positive : 0 < input.amount := (commits_createTransaction created).1
  obtain ⟨credit, updated⟩ := CashierShifts.moveBalance_credit positive.le moved
  exact ⟨Posts.ofCredit credit updated created, rfl⟩

open CashHandovers

theorem CashHandovers.postDestinationEntry_posts {handover : CashHandover} {employeeId id : Id}
    {expectedFundType : FundType} {before after : CashStore}
    (committed : Commits (postDestinationEntry handover employeeId id now expectedFundType)
      before () after) :
    Posts handover.destinationFundId [handoverEntry handover.destinationFundId .income
      handover.amounts.transferAmount employeeId id now] before after := by
  simp only [postDestinationEntry, commits_bind] at committed
  obtain ⟨_, middle, credited, created⟩ := committed
  have positive := (commits_createTransaction created).1
  obtain ⟨credit, updated⟩ := Credit.updateExpecting handover.amounts.transferAmount credited
    fun row _ => ⟨rfl, rfl, rfl, rfl, fun nonneg => Int.add_nonneg nonneg positive.le⟩
  exact Posts.ofCredit credit updated created

/-- The ledger rows of the source fund of a hand-over: its variance, if any, and its transfer. -/
def CashHandovers.sourceEntries (handover : CashHandover) (employeeId varianceId sourceId : Id)
    (now : Timestamp) : List CashTransaction :=
  (if handover.amounts.varianceAmount ≠ 0 then
    [handoverEntry handover.sourceFundId
      (if handover.amounts.varianceAmount > 0 then .income else .expense)
      handover.amounts.varianceAmount.natAbs employeeId varianceId now] else []) ++
  [handoverEntry handover.sourceFundId .expense handover.amounts.transferAmount employeeId
    sourceId now]

theorem CashFlowType.signed_natAbs (difference : Money) :
    (if difference > 0 then CashFlowType.income else .expense).signed difference.natAbs =
      difference := by
  by_cases more : difference > 0
  · rw [if_pos more]
    exact Int.natAbs_of_nonneg more.le
  · rw [if_neg more]
    change -(difference.natAbs : Int) = difference
    lia

/-- The rows bring the expected cash down to the retained cash. -/
theorem CashHandovers.sum_sourceEntries (handover : CashHandover)
    (employeeId varianceId sourceId : Id) :
    ((sourceEntries handover employeeId varianceId sourceId now).map
      fun row => row.type.signed row.amount).sum =
        handover.amounts.retainedCash - handover.amounts.expectedCash := by
  have transfer : CashFlowType.expense.signed handover.amounts.transferAmount =
      handover.amounts.retainedCash - handover.amounts.countedCash := Int.neg_sub _ _
  unfold sourceEntries
  by_cases differs : handover.amounts.varianceAmount ≠ 0
  · rw [if_pos differs]
    simp only [List.cons_append, List.nil_append, List.map_cons, List.map_nil,
      List.sum_cons, List.sum_nil, handoverEntry, CashFlowType.signed_natAbs, transfer]
    simp only [HandoverAmounts.varianceAmount]
    lia
  · rw [if_neg differs]
    simp only [List.nil_append, List.map_cons, List.map_nil, List.sum_cons,
      List.sum_nil, handoverEntry, transfer]
    simp only [HandoverAmounts.varianceAmount] at differs
    lia

theorem CashHandovers.mem_sourceEntries {handover : CashHandover}
    {employeeId varianceId sourceId : Id} {row : CashTransaction}
    (membership : row ∈ sourceEntries handover employeeId varianceId sourceId now) :
    row.fundId = handover.sourceFundId ∧ row.shiftId = none ∧ row.invoiceId = none := by
  unfold sourceEntries at membership
  rcases List.mem_append.mp membership with varied | transferred
  · split at varied
    · rw [List.mem_singleton.mp varied]
      exact ⟨rfl, rfl, rfl⟩
    · exact (List.not_mem_nil varied).elim
  · rw [List.mem_singleton.mp transferred]
    exact ⟨rfl, rfl, rfl⟩

theorem CashHandovers.postSourceEntries_posts {handover : CashHandover}
    {employeeId varianceId sourceId : Id} {before after : CashStore}
    (committed : Commits (postSourceEntries handover employeeId varianceId sourceId now)
      before () after) :
    Posts handover.sourceFundId (sourceEntries handover employeeId varianceId sourceId now)
      before after := by
  simp only [postSourceEntries, commits_bind, commits_when] at committed
  obtain ⟨_, middle, debited, _, store, varied, created⟩ := committed
  obtain ⟨credit, updated⟩ := Credit.updateExpecting
    (handover.amounts.retainedCash - handover.amounts.expectedCash) debited fun row passed => by
      simp only [Bool.and_eq_true, decide_eq_true_eq] at passed
      refine ⟨?_, rfl, rfl, rfl, fun _ => handover.amounts.retained_nonneg⟩
      simp only [passed.2]
      lia
  obtain ⟨-, transferred, final⟩ := commits_createTransaction created
  have rows : store.transactions.rows = before.transactions.rows ++
      (if handover.amounts.varianceAmount ≠ 0 then
        [handoverEntry handover.sourceFundId
          (if handover.amounts.varianceAmount > 0 then .income else .expense)
          handover.amounts.varianceAmount.natAbs employeeId varianceId now] else []) ∧
      store = { middle with transactions := store.transactions } := by
    rcases varied with ⟨differs, inserted⟩ | ⟨same, rfl⟩
    · obtain ⟨-, appended, kept⟩ := commits_createTransaction inserted
      rw [if_pos differs]
      rw [updated] at appended
      exact ⟨appended, kept⟩
    · rw [if_neg same, List.append_nil, updated]
      exact ⟨rfl, rfl⟩
  obtain ⟨appended, kept⟩ := rows
  rw [kept, updated] at final
  refine ⟨?_, ?_, ?_, ?_, ?_⟩
  · rw [sum_sourceEntries, final]
    exact credit
  · rw [transferred, appended, sourceEntries, List.append_assoc]
  · exact fun row membership => (mem_sourceEntries membership).1
  · rw [final]
  · rw [final]

theorem CashRefunds.postRefund_posts {invoiceId employeeId movementId refundId : Id}
    {input : CreateCashRefundInput} {shift : OpenCashierShiftContext} {before after : CashStore}
    (committed : Commits
      (CashRefunds.postRefund invoiceId employeeId input shift movementId refundId now)
      before () after) :
    ∃ middle refunds, Posts shift.fundId
        [CashRefunds.refundEntry input employeeId shift movementId now] before middle ∧
      middle.refunds.insert? {
        id := refundId
        amount := input.amount
        reason := input.reason
        idempotencyKey := input.idempotencyKey
        completedAt := now
        invoiceId
        requestedById := employeeId
        cashTransactionId := movementId } = some refunds ∧
      after = { middle with refunds } := by
  simp only [CashRefunds.postRefund, commits_bind, commits_create] at committed
  obtain ⟨_, middle, debited, _, store, created, refunds, inserted, rfl⟩ := committed
  obtain ⟨credit, updated⟩ := Credit.updateExpecting (-input.amount.val) debited
    fun row passed => ⟨Int.sub_eq_add_neg, rfl, rfl, rfl, fun _ => by
      simp only [Bool.and_eq_true, decide_eq_true_eq] at passed
      exact Int.sub_nonneg_of_le passed.2⟩
  exact ⟨store, refunds, Posts.ofCredit credit updated created, inserted, rfl⟩

end Leaves

end CoffeeShop
