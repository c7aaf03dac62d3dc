import CoffeeShop.Cash.Posting

/-!
What the cash tables of a shift add up to.

The ledger rows of an open shift account for the balance of its fund, and those of a
closed shift stay what its stored ending cash was computed from.  A row is the income of
an invoice, a cash refund or a manual movement, so the sums of the reconciliation add up
to the rows.
-/

namespace CoffeeShop

open Transaction CashStore CashierShifts

/-- The ledger rows of a shift, as the balance of its fund sees them. -/
def shiftTotal (transactions : Table CashTransaction.id) (shiftId : Id) : Money :=
  transactions.sumWhere (fun row => row.shiftId = some shiftId) fun row =>
    row.type.signed row.amount

/-- The part of the total that comes from invoices. -/
def invoiceIncome (transactions : Table CashTransaction.id) (shiftId : Id) : Money :=
  transactions.sumWhere (fun row => row.shiftId = some shiftId && row.invoiceId.isSome) fun row =>
    row.type.signed row.amount

/-- The part of the total that comes from cash refunds. -/
def refundOutflow (cash : CashStore) (shiftId : Id) : Money :=
  cash.transactions.sumWhere
    (fun row => row.shiftId = some shiftId && row.invoiceId.isNone && isCashRefund cash row.id)
    fun row => row.type.signed row.amount

/-- Every ledger row of a shift is in one of the sums of its reconciliation. -/
theorem shiftTotal_eq (cash : CashStore) (shiftId : Id) :
    shiftTotal cash.transactions shiftId = invoiceIncome cash.transactions shiftId +
      manualTotal cash shiftId .income - manualTotal cash shiftId .expense +
        refundOutflow cash shiftId := by
  simp only [shiftTotal, invoiceIncome, manualTotal, refundOutflow, Table.sumWhere_eq, Table.sum]
  induction cash.transactions.rows with
  | nil => rfl
  | cons head tail inductionHypothesis =>
      simp only [List.map_cons, List.sum_cons, inductionHypothesis, isMovement]
      by_cases own : head.shiftId = some shiftId
      · by_cases sold : head.invoiceId.isSome
        · have billed : head.invoiceId.isNone = false := by simp [sold]
          simp [own, sold, billed]
          lia
        · have manual : head.invoiceId.isNone = true := by simpa using sold
          by_cases refunded : isCashRefund cash head.id
          · simp [own, sold, manual, refunded]
            lia
          · have typed : head.type = .income ∨ head.type = .expense := by cases head.type <;> simp
            rcases typed with type | type
            · simp [own, sold, manual, refunded, type, CashFlowType.signed]
              lia
            · simp [own, sold, manual, refunded, type, CashFlowType.signed]
              lia
      · simp [own]

/-- The ending cash by the ledger rows of a shift, rounded as the reconciliation rounds it. -/
def ledgerEndingCash (cash : CashStore) (shiftId : Id) (expectedStartingCash : Money) : Money :=
  endingCash expectedStartingCash (invoiceIncome cash.transactions shiftId)
    (manualTotal cash shiftId .income) (manualTotal cash shiftId .expense)
    (cashRefundAmount cash shiftId)

structure ShiftsConsistent (cash : CashStore) : Prop where
  /-- The refunds of a shift are the amounts of their ledger rows. -/
  refunded : ∀ id, refundOutflow cash id = -cashRefundAmount cash id
  refunds : ∀ refund ∈ cash.refunds, ∃ row,
    cash.transactions.find? refund.cashTransactionId = some row
  rows : ∀ row ∈ cash.transactions, ∀ id, row.shiftId = some id →
    ∃ shift, cash.shifts.find? id = some shift
  opened : ∀ id shift, cash.shifts.find? id = some shift → shift.status = .opened →
    ∃ fundId fund, shift.fundId = some fundId ∧ cash.funds.find? fundId = some fund ∧
      fund.type = .cash ∧
      fund.balance = shift.expectedStartingCash + shiftTotal cash.transactions id
  exclusive : ∀ first ∈ cash.shifts, ∀ second ∈ cash.shifts, first.status = .opened →
    second.status = .opened → first.fundId = second.fundId → first.id = second.id
  closed : ∀ id shift, cash.shifts.find? id = some shift → shift.status = .closed →
    shift.actualEndingCash = some (ledgerEndingCash cash id shift.expectedStartingCash)

/-- The shift that a posting to a fund belongs to: the open shift of the fund, if there is one. -/
structure PostingShift (shifts : Table CashierShift.id) (fundId : Id) (target : Option Id) :
    Prop where
  exists_ : ∀ id, target = some id → ∃ shift, shifts.find? id = some shift ∧
    shift.status = .opened ∧ shift.fundId = some fundId
  only : ∀ id shift, shifts.find? id = some shift → shift.status = .opened →
    shift.fundId = some fundId → target = some id

section Posting

variable {fundId : Id} {rows : List CashTransaction} {before after : CashStore}
variable {target : Option Id}

theorem Posts.find? (posts : Posts fundId rows before after) {id : Id} {row : CashTransaction}
    (found : before.transactions.find? id = some row) : after.transactions.find? id = some row := by
  obtain ⟨membership, rfl⟩ := Table.find?_eq_some.mp found
  refine Table.find?_of_mem ?_
  rw [Table.mem_def, posts.appended]
  exact List.mem_append_left rows membership

theorem Posts.sumWhere (posts : Posts fundId rows before after) (condition : CashTransaction → Bool)
    (value : CashTransaction → Money) :
    after.transactions.sumWhere condition value =
      before.transactions.sumWhere condition value + ((rows.filter condition).map value).sum := by
  simp [Table.sumWhere, Table.select, posts.appended]

theorem shiftTotal_posts (posts : Posts fundId rows before after)
    (belong : ∀ row ∈ rows, row.shiftId = target) (id : Id) :
    shiftTotal after.transactions id = shiftTotal before.transactions id +
      if target = some id then (rows.map fun row => row.type.signed row.amount).sum else 0 := by
  rw [shiftTotal, posts.sumWhere, shiftTotal]
  by_cases same : target = some id
  · rw [if_pos same, List.filter_eq_self.mpr fun row inRows => by simp [belong row inRows, same]]
  · rw [if_neg same, List.filter_eq_nil_iff.mpr fun row inRows => by simp [belong row inRows, same]]
    rfl

/-- The refunds refer to ledger rows from before the posting. -/
theorem isCashRefund_of_fresh (consistent : ShiftsConsistent before)
    (posts : Posts fundId rows before after) {row : CashTransaction} (membership : row ∈ rows) :
    isCashRefund before row.id = false := by
  have missing : before.refunds.first? (fun refund => refund.cashTransactionId = row.id) = none := by
    rw [Table.first?_eq_none]
    intro refund inRefunds
    obtain ⟨old, found⟩ := consistent.refunds refund inRefunds
    obtain ⟨inTable, key⟩ := Table.find?_eq_some.mp found
    have differs : refund.cashTransactionId ≠ row.id := key ▸ posts.fresh row membership old inTable
    simpa using differs
  simp [isCashRefund, missing]

theorem cashRefundAmount_posts (consistent : ShiftsConsistent before)
    (posts : Posts fundId rows before after) (id : Id) :
    cashRefundAmount after id = cashRefundAmount before id := by
  rw [cashRefundAmount, cashRefundAmount, posts.refunds, Table.sumWhere, Table.sumWhere,
    Table.select, Table.select]
  refine congrArg (fun refunds : List CashRefund => (refunds.map (·.amount)).sum)
    (List.filter_congr fun refund inRefunds => ?_)
  obtain ⟨row, found⟩ := consistent.refunds refund inRefunds
  rw [found, posts.find? found]

/-- A sum over the rows of another shift. -/
theorem sumWhere_posts_other (posts : Posts fundId rows before after)
    (belong : ∀ row ∈ rows, row.shiftId = target) {id : Id} (other : target ≠ some id)
    {condition : CashTransaction → Bool} {value : CashTransaction → Money}
    (own : ∀ row, condition row = true → row.shiftId = some id) :
    after.transactions.sumWhere condition value = before.transactions.sumWhere condition value := by
  rw [posts.sumWhere, List.filter_eq_nil_iff.mpr fun row inRows holds =>
    other ((belong row inRows).symm.trans (own row holds))]
  simp

/-- A posting does not touch the ending cash of another shift. -/
theorem ledgerEndingCash_posts (consistent : ShiftsConsistent before)
    (posts : Posts fundId rows before after) (belong : ∀ row ∈ rows, row.shiftId = target) {id : Id}
    (other : target ≠ some id) : ledgerEndingCash after id = ledgerEndingCash before id := by
  have refunded : isCashRefund after = isCashRefund before := by
    funext transactionId
    rw [isCashRefund, isCashRefund, posts.refunds]
  have billed : invoiceIncome after.transactions id = invoiceIncome before.transactions id := by
    refine sumWhere_posts_other posts belong other fun row holds => ?_
    simp only [Bool.and_eq_true, decide_eq_true_eq] at holds
    exact holds.1
  have moved (type : CashFlowType) : manualTotal after id type = manualTotal before id type := by
    unfold manualTotal
    rw [show isMovement after id type = isMovement before id type by
      unfold isMovement
      rw [refunded]]
    refine sumWhere_posts_other posts belong other fun row holds => ?_
    simp only [isMovement, Bool.and_eq_true, decide_eq_true_eq] at holds
    exact holds.1.1.1
  funext expectedStartingCash
  rw [ledgerEndingCash, ledgerEndingCash, billed, moved, moved,
    cashRefundAmount_posts consistent posts]

theorem refundOutflow_posts (consistent : ShiftsConsistent before)
    (posts : Posts fundId rows before after) (id : Id) :
    refundOutflow after id = refundOutflow before id := by
  have same : isCashRefund after = isCashRefund before := by
    funext transactionId
    rw [isCashRefund, isCashRefund, posts.refunds]
  rw [refundOutflow, posts.sumWhere, refundOutflow, same,
    List.filter_eq_nil_iff.mpr fun row inRows => by
      simp [isCashRefund_of_fresh consistent posts inRows]]
  simp

theorem ShiftsConsistent.post (consistent : ShiftsConsistent before)
    (posts : Posts fundId rows before after) (belong : ∀ row ∈ rows, row.shiftId = target)
    (of : PostingShift before.shifts fundId target) : ShiftsConsistent after where
  refunded id := by
    rw [refundOutflow_posts consistent posts, cashRefundAmount_posts consistent posts]
    exact consistent.refunded id
  refunds refund membership := by
    rw [posts.refunds] at membership
    obtain ⟨row, found⟩ := consistent.refunds refund membership
    exact ⟨row, posts.find? found⟩
  rows row membership id own := by
    rw [Table.mem_def, posts.appended] at membership
    rw [posts.shifts]
    rcases List.mem_append.mp membership with old | added
    · exact consistent.rows row old id own
    · rw [belong row added] at own
      obtain ⟨shift, found, -⟩ := of.exists_ id own
      exact ⟨shift, found⟩
  opened id shift found isOpen := by
    rw [posts.shifts] at found
    obtain ⟨shiftFund, old, own, atBefore, type, balance⟩ := consistent.opened id shift found isOpen
    obtain ⟨new, atAfter⟩ := posts.credit.forth shiftFund old atBefore
    obtain ⟨same, again, moved, -, sameType, -⟩ := posts.credit.back shiftFund new atAfter
    rw [atBefore] at again
    cases again
    refine ⟨shiftFund, new, own, atAfter, sameType.trans type, ?_⟩
    rw [moved, balance, shiftTotal_posts posts belong, Int.add_assoc]
    by_cases holds : fundId = shiftFund
    · rw [if_pos holds, if_pos (of.only id shift found isOpen (holds ▸ own))]
    · have other : target ≠ some id := by
        intro targeted
        obtain ⟨shift', found', -, own'⟩ := of.exists_ id targeted
        rw [found] at found'
        cases found'
        rw [own] at own'
        exact holds (Option.some.inj own').symm
      rw [if_neg holds, if_neg other]
  exclusive := by
    rw [posts.shifts]
    exact consistent.exclusive
  closed id shift found isClosed := by
    rw [posts.shifts] at found
    have other : target ≠ some id := by
      intro targeted
      obtain ⟨shift', found', isOpen, -⟩ := of.exists_ id targeted
      rw [found] at found'
      cases found'
      rw [isClosed] at isOpen
      cases isOpen
    rw [ledgerEndingCash_posts consistent posts belong other]
    exact consistent.closed id shift found isClosed

theorem isCashRefund_iff {cash : CashStore} {id : Id} :
    isCashRefund cash id ↔ ∃ refund ∈ cash.refunds, refund.cashTransactionId = id := by
  simp [isCashRefund, Table.first?, Table.mem_def, List.find?_isSome]

/-- A posted expense that becomes a cash refund. -/
theorem ShiftsConsistent.refund {row : CashTransaction} {refund : CashRefund}
    {refunds : Table CashRefund.id} (consistent : ShiftsConsistent before)
    (posts : Posts fundId [row] before after) (belongs : row.shiftId = target)
    (of : PostingShift before.shifts fundId target) (expense : row.type = .expense)
    (unbilled : row.invoiceId = none) (key : refund.cashTransactionId = row.id)
    (amount : refund.amount = row.amount) (inserted : after.refunds.insert? refund = some refunds) :
    ShiftsConsistent { after with refunds } := by
  have posted := consistent.post posts (by simpa using belongs) of
  have found : after.transactions.find? row.id = some row := by
    refine Table.find?_of_mem ?_
    rw [Table.mem_def, posts.appended]
    simp
  have members (other : CashRefund) : other ∈ refunds ↔ other ∈ before.refunds ∨ other = refund := by
    rw [Table.mem_insert? inserted, posts.refunds]
  have marked (id : Id) : isCashRefund { after with refunds } id =
      (isCashRefund before id || id = row.id) := by
    rw [Bool.eq_iff_iff, Bool.or_eq_true, isCashRefund_iff, isCashRefund_iff]
    simp only [members, decide_eq_true_eq]
    constructor
    · rintro ⟨other, old | rfl, same⟩
      · exact .inl ⟨other, old, same⟩
      · exact .inr (same.symm.trans key)
    · rintro (⟨other, old, same⟩ | same)
      · exact ⟨other, .inl old, same⟩
      · exact ⟨refund, .inr rfl, key.trans same.symm⟩
  have total (id : Id) : cashRefundAmount { after with refunds } id = cashRefundAmount before id +
      if target = some id then row.amount else 0 := by
    rw [← cashRefundAmount_posts consistent posts, cashRefundAmount, Table.sumWhere_eq,
      Table.sum_insert? inserted, ← Table.sumWhere_eq, cashRefundAmount, key, found, amount,
      ← belongs]
    simp
  refine { posted with
    refunded := fun id => ?_
    refunds := fun other membership => ?_
    closed := fun id shift atShift isClosed => ?_ }
  · have outflow : refundOutflow { after with refunds } id = refundOutflow before id +
        if target = some id then -row.amount else 0 := by
      rw [refundOutflow, posts.sumWhere, refundOutflow]
      congr 1
      · refine congrArg (fun rows : List CashTransaction =>
          (rows.map fun row => row.type.signed row.amount).sum)
          (List.filter_congr fun old inRows => ?_)
        have differs : old.id ≠ row.id := posts.fresh row (by simp) old inRows
        rw [marked]
        simp [differs]
      · rw [← belongs]
        by_cases same : row.shiftId = some id
        · simp [same, unbilled, marked, expense, CashFlowType.signed]
        · simp [same]
    rw [outflow, total, consistent.refunded]
    split <;> lia
  · rcases (members other).mp membership with old | rfl
    · obtain ⟨entry, atBefore⟩ := consistent.refunds other old
      exact ⟨entry, posts.find? atBefore⟩
    · exact ⟨row, by rw [key, found]⟩
  · have other : target ≠ some id := by
      intro targeted
      obtain ⟨open_, atOpen, isOpen, -⟩ := of.exists_ id targeted
      rw [← posts.shifts] at atOpen
      obtain rfl := Option.some.inj (atOpen.symm.trans atShift)
      rw [isClosed] at isOpen
      cases isOpen
    -- the new refund marks a row of another shift
    have moved (type : CashFlowType) :
        manualTotal { after with refunds } id type = manualTotal after id type := by
      unfold manualTotal Table.sumWhere Table.select
      refine congrArg (fun rows : List CashTransaction => (rows.map (·.amount)).sum)
        (List.filter_congr fun entry inRows => ?_)
      by_cases same : entry.id = row.id
      · have isRow : entry = row := Table.eq_of_key_eq inRows (Table.mem_of_find? found) same
        have apart : row.shiftId ≠ some id := fun own => other (belongs.symm.trans own)
        simp [isMovement, isRow, apart]
      · have sameMark : isCashRefund { after with refunds } entry.id = isCashRefund after entry.id := by
          rw [marked, isCashRefund, isCashRefund, posts.refunds]
          simp [same]
        simp only [isMovement, sameMark]
    have refunded : cashRefundAmount { after with refunds } id = cashRefundAmount after id := by
      rw [total, if_neg other, Int.add_zero, cashRefundAmount_posts consistent posts]
    have stored := posted.closed id shift atShift isClosed
    unfold ledgerEndingCash at stored ⊢
    rw [moved, moved, refunded]
    exact stored

end Posting

end CoffeeShop
