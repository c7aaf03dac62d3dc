import CoffeeShop.Cash.ShiftAccounts
import CoffeeShop.Footprints

/-!
The transactions of the cashier services keep the shifts consistent.

A posting goes to the open shift of its fund, or to a fund without an open shift.  The
other writes edit funds, open a shift on an untaken fund or close one.
-/

-- An instance for a program has one node for each of its statements.
set_option synthInstance.maxSize 100000

namespace CoffeeShop

open Transaction CashStore CashierShifts

section Frames

instance : Apart ShiftsConsistent cashExpenseRequest :=
  ⟨fun _ _ => propext ⟨fun consistent => { consistent with }, fun consistent => { consistent with }⟩⟩
instance : Apart ShiftsConsistent cashHandover :=
  ⟨fun _ _ => propext ⟨fun consistent => { consistent with }, fun consistent => { consistent with }⟩⟩
instance : Apart ShiftsConsistent bankStatementImport :=
  ⟨fun _ _ => propext ⟨fun consistent => { consistent with }, fun consistent => { consistent with }⟩⟩

end Frames

/-- The context names an open shift with its fund. -/
def OpenCashierShiftContext.IsOpen (shift : OpenCashierShiftContext)
    (shifts : Table CashierShift.id) : Prop :=
  ∃ row, shifts.find? shift.id = some row ∧ row.status = .opened ∧ row.fundId = some shift.fundId

theorem OpenCashierShiftContext.IsOpen.postingShift {shift : OpenCashierShiftContext}
    {cash : CashStore} (isOpen : shift.IsOpen cash.shifts) (consistent : ShiftsConsistent cash) :
    PostingShift cash.shifts shift.fundId (some shift.id) where
  exists_ id same := by
    cases same
    exact isOpen
  only id other found opened own := by
    obtain ⟨row, atShift, status, fund⟩ := isOpen
    obtain ⟨rowIn, rowKey⟩ := Table.find?_eq_some.mp atShift
    obtain ⟨otherIn, otherKey⟩ := Table.find?_eq_some.mp found
    rw [← rowKey, ← otherKey,
      consistent.exclusive row rowIn other otherIn status opened (fund.trans own.symm)]

theorem PostingShift.none {shifts : Table CashierShift.id} {fundId : Id}
    (free : ∀ id shift, shifts.find? id = some shift → shift.status = .opened →
      shift.fundId ≠ some fundId) : PostingShift shifts fundId none where
  exists_ _ same := nomatch same
  only id shift found opened own := (free id shift found opened own).elim

theorem CashierShiftLedger.commits_requireOpenShift {employeeId : Id} {before after : CashStore}
    {shift : OpenCashierShiftContext}
    (committed : Commits (requireOpenShift employeeId) before shift after) :
    shift.IsOpen before.shifts ∧ after = before := by
  simp only [requireOpenShift, commits_bind, commits_findFirstOrFail, commits_orFail,
    commits_findUniqueOrFail, commits_require, commits_pure] at committed
  obtain ⟨row, _, ⟨found, rfl⟩, fundId, _, ⟨own, rfl⟩, _, _, ⟨-, rfl⟩, _, _, ⟨-, rfl⟩,
    rfl, rfl⟩ := committed
  obtain ⟨membership, holds⟩ := Table.mem_of_first? found
  simp only [Bool.and_eq_true, decide_eq_true_eq] at holds
  exact ⟨⟨row, Table.find?_of_mem membership, holds.2, own⟩, rfl⟩

/-- The shifts of the database are consistent if they were. -/
abbrev KeepsShifts {α : Type} (program : Transact α) : Prop :=
  Respects (On Database.cash (On ShiftsConsistent Implies)) program

section Postings

variable {now : Timestamp}

theorem CashierShiftLedger.recordCashInvoice_shifts {input : RecordCashInvoiceInput}
    {before after : Database} {result : Unit} (consistent : ShiftsConsistent before.cash)
    (isOpen : input.shift.IsOpen before.cash.shifts)
    (committed : Commits (recordCashInvoice input now) before result after) :
    ShiftsConsistent after.cash := by
  obtain ⟨posts, -⟩ := recordCashInvoice_posts committed
  exact consistent.post posts (by simp [invoiceEntry]) (isOpen.postingShift consistent)

theorem CashierShifts.postMovement_shifts {input : MovementInput} {before after : Database} {id : Id}
    (consistent : ShiftsConsistent before.cash) (isOpen : input.shift.IsOpen before.cash.shifts)
    (committed : Commits (postMovement input now) before id after) :
    ShiftsConsistent after.cash := by
  obtain ⟨posts, -⟩ := postMovement_posts committed
  exact consistent.post posts (by simp [movementEntry]) (isOpen.postingShift consistent)

theorem CashRefunds.postRefund_shifts {invoiceId employeeId movementId refundId : Id}
    {input : CreateCashRefundInput} {shift : OpenCashierShiftContext} {before after : CashStore}
    (consistent : ShiftsConsistent before) (isOpen : shift.IsOpen before.shifts)
    (committed : Commits (postRefund invoiceId employeeId input shift movementId refundId now)
      before () after) : ShiftsConsistent after := by
  obtain ⟨middle, refunds, posts, inserted, rfl⟩ := postRefund_posts committed
  exact consistent.refund posts rfl (isOpen.postingShift consistent) rfl rfl rfl rfl inserted

open CashHandovers

/-- No open shift uses the funds that the check looks at. -/
theorem CashHandovers.commits_assertFundsHaveNoOpenShift {sourceFundId : Id} {destination : Fund}
    {before after : CashStore} {result : Unit}
    (committed : Commits (assertFundsHaveNoOpenShift sourceFundId destination)
      before result after) :
    after = before ∧ ∀ id shift, before.shifts.find? id = some shift → shift.status = .opened →
      shift.fundId ≠ some sourceFundId ∧
        (destination.type = .cash → shift.fundId ≠ some destination.id) := by
  simp only [assertFundsHaveNoOpenShift, commits_bind, commits_findFirst, commits_require]
    at committed
  obtain ⟨_, _, ⟨rfl, rfl⟩, missing, rfl⟩ := committed
  rw [Option.isNone_iff_eq_none] at missing
  refine ⟨rfl, fun id shift found opened => ?_⟩
  have free := Table.first?_eq_none.mp missing shift (Table.mem_of_find? found)
  simp only [opened, decide_true, Bool.true_and, Bool.or_eq_false_iff, decide_eq_false_iff_not,
    Bool.and_eq_false_imp, decide_eq_true_eq] at free
  exact free

/-- An open shift uses a cash fund. -/
theorem ShiftsConsistent.free {cash : CashStore} (consistent : ShiftsConsistent cash) {fundId : Id}
    {fund : Fund} (found : cash.funds.find? fundId = some fund) (type : fund.type ≠ .cash) :
    ∀ id shift, cash.shifts.find? id = some shift → shift.status = .opened →
      shift.fundId ≠ some fundId := by
  intro id shift atId opened own
  obtain ⟨shiftFund, held, own', found', isCash, -⟩ := consistent.opened id shift atId opened
  rw [own] at own'
  cases own'
  rw [found] at found'
  cases found'
  exact type isCash

theorem CashHandovers.postDestinationEntry_shifts {handover : CashHandover} {employeeId id : Id}
    {expectedFundType : FundType} {before after : CashStore} (consistent : ShiftsConsistent before)
    (free : ∀ id shift, before.shifts.find? id = some shift → shift.status = .opened →
      shift.fundId ≠ some handover.destinationFundId)
    (committed : Commits (postDestinationEntry handover employeeId id now expectedFundType)
      before () after) : ShiftsConsistent after :=
  consistent.post (postDestinationEntry_posts committed) (by simp [handoverEntry])
    (PostingShift.none free)

theorem CashHandovers.postSourceEntries_shifts {handover : CashHandover}
    {employeeId varianceId sourceId : Id} {before after : CashStore}
    (consistent : ShiftsConsistent before)
    (free : ∀ id shift, before.shifts.find? id = some shift → shift.status = .opened →
      shift.fundId ≠ some handover.sourceFundId)
    (committed : Commits (postSourceEntries handover employeeId varianceId sourceId now)
      before () after) : ShiftsConsistent after ∧ after.shifts = before.shifts := by
  have posts := postSourceEntries_posts committed
  exact ⟨consistent.post posts (fun row membership => (mem_sourceEntries membership).2.1)
    (PostingShift.none free), posts.shifts⟩

end Postings

section Edits

variable {cash : CashStore}

/-- An edit of the funds that keeps the ones of the open shifts. -/
theorem ShiftsConsistent.withFunds {funds : Table Fund.id} (consistent : ShiftsConsistent cash)
    (kept : ∀ id old, cash.funds.find? id = some old →
      ∃ new, funds.find? id = some new ∧ new.balance = old.balance ∧
        ((∃ shift ∈ cash.shifts, shift.status = .opened ∧ shift.fundId = some id) →
          new.type = old.type)) : ShiftsConsistent { cash with funds } :=
  { consistent with
    opened := fun id shift found opened => by
      obtain ⟨fundId, old, own, atFund, type, balance⟩ := consistent.opened id shift found opened
      obtain ⟨new, atAfter, sameBalance, sameType⟩ := kept fundId old atFund
      refine ⟨fundId, new, own, atAfter, ?_, sameBalance.trans balance⟩
      rw [sameType ⟨shift, Table.mem_of_find? found, opened, own⟩, type] }

/-- A new shift starts with the balance of a fund that no other open shift uses. -/
theorem ShiftsConsistent.insertShift {shift : CashierShift} {fund : Fund}
    {shifts : Table CashierShift.id} (consistent : ShiftsConsistent cash)
    (inserted : cash.shifts.insert? shift = some shifts) (status : shift.status = .opened)
    (own : shift.fundId = some fund.id) (held : cash.funds.find? fund.id = some fund)
    (type : fund.type = .cash) (expected : shift.expectedStartingCash = fund.balance)
    (untaken : ∀ other ∈ cash.shifts, other.status = .opened → other.fundId ≠ some fund.id) :
    ShiftsConsistent { cash with shifts } := by
  have missing : cash.shifts.find? shift.id = none :=
    Table.find?_eq_none.mpr (Table.rows_insert? inserted).2
  have empty : shiftTotal cash.transactions shift.id = 0 := by
    refine List.sum_eq_zero fun value membership => ?_
    obtain ⟨row, selected, -⟩ := List.mem_map.mp membership
    obtain ⟨inTable, belongs⟩ := Table.mem_select.mp selected
    obtain ⟨old, found⟩ := consistent.rows row inTable shift.id (by simpa using belongs)
    rw [missing] at found
    exact nomatch found
  refine { consistent with rows := ?_, opened := ?_, exclusive := ?_, closed := ?_ }
  · intro row membership id belongs
    obtain ⟨old, found⟩ := consistent.rows row membership id belongs
    change ∃ shift, shifts.find? id = some shift
    rw [Table.find?_insert? inserted]
    split
    · exact ⟨shift, rfl⟩
    · exact ⟨old, found⟩
  · intro id other found opened
    change shifts.find? id = some other at found
    rw [Table.find?_insert? inserted] at found
    by_cases same : shift.id = id
    · rw [if_pos same] at found
      cases found
      exact ⟨fund.id, fund, own, held, type, by rw [expected, ← same, empty, Int.add_zero]⟩
    · rw [if_neg same] at found
      exact consistent.opened id other found opened
  · intro first inFirst second inSecond firstOpened secondOpened same
    rcases (Table.mem_insert? inserted).mp inFirst with firstOld | rfl
    · rcases (Table.mem_insert? inserted).mp inSecond with secondOld | rfl
      · exact consistent.exclusive first firstOld second secondOld firstOpened secondOpened same
      · exact (untaken first firstOld firstOpened (same.trans own)).elim
    · rcases (Table.mem_insert? inserted).mp inSecond with secondOld | rfl
      · exact (untaken second secondOld secondOpened (same.symm.trans own)).elim
      · rfl
  · intro id other found isClosed
    change shifts.find? id = some other at found
    rw [Table.find?_insert? inserted] at found
    by_cases same : shift.id = id
    · rw [if_pos same] at found
      cases found
      rw [status] at isClosed
      exact nomatch isClosed
    · rw [if_neg same] at found
      exact consistent.closed id other found isClosed

/-- A closed shift stores the ending cash by its ledger rows. -/
theorem ShiftsConsistent.closeShift (shiftId : Id) {condition : CashierShift → Bool}
    {change : CashierShift → CashierShift} {keeps : ∀ row, (change row).id = row.id}
    (consistent : ShiftsConsistent cash) (only : ∀ row, condition row → row.id = shiftId)
    (closes : ∀ row, cash.shifts.find? shiftId = some row → (change row).status = .closed ∧
      (change row).actualEndingCash =
        some (ledgerEndingCash cash shiftId (change row).expectedStartingCash)) :
    ShiftsConsistent { cash with shifts := cash.shifts.update condition change keeps } := by
  have back {id : Id} {new : CashierShift}
      (found : (cash.shifts.update condition change keeps).find? id = some new) :
      ∃ old, cash.shifts.find? id = some old ∧
        (new = old ∨ id = shiftId ∧ new = change old) := by
    simp only [Table.find?_update, Option.map_eq_some_iff] at found
    obtain ⟨old, atBefore, changed⟩ := found
    refine ⟨old, atBefore, ?_⟩
    by_cases holds : condition old
    · rw [if_pos holds] at changed
      exact .inr ⟨(Table.find?_key atBefore).symm.trans (only old holds), changed.symm⟩
    · rw [if_neg holds] at changed
      exact .inl changed.symm
  have unchanged {new : CashierShift} (membership : new ∈ cash.shifts.update condition change keeps)
      (opened : new.status = .opened) : new ∈ cash.shifts := by
    obtain ⟨old, atBefore, rfl | ⟨same, rfl⟩⟩ := back (Table.find?_of_mem membership)
    · exact Table.mem_of_find? atBefore
    · rw [same] at atBefore
      rw [(closes old atBefore).1] at opened
      exact nomatch opened
  refine { consistent with rows := ?_, opened := ?_, exclusive := ?_, closed := ?_ }
  · intro row membership id belongs
    obtain ⟨old, found⟩ := consistent.rows row membership id belongs
    change ∃ shift, (cash.shifts.update condition change keeps).find? id = some shift
    simp [found]
  · intro id new found opened
    obtain ⟨old, atBefore, rfl | ⟨rfl, rfl⟩⟩ := back found
    · exact consistent.opened id new atBefore opened
    · rw [(closes old atBefore).1] at opened
      exact nomatch opened
  · intro first inFirst second inSecond firstOpened secondOpened same
    exact consistent.exclusive first (unchanged inFirst firstOpened) second
      (unchanged inSecond secondOpened) firstOpened secondOpened same
  · intro id new found isClosed
    obtain ⟨old, atBefore, rfl | ⟨rfl, rfl⟩⟩ := back found
    · exact consistent.closed id new atBefore isClosed
    · exact (closes old atBefore).2

end Edits

end CoffeeShop
