import CoffeeShop.Cash.CashSales
import CoffeeShop.Cash.StatementSteps
import Mathlib

/-!
A hand-over takes the cash from one fund once and brings it to the other once.
-/

namespace CoffeeShop

open Transaction CashStore CashHandovers

/-- The hand-over has got to where the row of the role is due. -/
def CashHandover.expects (handover : CashHandover) : HandoverRole → Prop
  | .variance => handover.status = .approved ∧ handover.amounts.varianceAmount ≠ 0
  | .transfer => handover.status = .approved
  | .deposit => handover.status = .approved ∧
      (handover.settlementStatus = .notRequired ∨ handover.settlementStatus = .settled)

theorem CashHandover.entryId_isSome {handover : CashHandover}
    (checked : handover.stateCheck = true) (role : HandoverRole) :
    (handover.entryId role).isSome = true ↔ handover.expects role := by
  unfold stateCheck at checked
  cases status : handover.status with
  | approved =>
      simp only [status, Bool.and_eq_true, beq_iff_eq] at checked
      obtain ⟨⟨⟨-, source⟩, variance⟩, settlement⟩ := checked
      cases role with
      | variance => simp [entryId, expects, status, ← variance]
      | transfer => simp [entryId, expects, status, source]
      | deposit =>
          cases state : handover.settlementStatus with
          | notRequired | pending | settled => simp_all [entryId, expects]
  | pending | rejected | cancelled =>
      cases role with
      | variance | transfer | deposit => simp_all [isUnposted, entryId, expects]

namespace HandoverBooks

variable {books : HandoverBooks}

/-- The ledger has one row in a role where it is due, and no row otherwise. -/
theorem Consistent.entries (consistent : books.Consistent) {handover : CashHandover}
    (member : handover ∈ books.handovers) (role : HandoverRole) :
    (handover.expects role → ∃ row, row.Posts handover role ∧
      books.transactions.select (fun row => handover.entryId role = some row.id) = [row]) ∧
    (¬handover.expects role →
      books.transactions.select (fun row => handover.entryId role = some row.id) = []) := by
  rw [← CashHandover.entryId_isSome (consistent.checked handover member) role]
  constructor
  · intro expected
    obtain ⟨id, referred⟩ := Option.isSome_iff_exists.mp expected
    obtain ⟨row, inLedger, rfl, posts⟩ := consistent.posted handover member role id referred
    refine ⟨row, posts, ?_⟩
    simp only [referred, Option.some.injEq]
    exact Table.select_key inLedger
  · intro unexpected
    have unreferred : handover.entryId role = none := by simpa using unexpected
    simp [Table.select, unreferred]

end HandoverBooks

/-- What an approval does to the fund of the cash. -/
theorem CashHandovers.approve_source {id employeeId : Id} {note : Option String} {now : Timestamp}
    {before after : Database} (consistent : before.cash.handoverBooks.Consistent)
    (committed : Commits (approve id employeeId note now) before () after) :
    ∃ handover ∈ before.cash.handovers, handover.id = id ∧
      (∃ fund, before.cash.funds.find? handover.sourceFundId = some fund ∧
        fund.balance = handover.amounts.expectedCash) ∧
      ∃ fund, after.cash.funds.find? handover.sourceFundId = some fund ∧
        fund.balance = handover.amounts.retainedCash := by
  obtain ⟨varianceId, sourceId, destinationId, handover, destination, due, middle, credited,
    known, -, -, posted, deposit, written⟩ := HandoverSteps.commits_approve committed
  have member := Table.mem_of_find? known
  refine ⟨handover, member, Table.find?_key known, ?_⟩
  have credit := (postSourceEntries_posts posted).credit
  simp only [postSourceEntries, commits_bind] at posted
  obtain ⟨_, _, debited, -⟩ := posted
  obtain ⟨⟨source, found, passed⟩, -⟩ := commits_updateExpecting.mp debited
  have expected : source.balance = handover.amounts.expectedCash := by
    simp only [Bool.and_eq_true, decide_eq_true_eq] at passed
    exact passed.2
  refine ⟨⟨source, found, expected⟩, ?_⟩
  obtain ⟨retained, inMiddle⟩ := credit.forth handover.sourceFundId source found
  have left : retained.balance = handover.amounts.retainedCash := by
    obtain ⟨old, atBefore, balance, -⟩ := credit.back handover.sourceFundId retained inMiddle
    obtain rfl : source = old := Option.some.inj (found.symm.trans atBefore)
    rw [balance, if_pos rfl, sum_sourceEntries, expected]
    exact add_sub_cancel _ _
  have final : after.cash.funds = credited.funds := by
    obtain ⟨-, written⟩ := commits_updateExpecting.mp written
    rw [written]
    rfl
  rw [final]
  rcases commits_when.mp deposit with ⟨-, paid⟩ | ⟨-, rfl⟩
  · -- the destination is another fund
    have more := (postDestinationEntry_posts paid).credit
    obtain ⟨fund, inStore⟩ := more.forth handover.sourceFundId retained inMiddle
    obtain ⟨old, atMiddle, balance, -⟩ := more.back handover.sourceFundId fund inStore
    obtain rfl : retained = old := Option.some.inj (inMiddle.symm.trans atMiddle)
    rw [if_neg (consistent.otherFund handover member).symm, Int.add_zero] at balance
    exact ⟨fund, inStore, balance.trans left⟩
  · exact ⟨retained, inMiddle, left⟩

theorem StatementSteps.handoverSteps {before after : BankStore}
    (taken : StatementSteps before after) :
    HandoverSteps before.database.cash.handoverBooks after.database.cash.handoverBooks := by
  induction taken with
  | refl => exact .refl
  | tail _ last inductionHypothesis =>
      cases last with
      | worked steps => exact inductionHypothesis.trans steps
      | received | imported | reviewed | linked => exact inductionHypothesis

theorem BankStore.Reachable.handoversConsistent [UnicodeTables] {store : BankStore} (reachable : Reachable store) :
    store.database.cash.handoverBooks.Consistent := by
  obtain ⟨start, system, -, -, steps⟩ := reachable
  induction steps with
  | refl => exact system.handoversConsistent
  | tail _ taken inductionHypothesis =>
      exact inductionHypothesis.steps taken.statementSteps.handoverSteps

/-- Cash hand-overs credit exactly once. -/
theorem BankStore.Reachable.handovers_creditOnce [UnicodeTables] {store : BankStore}
    (reachable : Reachable store) :
    (∀ handover ∈ store.database.cash.handovers,
      (∀ role,
        (handover.expects role → ∃ row, row.Posts handover role ∧
          store.database.cash.transactions.select
            (fun row => handover.entryId role = some row.id) = [row]) ∧
        (¬handover.expects role → store.database.cash.transactions.select
          (fun row => handover.entryId role = some row.id) = [])) ∧
      handover.amounts.expectedCash + handover.amounts.varianceAmount -
        handover.amounts.transferAmount = handover.amounts.retainedCash ∧
      (handover.status = .approved ∨ handover.status = .rejected →
        handover.resolvedById ≠ some handover.requestedById) ∧
      handover.settledById ≠ some handover.requestedById ∧
      handover.stateCheck = true) ∧
    (∀ row ∈ store.database.cash.transactions, row.shiftId = none →
      ∃ handover ∈ store.database.cash.handovers, ∃ role,
        handover.entryId role = some row.id ∧
        ∀ other ∈ store.database.cash.handovers, ∀ otherRole,
          other.entryId otherRole = some row.id → other = handover ∧ otherRole = role) ∧
    ∀ id employeeId note now after,
      Commits (approve id employeeId note now) store.database () after →
        ∃ handover ∈ store.database.cash.handovers, handover.id = id ∧
          (∃ fund, store.database.cash.funds.find? handover.sourceFundId = some fund ∧
            fund.balance = handover.amounts.expectedCash) ∧
          ∃ fund, after.cash.funds.find? handover.sourceFundId = some fund ∧
            fund.balance = handover.amounts.retainedCash := by
  have consistent := reachable.handoversConsistent
  refine ⟨fun handover member => ⟨fun role => consistent.entries member role, ?_, ?_, ?_, ?_⟩,
    fun row inLedger unshifted => ?_, fun id employeeId note now after committed =>
      approve_source consistent committed⟩
  · simp only [HandoverAmounts.varianceAmount, HandoverAmounts.transferAmount]
    lia
  · exact (consistent.separate handover member).approver
  · exact (consistent.separate handover member).settler
  · exact consistent.checked handover member
  · obtain ⟨handover, member, role, referred⟩ := consistent.attributed row inLedger unshifted
    refine ⟨handover, member, role, referred, fun other known otherRole alsoReferred => ?_⟩
    exact consistent.single other known handover member otherRole role row.id alsoReferred referred

/-- The fund of the bank account of the sample shop. -/
def Fund.sampleBank : Fund where
  id := 8
  name := "Bank"
  balance := 0
  type := .bank
  deletedAt := none
  openingBalance := 0

/-- The sample shop after the day, with a bank account. -/
def Database.banked : Database :=
  { Database.shiftClosed with
    cash := { Database.shiftClosed.cash with
      funds := (Database.shiftClosed.cash.funds.insert? .sampleBank).getD .empty }
    nextId := 9 }

theorem Reachable.banked : Reachable Database.banked := by
  have input : Commits (Command.execute 10 (.cash (.createFund 1 {
      name := "Bank"
      type := .bank
      openingBalance := ⟨0, by decide⟩ }))) Database.shiftClosed () Database.banked := by
    change Commits (FundsService.create 1 _) _ _ _
    simp only [FundsService.create, FundsService.assertNameAvailable, assertActiveEmployee,
      commits_bind, commits_readCatalog, commits_freshId, commits_cashTx, commits_findFirst,
      commits_require, commits_create]
    have active : Database.shiftClosed.catalog.isActiveEmployee 1 = true := by decide +kernel
    have drawn : 8 = Database.shiftClosed.nextId := by decide +kernel
    have names : Database.shiftClosed.cash.funds.rows.map (·.name) = ["Till"] := by decide +kernel
    obtain ⟨funds, inserted⟩ : ∃ funds,
        Database.shiftClosed.cash.funds.insert? .sampleBank = some funds :=
      Option.isSome_iff_exists.mp (by decide +kernel)
    refine ⟨(), _, ⟨_, _, ⟨rfl, rfl⟩, active, rfl⟩, 8, _, ⟨drawn, rfl⟩, _, ⟨(), _,
      ⟨_, _, ⟨rfl, rfl⟩, ?_, rfl⟩, funds, inserted, rfl⟩, ?_⟩
    · refine Option.isNone_iff_eq_none.mpr (Table.first?_eq_none.mpr fun row member => ?_)
      have name : row.name ∈ ["Till"] := names ▸ List.mem_map_of_mem member
      have other : "Till".trimAscii.toString.toLower ≠ "Bank".trimAscii.toString.toLower := by
        cbv
        decide
      rw [List.mem_singleton.mp name, decide_eq_false other, Bool.and_false]
    · simp [Database.banked, inserted, ← drawn, CashStore.fund]
  exact Reachable.shiftClosed.tail (.commit _ 10 input)

/-- The cash of the day has been paid in at the bank, and the deposit was confirmed. -/
def Database.deposited : Database := Database.banked.performAll [
  (.cash (.createHandover 0 {
    shiftId := 5
    destinationFundId := 8
    retainedCash := ⟨8000000, by decide⟩
    note := none }), 11),
  (.cash (.approveHandover 9 1 none), 12),
  (.cash (.settleHandover 9 1 { bankReference := "D1", evidenceReference := "slip" }), 13)]

theorem fee_pos : (0 : Money) < 1000000 := by decide

/-- The bank has stated the deposit and a fee. -/
def BankStore.matched : BankStore :=
  let store : BankStore :=
    { database := Database.deposited, statements := .empty, entries := .empty }
  (store.perform (.importStatement 1 {
    fundId := 8
    sourceFileName := "statement.csv"
    statementFrom := 10
    statementTo := 20
    entries := [
      { externalId := "t1"
        direction := .credit
        amount := ⟨50000000, by decide⟩
        transactionDate := 14
        bankReference := some "d1"
        description := none },
      { externalId := "t2"
        direction := .debit
        amount := ⟨1000000, fee_pos⟩
        transactionDate := 15
        bankReference := none
        description := none }] }) 21).perform (.matchEntry 15 1) 22

theorem BankStore.Reachable.matched : BankStore.Reachable BankStore.matched := by
  unfold BankStore.matched
  refine BankStore.Reachable.perform (BankStore.Reachable.perform ?_ _ _) _ _
  exact ⟨_, Reachable.banked.performAll _, rfl, rfl, .refl⟩

theorem BankStore.matched_rows :
    ((BankStore.matched.database.cash.handovers.find? 9).any (fun handover =>
        handover.status = .approved && handover.settlementStatus = .settled) &&
      (BankStore.matched.entries.find? 15).any (fun entry => entry.matchStatus = .matched)) =
        true := by
  decide +kernel

/-- The deposit was credited once. -/
theorem BankStore.Reachable.handovers_creditOnce_matched :
    ∃ handover ∈ BankStore.matched.database.cash.handovers, handover.expects .deposit ∧
      ∃ row, row.Posts handover .deposit ∧ BankStore.matched.database.cash.transactions.select
        (fun row => handover.entryId .deposit = some row.id) = [row] := by
  have settled := (Bool.and_eq_true_iff.mp BankStore.matched_rows).1
  obtain ⟨handover, found, decided⟩ := (Option.any_eq_true _ _).mp settled
  simp only [Bool.and_eq_true, decide_eq_true_eq] at decided
  have member := Table.mem_of_find? found
  have expected : handover.expects .deposit := ⟨decided.1, .inr decided.2⟩
  have entries := (BankStore.Reachable.handovers_creditOnce .matched).1 handover member
  exact ⟨handover, member, expected, (entries.1 .deposit).1 expected⟩

end CoffeeShop
