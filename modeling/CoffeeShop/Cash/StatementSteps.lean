import CoffeeShop.Cash.HandoverEntries
import CoffeeShop.Cash.Statements

/-!
Entries of bank statements and the hand-overs that they pay.
-/

namespace CoffeeShop

open Transaction CashStore BankStore BankReconciliation

/-- The entry is what the settlement of the hand-over needs. -/
structure BankStatementEntry.Pays (entry : BankStatementEntry) (handover : CashHandover) :
    Prop where
  approved : handover.status = .approved
  settled : handover.settlementStatus = .settled
  fund : handover.destinationFundId = entry.fundId
  amount : handover.amounts.transferAmount = entry.amount
  reference : handover.bankReference = entry.bankReference
  referred : entry.bankReference.isSome = true

/-- The entry has just been imported. -/
structure BankStatementEntry.IsImported (entry : BankStatementEntry) : Prop where
  unlinked : entry.matchedHandoverId = none
  unmatched : entry.matchStatus ≠ .matched
  debit : entry.direction = .debit → entry.matchStatus = .ignored

/-- The entry keeps what the bank has stated and gets no link to a hand-over. -/
structure BankStatementEntry.Unlinks (old new : BankStatementEntry) : Prop where
  id : new.id = old.id
  direction : new.direction = old.direction
  unlinked : new.matchedHandoverId = none ∨ new.matchedHandoverId = old.matchedHandoverId
  unmatched : new.matchStatus ≠ .matched

/-- The entry is linked to the hand-over. -/
def BankStatementEntry.link (entry : BankStatementEntry) (handoverId : Id) (now : Timestamp) :
    BankStatementEntry :=
  { entry with
    matchStatus := .matched
    mismatchReason := none
    matchedAt := some now
    ignoredAt := none
    matchedHandoverId := some handoverId }

inductive StatementStep (before : BankStore) : BankStore → Prop where
  | worked {database : Database} (steps : HandoverSteps before.database.cash.handoverBooks
      database.cash.handoverBooks) : StatementStep before { before with database }
  | received (statements : Table BankStatement.id) : StatementStep before { before with statements }
  | imported {entry : BankStatementEntry} {entries : Table BankStatementEntry.id}
      (new : entry.IsImported) (inserted : before.entries.insert? entry = some entries) :
      StatementStep before { before with entries }
  | reviewed {condition : BankStatementEntry → Bool}
      {change : BankStatementEntry → BankStatementEntry}
      (keeps : ∀ row, (change row).id = row.id) (opens : ∀ row, condition row → row.isOpen = true)
      (unlinks : ∀ row : BankStatementEntry, row.Unlinks (change row)) :
      StatementStep before { before with entries := before.entries.update condition change keeps }
  | linked {id : Id} {entry : BankStatementEntry} {handover : CashHandover} (now : Timestamp)
      (keeps : ∀ row : BankStatementEntry, (row.link handover.id now).id = row.id)
      (known : before.entries.find? id = some entry) (opened : entry.isOpen = true)
      (pays : entry.Pays handover) (member : handover ∈ before.database.cash.handovers)
      (free : ∀ other ∈ before.entries, other.id ≠ id → other.matchedHandoverId ≠ some handover.id) :
      StatementStep before { before with
        entries := before.entries.update (fun row => row.id = id && row.isOpen)
          (fun row => row.link handover.id now) keeps }

abbrev StatementSteps : BankStore → BankStore → Prop := Relation.ReflTransGen StatementStep

namespace StatementSteps

set_option synthInstance.maxSize 100000

variable {id employeeId : Id} {now : Timestamp}

instance databaseTx {α : Type} {program : Transact α} [HandsOver program] :
    Respects StatementSteps (databaseTx program) where
  step before result after committed := by
    obtain ⟨database, ran, rfl⟩ := commits_within.mp committed
    exact .single (.worked (Respects.step (R := On Database.cash (On handoverBooks HandoverSteps)) ran))

theorem received {row : BankStatement} {failure : Failure} :
    Respects StatementSteps (create bankStatement row failure) where
  step before result after committed := by
    obtain ⟨statements, -, rfl⟩ := commits_create.mp committed
    exact .single (.received statements)

theorem isImported (id importId fundId : Id) (entry : BankStatementEntryInput)
    (importedAt : Timestamp) : (newEntry id importId fundId entry importedAt).IsImported := by
  cases direction : entry.direction with
  | credit =>
      exact ⟨rfl, by simp [newEntry, direction], fun debit => nomatch direction.symm.trans debit⟩
  | debit => exact ⟨rfl, by simp [newEntry, direction], fun _ => by simp [newEntry, direction]⟩

instance insertEntry {importId fundId : Id} {entry : BankStatementEntryInput} :
    Respects StatementSteps (insertEntry importId fundId now entry) := by
  have inserts (id : Id) : Respects StatementSteps
      (create bankStatementEntry (newEntry id importId fundId entry now)
        (Failure.constraint "BankStatementEntry_pkey")) := by
    constructor
    intro before result after committed
    obtain ⟨entries, inserted, rfl⟩ := commits_create.mp committed
    exact .single (.imported (isImported id importId fundId entry now) inserted)
  unfold BankReconciliation.insertEntry
  infer_instance

instance createImport {fundId : Id} : HandsOver (createImport fundId) := by
  dsimp only [BankReconciliation.createImport]
  infer_instance

instance importStatement [UnicodeTables] {input : CreateBankStatementImportInput} :
    Respects StatementSteps (importStatement employeeId input now) := by
  have recorded (row : BankStatement) : Respects StatementSteps
      (create bankStatement row (Failure.constraint "BankStatementImport_pkey")) := received
  dsimp only [BankReconciliation.importStatement, insertStatement, assertUniqueIds, findByChecksum]
  infer_instance

theorem reviewing (condition : BankStatementEntry → Bool)
    (change : BankStatementEntry → BankStatementEntry) (keeps : ∀ row, (change row).id = row.id)
    (opens : ∀ row, condition row → row.isOpen = true) (unlinks : ∀ row : BankStatementEntry, row.Unlinks (change row)) :
    Respects StatementSteps (updateMany bankStatementEntry condition change keeps :
      Tx BankStore Failure Nat) where
  step before result after committed := by
    obtain ⟨-, rfl⟩ := commits_updateMany.mp committed
    exact .single (.reviewed keeps opens unlinks)

instance markMismatch {reason : String} : Respects StatementSteps (markMismatch id reason) := by
  have marks := reviewing (fun entry => entry.id = id && entry.isOpen)
    (fun entry => { entry with
      matchStatus := .mismatch
      mismatchReason := some reason
      matchedAt := none
      ignoredAt := none
      matchedHandoverId := none }) (fun _ => rfl)
    (fun row met => (Bool.and_eq_true_iff.mp met).2) fun row => ⟨rfl, rfl, .inl rfl, nofun⟩
  unfold BankReconciliation.markMismatch
  infer_instance

instance markUnmatched : Respects StatementSteps (markUnmatched id) := by
  have marks := reviewing
    (fun entry => entry.id = id && entry.matchStatus = .mismatch)
    (fun entry => { entry with matchStatus := .unmatched, mismatchReason := none })
    (fun _ => rfl) (fun row met => by simp_all [BankStatementEntry.isOpen])
    fun row => ⟨rfl, rfl, .inr rfl, nofun⟩
  unfold BankReconciliation.markUnmatched
  infer_instance

instance ignoreEntry {reason : String} :
    Respects StatementSteps (ignoreEntry id employeeId reason now) := by
  have marks {failure : Failure} : Respects StatementSteps
      (updateExpecting bankStatementEntry id BankStatementEntry.isOpen
        (fun row => { row with
          matchStatus := .ignored
          mismatchReason := some reason
          ignoredAt := some now
          matchedAt := none
          matchedHandoverId := none }) failure) := by
    constructor
    intro before result after committed
    obtain ⟨-, rfl⟩ := commits_updateExpecting.mp committed
    exact .single (.reviewed (by intro; rfl) (fun row met => (Bool.and_eq_true_iff.mp met).2)
      (by intro; exact ⟨rfl, rfl, .inl rfl, nofun⟩))
  unfold BankReconciliation.ignoreEntry
  infer_instance

/-- The hand-over of a settlement, as the settlement leaves it. -/
theorem settled {deposit : BankDeposit} {before after : Database} {handover : CashHandover}
    (committed : Commits (CashHandovers.settle id employeeId deposit now) before () after)
    (known : before.cash.handovers.find? id = some handover) :
    ∃ settled ∈ after.cash.handovers, settled.id = id ∧ settled.status = .approved ∧
      settled.settlementStatus = .settled ∧
      settled.destinationFundId = handover.destinationFundId ∧
      settled.amounts = handover.amounts ∧
      settled.bankReference = some deposit.bankReference.toUpper ∧
      CashHandovers.differs handover.bankReference deposit.bankReference.toUpper = false := by
  obtain ⟨destinationId, old, middle, found, ⟨approved, -⟩, -, agrees, posted, written⟩ :=
    HandoverSteps.commits_settle committed
  obtain rfl : old = handover := Option.some.inj (found.symm.trans known)
  obtain ⟨-, final⟩ := commits_updateExpecting.mp written
  have same : middle.handovers = before.cash.handovers := Keeps.eq CashStore.handovers posted
  rw [final]
  simp only [cashHandover_set_handovers, cashHandover_get, same]
  refine ⟨_, (HandoverBooks.mem_moved (by intro; rfl) known).mpr (.inl rfl), ?_⟩
  have wanted : old.id = id := Table.find?_key known
  exact ⟨wanted, approved, rfl, rfl, rfl, rfl, agrees⟩

/-- The entry gets the link to a hand-over that it pays. -/
theorem linking {before after : BankStore} {entry : BankStatementEntry} {handover : CashHandover}
    {handoverId : Id} {failure : Failure} (same : handover.id = handoverId) (known : before.entries.find? entry.id = some entry)
    (opened : entry.isOpen = true) (pays : entry.Pays handover)
    (member : handover ∈ before.database.cash.handovers)
    (free : (before.entries.first? fun other =>
      other.id ≠ entry.id && other.matchedHandoverId = some handoverId).isNone = true)
    (linked : Commits (updateExpecting bankStatementEntry entry.id BankStatementEntry.isOpen
      (fun row => row.link handoverId now) failure) before () after) :
    StatementStep before after := by
  subst same
  obtain ⟨-, rfl⟩ := commits_updateExpecting.mp linked
  refine .linked now (by intro; rfl) known opened pays member fun other inStore differs same => ?_
  have unmet := Table.first?_eq_none.mp (Option.isNone_iff_eq_none.mp free) other inStore
  simp [differs, same] at unmet

/-- The hand-over is settled when the entry is linked, whether or not it was before. -/
theorem settleAndLink {store after : BankStore} {entry : BankStatementEntry}
    {handover : CashHandover} {bankReference : String}
    (known : store.entries.find? entry.id = some entry) (opened : entry.isOpen = true)
    (member : store.database.cash.handovers.find? handover.id = some handover)
    (fund : handover.destinationFundId = entry.fundId)
    (reference : handover.bankReference = some bankReference)
    (stated : entry.bankReference = some bankReference)
    (clear : obstacle store entry handover = none)
    (committed : Commits (settleAndLink entry handover bankReference employeeId now) store ()
      after) : StatementSteps store after := by
  unfold obstacle at clear
  split at clear
  · cases clear
  rename_i amount
  split at clear
  · cases clear
  rename_i eligible
  simp only [not_not] at amount
  simp only [not_or, not_and_or, not_not] at eligible
  have referred : entry.bankReference.isSome = true := by rw [stated, Option.isSome_some]
  simp only [BankReconciliation.settleAndLink, commits_bind, commits_when, commits_findFirst,
    commits_require] at committed
  obtain ⟨_, middle, paid, taken, _, ⟨rfl, rfl⟩, _, _, ⟨free, rfl⟩, linked⟩ := committed
  rcases paid with ⟨-, paid⟩ | ⟨settled, rfl⟩
  · obtain ⟨database, ran, rfl⟩ := commits_within.mp paid
    obtain ⟨paid, inStore, same, approved, settled, destination, amounts, recorded, agrees⟩ :=
      StatementSteps.settled ran member
    rw [reference] at agrees
    have kept : bankReference = bankReference.toUpper := by
      simpa [CashHandovers.differs] using agrees
    rw [← kept, ← stated] at recorded
    have worked : StatementStep store { store with database } :=
      .worked (Respects.step (R := On Database.cash (On handoverBooks HandoverSteps)) ran)
    have pays : entry.Pays paid :=
      ⟨approved, settled, destination.trans fund, amounts ▸ amount, recorded, referred⟩
    exact .tail (.single worked) (linking same known opened pays inStore free linked)
  · have inStore := Table.mem_of_find? member
    refine .single (linking rfl known opened ?_ inStore free linked)
    refine ⟨eligible.1, ?_, fund, amount, reference.trans stated.symm, referred⟩
    exact eligible.2.resolve_left settled

instance matchEntry : Respects StatementSteps (matchEntry id employeeId now) where
  step before result after committed := by
    simp only [BankReconciliation.matchEntry, commits_bind, commits_findUniqueOrFail,
      commits_when] at committed
    obtain ⟨entry, _, ⟨known, rfl⟩, ⟨opened, matched⟩ | ⟨-, rfl⟩⟩ := committed
    · rcases commits_ifSome.mp matched with ⟨bankReference, stated, searched⟩ | ⟨-, marked⟩
      · simp only [matchReference, commits_bind, commits_get] at searched
        obtain ⟨store, _, ⟨rfl, rfl⟩, found⟩ := searched
        rcases commits_ifSome.mp found with ⟨handover, first, decided⟩ | ⟨-, marked⟩
        · obtain ⟨inStore, met⟩ := Table.mem_of_first? first
          simp only [Bool.and_eq_true, decide_eq_true_eq] at met
          rcases commits_ifSome.mp decided with ⟨reason, -, marked⟩ | ⟨clear, linked⟩
          · exact Respects.step (R := StatementSteps) marked
          · have same : entry.id = id := Table.find?_key known
            refine settleAndLink ?_ opened (Table.find?_of_mem inStore) met.1 met.2 stated clear linked
            rw [same]
            exact known
        · exact Respects.step (R := StatementSteps) marked
      · exact Respects.step (R := StatementSteps) marked
    · exact .refl

instance command [UnicodeTables] {command : BankCommand} : Respects StatementSteps (command.execute now) := by
  cases command
  all_goals
    dsimp only [BankCommand.execute, BankReconciliation.reviewEntry]
    infer_instance

end StatementSteps

theorem BankStore.Step.statementSteps [UnicodeTables] {before after : BankStore} (taken : Step before after) :
    StatementSteps before after := by
  cases taken with
  | commit command now committed => exact StatementSteps.command.step committed
  | system taken =>
      refine .single (.worked ?_)
      cases taken with
      | commit command now committed => exact HandoverSteps.command.step committed
      | administer => exact .refl

end CoffeeShop
