import CoffeeShop.Cash.Funds
import CoffeeShop.Cash.Handovers
import CoffeeShop.Library.Collation
import CoffeeShop.System

/-!
Bank statements, whose credits settle hand-overs.
-/

namespace CoffeeShop

open Transaction

inductive BankStatementEntryDirection where
  | credit
  | debit
  deriving DecidableEq, Repr

inductive BankStatementMatchStatus where
  | unmatched
  | matched
  | mismatch
  | ignored
  deriving DecidableEq, Repr

structure BankStatementEntryInput where
  externalId : String
  direction : BankStatementEntryDirection
  amount : PositiveCashAmount
  transactionDate : Instant
  bankReference : Option String
  description : Option String
  deriving DecidableEq

structure CreateBankStatementImportInput where
  fundId : Id
  sourceFileName : String
  statementFrom : Instant
  statementTo : Instant
  entries : List BankStatementEntryInput

/-- What the checksum of a statement is computed from.  As hashes do not collide, it stands for
the checksum. -/
structure StatementContent where
  fundId : Id
  statementFrom : Instant
  statementTo : Instant
  entries : List BankStatementEntryInput
  deriving DecidableEq

structure BankStatement where
  id : Id
  fundId : Id
  importedById : Id
  sourceFileName : String
  statementFrom : Instant
  statementTo : Instant
  checksum : StatementContent

structure BankStatementEntry where
  id : Id
  externalId : String
  direction : BankStatementEntryDirection
  amount : Money
  transactionDate : Instant
  bankReference : Option String
  description : Option String
  fundId : Id
  importId : Id
  matchStatus : BankStatementMatchStatus
  mismatchReason : Option String
  matchedAt : Option Timestamp
  ignoredAt : Option Timestamp
  matchedHandoverId : Option Id

/-- Neither matched nor ignored. -/
def BankStatementEntry.isOpen (entry : BankStatementEntry) : Bool :=
  entry.matchStatus = .unmatched || entry.matchStatus = .mismatch

/-- The database with the bank statements. -/
structure BankStore where
  database : Database
  statements : Table BankStatement.id
  entries : Table BankStatementEntry.id

namespace BankStore

@[simps] def databasePart : Part BankStore Database where
  get := database
  set value store := { store with database := value }
  get_set _ _ := rfl

@[simps] def bankStatement : Part BankStore (Table BankStatement.id) where
  get := statements
  set value store := { store with statements := value }
  get_set _ _ := rfl

@[simps] def bankStatementEntry : Part BankStore (Table BankStatementEntry.id) where
  get := entries
  set value store := { store with entries := value }
  get_set _ _ := rfl

end BankStore

/-- A program of the services on the database. -/
def databaseTx {α : Type} (program : Transact α) : Tx BankStore Failure α :=
  within BankStore.databasePart program

namespace BankReconciliation

open BankStore

def debitIgnoreReason : String := "Debit entry is outside incoming cash handover reconciliation."

/-- `importIdentity`: the entries with their references in one case. -/
def normalize [UnicodeTables] (entry : BankStatementEntryInput) : BankStatementEntryInput :=
  { entry with
    externalId := UnicodeTables.toUpperCase entry.externalId
    bankReference := entry.bankReference.map UnicodeTables.toUpperCase }

/-- The entries in the order of `createChecksum`. -/
def canonicalEntries [UnicodeTables] (entries : List BankStatementEntryInput) :
    List BankStatementEntryInput :=
  entries.insertionSort fun left right => UnicodeTables.localeLe left.externalId right.externalId

def contentOf [UnicodeTables] (input : CreateBankStatementImportInput) : StatementContent where
  fundId := input.fundId
  statementFrom := input.statementFrom
  statementTo := input.statementTo
  entries := canonicalEntries (input.entries.map normalize)

/-- The check of `importIdentity`, which leaves only statements without repeated ids. -/
def assertUniqueIds [UnicodeTables] (input : CreateBankStatementImportInput) :
    Tx BankStore Failure Unit :=
  require ((input.entries.map normalize).map (·.externalId)).Nodup
    (.conflict "Statement entries must have unique external IDs.")

def newEntry (id importId fundId : Id) (entry : BankStatementEntryInput) (importedAt : Timestamp) :
    BankStatementEntry :=
  let ignored := entry.direction = .debit
  { id
    externalId := entry.externalId
    direction := entry.direction
    amount := entry.amount
    transactionDate := entry.transactionDate
    bankReference := entry.bankReference
    description := entry.description
    fundId
    importId
    matchStatus := if ignored then .ignored else .unmatched
    mismatchReason := if ignored then some debitIgnoreReason else none
    matchedAt := none
    ignoredAt := if ignored then some importedAt else none
    matchedHandoverId := none }

/-- The answer to a unique violation that no known statement explains. -/
def alreadyImported : Failure :=
  .conflict "This statement or one of its bank transaction IDs was already imported."

/-- An entry of a statement, with `BankStatementEntry_fundId_externalId_key`. -/
def insertEntry (importId fundId : Id) (importedAt : Timestamp) (entry : BankStatementEntryInput) :
    Tx BankStore Failure Unit := do
  let id ← databaseTx freshId
  let taken ← findFirst bankStatementEntry fun other =>
    other.fundId = fundId && other.externalId = entry.externalId
  require taken.isNone (.constraint "BankStatementEntry_fundId_externalId_key")
  create bankStatementEntry (newEntry id importId fundId entry importedAt)
    (.constraint "BankStatementEntry_pkey")

/-- `findByChecksum`, before and after the transaction of `createImport`. -/
def findByChecksum [UnicodeTables] (input : CreateBankStatementImportInput) :
    Tx BankStore Failure (Option BankStatement) :=
  findFirst bankStatement fun statement =>
    statement.fundId = input.fundId && statement.checksum = contentOf input

/-- `createImport` before its transaction: the statement that is known by its checksum, or the
fund of a new one. -/
def lookUpImport [UnicodeTables] (employeeId : Id) (input : CreateBankStatementImportInput) :
    Tx BankStore Failure (Option BankStatement) := do
  databaseTx (assertActiveEmployee employeeId)
  assertUniqueIds input
  let known ← findByChecksum input
  when known.isNone (databaseTx (cashTx (findBankFund input.fundId)))
  pure known

/-- The transaction of `createImport`, with `BankStatementImport_fundId_checksum_key`. -/
def insertStatement [UnicodeTables] (employeeId : Id) (input : CreateBankStatementImportInput)
    (now : Timestamp) : Tx BankStore Failure BankStatement := do
  assertUniqueIds input
  let store ← get
  databaseTx (createImport input.fundId)
  let known ← findByChecksum input
  require known.isNone (.constraint "BankStatementImport_fundId_checksum_key")
  let statement : BankStatement := {
    -- the id that `createImport` has drawn
    id := store.database.nextId
    fundId := input.fundId
    importedById := employeeId
    sourceFileName := input.sourceFileName
    statementFrom := input.statementFrom
    statementTo := input.statementTo
    checksum := contentOf input }
  create bankStatement statement (.constraint "BankStatementImport_pkey")
  forEach (input.entries.map normalize) (insertEntry statement.id input.fundId now)
  pure statement

/-- The transaction alone, as a step among those of others. -/
def importStatement [UnicodeTables] (employeeId : Id) (input : CreateBankStatementImportInput)
    (now : Timestamp) : Tx BankStore Failure Unit := do
  let _ ← insertStatement employeeId input now

def markUnmatched (entryId : Id) : Tx BankStore Failure Unit := do
  let _ ← updateMany bankStatementEntry
    (fun entry => entry.id = entryId && entry.matchStatus = .mismatch)
    fun entry => { entry with matchStatus := .unmatched, mismatchReason := none }

def markMismatch (entryId : Id) (reason : String) : Tx BankStore Failure Unit := do
  let _ ← updateMany bankStatementEntry (fun entry => entry.id = entryId && entry.isOpen)
    fun entry => { entry with
      matchStatus := .mismatch
      mismatchReason := some reason
      matchedAt := none
      ignoredAt := none
      matchedHandoverId := none }

/-- Why the hand-over with the reference of the entry is not the one that the entry pays. -/
def obstacle (store : BankStore) (entry : BankStatementEntry) (handover : CashHandover) :
    Option String :=
  if handover.amounts.transferAmount ≠ entry.amount then
    some s!"Amount does not match handover {handover.id}."
  else if handover.status ≠ .approved ∨
      handover.settlementStatus ≠ .pending ∧ handover.settlementStatus ≠ .settled then
    some s!"Handover {handover.id} is not eligible for bank settlement."
  else if (store.entries.first? fun other =>
      other.id ≠ entry.id && other.matchedHandoverId = some handover.id).isSome then
    some s!"Handover {handover.id} is already matched to another statement entry."
  else if handover.evidenceReference.isNone then
    some s!"Handover {handover.id} has no registered deposit evidence."
  else none

/-- The settlement of the hand-over, unless it is settled, and the link of the entry. -/
def settleAndLink (entry : BankStatementEntry) (handover : CashHandover) (bankReference : String)
    (employeeId : Id) (now : Timestamp) : Tx BankStore Failure Unit := do
  when (handover.settlementStatus = .pending)
    (databaseTx (CashHandovers.settle handover.id employeeId
      { bankReference, evidenceReference := handover.evidenceReference.getD "" } now))
  let taken ← findFirst bankStatementEntry fun other =>
    other.id ≠ entry.id && other.matchedHandoverId = some handover.id
  require taken.isNone (.constraint "BankStatementEntry_matchedHandoverId_key")
  updateExpecting bankStatementEntry entry.id BankStatementEntry.isOpen
    (fun row => { row with
      matchStatus := .matched
      mismatchReason := none
      matchedAt := some now
      ignoredAt := none
      matchedHandoverId := some handover.id })
    (.conflict "The statement entry changed during reconciliation.")

/-- The hand-over to the fund of the entry that has the reference, if there is one. -/
def matchReference (entry : BankStatementEntry) (employeeId : Id) (now : Timestamp)
    (bankReference : String) : Tx BankStore Failure Unit := do
  let store ← get
  ifSome (store.database.cash.handovers.first? fun handover =>
      handover.destinationFundId = entry.fundId && handover.bankReference = some bankReference)
    (fun handover => ifSome (obstacle store entry handover) (markMismatch entry.id)
      (settleAndLink entry handover bankReference employeeId now))
    (markUnmatched entry.id)

/-- The transaction of `reconcileEntry`, which `reconcile` runs for the credits of a statement that
are neither matched nor ignored. -/
def matchEntry (id employeeId : Id) (now : Timestamp) : Tx BankStore Failure Unit := do
  let entry ← findUniqueOrFail bankStatementEntry id (.notFound "Record not found.")
  when (entry.isOpen = true) (ifSome entry.bankReference (matchReference entry employeeId now)
    (markUnmatched id))

/-- What `reconcileEntry` does when its transaction was refused. -/
def reviewEntry (id : Id) : Tx BankStore Failure Unit :=
  markMismatch id "Automatic settlement could not be confirmed; manual review is required."

def ignoreEntry (id employeeId : Id) (reason : String) (now : Timestamp) :
    Tx BankStore Failure Unit := do
  databaseTx (assertActiveEmployee employeeId)
  let entry ← findUniqueOrFail bankStatementEntry id
    (.notFound s!"Bank statement entry with ID {id} not found.")
  require (entry.matchStatus ≠ .matched)
    (.conflict "A matched statement entry cannot be ignored.")
  when (entry.matchStatus ≠ .ignored)
    (updateExpecting bankStatementEntry id BankStatementEntry.isOpen
      (fun row => { row with
        matchStatus := .ignored
        mismatchReason := some reason
        ignoredAt := some now
        matchedAt := none
        matchedHandoverId := none })
      (.conflict "The statement entry changed. Reload before ignoring it."))

end BankReconciliation

inductive BankCommand where
  | importStatement (employeeId : Id) (input : CreateBankStatementImportInput)
  | matchEntry (id employeeId : Id)
  | reviewEntry (id : Id)
  | ignoreEntry (id employeeId : Id) (reason : String)

def BankCommand.execute [UnicodeTables] (now : Timestamp) : BankCommand → Tx BankStore Failure Unit
  | importStatement employeeId input => BankReconciliation.importStatement employeeId input now
  | matchEntry id employeeId => BankReconciliation.matchEntry id employeeId now
  | reviewEntry id => BankReconciliation.reviewEntry id
  | ignoreEntry id employeeId reason => BankReconciliation.ignoreEntry id employeeId reason now

namespace BankStore

/-- A command on the statements commits, or the rest of the system takes a step. -/
inductive Step [UnicodeTables] (before : BankStore) : BankStore → Prop where
  | commit {after : BankStore} (command : BankCommand) (now : Timestamp)
      (committed : Commits (command.execute now) before () after) : Step before after
  | system {database : Database} (taken : CoffeeShop.Step before.database database) :
      Step before { before with database }

abbrev Steps [UnicodeTables] : BankStore → BankStore → Prop := Relation.ReflTransGen Step

/-- The states of the runs that start without statements. -/
def Reachable [UnicodeTables] (store : BankStore) : Prop :=
  ∃ start : BankStore, CoffeeShop.Reachable start.database ∧ start.statements = .empty ∧
    start.entries = .empty ∧ Steps start store

/-- The store after the command, unless it aborts. -/
def perform [UnicodeTables] (store : BankStore) (command : BankCommand) (now : Timestamp) : BankStore :=
  match command.execute now store with
  | .ok ((), after) => after
  | .error _ => store

theorem Reachable.perform [UnicodeTables] {store : BankStore} (reachable : Reachable store) (command : BankCommand)
    (now : Timestamp) : Reachable (store.perform command now) := by
  obtain ⟨start, system, noStatements, noEntries, steps⟩ := reachable
  refine ⟨start, system, noStatements, noEntries, ?_⟩
  unfold BankStore.perform
  split
  · rename_i after committed
    exact steps.tail (.commit command now committed)
  · exact steps

end BankStore

end CoffeeShop
