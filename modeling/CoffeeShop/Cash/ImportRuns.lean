import CoffeeShop.Cash.StatementImports

/-!
Imports of bank statements among the steps of others.

Every entry of a statement is in the store once, and no entry is there without its
statement.
-/

namespace CoffeeShop

open Transaction BankStore BankReconciliation

/-- The fields of an entry that come from its statement. -/
structure StatedEntry where
  id : Id
  externalId : String
  direction : BankStatementEntryDirection
  amount : Money
  transactionDate : Instant
  bankReference : Option String
  description : Option String
  fundId : Id
  importId : Id

def BankStatementEntry.stated (entry : BankStatementEntry) : StatedEntry where
  id := entry.id
  externalId := entry.externalId
  direction := entry.direction
  amount := entry.amount
  transactionDate := entry.transactionDate
  bankReference := entry.bankReference
  description := entry.description
  fundId := entry.fundId
  importId := entry.importId

/-- The entry was created for the content. -/
structure StatedEntry.States (entry : StatedEntry) (content : BankStatementEntryInput) : Prop where
  externalId : entry.externalId = content.externalId
  direction : entry.direction = content.direction
  amount : entry.amount = content.amount
  transactionDate : entry.transactionDate = content.transactionDate
  bankReference : entry.bankReference = content.bankReference
  description : entry.description = content.description

/-- The statements, and what their entries state. -/
structure ImportBooks where
  statements : Table BankStatement.id
  entries : List StatedEntry

def BankStore.importBooks (store : BankStore) : ImportBooks where
  statements := store.statements
  entries := store.entries.rows.map BankStatementEntry.stated

/-- A statement with its entries, each of them new in its fund. -/
inductive ImportBooks.Receives (fundId importId : Id) :
    List BankStatementEntryInput → List StatedEntry → List StatedEntry → Prop where
  | done (entries : List StatedEntry) : Receives fundId importId [] entries entries
  | entry {content : BankStatementEntryInput} {rest : List BankStatementEntryInput}
      {entries after : List StatedEntry} {entry : StatedEntry} (states : entry.States content)
      (fund : entry.fundId = fundId) (owner : entry.importId = importId)
      (free : ∀ other ∈ entries, other.fundId = fundId → other.externalId ≠ content.externalId)
      (others : Receives fundId importId rest (entries ++ [entry]) after) :
      Receives fundId importId (content :: rest) entries after

/-- What a step does to the statements. -/
inductive ImportBooks.Step [UnicodeTables] (before : ImportBooks) : ImportBooks → Prop where
  | received {input : CreateBankStatementImportInput} {statement : BankStatement}
      {statements : Table BankStatement.id} {entries : List StatedEntry}
      (unique : ((input.entries.map normalize).map (·.externalId)).Nodup)
      (fund : statement.fundId = input.fundId) (content : statement.checksum = contentOf input)
      (new : ∀ other ∈ before.statements,
        other.fundId = input.fundId → other.checksum ≠ contentOf input)
      (inserted : before.statements.insert? statement = some statements)
      (received : Receives input.fundId statement.id (input.entries.map normalize) before.entries
        entries) :
      Step before { statements, entries }

namespace ImportBooks

variable [UnicodeTables]

abbrev Steps : ImportBooks → ImportBooks → Prop := Relation.ReflTransGen Step

/-- Every statement is there once and complete, and every entry belongs to one statement. -/
structure Complete (books : ImportBooks) : Prop where
  single : ∀ statement ∈ books.statements, ∀ other ∈ books.statements,
    other.fundId = statement.fundId → other.checksum = statement.checksum → other = statement
  unique : books.entries.Pairwise fun entry other =>
    other.fundId = entry.fundId → other.externalId ≠ entry.externalId
  complete : ∀ statement ∈ books.statements, ∀ content ∈ statement.checksum.entries,
    ∃ entry ∈ books.entries, entry.importId = statement.id ∧ entry.fundId = statement.fundId ∧
      entry.States content
  owned : ∀ entry ∈ books.entries, ∃ statement ∈ books.statements,
    entry.importId = statement.id ∧ entry.fundId = statement.fundId ∧
      ∃ content ∈ statement.checksum.entries, entry.States content

omit [UnicodeTables] in
/-- The entries of a statement come after those that were there. -/
theorem Receives.spec {fundId importId : Id} {contents : List BankStatementEntryInput}
    {entries after : List StatedEntry} (receives : Receives fundId importId contents entries after) :
    ∃ added, after = entries ++ added ∧
      (∀ content ∈ contents, ∃ entry ∈ added, entry.importId = importId ∧
        entry.fundId = fundId ∧ entry.States content) ∧
      ∀ entry ∈ added, entry.importId = importId ∧ entry.fundId = fundId ∧
        ∃ content ∈ contents, entry.States content := by
  induction receives with
  | done entries => exact ⟨[], (List.append_nil entries).symm, nofun, nofun⟩
  | @entry content rest entries after entry states fund owner free others inductionHypothesis =>
      obtain ⟨added, rfl, contents, inRest⟩ := inductionHypothesis
      refine ⟨entry :: added, by rw [List.append_assoc, List.singleton_append], ?_, ?_⟩
      · intro wanted member
        obtain rfl | later := List.mem_cons.mp member
        · exact ⟨entry, List.mem_cons_self, owner, fund, states⟩
        · obtain ⟨other, isAdded, stated⟩ := contents wanted later
          exact ⟨other, List.mem_cons_of_mem _ isAdded, stated⟩
      · intro other member
        obtain rfl | later := List.mem_cons.mp member
        · exact ⟨owner, fund, content, List.mem_cons_self, states⟩
        · obtain ⟨owner, fund, stated, inList, states⟩ := inRest other later
          exact ⟨owner, fund, stated, List.mem_cons_of_mem _ inList, states⟩

omit [UnicodeTables] in
theorem Receives.unique {fundId importId : Id} {contents : List BankStatementEntryInput}
    {entries after : List StatedEntry} (receives : Receives fundId importId contents entries after)
    (unique : entries.Pairwise fun entry other =>
      other.fundId = entry.fundId → other.externalId ≠ entry.externalId) :
    after.Pairwise fun entry other =>
      other.fundId = entry.fundId → other.externalId ≠ entry.externalId := by
  induction receives with
  | done entries => exact unique
  | @entry content rest entries after entry states fund owner free others inductionHypothesis =>
      apply inductionHypothesis
      refine List.pairwise_append.mpr ⟨unique, List.pairwise_singleton _ _, ?_⟩
      intro old member new isNew sameFund
      obtain rfl := List.mem_singleton.mp isNew
      rw [states.externalId]
      exact (free old member (sameFund.symm.trans fund)).symm

omit [UnicodeTables] in
theorem Receives.free {fundId importId : Id} {contents : List BankStatementEntryInput}
    {entries after : List StatedEntry} (receives : Receives fundId importId contents entries after) :
    ∀ content ∈ contents, ∀ entry ∈ entries, entry.fundId = fundId →
      entry.externalId ≠ content.externalId := by
  induction receives with
  | done entries => exact nofun
  | entry states fund owner free others inductionHypothesis =>
      intro wanted stated entry member
      obtain rfl | later := List.mem_cons.mp stated
      · exact free entry member
      · exact inductionHypothesis wanted later entry (List.mem_append_left _ member)

/-- Statements that are in the books stay, with their entries. -/
theorem Step.extends {before after : ImportBooks} (step : Step before after) :
    (∀ statement ∈ before.statements, statement ∈ after.statements) ∧
      before.entries <+: after.entries := by
  cases step with
  | received unique fund content new inserted receives =>
      obtain ⟨added, same, -, -⟩ := receives.spec
      exact ⟨fun statement member => (Table.mem_insert? inserted).mpr (.inl member),
        same ▸ List.prefix_append _ _⟩

theorem Steps.extends {before after : ImportBooks} (steps : Steps before after) :
    (∀ statement ∈ before.statements, statement ∈ after.statements) ∧
      before.entries <+: after.entries := by
  induction steps with
  | refl => exact ⟨fun _ => id, List.prefix_refl _⟩
  | tail _ step inductionHypothesis =>
      obtain ⟨statements, entries⟩ := inductionHypothesis
      obtain ⟨later, more⟩ := step.extends
      exact ⟨fun statement member => later statement (statements statement member),
        entries.trans more⟩

theorem mem_contentOf {input : CreateBankStatementImportInput} {content : BankStatementEntryInput} :
    content ∈ (contentOf input).entries ↔ content ∈ input.entries.map normalize := by
  unfold contentOf canonicalEntries
  exact List.mem_insertionSort _

theorem Complete.step {before after : ImportBooks} (complete : Complete before)
    (step : Step before after) : Complete after := by
  cases step with
  | @received input statement statements entries unique fund content new inserted receives =>
      obtain ⟨added, rfl, contents, stated⟩ := receives.spec
      constructor
      · intro first isFirst second isSecond sameFund sameChecksum
        rcases (Table.mem_insert? inserted).mp isFirst with old | rfl
        · rcases (Table.mem_insert? inserted).mp isSecond with alsoOld | rfl
          · exact complete.single first old second alsoOld sameFund sameChecksum
          · exact absurd (sameChecksum.symm.trans content) (new first old (sameFund.symm.trans fund))
        · rcases (Table.mem_insert? inserted).mp isSecond with alsoOld | rfl
          · exact absurd (sameChecksum.trans content) (new second alsoOld (sameFund.trans fund))
          · rfl
      · exact receives.unique complete.unique
      · intro other member wanted isStated
        rcases (Table.mem_insert? inserted).mp member with old | rfl
        · obtain ⟨entry, inBooks, owner, inFund, states⟩ :=
            complete.complete other old wanted isStated
          exact ⟨entry, List.mem_append_left _ inBooks, owner, inFund, states⟩
        · rw [content, mem_contentOf] at isStated
          obtain ⟨entry, isAdded, owner, inFund, states⟩ := contents wanted isStated
          exact ⟨entry, List.mem_append_right _ isAdded, owner, inFund.trans fund.symm, states⟩
      · intro entry member
        rcases List.mem_append.mp member with old | isAdded
        · obtain ⟨owner, inBooks, rest⟩ := complete.owned entry old
          exact ⟨owner, (Table.mem_insert? inserted).mpr (.inl inBooks), rest⟩
        · obtain ⟨owner, inFund, wanted, inInput, states⟩ := stated entry isAdded
          refine ⟨statement, (Table.mem_insert? inserted).mpr (.inr rfl), owner,
            inFund.trans fund.symm, wanted, ?_, states⟩
          rw [content, mem_contentOf]
          exact inInput

theorem Complete.steps {before after : ImportBooks} (complete : Complete before)
    (steps : Steps before after) : Complete after := by
  induction steps with
  | refl => exact complete
  | tail _ step inductionHypothesis => exact inductionHypothesis.step step

end ImportBooks

namespace BankStore

variable {before after : BankStore} {id importId fundId employeeId : Id} {now : Timestamp}

/-- Changes of entries that leave what they state. -/
theorem importBooks_update (store : BankStore) (condition : BankStatementEntry → Bool)
    (change : BankStatementEntry → BankStatementEntry) (keeps : ∀ row, (change row).id = row.id)
    (stated : ∀ row, (change row).stated = row.stated) :
    importBooks { store with entries := store.entries.update condition change keeps } =
      store.importBooks := by
  have rows : (store.entries.update condition change keeps).rows.map BankStatementEntry.stated =
      store.entries.rows.map BankStatementEntry.stated := by
    rw [Table.update, List.map_map]
    refine List.map_congr_left fun row _ => ?_
    dsimp only [Function.comp_apply]
    split
    · exact stated row
    · rfl
  simp only [importBooks, rows]

theorem changing (condition : BankStatementEntry → Bool)
    (change : BankStatementEntry → BankStatementEntry) (keeps : ∀ row, (change row).id = row.id)
    (stated : ∀ row, (change row).stated = row.stated) :
    Keeps importBooks (updateMany bankStatementEntry condition change keeps :
      Tx BankStore Failure Nat) where
  step before result after committed := by
    obtain ⟨-, rfl⟩ := commits_updateMany.mp committed
    exact (importBooks_update before condition change keeps stated).symm

theorem changingOne {failure : Failure} (guard : BankStatementEntry → Bool)
    (change : BankStatementEntry → BankStatementEntry) (keeps : ∀ row, (change row).id = row.id)
    (stated : ∀ row, (change row).stated = row.stated) :
    Keeps importBooks (updateExpecting bankStatementEntry id guard change failure keeps) where
  step before result after committed := by
    obtain ⟨-, rfl⟩ := commits_updateExpecting.mp committed
    exact (importBooks_update before _ change keeps stated).symm

instance importBooks_databaseTx {α : Type} {program : Transact α} : Keeps importBooks (databaseTx program) where
  step before result after committed := by
    obtain ⟨database, -, rfl⟩ := commits_within.mp committed
    rfl

instance importBooks_markMismatch {reason : String} : Keeps importBooks (markMismatch id reason) := by
  have marks := changing (fun entry => entry.id = id && entry.isOpen)
    (fun entry => { entry with
      matchStatus := .mismatch
      mismatchReason := some reason
      matchedAt := none
      ignoredAt := none
      matchedHandoverId := none }) (fun _ => rfl) fun _ => rfl
  unfold BankReconciliation.markMismatch
  infer_instance

instance importBooks_markUnmatched : Keeps importBooks (markUnmatched id) := by
  have marks := changing (fun entry => entry.id = id && entry.matchStatus = .mismatch)
    (fun entry => { entry with matchStatus := .unmatched, mismatchReason := none })
    (fun _ => rfl) fun _ => rfl
  unfold BankReconciliation.markUnmatched
  infer_instance

instance importBooks_ignoreEntry {reason : String} :
    Keeps importBooks (ignoreEntry id employeeId reason now) := by
  have marks := @changingOne id
    (Failure.conflict "The statement entry changed. Reload before ignoring it.")
    BankStatementEntry.isOpen
    (fun row => { row with
      matchStatus := .ignored
      mismatchReason := some reason
      ignoredAt := some now
      matchedAt := none
      matchedHandoverId := none }) (fun _ => rfl) fun _ => rfl
  unfold BankReconciliation.ignoreEntry
  infer_instance

instance importBooks_settleAndLink {entry : BankStatementEntry} {handover : CashHandover}
    {bankReference : String} :
    Keeps importBooks (settleAndLink entry handover bankReference employeeId now) := by
  have links := @changingOne entry.id
    (Failure.conflict "The statement entry changed during reconciliation.")
    BankStatementEntry.isOpen
    (fun row => { row with
      matchStatus := .matched
      mismatchReason := none
      matchedAt := some now
      ignoredAt := none
      matchedHandoverId := some handover.id }) (fun _ => rfl) fun _ => rfl
  unfold BankReconciliation.settleAndLink
  infer_instance

instance importBooks_matchEntry : Keeps importBooks (matchEntry id employeeId now) := by
  unfold BankReconciliation.matchEntry matchReference
  infer_instance

instance importBooks_reviewEntry : Keeps importBooks (reviewEntry id) := importBooks_markMismatch

/-- An entry is new in its fund and states what it was created for. -/
theorem importBooks_insertEntry {content : BankStatementEntryInput}
    (committed : Commits (insertEntry importId fundId now content) before () after) :
    ∃ entry : StatedEntry, entry.States content ∧ entry.fundId = fundId ∧
      entry.importId = importId ∧
      (∀ other ∈ before.importBooks.entries,
        other.fundId = fundId → other.externalId ≠ content.externalId) ∧
      after.importBooks = { before.importBooks with
        entries := before.importBooks.entries ++ [entry] } := by
  simp only [insertEntry, commits_bind, commits_findFirst, commits_require,
    commits_create] at committed
  obtain ⟨id, drawn, fresh, taken, _, ⟨rfl, rfl⟩, _, _, ⟨free, rfl⟩, entries, inserted, rfl⟩ :=
    committed
  obtain ⟨database, -, rfl⟩ := commits_within.mp fresh
  refine ⟨(newEntry id importId fundId content now).stated,
    ⟨rfl, rfl, rfl, rfl, rfl, rfl⟩, rfl, rfl, ?_, ?_⟩
  · intro other member inFund same
    obtain ⟨entry, inTable, rfl⟩ := List.mem_map.mp member
    have unmet := Table.first?_eq_none.mp (Option.isNone_iff_eq_none.mp free) entry inTable
    have funds : entry.fundId = fundId := inFund
    have ids : entry.externalId = content.externalId := same
    simp [funds, ids] at unmet
  · have rows := (Table.rows_insert? inserted).1
    simp only [bankStatementEntry_get] at rows
    simp [importBooks, rows]

theorem importBooks_insertEntries {contents : List BankStatementEntryInput}
    (committed : Commits (forEach contents (insertEntry importId fundId now)) before () after) :
    after.importBooks.statements = before.importBooks.statements ∧
      ImportBooks.Receives fundId importId contents before.importBooks.entries
        after.importBooks.entries := by
  induction contents generalizing before with
  | nil =>
      obtain rfl := commits_forEach_nil.mp committed
      exact ⟨rfl, .done _⟩
  | cons content rest inductionHypothesis =>
      obtain ⟨middle, first, others⟩ := commits_forEach_cons.mp committed
      obtain ⟨entry, states, fund, owner, free, same⟩ := importBooks_insertEntry first
      obtain ⟨statements, received⟩ := inductionHypothesis others
      rw [same] at statements received
      exact ⟨statements, .entry states fund owner free received⟩

theorem first?_isNone {ρ κ : Type} {key : ρ → κ} {table : Table key} {condition : ρ → Bool}
    (none : (table.first? condition).isNone = true) : ∀ row ∈ table, condition row = false :=
  fun row member => by
    simpa using Table.first?_eq_none.mp (Option.isNone_iff_eq_none.mp none) row member

variable [UnicodeTables] {input : CreateBankStatementImportInput}

/-- The statement that is in the books after its import. -/
theorem importBooks_insertStatement {statement : BankStatement}
    (committed : Commits (insertStatement employeeId input now) before statement after) :
    before.importBooks.Step after.importBooks ∧
      ImportBooks.Receives input.fundId statement.id (input.entries.map normalize)
        before.importBooks.entries after.importBooks.entries ∧
      statement ∈ after.statements ∧ statement.fundId = input.fundId ∧
      statement.checksum = contentOf input := by
  simp only [insertStatement, assertUniqueIds, findByChecksum, commits_bind, commits_require,
    commits_get, commits_findFirst, commits_create, commits_pure] at committed
  obtain ⟨_, _, ⟨unique, rfl⟩, store, _, ⟨rfl, rfl⟩, _, worked, drawn, known, _, ⟨rfl, rfl⟩,
    _, _, ⟨new, rfl⟩, _, _, ⟨statements, inserted, rfl⟩, _, _, received, rfl, rfl⟩ := committed
  obtain ⟨database, -, rfl⟩ := commits_within.mp drawn
  obtain ⟨same, entries⟩ := importBooks_insertEntries received
  have member : ∀ row, row ∈ after.statements ↔ row ∈ statements := by
    intro row
    have table : after.statements = statements := same
    rw [table]
  refine ⟨?_, entries, (member _).mpr ((Table.mem_insert? inserted).mpr (.inr rfl)), rfl, rfl⟩
  have books : after.importBooks = { statements, entries := after.importBooks.entries } :=
    congrArg (fun table => ImportBooks.mk table after.importBooks.entries) same
  rw [books]
  refine .received unique rfl rfl ?_ inserted entries
  intro other inTable inFund alsoChecksum
  have unmet := first?_isNone new other inTable
  simp [inFund, alsoChecksum] at unmet

instance importBooks_command {command : BankCommand} :
    Respects (On importBooks ImportBooks.Steps) (command.execute now) := by
  have weaken {α : Type} (program : Tx BankStore Failure α) [Keeps importBooks program] :
      Respects (On importBooks ImportBooks.Steps) program := by
    constructor
    intro before result after committed
    unfold On
    rw [Keeps.eq importBooks committed]
  cases command with
  | importStatement employeeId input =>
      constructor
      intro before result after committed
      simp only [BankCommand.execute, importStatement, commits_bind, commits_pure] at committed
      obtain ⟨statement, middle, inserted, -, rfl⟩ := committed
      exact .single (importBooks_insertStatement inserted).1
  | matchEntry id employeeId => exact weaken (BankReconciliation.matchEntry id employeeId now)
  | reviewEntry id => exact weaken (BankReconciliation.reviewEntry id)
  | ignoreEntry id employeeId reason =>
      exact weaken (BankReconciliation.ignoreEntry id employeeId reason now)

theorem Steps.importBooks (steps : Steps before after) :
    before.importBooks.Steps after.importBooks := by
  induction steps with
  | refl => exact .refl
  | tail _ step inductionHypothesis =>
      cases step with
      | commit command now committed =>
          exact inductionHypothesis.trans (BankStore.importBooks_command.step committed)
      | system taken => exact inductionHypothesis

theorem Reachable.complete {store : BankStore} (reachable : Reachable store) :
    store.importBooks.Complete := by
  obtain ⟨start, -, noStatements, noEntries, steps⟩ := reachable
  have initial : start.importBooks = ⟨.empty, []⟩ := by
    rw [BankStore.importBooks, noStatements, noEntries]
    rfl
  refine ImportBooks.Complete.steps ?_ (Steps.importBooks steps)
  rw [initial]
  exact ⟨fun _ none => absurd none Table.not_mem_empty, .nil,
    fun _ none => absurd none Table.not_mem_empty, nofun⟩

end BankStore

namespace BankReconciliation

variable [UnicodeTables]

/-- `P2002`. -/
def isUniqueViolation (failure : Failure) : Bool := failure.kind = .constraint

/-- `createImport` among the steps of others, from the store at its call to the one at its
answer. -/
inductive CreateImport (employeeId : Id) (input : CreateBankStatementImportInput)
    (before : BankStore) : Except Failure BankStatement → BankStore → Prop where
  | refused {failure : Failure} (aborted : lookUpImport employeeId input before = .error failure) :
      CreateImport employeeId input before (.error failure) before
  | replayed {statement : BankStatement}
      (known : Commits (lookUpImport employeeId input) before (some statement) before) :
      CreateImport employeeId input before (.ok statement) before
  | imported {middle after : BankStore} {statement : BankStatement} {now : Timestamp}
      (unknown : Commits (lookUpImport employeeId input) before none before)
      (steps : Steps before middle)
      (inserted : Commits (insertStatement employeeId input now) middle statement after) :
      CreateImport employeeId input before (.ok statement) after
  | failed {middle : BankStore} {failure : Failure} {now : Timestamp}
      (unknown : Commits (lookUpImport employeeId input) before none before)
      (steps : Steps before middle)
      (aborted : insertStatement employeeId input now middle = .error failure)
      (other : isUniqueViolation failure = false) :
      CreateImport employeeId input before (.error failure) middle
  | raced {middle after : BankStore} {failure : Failure} {statement : BankStatement}
      {now : Timestamp}
      (unknown : Commits (lookUpImport employeeId input) before none before)
      (steps : Steps before middle)
      (aborted : insertStatement employeeId input now middle = .error failure)
      (violates : isUniqueViolation failure = true) (later : Steps middle after)
      (known : Commits (findByChecksum input) after (some statement) after) :
      CreateImport employeeId input before (.ok statement) after
  | conflict {middle after : BankStore} {failure : Failure} {now : Timestamp}
      (unknown : Commits (lookUpImport employeeId input) before none before)
      (steps : Steps before middle)
      (aborted : insertStatement employeeId input now middle = .error failure)
      (violates : isUniqueViolation failure = true) (later : Steps middle after)
      (known : Commits (findByChecksum input) after none after) :
      CreateImport employeeId input before (.error alreadyImported) after

/-- The same fund and period, and the same entries up to their order and the case of their
references. -/
structure Restates (input other : CreateBankStatementImportInput) : Prop where
  fundId : other.fundId = input.fundId
  statementFrom : other.statementFrom = input.statementFrom
  statementTo : other.statementTo = input.statementTo
  entries : (other.entries.map normalize).Perm (input.entries.map normalize)

/-- The statement is in the store with every entry of the input, each of them once. -/
structure ImportedOnce (input : CreateBankStatementImportInput) (store : BankStore)
    (statement : BankStatement) : Prop where
  member : statement ∈ store.statements
  entries : ∀ content ∈ input.entries.map normalize, ∃ entry ∈ store.entries,
    entry.importId = statement.id ∧ entry.stated.States content ∧
      ∀ other ∈ store.entries, other.fundId = input.fundId →
        other.externalId = content.externalId → other = entry

/-- What makes an import recognisable. -/
structure ImportIdentity (sha256 : List Char → String) (input : CreateBankStatementImportInput) :
    Prop where
  reordered : ∀ other, input.Reorders other → checksumOf sha256 other = checksumOf sha256 input
  recased : ∀ other checksum, checksumOf sha256 input = some checksum → input.Recases other →
    checksumOf sha256 other = some checksum
  differs : ∀ other checksum, checksumOf sha256 input = some checksum →
    checksumOf sha256 other = some checksum → Restates input other
  once : ∀ ⦃other first second before otherBefore after otherAfter final statement again⦄,
    Restates input other → BankStore.Reachable before → BankStore.Reachable otherBefore →
      CreateImport first input before (.ok statement) after →
      CreateImport second other otherBefore (.ok again) otherAfter →
      Steps after final → Steps otherAfter final →
      again = statement ∧ ImportedOnce input final statement
  whole : ∀ ⦃store⦄, BankStore.Reachable store → store.importBooks.Complete ∧
    ∀ content ∈ input.entries.map normalize, ∀ entry ∈ store.entries,
      entry.fundId = input.fundId → entry.externalId = content.externalId →
      ∀ employeeId now, ∃ failure, insertStatement employeeId input now store = .error failure

variable {sha256 : List Char → String} {input other : CreateBankStatementImportInput}
  {employeeId : Id} {before after : BankStore} {statement : BankStatement}

theorem commits_findByChecksum
    (known : Commits (findByChecksum input) before (some statement) after) :
    statement ∈ before.statements ∧ statement.fundId = input.fundId ∧
      statement.checksum = contentOf input := by
  simp only [findByChecksum, commits_findFirst] at known
  obtain ⟨member, met⟩ := Table.mem_of_first? known.1.symm
  simp only [Bool.and_eq_true, decide_eq_true_eq] at met
  exact ⟨member, met⟩

theorem CreateImport.reachable {answer : Except Failure BankStatement} (reachable : BankStore.Reachable before)
    (answered : CreateImport employeeId input before answer after) : BankStore.Reachable after := by
  obtain ⟨start, system, noStatements, noEntries, run⟩ := reachable
  refine ⟨start, system, noStatements, noEntries, ?_⟩
  cases answered with
  | refused aborted => exact run
  | replayed known => exact run
  | @imported _ _ _ now unknown steps inserted =>
      refine (run.trans steps).tail (.commit (.importStatement employeeId input) now ?_)
      simp only [BankCommand.execute, importStatement, commits_bind, commits_pure]
      exact ⟨_, _, inserted, trivial, rfl⟩
  | failed unknown steps aborted other => exact run.trans steps
  | raced unknown steps aborted violates later known => exact (run.trans steps).trans later
  | conflict unknown steps aborted violates later known => exact (run.trans steps).trans later

/-- The statement of an answer is in the store, with the content of the input. -/
theorem CreateImport.stated
    (answered : CreateImport employeeId input before (.ok statement) after) :
    statement ∈ after.statements ∧ statement.fundId = input.fundId ∧
      statement.checksum = contentOf input := by
  cases answered with
  | replayed known =>
      simp only [lookUpImport, commits_bind] at known
      obtain ⟨_, middle, checked, _, later, unique, found, _, isFound, -, _, -, done⟩ := known
      obtain ⟨database, -, rfl⟩ := commits_within.mp checked
      have same : later.statements = before.statements := by
        rw [(commits_require.mp unique).2]
        rfl
      obtain ⟨rfl, -⟩ := commits_pure.mp done
      obtain ⟨member, rest⟩ := commits_findByChecksum isFound
      exact ⟨same ▸ member, rest⟩
  | imported unknown steps inserted => exact (importBooks_insertStatement inserted).2.2
  | raced unknown steps aborted violates later known => exact commits_findByChecksum known

theorem importedOnce (complete : before.importBooks.Complete)
    (member : statement ∈ before.statements) (fund : statement.fundId = input.fundId)
    (checksum : statement.checksum = contentOf input) : ImportedOnce input before statement := by
  refine ⟨member, fun content isStated => ?_⟩
  have inContent : content ∈ statement.checksum.entries := by
    rw [checksum, ImportBooks.mem_contentOf]
    exact isStated
  obtain ⟨stated, inBooks, owner, inFund, states⟩ :=
    complete.complete statement member content inContent
  obtain ⟨entry, inStore, rfl⟩ := List.mem_map.mp inBooks
  refine ⟨entry, inStore, owner, states, fun other otherMember otherFund otherId => ?_⟩
  by_contra differs
  have symmetric : Std.Symm fun first second : BankStatementEntry =>
      second.stated.fundId = first.stated.fundId →
        second.stated.externalId ≠ first.stated.externalId :=
    ⟨fun first second apart fund same => apart fund.symm same.symm⟩
  have apart := List.pairwise_map.mp complete.unique
  exact apart.forall inStore otherMember (Ne.symm differs)
    (otherFund.trans (fund.symm.trans inFund.symm)) (otherId.trans states.externalId.symm)

/-- Two imports of one statement are one. -/
theorem again_eq (complete : before.importBooks.Complete) (restates : Restates input other)
    {again : BankStatement} (first : ImportedOnce input before statement)
    (second : ImportedOnce other before again) (fund : statement.fundId = input.fundId)
    (otherFund : again.fundId = other.fundId) (checksum : statement.checksum = contentOf input)
    (otherChecksum : again.checksum = contentOf other) : again = statement := by
  cases entries : input.entries.map normalize with
  | nil =>
      have none : other.entries.map normalize = [] := (entries ▸ restates.entries).eq_nil
      refine complete.single statement first.member again second.member
        (otherFund.trans (restates.fundId.trans fund.symm)) ?_
      rw [checksum, otherChecksum, contentOf, contentOf, restates.fundId, restates.statementFrom,
        restates.statementTo, entries, none]
  | cons content rest =>
      have isStated : content ∈ input.entries.map normalize := by
        rw [entries]
        exact List.mem_cons_self
      obtain ⟨entry, inStore, owner, states, -⟩ := first.entries content isStated
      obtain ⟨row, rowMember, rowOwner, rowStates, single⟩ :=
        second.entries content (restates.entries.mem_iff.mpr isStated)
      obtain ⟨known, inBooks, same, inFund, -⟩ :=
        complete.owned entry.stated (List.mem_map.mpr ⟨entry, inStore, rfl⟩)
      obtain rfl : known = statement :=
        Table.eq_of_key_eq inBooks first.member (same.symm.trans owner)
      have equal := single entry inStore
        (inFund.trans (fund.trans restates.fundId.symm)) states.externalId
      exact Table.eq_of_key_eq second.member first.member
        (rowOwner.symm.trans ((congrArg BankStatementEntry.importId equal).symm.trans owner))

theorem Steps.statements (steps : Steps before after) (member : statement ∈ before.statements) :
    statement ∈ after.statements :=
  (ImportBooks.Steps.extends (Steps.importBooks steps)).1 statement member

/-- A statement with a known entry is refused. -/
theorem insertStatement_taken {content : BankStatementEntryInput} {entry : BankStatementEntry}
    (isStated : content ∈ input.entries.map normalize) (member : entry ∈ before.entries)
    (fund : entry.fundId = input.fundId) (same : entry.externalId = content.externalId)
    (now : Timestamp) : ∃ failure, insertStatement employeeId input now before = .error failure := by
  cases result : insertStatement employeeId input now before with
  | error failure => exact ⟨failure, rfl⟩
  | ok outcome =>
      obtain ⟨-, receives, -⟩ := importBooks_insertStatement result
      have stated : entry.stated ∈ before.importBooks.entries :=
        List.mem_map.mpr ⟨entry, member, rfl⟩
      exact absurd same (receives.free content isStated entry.stated stated fund)

/-- An import is recognised exactly when the collation tells its entries apart and upper case undoes
the changes of case in their references. -/
theorem importIdentity_iff (injective : Function.Injective sha256) :
    ImportIdentity sha256 input ↔ input.Distinguishable ∧ input.CaseStable := by
  constructor
  · intro identity
    exact ⟨(checksumOf_reorders_iff injective).mp identity.reordered,
      (checksumOf_recases_iff injective).mp identity.recased⟩
  · rintro ⟨distinguishable, stable⟩
    constructor
    · exact (checksumOf_reorders_iff injective).mpr distinguishable
    · exact (checksumOf_recases_iff injective).mpr stable
    · intro other checksum first second
      obtain ⟨funds, starts, finishes, entries⟩ := checksumOf_inj injective first second
      exact ⟨funds, starts, finishes, entries⟩
    · intro other first second before otherBefore after otherAfter final statement again restates
        reachable otherReachable answered alsoAnswered steps otherSteps
      obtain ⟨member, fund, checksum⟩ := answered.stated
      obtain ⟨otherMember, otherFund, otherChecksum⟩ := alsoAnswered.stated
      obtain ⟨start, system, noStatements, noEntries, run⟩ := answered.reachable reachable
      have complete : final.importBooks.Complete :=
        BankStore.Reachable.complete ⟨start, system, noStatements, noEntries, run.trans steps⟩
      have imported := importedOnce complete (Steps.statements steps member) fund checksum
      have otherImported :=
        importedOnce complete (Steps.statements otherSteps otherMember) otherFund otherChecksum
      exact ⟨again_eq complete restates imported otherImported fund otherFund checksum
        otherChecksum, imported⟩
    · intro store reachable
      refine ⟨reachable.complete, ?_⟩
      intro content isStated entry member fund same employeeId now
      exact insertStatement_taken isStated member fund same now

end BankReconciliation

namespace BankReconciliation

/-- The letter E with an acute accent, spelled with one and with two code points. -/
def acute (combined : Bool) : String := if combined then "\u00c9" else "E\u0301"

def composed (text : String) : String := if text = acute false then acute true else text

/-- Tables under which the two spellings of an accented letter are equal. -/
@[reducible] def canonicalTables : UnicodeTables where
  upper := asciiTables.upper
  lower := asciiTables.lower
  localeLe left right := asciiTables.localeLe (composed left) (composed right)
  total left right := asciiTables.total (composed left) (composed right)
  trans first second third := asciiTables.trans (composed first) (composed second) (composed third)

/-- Two entries with ids that the tables do not tell apart. -/
def tiedStatement : CreateBankStatementImportInput where
  fundId := 0
  sourceFileName := "july.csv"
  statementFrom := 0
  statementTo := 86400000
  entries := [false, true].map fun combined =>
    { externalId := acute combined
      direction := .credit
      amount := ⟨100, by decide⟩
      transactionDate := 3600000
      bankReference := none
      description := none }

theorem importIdentity_tied : ¬@ImportIdentity canonicalTables String.ofList tiedStatement := by
  intro identity
  have injective : Function.Injective String.ofList := fun _ _ same => String.ofList_injective same
  have apart := (@checksumOf_reorders_iff canonicalTables _ _ injective).mp
    (@ImportIdentity.reordered canonicalTables _ _ identity) (by decide +kernel)
  exact List.rel_of_pairwise_cons apart (List.mem_singleton.mpr rfl) (by decide +kernel)

/-- A statement of three entries, whose references are written in different cases. -/
def sampleStatement : CreateBankStatementImportInput where
  fundId := 0
  sourceFileName := "july.csv"
  statementFrom := 0
  statementTo := 86400000
  entries := [
    { externalId := "txn-1"
      direction := .credit
      amount := ⟨100, by decide⟩
      transactionDate := 3600000
      bankReference := some "dep-1"
      description := none },
    { externalId := "Txn-3"
      direction := .debit
      amount := ⟨100, by decide⟩
      transactionDate := 7200000
      bankReference := none
      description := some "Fee" },
    { externalId := "TXN-2"
      direction := .credit
      amount := ⟨2500, by decide⟩
      transactionDate := 3600000
      bankReference := some "Dep-2"
      description := none }]

/-- The sample is recognised, and has the same checksum in another order. -/
theorem importIdentity_sample : ImportIdentity String.ofList sampleStatement ∧
    ∃ checksum, checksumOf String.ofList sampleStatement = some checksum ∧
      checksumOf String.ofList
        { sampleStatement with entries := sampleStatement.entries.reverse } = some checksum := by
  have injective : Function.Injective String.ofList := fun _ _ same => String.ofList_injective same
  have unique : ((sampleStatement.entries.map normalize).map (·.externalId)).Nodup := by
    decide +kernel
  have identity : ImportIdentity String.ofList sampleStatement := by
    refine (importIdentity_iff injective).mpr ⟨fun _ => by decide +kernel, fun _ entry member => ?_⟩
    simp only [sampleStatement, List.mem_cons, List.not_mem_nil, or_false] at member
    obtain rfl | rfl | rfl := member
    · exact ⟨by decide +kernel, by decide +kernel⟩
    · exact ⟨by decide +kernel, by decide +kernel⟩
    · exact ⟨by decide +kernel, by decide +kernel⟩
  have checksum : checksumOf String.ofList sampleStatement =
      some (createChecksum String.ofList (contentOf sampleStatement)) :=
    checksumOf_eq_some.mpr ⟨unique, rfl⟩
  have reordered := identity.reordered
    { sampleStatement with entries := sampleStatement.entries.reverse }
    ⟨rfl, rfl, rfl, List.reverse_perm _⟩
  exact ⟨identity, _, checksum, reordered.trans checksum⟩

end BankReconciliation

end CoffeeShop
