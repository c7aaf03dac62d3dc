import CoffeeShop.Execution
import CoffeeShop.Inventory.Accounting
import CoffeeShop.Inventory.Documents
import CoffeeShop.Library.Interrupted

/-!
What the posting of a purchase receipt does.

Every edit of a draft raises its `updatedAt`, so the one that a reviewer saw names the lines
that were there.  A posting loop that has gone through twice for one item has failed at the
second line, since the first one raised the stock.
-/

-- An instance for a program has one node for each of its statements.
set_option synthInstance.maxSize 100000

namespace CoffeeShop

open Transaction InventoryStore

abbrev ReceiptTables := Table PurchaseReceipt.id × Table PurchaseReceiptItem.id

/-- The receipts with their lines. -/
def InventoryStore.receiving (store : InventoryStore) : ReceiptTables :=
  (store.purchaseReceipts, store.purchaseReceiptItems)

instance : OffStock receiving where
  items := ⟨fun _ _ => rfl⟩
  reservations := ⟨fun _ _ => rfl⟩
  ledger := ⟨fun _ _ => rfl⟩
  snapshots := ⟨fun _ _ => rfl⟩
  wastes := ⟨fun _ _ => rfl⟩

instance : Apart receiving stocktake := ⟨fun _ _ => rfl⟩
instance : Apart receiving stocktakeItem := ⟨fun _ _ => rfl⟩

namespace PurchaseReceiptService

/-- The lines of a receipt. -/
def receiptLines (tables : ReceiptTables) (id : Id) : List PurchaseReceiptItem :=
  tables.2.select fun line => line.purchaseReceiptId = id

/-- What may become of a receipt: a draft is edited, with a later `updatedAt`, or closed, and
stays closed. -/
structure Revised (before after : ReceiptTables) (id : Id) (receipt later : PurchaseReceipt) :
    Prop where
  closed : receipt.status ≠ .draft → later.status ≠ .draft
  rises : later.status = .draft → receipt.updatedAt ≤ later.updatedAt
  unedited : later.status = .draft → later.updatedAt = receipt.updatedAt →
    later = receipt ∧ receiptLines after id = receiptLines before id

def Revises (before after : ReceiptTables) : Prop :=
  ∀ id receipt, before.1.find? id = some receipt → ∃ later, after.1.find? id = some later ∧
    Revised before after id receipt later

section Documents

/-- A receipt that keeps its row and its lines. -/
theorem Revised.kept {before after : ReceiptTables} {id : Id} {receipt : PurchaseReceipt}
    (lines : receiptLines after id = receiptLines before id) :
    Revised before after id receipt receipt :=
  ⟨fun closed => closed, fun _ => le_rfl, fun _ _ => ⟨rfl, lines⟩⟩

instance : IsPreorder ReceiptTables Revises where
  refl _ _ receipt found := ⟨receipt, found, .kept rfl⟩
  trans first second third start rest id receipt found := by
    obtain ⟨middle, atMiddle, early⟩ := start id receipt found
    obtain ⟨last, atLast, late⟩ := rest id middle atMiddle
    have draft (isDraft : last.status = .draft) : middle.status = .draft :=
      not_not.mp fun closed => late.closed closed isDraft
    refine ⟨last, atLast, late.closed ∘ early.closed, fun isDraft => ?_, fun isDraft equal => ?_⟩
    · exact (early.rises (draft isDraft)).trans (late.rises isDraft)
    · have unmoved : middle.updatedAt = receipt.updatedAt :=
        le_antisymm (equal ▸ late.rises isDraft) (early.rises (draft isDraft))
      obtain ⟨sameMiddle, linesMiddle⟩ := early.unedited (draft isDraft) unmoved
      obtain ⟨sameLast, linesLast⟩ := late.unedited isDraft (equal.trans unmoved.symm)
      exact ⟨sameLast.trans sameMiddle, linesLast.trans linesMiddle⟩

/-- A draft is closed. -/
theorem closes {id : Id} {guard : PurchaseReceipt → Bool}
    {change : PurchaseReceipt → PurchaseReceipt} {failure : Failure}
    {keeps : ∀ row, (change row).id = row.id}
    (closed : ∀ row, (change row).status ≠ .draft) :
    Respects (On receiving Revises)
      (updateExpecting purchaseReceipt id guard change failure keeps) where
  step before result after committed other receipt found := by
    obtain ⟨-, rfl⟩ := commits_updateExpecting.mp committed
    change before.purchaseReceipts.find? other = some receipt at found
    change ∃ later, (before.purchaseReceipts.update _ change keeps).find? other = some later ∧ _
    rw [Table.find?_update, found]
    refine ⟨_, rfl, ?_⟩
    dsimp only
    split
    · exact ⟨fun _ => closed receipt, fun isDraft => (closed receipt isDraft).elim,
        fun isDraft => (closed receipt isDraft).elim⟩
    · exact .kept rfl

end Documents

section Commands

variable {id employeeId : Id} {now : Timestamp} {before after : Database}

/-- New lines of a receipt. -/
theorem commits_createLines {lines : List PreparedReceiptLine}
    (committed : Commits (createLines id lines) before () after) :
    after.inventory.purchaseReceipts = before.inventory.purchaseReceipts ∧
      ∀ other ≠ id, receiptLines after.inventory.receiving other =
        receiptLines before.inventory.receiving other := by
  unfold createLines at committed
  induction lines generalizing before with
  | nil =>
      rw [commits_forEach_nil.mp committed]
      exact ⟨rfl, fun _ _ => rfl⟩
  | cons line rest inductionHypothesis =>
      obtain ⟨middle, head, tail⟩ := commits_forEach_cons.mp committed
      obtain ⟨receipts, others⟩ := inductionHypothesis tail
      simp only [commits_bind, commits_freshId, commits_inventoryTx, commits_create] at head
      obtain ⟨_, _, ⟨rfl, rfl⟩, _, ⟨next, inserted, rfl⟩, rfl⟩ := head
      refine ⟨receipts, fun other apart => (others other apart).trans ?_⟩
      change next.rows.filter _ = before.inventory.purchaseReceiptItems.rows.filter _
      rw [(Table.rows_insert? inserted).1, List.filter_append,
        List.filter_cons_of_neg (by simpa using apart.symm), List.filter_nil, List.append_nil]
      rfl

instance creates {input : CreatePurchaseReceiptInput} :
    OnStock (On receiving Revises) (create employeeId input now) where
  step before result after committed other receipt found := by
    simp only [create, commits_bind, commits_inventoryTx, commits_readCatalog, commits_freshId,
      commits_create] at committed
    obtain ⟨_, _, active, _, _, supplier, _, _, ⟨rfl, rfl⟩, lines, _, ⟨_, prepared, rfl⟩, _, _,
      ⟨rfl, rfl⟩, _, _, ⟨_, ⟨receipts, inserted, rfl⟩, rfl⟩, lined⟩ := committed
    cases Respects.step (R := Eq) active
    cases Respects.step (R := Eq) supplier
    cases Respects.step (R := Eq) prepared
    obtain ⟨sameReceipts, others⟩ := commits_createLines lined
    have apart : other ≠ before.nextId := by
      rintro rfl
      exact (Table.rows_insert? inserted).2 receipt (Table.mem_of_find? found)
        (Table.find?_key found)
    refine ⟨receipt, ?_, .kept (others other apart)⟩
    change after.inventory.purchaseReceipts.find? other = some receipt
    rw [sameReceipts]
    exact (Table.find?_insert? inserted).trans ((if_neg apart.symm).trans found)

/-- The lines that an edit leaves for the other receipts. -/
theorem commits_replaceLines {lines : List PreparedReceiptLine}
    (committed : Commits (replaceLines id lines) before () after) :
    after.inventory.purchaseReceipts = before.inventory.purchaseReceipts ∧
      ∀ other ≠ id, receiptLines after.inventory.receiving other =
        receiptLines before.inventory.receiving other := by
  simp only [replaceLines, commits_bind, commits_inventoryTx, commits_deleteMany] at committed
  obtain ⟨_, _, ⟨_, ⟨-, rfl⟩, rfl⟩, lined⟩ := committed
  obtain ⟨receipts, others⟩ := commits_createLines lined
  refine ⟨receipts, fun other apart => (others other apart).trans ?_⟩
  change (before.inventory.purchaseReceiptItems.rows.filter _).filter _ =
    before.inventory.purchaseReceiptItems.rows.filter _
  rw [List.filter_filter]
  refine List.filter_congr fun line _ => ?_
  by_cases own : line.purchaseReceiptId = other
  · simp [own, apart]
  · simp [own]

/-- The edit of the row of a draft, after its lines were replaced or left alone. -/
theorem revises_draft {lined : Database} {draft : PurchaseReceipt} {updatedAt : Timestamp}
    {change : PurchaseReceipt → PurchaseReceipt} {keeps : ∀ row, (change row).id = row.id}
    {failure : Failure} (found : before.inventory.purchaseReceipts.find? id = some draft)
    (isDraft : draft.status = .draft) (later : draft.updatedAt < updatedAt)
    (stamped : ∀ row, (change row).updatedAt = updatedAt)
    (receipts : lined.inventory.purchaseReceipts = before.inventory.purchaseReceipts)
    (others : ∀ other ≠ id, receiptLines lined.inventory.receiving other =
      receiptLines before.inventory.receiving other)
    {result : Unit} {stored : InventoryStore}
    (written : Commits (updateExpecting purchaseReceipt id (fun _ => true) change failure keeps)
      lined.inventory result stored) :
    Revises before.inventory.receiving stored.receiving := by
  obtain ⟨-, rfl⟩ := commits_updateExpecting.mp written
  intro other receipt atBefore
  change before.inventory.purchaseReceipts.find? other = some receipt at atBefore
  change ∃ row, (lined.inventory.purchaseReceipts.update _ change keeps).find? other = some row ∧ _
  rw [Table.find?_update, receipts, atBefore]
  refine ⟨_, rfl, ?_⟩
  have key : receipt.id = other := Table.find?_key atBefore
  by_cases own : other = id
  · subst own
    obtain rfl := Option.some.inj (found.symm.trans atBefore)
    dsimp only
    rw [if_pos (by simp [key])]
    refine ⟨fun closed => (closed isDraft).elim, fun _ => ?_, fun _ equal => ?_⟩
    · rw [stamped]
      exact later.le
    · rw [stamped] at equal
      exact (later.ne equal.symm).elim
  · dsimp only
    rw [if_neg (by simp [key, own])]
    exact .kept (others other own)

instance updates {input : UpdatePurchaseReceiptInput} :
    OnStock (On receiving Revises) (update id employeeId input now) where
  step before result after committed := by
    simp only [update, assertDraft, commits_bind, commits_inventoryTx, commits_findUniqueOrFail,
      commits_require, commits_pure, commits_readCatalog, commits_ifSome] at committed
    obtain ⟨_, _, active, draft, _, ⟨_, ⟨_, _, ⟨found, rfl⟩, _, _, ⟨isDraft, rfl⟩, rfl, rfl⟩, rfl⟩,
      _, _, supplier, catalog, _, ⟨rfl, rfl⟩, edited⟩ := committed
    cases Respects.step (R := Eq) active
    cases Respects.step (R := Eq) supplier
    have rises : draft.updatedAt < max now (draft.updatedAt + 1) :=
      lt_of_lt_of_le (Nat.lt_succ_self _) (le_max_right _ _)
    obtain ⟨items, -, lines, _, ⟨_, prepared, rfl⟩, _, middle, replaced, _, written, rfl⟩ |
      ⟨-, _, written, rfl⟩ := edited
    · cases Respects.step (R := Eq) prepared
      obtain ⟨receipts, others⟩ := commits_replaceLines replaced
      refine revises_draft found isDraft rises ?_ receipts others written
      exact fun _ => rfl
    · refine revises_draft found isDraft rises ?_ rfl (fun _ _ => rfl) written
      exact fun _ => rfl

/-- An edit gives the draft a later `updatedAt`. -/
theorem rises_of_update {input : UpdatePurchaseReceiptInput}
    (committed : Commits (update id employeeId input now) before () after) :
    ∃ draft later, before.inventory.purchaseReceipts.find? id = some draft ∧
      after.inventory.purchaseReceipts.find? id = some later ∧ draft.updatedAt < later.updatedAt := by
  simp only [update, assertDraft, commits_bind, commits_inventoryTx, commits_findUniqueOrFail,
    commits_require, commits_pure, commits_readCatalog, commits_ifSome] at committed
  obtain ⟨_, _, active, draft, _, ⟨_, ⟨_, _, ⟨found, rfl⟩, _, _, ⟨-, rfl⟩, rfl, rfl⟩, rfl⟩,
    _, _, supplier, catalog, _, ⟨rfl, rfl⟩, edited⟩ := committed
  cases Respects.step (R := Eq) active
  cases Respects.step (R := Eq) supplier
  have rises : draft.updatedAt < max now (draft.updatedAt + 1) :=
    lt_of_lt_of_le (Nat.lt_succ_self _) (le_max_right _ _)
  obtain ⟨items, -, lines, _, ⟨_, prepared, rfl⟩, _, middle, replaced, _, written, rfl⟩ |
    ⟨-, _, written, rfl⟩ := edited
  all_goals
    obtain ⟨_, _, _, set, -⟩ := find?_updateExpecting written
    exact ⟨draft, _, found, set, rises⟩

instance posts {expectedUpdatedAt : Timestamp} :
    OnStock (On receiving Revises) (post id employeeId expectedUpdatedAt now) := by
  have closing : Respects (On receiving Revises) (updateExpecting purchaseReceipt id
      (fun row => row.status = .draft && row.updatedAt = expectedUpdatedAt)
      (fun row => { row with
        status := .posted
        postedAt := some now
        postedById := some employeeId
        updatedAt := now })
      (Failure.conflict "Purchase receipt is no longer a draft.") (by intro; rfl)) :=
    closes fun _ => nofun
  dsimp only [post, postDraft, postLine]
  infer_instance

instance cancels {reason : String} :
    OnStock (On receiving Revises) (cancel id employeeId reason now) := by
  have closing : Respects (On receiving Revises) (updateExpecting purchaseReceipt id
      (fun row => row.status = .draft)
      (fun row => { row with
        status := .cancelled
        cancelledAt := some now
        cancelledById := some employeeId
        cancellationReason := some reason
        updatedAt := now })
      (Failure.conflict "Purchase receipt is no longer a draft.") (by intro; rfl)) :=
    closes fun _ => nofun
  dsimp only [cancel]
  infer_instance

theorem revises {command : Command} : OnStock (On receiving Revises) (command.execute now) := by
  refine StockUse.command fun command => ?_
  cases command <;> (dsimp only [InventoryCommand.execute]; infer_instance)

theorem runs_revise (runs : Relation.ReflTransGen Step before after) :
    Revises before.inventory.receiving after.inventory.receiving := by
  induction runs with
  | refl => exact refl_of Revises before.inventory.receiving
  | tail _ taken inductionHypothesis =>
      refine trans_of Revises inductionHypothesis ?_
      cases taken with
      | commit command now committed => exact revises.step committed
      | administer => exact refl_of Revises _

end Commands

section Rounds

variable {pair : PurchaseReceiptItem × InventoryItem}
variable {pairs : List (PurchaseReceiptItem × InventoryItem)} {starts : List InventoryStore}
variable {before after : InventoryStore}

/-- The average cost of an item after a line. -/
def averageAfter (line : PurchaseReceiptItem) (item : InventoryItem) : Money :=
  calculateWeightedAverageCost {
    stock := item.stock
    averageUnitCost := item.averageUnitCost
    importedQuantity := line.quantity
    importedUnitCost := line.unitPrice }

/-- The item is as it was read before the loop. -/
def IsUnmoved (pair : PurchaseReceiptItem × InventoryItem) (store : InventoryStore) : Prop :=
  ∃ row, store.items.find? pair.2.id = some row ∧ row.stock = pair.2.stock ∧
    row.averageUnitCost = pair.2.averageUnitCost

/-- The line is in the stock and in the cost of its item. -/
def IsReceived (pair : PurchaseReceiptItem × InventoryItem) (store : InventoryStore) : Prop :=
  ∃ row, store.items.find? pair.2.id = some row ∧ row.stock = pair.2.stock + pair.1.quantity ∧
    row.averageUnitCost = averageAfter pair.1 pair.2

theorem commits_postLine (committed : Commits (postLine pair.1 pair.2) before () after) :
    IsUnmoved pair before ∧ IsReceived pair after ∧
      ∀ id ≠ pair.2.id, after.items.find? id = before.items.find? id := by
  simp only [postLine, commits_bind, commits_require] at committed
  obtain ⟨_, _, ⟨-, rfl⟩, updated⟩ := committed
  obtain ⟨row, found, passed, written, others⟩ := find?_updateExpecting updated
  simp only [Bool.and_eq_true, decide_eq_true_eq] at passed
  exact ⟨⟨row, found, passed.1.2, passed.2⟩, ⟨_, written, rfl, rfl⟩, others⟩

/-- Whatever others do between the rounds, as long as they leave the rows that are written:
each round finds what was read before the loop, and in the end every line is received. -/
theorem interrupted_postLines
    {others : List (PurchaseReceiptItem × InventoryItem) → InventoryStore → InventoryStore → Prop}
    (locked : ∀ done before after, others done before after → ∀ pair ∈ done,
      after.items.find? pair.2.id = before.items.find? pair.2.id)
    (run : Interrupted others (fun pair => postLine pair.1 pair.2) [] pairs starts before after)
    (distinct : (pairs.map (·.2.id)).Nodup) :
    List.Forall₂ IsUnmoved pairs starts ∧ ∀ pair ∈ pairs, IsReceived pair after := by
  refine ⟨run.found fun _ _ _ round => (commits_postLine round).1, ?_⟩
  have apart : pairs.Pairwise fun pair other => pair.2.id ≠ other.2.id :=
    List.pairwise_map.mp distinct
  refine (run.held (fun pair _ _ round => (commits_postLine round).2.1)
    (fun pair other start middle differs round received => ?_)
    (fun done start middle between pair isDone received => ?_) apart (List.forall_mem_nil _)
    (List.forall_mem_nil _)).2
  · unfold IsReceived
    rw [(commits_postLine round).2.2 pair.2.id differs]
    exact received
  · unfold IsReceived
    rw [locked done start middle between pair isDone]
    exact received

/-- An item whose stock has moved since it was read has no line ahead. -/
theorem ne_of_moved {read : InventoryItem}
    (committed : Commits (forEach pairs fun pair => postLine pair.1 pair.2) before () after)
    (same : ∀ pair ∈ pairs, pair.2.id = read.id → pair.2 = read)
    (moved : ∃ row, before.items.find? read.id = some row ∧ row.stock ≠ read.stock) :
    ∀ pair ∈ pairs, read.id ≠ pair.2.id := by
  induction pairs generalizing before with
  | nil => exact List.forall_mem_nil _
  | cons pair rest inductionHypothesis =>
      obtain ⟨middle, round, tail⟩ := commits_forEach_cons.mp committed
      obtain ⟨⟨found, isFound, unmoved, -⟩, -, others⟩ := commits_postLine round
      rw [List.forall_mem_cons] at same ⊢
      obtain ⟨row, isRow, differs⟩ := moved
      have apart : read.id ≠ pair.2.id := by
        intro own
        obtain rfl := same.1 own.symm
        obtain rfl := Option.some.inj (isFound.symm.trans isRow)
        exact differs unmoved
      refine ⟨apart, inductionHypothesis tail same.2 ⟨row, ?_, differs⟩⟩
      rw [others read.id apart]
      exact isRow

/-- The lines of a loop that has gone through are for different items. -/
theorem nodup_of_postLines
    (committed : Commits (forEach pairs fun pair => postLine pair.1 pair.2) before () after)
    (same : ∀ pair ∈ pairs, ∀ other ∈ pairs, pair.2.id = other.2.id → pair.2 = other.2)
    (positive : ∀ pair ∈ pairs, 0 < pair.1.quantity) : (pairs.map (·.2.id)).Nodup := by
  induction pairs generalizing before with
  | nil => exact .nil
  | cons pair rest inductionHypothesis =>
      obtain ⟨middle, round, tail⟩ := commits_forEach_cons.mp committed
      obtain ⟨-, ⟨row, isRow, stock, -⟩, -⟩ := commits_postLine round
      rw [List.forall_mem_cons] at positive
      have moved : row.stock ≠ pair.2.stock := by
        have := positive.1
        lia
      have ahead := ne_of_moved tail (fun other member =>
        same other (List.mem_cons_of_mem _ member) pair List.mem_cons_self) ⟨row, isRow, moved⟩
      rw [List.map_cons, List.nodup_cons]
      refine ⟨fun again => ?_, inductionHypothesis tail (fun one first other second =>
        same one (List.mem_cons_of_mem _ first) other (List.mem_cons_of_mem _ second)) positive.2⟩
      obtain ⟨other, member, equal⟩ := List.mem_map.mp again
      exact ahead other member equal.symm

/-- The items without a line. -/
theorem find?_postLines {id : Id}
    (committed : Commits (forEach pairs fun pair => postLine pair.1 pair.2) before () after)
    (apart : ∀ pair ∈ pairs, id ≠ pair.2.id) : after.items.find? id = before.items.find? id := by
  induction pairs generalizing before with
  | nil => rw [commits_forEach_nil.mp committed]
  | cons pair rest inductionHypothesis =>
      obtain ⟨middle, round, tail⟩ := commits_forEach_cons.mp committed
      rw [List.forall_mem_cons] at apart
      rw [inductionHypothesis tail apart.2]
      exact (commits_postLine round).2.2 id apart.1

end Rounds

section Posting

variable {id employeeId : Id} {expectedUpdatedAt now : Timestamp}
variable {before after : InventoryStore}

/-- The ledger row of a line. -/
structure IsImport (line : PurchaseReceiptItem) (row : InventoryTransaction) : Prop where
  source : row.purchaseReceiptItemId = some line.id
  type : row.type = .importTx
  item : row.inventoryItemId = line.inventoryItemId
  quantity : row.quantity = line.quantity
  unitPrice : row.unitPrice = some line.unitPrice
  totalAmount : row.totalAmount = some line.totalAmount

/-- What a posted receipt leaves. -/
structure Posted (id : Id) (before after : InventoryStore) : Prop where
  status : ∃ row, after.purchaseReceipts.find? id = some row ∧ row.status = .posted
  kept : receiptLines after.receiving id = receiptLines before.receiving id
  distinct : ((receiptLines before.receiving id).map (·.inventoryItemId)).Nodup
  lines : ∀ line ∈ receiptLines before.receiving id, ∃ item row,
    before.items.find? line.inventoryItemId = some item ∧
    after.items.find? line.inventoryItemId = some row ∧
    row.stock = item.stock + line.quantity ∧ row.averageUnitCost = averageAfter line item
  others : ∀ itemId, (∀ line ∈ receiptLines before.receiving id, itemId ≠ line.inventoryItemId) →
    after.items.find? itemId = before.items.find? itemId
  ledger : ∃ rows, after.transactions = before.transactions ++ rows ∧
    List.Forall₂ IsImport (receiptLines before.receiving id) rows
  reservations : after.reservations = before.reservations

instance : Apart receiving inventoryItem := ⟨fun _ _ => rfl⟩

instance keepsReceiving {line : PurchaseReceiptItem} {item : InventoryItem} :
    Keeps receiving (postLine line item) := by
  unfold postLine
  infer_instance

theorem posted_postDraft {catalog : Catalog}
    (committed : Commits (postDraft catalog id employeeId expectedUpdatedAt now) before () after) :
    (∃ receipt, before.purchaseReceipts.find? id = some receipt ∧ receipt.status = .draft ∧
      receipt.updatedAt = expectedUpdatedAt) ∧ Posted id before after := by
  simp only [postDraft, commits_bind, commits_findUniqueOrFail, commits_require, commits_findMany,
    commits_updateExpecting] at committed
  obtain ⟨receipt, _, ⟨found, rfl⟩, _, _, ⟨isDraft, rfl⟩, _, _, ⟨reviewed, rfl⟩, _, _, ⟨-, rfl⟩,
    lines, _, ⟨isLines, rfl⟩, _, _, ⟨-, rfl⟩, items, start, itemsRead, _, _,
    ⟨⟨row, isRow, draft⟩, rfl⟩, _, middle, looped, posting⟩ := committed
  obtain ⟨positive, rfl⟩ := commits_createTransactions posting
  obtain ⟨all, rfl⟩ := itemsRead.collect_forall₂ fun line _ item store read =>
    commits_findUniqueOrFail.mp read
  obtain ⟨reservations, transactions⟩ := accounts_eq (Keeps.eq accounts looped)
  obtain rfl : lines = receiptLines start.receiving id := isLines
  have receiving := Keeps.eq receiving looped
  set lines := receiptLines start.receiving id
  have read {pair : PurchaseReceiptItem × InventoryItem} (member : pair ∈ lines.zip items) :
      readFor _ pair.1 pair.2 := (List.forall₂_iff_zip.mp all).2 member
  have own {pair : PurchaseReceiptItem × InventoryItem} (member : pair ∈ lines.zip items) :
      pair.2.id = pair.1.inventoryItemId := Table.find?_key (read member)
  have distinct : ((lines.zip items).map (·.2.id)).Nodup := by
    refine nodup_of_postLines looped (fun one first other second equal => ?_) fun pair member =>
      positive _ (List.mem_map_of_mem (List.of_mem_zip member).1)
    have atOne := read first
    rw [readFor, ← own first, equal, own second] at atOne
    exact Option.some.inj (atOne.symm.trans (read second))
  have itemIds : (lines.zip items).map (·.2.id) = lines.map (·.inventoryItemId) := by
    conv_rhs => rw [← List.map_fst_zip all.length_eq.le, List.map_map]
    exact List.map_congr_left fun pair member => own member
  obtain ⟨starts, run⟩ := interrupted_forEach looped
  have received := (interrupted_postLines (fun _ _ _ same _ _ => by rw [same]) run distinct).2
  refine ⟨⟨receipt, found, isDraft, reviewed⟩, ⟨{ row with
      status := .posted
      postedAt := some now
      postedById := some employeeId
      updatedAt := now }, ?_, rfl⟩, ?_, itemIds ▸ distinct, fun line member => ?_,
    fun itemId apart => ?_, ⟨_, congrArg (· ++ _) transactions, ?_⟩, reservations⟩
  · change middle.receiving.1.find? id = _
    rw [receiving, InventoryStore.receiving, purchaseReceipt_set_purchaseReceipts,
      Table.find?_update, isRow, Option.map_some, if_pos]
    exact Bool.and_eq_true_iff.mpr ⟨decide_eq_true (Table.find?_key isRow), draft⟩
  · change receiptLines middle.receiving id = _
    rw [receiving]
    rfl
  · have zipped : line ∈ (lines.zip items).map Prod.fst := by
      rw [List.map_fst_zip all.length_eq.le]
      exact member
    obtain ⟨pair, inZip, rfl⟩ := List.mem_map.mp zipped
    obtain ⟨row, isRow, stock, cost⟩ := received pair inZip
    rw [own inZip] at isRow
    exact ⟨pair.2, row, read inZip, isRow, stock, cost⟩
  · have away (pair) (member : pair ∈ lines.zip items) : itemId ≠ pair.2.id := by
      rw [own member]
      exact apart pair.1 (List.of_mem_zip member).1
    have same := find?_postLines looped away
    exact same
  · rw [List.forall₂_map_right_iff]
    exact List.forall₂_same.mpr fun line _ => ⟨rfl, rfl, rfl, rfl, rfl, rfl⟩

/-- A commit of the posting is one of the draft that was reviewed. -/
theorem posted_of_commits {before after : Database}
    (committed : Commits (post id employeeId expectedUpdatedAt now) before () after) :
    (∃ receipt, before.inventory.purchaseReceipts.find? id = some receipt ∧
      receipt.status = .draft ∧ receipt.updatedAt = expectedUpdatedAt) ∧
      Posted id before.inventory after.inventory := by
  simp only [post, commits_bind, commits_inventoryTx, commits_readCatalog] at committed
  obtain ⟨_, _, active, catalog, _, ⟨rfl, rfl⟩, store, posted, rfl⟩ := committed
  cases Respects.step (R := Eq) active
  exact posted_postDraft posted

/-- The receipt is no draft. -/
def IsSettled (tables : ReceiptTables) (id : Id) : Prop :=
  ∃ row, tables.1.find? id = some row ∧ row.status ≠ .draft

theorem Posted.isSettled (posted : Posted id before after) : IsSettled after.receiving id := by
  obtain ⟨row, found, status⟩ := posted.status
  exact ⟨row, found, by rw [status]; exact PurchaseReceiptStatus.noConfusion⟩

/-- A receipt that is no draft cannot be posted, then or later. -/
theorem perform_of_settled {settled later : Database}
    (isSettled : IsSettled settled.inventory.receiving id)
    (runs : Relation.ReflTransGen Step settled later) (employeeId : Id)
    (expectedUpdatedAt now : Timestamp) :
    later.perform (.inventory (.postReceipt id employeeId expectedUpdatedAt)) now = later := by
  obtain committed | same := later.perform_cases
    (.inventory (.postReceipt id employeeId expectedUpdatedAt)) now
  · obtain ⟨⟨receipt, found, isDraft, -⟩, -⟩ := posted_of_commits committed
    obtain ⟨row, atSettled, closed⟩ := isSettled
    obtain ⟨other, atLater, revised⟩ := runs_revise runs id row atSettled
    obtain rfl := Option.some.inj (found.symm.trans atLater)
    exact (revised.closed closed isDraft).elim
  · exact same

/-- The drafts with the `updatedAt` of the reviewed one are that one, and every edit gives
another one.  A posting that names it receives the reviewed lines, once, or changes nothing,
and no interference gets between the check of an item and the end of the transaction. -/
theorem post_reviewed {reviewed before : Database} {receipt : PurchaseReceipt}
    (found : reviewed.inventory.purchaseReceipts.find? id = some receipt)
    (runs : Relation.ReflTransGen Step reviewed before) (employeeId : Id) (now : Timestamp) :
    (∀ draft, before.inventory.purchaseReceipts.find? id = some draft → draft.status = .draft →
      draft.updatedAt = receipt.updatedAt → draft = receipt ∧
        receiptLines before.inventory.receiving id =
          receiptLines reviewed.inventory.receiving id) ∧
    (∀ input, before.perform (.inventory (.updateReceipt id employeeId input)) now = before ∨
      ∃ draft later, before.inventory.purchaseReceipts.find? id = some draft ∧
        (before.perform (.inventory (.updateReceipt id employeeId input))
          now).inventory.purchaseReceipts.find? id = some later ∧
        draft.updatedAt < later.updatedAt) ∧
    (before.perform (.inventory (.postReceipt id employeeId receipt.updatedAt)) now = before ∨
      receiptLines before.inventory.receiving id = receiptLines reviewed.inventory.receiving id ∧
      Posted id before.inventory
        (before.perform (.inventory (.postReceipt id employeeId receipt.updatedAt))
          now).inventory ∧
      ∀ later, Relation.ReflTransGen Step
          (before.perform (.inventory (.postReceipt id employeeId receipt.updatedAt)) now) later →
        ∀ otherEmployeeId expectedUpdatedAt otherNow,
          later.perform (.inventory (.postReceipt id otherEmployeeId expectedUpdatedAt)) otherNow =
            later) ∧
    ∀ (others : List (PurchaseReceiptItem × InventoryItem) → InventoryStore → InventoryStore →
        Prop),
      (∀ done start middle, others done start middle → ∀ pair ∈ done,
        middle.items.find? pair.2.id = start.items.find? pair.2.id) →
      ∀ pairs starts start after, (pairs.map (·.2.id)).Nodup →
        Interrupted others (fun pair => postLine pair.1 pair.2) [] pairs starts start after →
        List.Forall₂ IsUnmoved pairs starts ∧ ∀ pair ∈ pairs, IsReceived pair after := by
  have unedited (draft) (isDraft : before.inventory.purchaseReceipts.find? id = some draft)
      (status : draft.status = .draft) (equal : draft.updatedAt = receipt.updatedAt) :
      draft = receipt ∧ receiptLines before.inventory.receiving id =
        receiptLines reviewed.inventory.receiving id := by
    obtain ⟨later, atLater, revised⟩ := runs_revise runs id receipt found
    obtain rfl := Option.some.inj (isDraft.symm.trans atLater)
    exact revised.unedited status equal
  refine ⟨unedited, fun input => ?_, ?_, fun others locked pairs starts start after distinct run =>
    interrupted_postLines locked run distinct⟩
  · obtain committed | same := before.perform_cases
      (.inventory (.updateReceipt id employeeId input)) now
    · exact .inr (rises_of_update committed)
    · exact .inl same
  · obtain committed | same := before.perform_cases
      (.inventory (.postReceipt id employeeId receipt.updatedAt)) now
    · obtain ⟨⟨draft, isDraft, status, equal⟩, posted⟩ := posted_of_commits committed
      exact .inr ⟨(unedited draft isDraft status equal).2, posted, fun later runs =>
        perform_of_settled posted.isSettled runs⟩
    · exact .inl same

end Posting

/-- A receipt of four more kilograms of beans, edited after it was written. -/
def delivered : Database :=
  (Database.empty.administer { Catalog.sample with
    suppliers := ⟨[{ id := 0, deletedAt := none }], by decide⟩ } .empty).performAll [
  (.inventory (.createItem 0 {
    name := "Coffee beans"
    stock := some 10000000
    initialUnitCost := some 100
    reorderPoint := none
    categoryId := 0
    unitId := 0 }), 1),
  (.inventory (.createReceipt 0 {
    supplierId := 0
    receivedAt := 2
    items := [{ inventoryItemId := 0, quantity := 3000000, unitPrice := 120 }] }), 2),
  (.inventory (.updateReceipt 1 1 {
    supplierId := none
    receivedAt := none
    items := some [{ inventoryItemId := 0, quantity := 4000000, unitPrice := 120 }] }), 2)]

theorem updatedAt_delivered :
    (delivered.inventory.purchaseReceipts.find? 1).map (·.updatedAt) = some 3 := by decide +kernel

theorem stock_delivered :
    (delivered.inventory.items.find? 0).map (·.stock) = some 10000000 ∧
      ((delivered.perform (.inventory (.postReceipt 1 0 3)) 4).inventory.items.find? 0).map
        (·.stock) = some 14000000 := by decide +kernel

/-- The posting of the edited receipt receives it, and a second one changes nothing. -/
theorem post_reviewed_delivered :
    Posted 1 delivered.inventory
        (delivered.perform (.inventory (.postReceipt 1 0 3)) 4).inventory ∧
      (delivered.perform (.inventory (.postReceipt 1 0 3)) 4).perform
        (.inventory (.postReceipt 1 1 3)) 5 =
          delivered.perform (.inventory (.postReceipt 1 0 3)) 4 := by
  obtain ⟨receipt, found, updatedAt⟩ := Option.map_eq_some_iff.mp updatedAt_delivered
  have outcome := (post_reviewed found .refl 0 4).2.2.1
  rw [updatedAt] at outcome
  obtain same | ⟨-, posted, again⟩ := outcome
  · have stock := stock_delivered
    rw [same, stock.1] at stock
    exact absurd stock.2 (by decide)
  · exact ⟨posted, again _ .refl 1 3 5⟩

end PurchaseReceiptService

end CoffeeShop
