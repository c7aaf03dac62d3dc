import CoffeeShop.Execution
import CoffeeShop.Inventory.Accounting
import CoffeeShop.Inventory.Documents
import CoffeeShop.Library.Interrupted

/-!
What the posting of a stocktake does.

The lines of a stocktake are for different items, so the rounds of the posting loop do not
undo each other.  Each round checks the row that it writes, and the row stays locked until
the transaction ends, so what other transactions do between the rounds does not matter.
-/

-- An instance for a program has one node for each of its statements.
set_option synthInstance.maxSize 100000

namespace CoffeeShop

open Transaction InventoryStore

/-- The stocktakes with their lines. -/
def InventoryStore.counting (store : InventoryStore) :
    Table Stocktake.id × Table StocktakeItem.id := (store.stocktakes, store.stocktakeItems)

instance : OffStock counting where
  items := ⟨fun _ _ => rfl⟩
  reservations := ⟨fun _ _ => rfl⟩
  ledger := ⟨fun _ _ => rfl⟩
  snapshots := ⟨fun _ _ => rfl⟩
  wastes := ⟨fun _ _ => rfl⟩

instance : Apart counting purchaseReceipt := ⟨fun _ _ => rfl⟩
instance : Apart counting purchaseReceiptItem := ⟨fun _ _ => rfl⟩

namespace StocktakeService

section Documents

variable {before after : Table Stocktake.id × Table StocktakeItem.id}

/-- Every line is of a stocktake, and its only line for the item. -/
structure LinesSound (documents : Table Stocktake.id × Table StocktakeItem.id) : Prop where
  owned : ∀ line ∈ documents.2, (documents.1.find? line.stocktakeId).isSome = true
  distinct : ∀ line ∈ documents.2, ∀ other ∈ documents.2, line.stocktakeId = other.stocktakeId →
    line.inventoryItemId = other.inventoryItemId → line = other

/-- The stocktake is no draft. -/
def IsSettled (documents : Table Stocktake.id × Table StocktakeItem.id) (id : Id) : Prop :=
  ∃ row, documents.1.find? id = some row ∧ row.status ≠ .draft

/-- What may become of the stocktakes. -/
structure Settles (before after : Table Stocktake.id × Table StocktakeItem.id) : Prop where
  settled : ∀ id, IsSettled before id → IsSettled after id
  sound : LinesSound before → LinesSound after

instance : IsPreorder (Table Stocktake.id × Table StocktakeItem.id) Settles where
  refl _ := ⟨fun _ => id, id⟩
  trans _ _ _ first second :=
    ⟨fun id => second.settled id ∘ first.settled id, second.sound ∘ first.sound⟩

/-- A change of a draft. -/
instance closes {id : Id} {change : Stocktake → Stocktake} {failure : Failure}
    {keeps : ∀ row, (change row).id = row.id} :
    Respects (On counting Settles)
      (updateExpecting stocktake id (fun row => row.status = .draft) change failure keeps) where
  step before result after committed := by
    obtain ⟨-, rfl⟩ := commits_updateExpecting.mp committed
    refine ⟨fun other settled => ?_, fun sound => ⟨fun line member => ?_, sound.distinct⟩⟩
    · obtain ⟨row, found, closed⟩ := settled
      refine ⟨row, ?_, closed⟩
      change (before.stocktakes.update _ change keeps).find? other = some row
      rw [Table.find?_update, show before.stocktakes.find? other = some row from found]
      simp [closed]
    · change ((before.stocktakes.update _ change keeps).find? line.stocktakeId).isSome = true
      rw [Table.find?_update, Option.isSome_map]
      exact sound.owned line member

/-- A change of what the lines count. -/
theorem recounts {condition : StocktakeItem → Bool} {change : StocktakeItem → StocktakeItem}
    {keeps : ∀ line, (change line).id = line.id}
    (stocktakes : ∀ line, (change line).stocktakeId = line.stocktakeId)
    (items : ∀ line, (change line).inventoryItemId = line.inventoryItemId) :
    Respects (On counting Settles)
      (updateMany stocktakeItem condition change keeps : Tx InventoryStore Failure _) where
  step before result after committed := by
    obtain ⟨-, rfl⟩ := commits_updateMany.mp committed
    refine ⟨fun _ => id, fun sound => ?_⟩
    have origin {line : StocktakeItem}
        (member : line ∈ before.stocktakeItems.update condition change keeps) :
        ∃ old ∈ before.stocktakeItems, (if condition old then change old else old) = line ∧
          old.stocktakeId = line.stocktakeId ∧ old.inventoryItemId = line.inventoryItemId := by
      obtain ⟨old, isOld, rfl⟩ := Table.mem_update.mp member
      refine ⟨old, isOld, rfl, ?_⟩
      split
      · exact ⟨(stocktakes old).symm, (items old).symm⟩
      · exact ⟨rfl, rfl⟩
    constructor
    · intro line member
      obtain ⟨old, isOld, -, same, -⟩ := origin member
      rw [← same]
      exact sound.owned old isOld
    · intro line member other isOther sameStocktake sameItem
      obtain ⟨first, isFirst, rfl, owner, item⟩ := origin member
      obtain ⟨second, isSecond, rfl, otherOwner, otherItem⟩ := origin isOther
      rw [← owner, ← otherOwner] at sameStocktake
      rw [← item, ← otherItem] at sameItem
      rw [sound.distinct first isFirst second isSecond sameStocktake sameItem]

instance updatesCount {id : Id} {count : StocktakeCount} {countedAt : Timestamp} :
    Respects (On counting Settles) (updateCount id count countedAt) := by
  have changes (counted : Quantity) : Respects (On counting Settles)
      (updateMany stocktakeItem
        (fun line => line.stocktakeId = id && line.inventoryItemId = count.inventoryItemId)
        (fun line => { line with
          countedQuantity := some counted
          countedAt := some countedAt
          differenceQuantity := none }) (by intro; rfl) : Tx InventoryStore Failure _) :=
    recounts (fun _ => rfl) fun _ => rfl
  dsimp only [updateCount]
  infer_instance

instance setsStock {counted : CountedLine} : Keeps counting (setStock counted) := by
  unfold setStock
  infer_instance

instance postsLine {counted : CountedLine} : Respects (On counting Settles) (postLine counted) := by
  have marks : Respects (On counting Settles)
      (updateExpecting stocktakeItem counted.line.id (fun _ => true)
        (fun line => { line with differenceQuantity := some counted.difference })
        (Failure.notFound "Record to update not found.") (by intro; rfl)) := by
    have changes : Respects (On counting Settles) (updateMany stocktakeItem
        (fun line => line.id = counted.line.id && true)
        (fun line => { line with differenceQuantity := some counted.difference })
        (by intro; rfl) : Tx InventoryStore Failure _) := recounts (fun _ => rfl) fun _ => rfl
    unfold updateExpecting
    infer_instance
  dsimp only [postLine, setStock]
  infer_instance

end Documents

section Commands

variable {id employeeId : Id} {now : Timestamp} {catalog : Catalog} {before after : Database}

/-- The lines of a new stocktake. -/
theorem commits_createLines {items : List InventoryItem}
    (committed : Commits (createLines catalog id items) before () after) :
    ∃ lines, after.inventory.stocktakeItems.rows = before.inventory.stocktakeItems.rows ++ lines ∧
      after.inventory.stocktakes = before.inventory.stocktakes ∧
      lines.map (·.inventoryItemId) = items.map (·.id) ∧
      ∀ line ∈ lines, line.stocktakeId = id := by
  unfold createLines at committed
  induction items generalizing before with
  | nil =>
      rw [commits_forEach_nil.mp committed]
      exact ⟨[], (List.append_nil _).symm, rfl, rfl, nofun⟩
  | cons item rest inductionHypothesis =>
      obtain ⟨middle, head, tail⟩ := commits_forEach_cons.mp committed
      obtain ⟨lines, rows, stocktakes, areItems, own⟩ := inductionHypothesis tail
      simp only [commits_bind, commits_freshId, commits_inventoryTx, commits_create] at head
      obtain ⟨_, _, ⟨rfl, rfl⟩, _, ⟨next, inserted, rfl⟩, rfl⟩ := head
      have added := (Table.rows_insert? inserted).1
      refine ⟨_ :: lines, rows.trans ((congrArg (· ++ lines) added).trans
        (List.append_assoc _ _ _)), stocktakes, ?_, List.forall_mem_cons.mpr ⟨rfl, own⟩⟩
      rw [List.map_cons, List.map_cons, areItems]

instance creates {inventoryItemIds : List Id} :
    OnStock (On counting Settles) (create employeeId inventoryItemIds) where
  step before result after committed := by
    simp only [create, commits_bind, commits_inventoryTx, commits_findMany, commits_require,
      commits_readCatalog, commits_freshId, commits_create] at committed
    obtain ⟨_, _, active, _, _, distinct, items, _, ⟨_, ⟨rfl, rfl⟩, rfl⟩, _, _, ⟨-, rfl⟩, _, _,
      ⟨rfl, rfl⟩, _, _, ⟨rfl, rfl⟩, _, _, ⟨_, ⟨stocktakes, inserted, rfl⟩, rfl⟩, lined⟩ := committed
    cases Respects.step (R := Eq) active
    cases Respects.step (R := Eq) distinct
    obtain ⟨lines, rows, same, areItems, own⟩ := commits_createLines lined
    have fresh := (Table.rows_insert? inserted).2
    have nodup : (lines.map (·.inventoryItemId)).Nodup := by
      rw [areItems]
      exact Table.nodup_select _ _
    have isLine {line : StocktakeItem} (member : line ∈ after.inventory.stocktakeItems) :
        line ∈ before.inventory.stocktakeItems ∨ line ∈ lines := by
      rw [Table.mem_def, rows] at member
      exact List.mem_append.mp member
    have finds {id : Id} (known : (before.inventory.stocktakes.find? id).isSome = true) :
        after.inventory.stocktakes.find? id = before.inventory.stocktakes.find? id := by
      obtain ⟨row, found⟩ := Option.isSome_iff_exists.mp known
      rw [same]
      refine (Table.find?_insert? inserted).trans (if_neg fun equal => ?_)
      exact fresh row (Table.mem_of_find? found) ((Table.find?_key found).trans equal.symm)
    refine ⟨fun id settled => ?_, fun sound => ⟨fun line member => ?_,
      fun line member other isOther sameStocktake sameItem => ?_⟩⟩
    · obtain ⟨row, found, closed⟩ := settled
      exact ⟨row, (finds (Option.isSome_iff_exists.mpr ⟨row, found⟩)).trans found, closed⟩
    · obtain old | new := isLine member
      · exact (congrArg Option.isSome (finds (sound.owned line old))).trans (sound.owned line old)
      · change (after.inventory.stocktakes.find? line.stocktakeId).isSome = true
        rw [same, own line new]
        exact congrArg Option.isSome ((Table.find?_insert? inserted).trans (if_pos rfl))
    · have apart {old new : StocktakeItem} (isOld : old ∈ before.inventory.stocktakeItems)
          (isNew : new ∈ lines) : old.stocktakeId ≠ new.stocktakeId := by
        intro equal
        obtain ⟨row, found⟩ := Option.isSome_iff_exists.mp (sound.owned old isOld)
        refine fresh row (Table.mem_of_find? found) ((Table.find?_key found).trans ?_)
        rw [equal, own new isNew]
      obtain old | new := isLine member
      · obtain otherOld | otherNew := isLine isOther
        · exact sound.distinct line old other otherOld sameStocktake sameItem
        · exact (apart old otherNew sameStocktake).elim
      · obtain otherOld | otherNew := isLine isOther
        · exact (apart otherOld new sameStocktake.symm).elim
        · exact List.inj_on_of_nodup_map nodup new otherNew sameItem

instance countsLines {counts : List StocktakeCount} :
    OnStock (On counting Settles) (updateCounts id employeeId counts now) := by
  dsimp only [updateCounts]
  infer_instance

instance posts {expectedCounts : Option (List StocktakeCount)} :
    OnStock (On counting Settles) (post id employeeId expectedCounts now) := by
  dsimp only [post, postDraft]
  infer_instance

instance cancels {reason : String} :
    OnStock (On counting Settles) (cancel id employeeId reason now) := by
  dsimp only [cancel]
  infer_instance

theorem settles {command : Command} : OnStock (On counting Settles) (command.execute now) := by
  refine StockUse.command fun command => ?_
  cases command <;> (dsimp only [InventoryCommand.execute]; infer_instance)

theorem Step.settles (taken : Step before after) :
    Settles before.inventory.counting after.inventory.counting := by
  cases taken with
  | commit command now committed => exact StocktakeService.settles.step committed
  | administer => exact refl_of Settles before.inventory.counting

theorem runs_settle (runs : Relation.ReflTransGen Step before after) :
    Settles before.inventory.counting after.inventory.counting := by
  induction runs with
  | refl => exact refl_of Settles before.inventory.counting
  | tail _ taken inductionHypothesis =>
      exact trans_of Settles inductionHypothesis (Step.settles taken)

theorem Reachable.linesSound (reachable : Reachable after) :
    LinesSound after.inventory.counting :=
  (runs_settle reachable).sound ⟨nofun, nofun⟩

/-- A stocktake that is no draft cannot be posted. -/
theorem draft_of_post {expectedCounts : Option (List StocktakeCount)}
    (committed : Commits (post id employeeId expectedCounts now) before () after) :
    ¬IsSettled before.inventory.counting id := by
  simp only [post, postDraft, commits_bind, commits_inventoryTx, commits_findUniqueOrFail,
    commits_require] at committed
  obtain ⟨_, _, active, _, ⟨row, _, ⟨found, rfl⟩, _, _, ⟨draft, rfl⟩, -⟩, -⟩ := committed
  cases Respects.step (R := Eq) active
  rintro ⟨other, same, settled⟩
  rw [show (stocktake.get before.inventory).find? id = some other from same] at found
  exact settled (Option.some.inj found ▸ draft)

end Commands

section Rounds

variable {counted : CountedLine} {lines : List CountedLine} {starts : List InventoryStore}
variable {store before after : InventoryStore} {done : List CountedLine}

/-- The row that a round is about, as the round finds it. -/
def IsFresh (counted : CountedLine) (store : InventoryStore) : Prop :=
  ∃ item, store.items.find? counted.item.id = some item ∧
    item.stock = counted.line.expectedQuantity ∧ item.reservedStock ≤ counted.countedQuantity

/-- The row that a round is about, as the round leaves it. -/
def IsSet (counted : CountedLine) (store : InventoryStore) : Prop :=
  ∃ item, store.items.find? counted.item.id = some item ∧
    item.stock = counted.countedQuantity ∧ item.reservedStock ≤ item.stock

theorem commits_postLine (committed : Commits (postLine counted) before () after) :
    IsFresh counted before ∧ IsSet counted after ∧
      ∀ id ≠ counted.item.id, after.items.find? id = before.items.find? id := by
  simp only [postLine, commits_bind] at committed
  obtain ⟨_, _, checked, _, middle, updated, marked⟩ := committed
  cases Respects.step (R := Eq) checked
  have kept : inventoryItem.get middle = after.items := (Keeps.eq items marked).symm
  obtain ⟨item, found, passed, set, others⟩ := find?_updateExpecting updated
  simp only [Bool.and_eq_true, decide_eq_true_eq] at passed
  rw [kept] at set others
  exact ⟨⟨item, found, passed.1.2, passed.2⟩, ⟨_, set, rfl, passed.2⟩, others⟩

/-- Whatever others do between the rounds, as long as they leave the rows that are written:
each round finds the stock of the snapshot, and in the end every row has its count. -/
theorem interrupted_postLines {others : List CountedLine → InventoryStore → InventoryStore → Prop}
    (locked : ∀ done before after, others done before after → ∀ counted ∈ done,
      after.items.find? counted.item.id = before.items.find? counted.item.id)
    (run : Interrupted others postLine [] lines starts before after)
    (distinct : (lines.map (·.item.id)).Nodup) :
    List.Forall₂ IsFresh lines starts ∧ ∀ counted ∈ lines, IsSet counted after := by
  refine ⟨run.found fun _ _ _ round => (commits_postLine round).1, ?_⟩
  have apart : lines.Pairwise fun counted other => counted.item.id ≠ other.item.id :=
    List.pairwise_map.mp distinct
  refine (run.held (fun counted _ _ round => (commits_postLine round).2.1)
    (fun counted other start middle differs round set => ?_)
    (fun done start middle between counted isDone set => ?_) apart (List.forall_mem_nil _)
    (List.forall_mem_nil _)).2
  · unfold IsSet
    rw [(commits_postLine round).2.2 counted.item.id differs]
    exact set
  · unfold IsSet
    rw [locked done start middle between counted isDone]
    exact set

end Rounds

section Posting

variable {id employeeId : Id} {expectedCounts : Option (List StocktakeCount)} {now : Timestamp}
variable {store before after : InventoryStore} {line : StocktakeItem} {counted : CountedLine}
variable {lines : List StocktakeItem} {read : List CountedLine}

def linesOf (store : InventoryStore) (id : Id) : List StocktakeItem :=
  store.stocktakeItems.select fun line => line.stocktakeId = id

/-- The count of the line is not what was expected. -/
def differs (line : StocktakeItem) : Bool := line.countedQuantity ≠ some line.expectedQuantity

/-- The ledger row that takes an item from the expected stock to the counted one. -/
structure IsMovement (store : InventoryStore) (line : StocktakeItem)
    (row : InventoryTransaction) : Prop where
  source : row.stocktakeItemId = some line.id
  item : row.inventoryItemId = line.inventoryItemId
  positive : 0 < row.quantity
  difference : ∃ counted, line.countedQuantity = some counted ∧
    row.type.signed row.quantity = counted - line.expectedQuantity
  value : ∃ item, store.items.find? line.inventoryItemId = some item ∧
    row.totalAmount = some (calculateInventoryValue row.quantity item.averageUnitCost)

/-- What a posted stocktake leaves. -/
structure Posted (id : Id) (before after : InventoryStore) : Prop where
  status : ∃ row, after.stocktakes.find? id = some row ∧ row.status = .posted
  lines : ∀ line ∈ linesOf before id, ∃ counted, line.countedQuantity = some counted ∧
    (∃ item, before.items.find? line.inventoryItemId = some item ∧
      item.stock = line.expectedQuantity ∧ item.reservedStock ≤ counted) ∧
    ∃ item, after.items.find? line.inventoryItemId = some item ∧ item.stock = counted ∧
      item.reservedStock ≤ item.stock
  ledger : ∃ rows, after.transactions = before.transactions ++ rows ∧
    List.Forall₂ (IsMovement before) ((linesOf before id).filter differs) rows
  reservations : after.reservations = before.reservations

/-- The line as the loop gets it. -/
structure Reads (store : InventoryStore) (line : StocktakeItem) (counted : CountedLine) :
    Prop where
  isLine : counted.line = line
  item : store.items.find? line.inventoryItemId = some counted.item
  countedQuantity : line.countedQuantity = some counted.countedQuantity

theorem reads_countedLine (committed : Commits (readCountedLine line) before counted after) :
    Reads before line counted ∧ after = before := by
  simp only [readCountedLine, commits_bind, commits_findUniqueOrFail, commits_orFail,
    commits_pure] at committed
  obtain ⟨item, _, ⟨found, rfl⟩, _, _, ⟨isCounted, rfl⟩, rfl, rfl⟩ := committed
  exact ⟨⟨rfl, found, isCounted⟩, rfl⟩

theorem itemIds_eq (all : List.Forall₂ (Reads store) lines read) :
    read.map (·.item.id) = lines.map (·.inventoryItemId) := by
  induction all with
  | nil => rfl
  | cons reads _ inductionHypothesis =>
      rw [List.map_cons, List.map_cons, inductionHypothesis, Table.find?_key reads.item]

/-- One ledger row for each line that differs. -/
theorem movements_pendingMovements (all : List.Forall₂ (Reads store) lines read) :
    List.Forall₂ (IsMovement store) (lines.filter differs) (pendingMovements read now) := by
  induction all with
  | nil => exact .nil
  | @cons line counted _ _ reads _ inductionHypothesis =>
      have difference : counted.difference = counted.countedQuantity - line.expectedQuantity := by
        rw [CountedLine.difference, reads.isLine]
      unfold pendingMovements at inductionHypothesis ⊢
      by_cases same : counted.difference = 0
      · have equal : ¬differs line = true := by
          rw [differs, reads.countedQuantity, decide_eq_true_eq, not_not]
          exact congrArg some (by lia)
        rw [List.filter_cons_of_neg equal, List.filter_cons_of_neg (by simpa using same)]
        exact inductionHypothesis
      · have unequal : differs line = true := by
          rw [differs, reads.countedQuantity, decide_eq_true_eq]
          intro equal
          exact same (by have := Option.some.inj equal; lia)
        rw [List.filter_cons_of_pos unequal, List.filter_cons_of_pos (by simpa using same),
          List.map_cons]
        have own : counted.item.id = line.inventoryItemId := Table.find?_key reads.item
        refine .cons ⟨?_, own, ?_, ⟨_, reads.countedQuantity, ?_⟩, _, reads.item, rfl⟩
          inductionHypothesis
        · rw [reads.isLine]
        · exact Int.natCast_pos.mpr (Int.natAbs_pos.mpr same)
        · rw [← difference, CountedLine.type]
          split <;> simp only [InventoryTxType.signed] <;> lia

instance : Apart stocktakes inventoryItem := ⟨fun _ _ => rfl⟩
instance : Apart stocktakes stocktakeItem := ⟨fun _ _ => rfl⟩

instance keepsStocktakes {counted : CountedLine} : Keeps stocktakes (postLine counted) := by
  unfold postLine setStock
  infer_instance

theorem posted_postDraft (sound : LinesSound before.counting)
    (committed : Commits (postDraft id employeeId expectedCounts now) before () after) :
    Posted id before after := by
  simp only [postDraft, commits_bind, commits_findUniqueOrFail, commits_require, commits_findMany,
    commits_updateExpecting] at committed
  obtain ⟨_, _, ⟨-, rfl⟩, _, _, ⟨-, rfl⟩, lines, _, ⟨isLines, rfl⟩, _, before, ⟨-, rfl⟩, read, _,
    reading, _, start, checked, _, _, ⟨⟨row, found, draft⟩, rfl⟩, _, middle, looped, posting⟩ :=
    committed
  obtain ⟨-, rfl⟩ := commits_createTransactions posting
  obtain ⟨all, rfl⟩ := reading.collect_forall₂ fun line _ counted store ran => reads_countedLine ran
  cases Respects.step (R := Eq) checked
  obtain ⟨reservations, transactions⟩ := accounts_eq (Keeps.eq accounts looped)
  have areLines : lines = linesOf _ id := isLines
  have stocktakes := Keeps.eq stocktakes looped
  have distinct : (lines.map (·.inventoryItemId)).Nodup := by
    rw [isLines]
    refine List.Nodup.map_on (fun line member other isOther same => ?_)
      (List.Nodup.of_map _ (Table.nodup_select _ _))
    rw [Table.mem_select, decide_eq_true_eq] at member isOther
    exact sound.distinct line member.1 other isOther.1 (member.2.trans isOther.2.symm) same
  rw [← itemIds_eq all] at distinct
  obtain ⟨starts, run⟩ := interrupted_forEach looped
  have set := (interrupted_postLines (fun _ _ _ same _ _ => by rw [same]) run distinct).2
  have postable := looped.forall_forEach (P := fun counted =>
    counted.item.stock = counted.line.expectedQuantity ∧
      counted.item.reservedStock ≤ counted.countedQuantity) fun counted _ _ _ _ round => by
    simp only [postLine, assertPostable, commits_bind, commits_require] at round
    obtain ⟨_, _, ⟨_, _, -, _, _, ⟨fresh, -⟩, covered, -⟩, -⟩ := round
    exact ⟨fresh, covered⟩
  refine ⟨⟨{ row with
      status := .posted
      postedAt := some now
      postedById := some employeeId }, ?_, rfl⟩, fun line member => ?_,
    ⟨_, congrArg (· ++ _) transactions, ?_⟩, reservations⟩
  · change middle.stocktakes.find? id = _
    rw [stocktakes, stocktake_set_stocktakes, Table.find?_update, found, Option.map_some, if_pos]
    exact Bool.and_eq_true_iff.mpr ⟨decide_eq_true (Table.find?_key found), draft⟩
  · obtain ⟨counted, isRead, reads⟩ := exists_right all (areLines ▸ member)
    obtain ⟨item, found, counts, covered⟩ := set counted isRead
    obtain ⟨fresh, reserved⟩ := postable counted isRead
    have own : counted.item.id = line.inventoryItemId := Table.find?_key reads.item
    rw [reads.isLine] at fresh
    rw [own] at found
    exact ⟨counted.countedQuantity, reads.countedQuantity, ⟨counted.item, reads.item, fresh,
      reserved⟩, item, found, counts, covered⟩
  · rw [← areLines]
    exact movements_pendingMovements all

/-- The stock has moved since the snapshot, or more is reserved than was counted. -/
def IsOutdated (store : InventoryStore) (line : StocktakeItem) : Prop :=
  ∃ item, store.items.find? line.inventoryItemId = some item ∧
    (item.stock ≠ line.expectedQuantity ∨
      ∃ counted, line.countedQuantity = some counted ∧ counted < item.reservedStock)

theorem Posted.not_outdated (posted : Posted id before after) (member : line ∈ linesOf before id) :
    ¬IsOutdated before line := by
  rintro ⟨item, found, outdated⟩
  obtain ⟨counted, isCounted, ⟨other, same, fresh, covered⟩, -⟩ := posted.lines line member
  obtain rfl := Option.some.inj (found.symm.trans same)
  obtain moved | ⟨count, isCount, below⟩ := outdated
  · exact moved fresh
  · obtain rfl := Option.some.inj (isCounted.symm.trans isCount)
    exact below.not_ge covered

theorem posted_of_commits {before after : Database} (reachable : Reachable before)
    (committed : Commits (post id employeeId expectedCounts now) before () after) :
    Posted id before.inventory after.inventory := by
  simp only [post, commits_bind, commits_inventoryTx] at committed
  obtain ⟨_, _, active, store, posted, rfl⟩ := committed
  cases Respects.step (R := Eq) active
  exact posted_postDraft (Reachable.linesSound reachable) posted

/-- The posting of a stocktake counts all of its lines or changes nothing, it changes nothing
if a line is outdated or the stocktake was posted, and no interference gets between the check
of a line and the end of the transaction. -/
theorem post_allOrNothing {before : Database} (reachable : Reachable before) (id employeeId : Id)
    (expectedCounts : Option (List StocktakeCount)) (now : Timestamp) :
    (before.perform (.inventory (.postStocktake id employeeId expectedCounts)) now = before ∨
      Posted id before.inventory
        (before.perform (.inventory (.postStocktake id employeeId expectedCounts)) now).inventory ∧
      ∀ later, Relation.ReflTransGen Step
          (before.perform (.inventory (.postStocktake id employeeId expectedCounts)) now) later →
        ∀ otherEmployeeId otherCounts otherNow,
          later.perform (.inventory (.postStocktake id otherEmployeeId otherCounts)) otherNow =
            later) ∧
    ((∃ line ∈ linesOf before.inventory id, IsOutdated before.inventory line) →
      before.perform (.inventory (.postStocktake id employeeId expectedCounts)) now = before) ∧
    ∀ (others : List CountedLine → InventoryStore → InventoryStore → Prop),
      (∀ done start middle, others done start middle → ∀ counted ∈ done,
        middle.items.find? counted.item.id = start.items.find? counted.item.id) →
      ∀ lines starts start after, (lines.map (·.item.id)).Nodup →
        Interrupted others postLine [] lines starts start after →
        List.Forall₂ IsFresh lines starts ∧ ∀ counted ∈ lines, IsSet counted after := by
  refine ⟨?_, fun outdated => ?_, fun others locked lines starts start after distinct run =>
    interrupted_postLines locked run distinct⟩
  · obtain committed | same := before.perform_cases
      (.inventory (.postStocktake id employeeId expectedCounts)) now
    · have posted := posted_of_commits reachable committed
      refine .inr ⟨posted, fun later runs otherEmployeeId otherCounts otherNow => ?_⟩
      obtain again | same := later.perform_cases
        (.inventory (.postStocktake id otherEmployeeId otherCounts)) otherNow
      · obtain ⟨row, found, status⟩ := posted.status
        have settled := (runs_settle runs).settled id
          ⟨row, found, by rw [status]; exact StocktakeStatus.noConfusion⟩
        exact (draft_of_post again settled).elim
      · exact same
    · exact .inl same
  · obtain ⟨line, member, stale⟩ := outdated
    obtain committed | same := before.perform_cases
      (.inventory (.postStocktake id employeeId expectedCounts)) now
    · exact ((posted_of_commits reachable committed).not_outdated member stale).elim
    · exact same

end Posting

/-- The beans of the sample shop are counted short by a tenth. -/
def countedShort : Database := Database.sample.performAll [
  (.inventory (.createItem 0 {
    name := "Coffee beans"
    stock := some 10000000
    initialUnitCost := some 100
    reorderPoint := none
    categoryId := 0
    unitId := 0 }), 1),
  (.inventory (.createStocktake 0 [0]), 2),
  (.inventory (.updateCounts 1 0 [{ inventoryItemId := 0, countedQuantity := 9000000 }]), 3)]

theorem stock_countedShort :
    (countedShort.inventory.items.find? 0).map (·.stock) = some 10000000 := by decide +kernel

theorem stock_posted :
    ((countedShort.perform (.inventory (.postStocktake 1 0 none)) 4).inventory.items.find? 0).map
      (·.stock) = some 9000000 := by decide +kernel

/-- The posting takes the missing tenth off the stock, and a second one changes nothing. -/
theorem post_allOrNothing_countedShort :
    Posted 1 countedShort.inventory
        (countedShort.perform (.inventory (.postStocktake 1 0 none)) 4).inventory ∧
      (countedShort.perform (.inventory (.postStocktake 1 0 none)) 4).perform
        (.inventory (.postStocktake 1 0 none)) 5 =
          countedShort.perform (.inventory (.postStocktake 1 0 none)) 4 := by
  have reachable : Reachable countedShort := Reachable.sample.performAll _
  obtain same | ⟨posted, again⟩ := (post_allOrNothing reachable 1 0 none 4).1
  · have stock := stock_posted
    rw [same, stock_countedShort] at stock
    exact absurd stock (by decide)
  · exact ⟨posted, again _ .refl 0 none 5⟩

end StocktakeService

end CoffeeShop
