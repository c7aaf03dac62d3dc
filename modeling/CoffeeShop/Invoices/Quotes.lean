import CoffeeShop.Invoices.Amounts
import CoffeeShop.Library.DecimalText
import CoffeeShop.Sales.Billing

/-!
What a quote fingerprint says of the invoice that it is confirmed for.

The hashed text determines the quote, so an invoice that passes the comparison has the quote of
the state in which the fingerprint was given out, whatever has happened since.
-/

namespace CoffeeShop

open Transaction SalesStore DecimalText

namespace InvoiceQuote

def idJson (id : Id) : Json := .str (toString id)

def idOrNull (id : Option Id) : Json := id.elim .null idJson

def lineJson (line : Id × Nat × Money) : Json :=
  .arr [idJson line.1, .num line.2.1, .str (toFixed line.2.2)]

/-- The object that `quoteFingerprint` hashes. -/
def json (quote : InvoiceQuote) : Json :=
  .obj [
    ("orderSessionId", idJson quote.orderSessionId),
    ("tableId", idOrNull quote.tableId),
    ("items", .arr (quote.items.map lineJson)),
    ("promotionId", idOrNull quote.promotionId),
    ("subTotal", .str (toFixed quote.subTotal)),
    ("discountAmount", .str (toFixed quote.discountAmount)),
    ("taxRate", .str (toFixed quote.taxRate)),
    ("taxAmount", .str (toFixed quote.taxAmount)),
    ("totalAmount", .str (toFixed quote.totalAmount))]

theorem idJson_injective : Function.Injective idJson := fun _ _ same =>
  toString_injective (Json.str.inj same)

theorem idOrNull_injective : Function.Injective idOrNull := by
  intro first second same
  cases first with
  | none =>
      cases second with
      | none => rfl
      | some other => exact nomatch same
  | some id =>
      cases second with
      | none => exact nomatch same
      | some other => exact congrArg some (idJson_injective same)

theorem lineJson_injective : Function.Injective lineJson := by
  rintro ⟨id, quantity, price⟩ ⟨otherId, otherQuantity, otherPrice⟩ same
  simp only [lineJson, Json.arr.injEq, List.cons.injEq, Json.num.injEq, Json.str.injEq,
    and_true] at same
  obtain ⟨ids, rfl, prices⟩ := same
  rw [idJson_injective ids, toFixed_injective prices]

theorem json_injective : Function.Injective json := by
  intro first second same
  simp only [json, Json.obj.injEq, List.cons.injEq, Prod.mk.injEq, true_and, and_true,
    Json.arr.injEq, Json.str.injEq] at same
  obtain ⟨session, table, items, promotion, subTotal, discount, rate, tax, total⟩ := same
  cases first
  cases second
  simp only [InvoiceQuote.mk.injEq]
  exact ⟨idJson_injective session, idOrNull_injective table,
    lineJson_injective.list_map items, idOrNull_injective promotion, toFixed_injective subTotal,
    toFixed_injective discount, toFixed_injective rate, toFixed_injective tax,
    toFixed_injective total⟩

end InvoiceQuote

namespace InvoicesService

/-- `quoteFingerprint`, with the hash of the text as a parameter. -/
def quoteFingerprint (sha256 : List Char → String) (quote : InvoiceQuote) : String :=
  sha256 (Json.stringify quote.json)

theorem quoteFingerprint_injective {sha256 : List Char → String}
    (injective : Function.Injective sha256) : Function.Injective (quoteFingerprint sha256) :=
  fun _ _ same => InvoiceQuote.json_injective (Json.stringify_injective (injective same))

/-- A run of `createInvoiceInTransaction` that commits with the fingerprint in its input.  The code
compares the fingerprint with that of the quote that it computes, so it commits just when the text
is the fingerprint of a quote with which the comparison of quotes commits. -/
def CreatesConfirmed (sha256 : List Char → String) (fingerprint : String)
    (request : CreateInvoiceRequest) (onlinePickup : Bool) (now : Timestamp) (before : Database)
    (id : Id) (after : Database) : Prop :=
  ∃ quote, quoteFingerprint sha256 quote = fingerprint ∧
    Commits (createInvoiceInTransaction
      { request with input := { request.input with quoteFingerprint := some quote } }
      onlinePickup now) before id after

section Lines

/-- The line that a quote states of an item. -/
def lineOf (item : OrderItem) : Id × Nat × Money := (item.id, item.quantity, item.priceAtTime)

/-- The lines that are on the invoice. -/
def linesOn (id : Id) (sales : SalesStore) : List (Id × Nat × Money) :=
  (sales.items.select fun item => item.invoiceId = some id).map lineOf

/-- What the statements after the issue leave alone of the items. -/
def linked (sales : SalesStore) : List ((Id × Nat × Money) × Option Id) :=
  sales.items.rows.map fun item => (lineOf item, item.invoiceId)

theorem linesOn_congr {id : Id} {sales other : SalesStore} (same : linked sales = linked other) :
    linesOn id sales = linesOn id other := by
  have read (store : SalesStore) : linesOn id store =
      ((linked store).filter fun line => line.2 = some id).map (·.1) := by
    rw [linked, List.filter_map, List.map_map]
    rfl
  rw [read, read, same]

/-- An update that touches neither lines nor links. -/
theorem linked_update {sales : SalesStore} {condition : OrderItem → Bool}
    {change : OrderItem → OrderItem} {keeps : ∀ row, (change row).id = row.id}
    (lines : ∀ row, lineOf (change row) = lineOf row)
    (links : ∀ row, (change row).invoiceId = row.invoiceId) :
    linked { sales with items := sales.items.update condition change keeps } = linked sales := by
  rw [linked, linked, Table.update, List.map_map]
  refine List.map_congr_left fun row _ => ?_
  dsimp only [Function.comp_apply]
  split
  · rw [lines, links]
  · rfl

instance : Apart linked orderSession := ⟨fun _ _ => rfl⟩
instance : Apart linked recipeIngredient := ⟨fun _ _ => rfl⟩

abbrev LinksKept : Database → Database → Prop := On Database.sales (On linked Eq)

instance snapshotItems {condition : OrderItem → Bool} {now : Timestamp} :
    Respects (On linked Eq) (updateMany orderItem condition
      (fun item => { item with recipeSnapshottedAt := some now }) : Tx SalesStore Failure Nat) where
  step before result after committed := by
    obtain ⟨-, rfl⟩ := commits_updateMany.mp committed
    exact (@linked_update before condition
      (fun item => { item with recipeSnapshottedAt := some now }) _ (fun _ => rfl)
      (fun _ => rfl)).symm

instance reserveInvoiceStock_links {id : Id} {now : Timestamp} :
    Respects LinksKept (reserveInvoiceStock id now) := by
  unfold reserveInvoiceStock InventoryConsumption.reservePendingItems
    InventoryConsumption.snapshotLegacyRecipes
  infer_instance

instance closeSessionIfFullyPaid_links {session : OrderSession} :
    Respects (On linked Eq) (closeSessionIfFullyPaid session) := by
  dsimp only [closeSessionIfFullyPaid]
  infer_instance

variable {request : CreateInvoiceRequest} {onlinePickup : Bool} {now : Timestamp}
variable {before after : Database} {id : Id}

theorem InvoiceIssue.linked_eq (issue : InvoiceIssue request onlinePickup now before id after) :
    linked after.sales = linked issue.issued := by
  have reserved : linked issue.issued = linked issue.reserved.sales :=
    reserveInvoiceStock_links.step issue.reserve
  have recorded := Keeps.eq Database.sales issue.record
  have closed : LinksKept issue.recorded after := Respects.step issue.close
  have kept : linked issue.recorded.sales = linked after.sales := closed
  rw [← kept, recorded, reserved]

/-- The rows that an update moves under a condition. -/
theorem map_filter_update {α β : Type} {rows : List α} {moved shown : α → Bool} {change : α → α}
    {view : α → β} (kept : ∀ row, view (change row) = view row)
    (shows : ∀ row ∈ rows, shown (if moved row then change row else row) = moved row) :
    ((rows.map fun row => if moved row then change row else row).filter shown).map view =
      (rows.filter moved).map view := by
  induction rows with
  | nil => rfl
  | cons row rest inductionHypothesis =>
      have first := shows row List.mem_cons_self
      have others := inductionHypothesis fun other member => shows other (List.mem_cons_of_mem _ member)
      simp only [List.map_cons, List.filter_cons, first]
      cases moves : moved row with
      | false => simpa using others
      | true =>
          simp only [if_pos, List.map_cons, kept]
          rw [others]

/-- The invoice has the items of its draft. -/
theorem InvoiceIssue.linesOn_eq (issue : InvoiceIssue request onlinePickup now before id after)
    (agree : BillsAgree before.sales) : linesOn id after.sales = issue.draft.items.map lineOf := by
  have drafted := SalesSteps.commits_draftInvoice issue.drafted
  have named : request.input.orderSessionId = issue.session.id := (Table.find?_key issue.found).symm
  obtain ⟨condition, selected⟩ := drafted.selected
  obtain ⟨fresh, row, -, -, items⟩ := commits_issueInvoice issue.issue
  have moved : before.sales.items.select (fun item => item.id ∈ issue.draft.items.map (·.id) &&
      item.orderSessionId = issue.draft.session.id && isBillable item) = issue.draft.items := by
    rw [selected]
    refine Table.select_congr fun item membership => ?_
    rw [← selected, Bool.eq_iff_iff, drafted.links_iff named membership, selected, Table.mem_select]
    simp [membership]
  rw [linesOn_congr issue.linked_eq, linesOn, items]
  refine Eq.trans (@map_filter_update _ _ before.sales.items.rows _ _
    (fun item => { item with
      invoiceId := some id
      isPaid := if request.paymentStatus = .paid then true else item.isPaid }) lineOf
    (fun _ => rfl) fun item membership => ?_) (congrArg (List.map lineOf) moved)
  have free : item.invoiceId ≠ some id := by
    intro linked
    obtain ⟨invoice, found, -⟩ := agree.billed item membership id linked
    rw [fresh] at found
    cases found
  cases moves : (item.id ∈ issue.draft.items.map (·.id) &&
      item.orderSessionId = issue.draft.session.id && isBillable item : Bool) with
  | false => simpa using free
  | true => simp

end Lines

section Confirming

variable {request : CreateInvoiceRequest} {onlinePickup : Bool} {now quotedAt : Timestamp}
variable {start final before after : Database} {id employeeId : Id}

/-- The calls of a quote are those of an unpaid draft. -/
theorem commits_quoteInvoiceInTransaction {input : CreateInvoiceInput} {draft : InvoiceDraft}
    (committed : Commits (quoteInvoiceInTransaction employeeId input now) start draft final) :
    input.orderSessionId = draft.session.id ∧
      DraftCalls {
        employeeId
        input := { input with quoteFingerprint := none, expectedTotal := none }
        paymentStatus := .unpaid
        paymentMethod := .cash
        amountTendered := none
        closeSessionAfterPayment := false } start.catalog draft.session now start.sales draft := by
  simp only [quoteInvoiceInTransaction, commits_bind, commits_require, commits_readCatalog] at committed
  obtain ⟨_, _, active, session, _, loaded, _, _, walkIn, _, _, ⟨-, rfl⟩, _, _, ⟨rfl, rfl⟩,
    drafts⟩ := committed
  cases Respects.step (R := Eq) active
  obtain ⟨_, read, -⟩ := commits_salesTx.mp loaded
  obtain ⟨found, -⟩ := commits_findUniqueOrFail.mp read
  cases Respects.step (R := Eq) loaded
  cases Respects.step (R := Eq) walkIn
  obtain ⟨_, drafted, -⟩ := commits_salesTx.mp drafts
  have calls := DraftCalls.of_commits drafted
  have own := calls.own
  refine ⟨?_, own ▸ calls⟩
  rw [own]
  exact (Table.find?_key found).symm

/-- The promotion of a draft is the one that its input names. -/
theorem DraftCalls.promotion_id {catalog : Catalog} {session : OrderSession} {sales : SalesStore}
    {draft : InvoiceDraft} (calls : DraftCalls request catalog session now sales draft) :
    draft.promotion.map (·.id) = request.input.promotionId := by
  have discounted := calls.discounted
  cases named : request.input.promotionId with
  | none =>
      rw [named] at discounted
      obtain ⟨same, -⟩ := commits_pure.mp discounted
      rw [(Prod.mk.inj same).1]
      rfl
  | some promotionId =>
      rw [named] at discounted
      simp only [resolveDiscount, PromotionCalculator.calculateDiscount, commits_bind,
        commits_orFail, commits_pure] at discounted
      obtain ⟨_, _, ⟨promotion, _, ⟨found, rfl⟩, _, _, -, _, _, -, rfl, -⟩, same, -⟩ := discounted
      rw [(Prod.mk.inj same).1]
      exact congrArg some (Table.find?_key found)

/-- Lines that are the same once they are ordered are the same in some order. -/
theorem perm_of_sorted {items others : List OrderItem}
    (same : (items.insertionSort fun left right => left.id ≤ right.id).map lineOf =
      (others.insertionSort fun left right => left.id ≤ right.id).map lineOf) :
    (items.map lineOf).Perm (others.map lineOf) := by
  have sorted := ((items.perm_insertionSort fun left right => left.id ≤ right.id).map lineOf).symm
  have otherSorted := (others.perm_insertionSort fun left right => left.id ≤ right.id).map lineOf
  rw [same] at sorted
  exact sorted.trans otherSorted

/-- An invoice that is issued with the fingerprint of a quote charges what was quoted, whatever has
been committed since. -/
theorem confirmed_charges_quote {sha256 : List Char → String} {quoteInput : CreateInvoiceInput}
    {draft : InvoiceDraft} (injective : Function.Injective sha256) (reachable : Reachable before)
    (quoted : Commits (quoteInvoiceInTransaction employeeId quoteInput quotedAt) start draft final)
    (confirmed : CreatesConfirmed sha256
      (quoteFingerprint sha256 (quoteOf quoteInput draft.session draft.items draft.calculation))
      request onlinePickup now before id after) :
    ∃ row, after.sales.invoices.find? id = some row ∧
      row.orderSessionId = draft.session.id ∧
      (∃ session, before.sales.sessions.find? row.orderSessionId = some session ∧
        session.tableId = draft.session.tableId) ∧
      (linesOn id after.sales).Perm (draft.items.map lineOf) ∧
      row.promotionId = draft.promotion.map (·.id) ∧
      row.subTotal = draft.calculation.subTotal ∧
      row.discountAmount = draft.calculation.discountAmount ∧
      row.taxRate = draft.calculation.taxRate ∧
      row.taxAmount = draft.calculation.taxAmount ∧
      row.totalAmount = draft.calculation.totalAmount := by
  obtain ⟨quote, text, created⟩ := confirmed
  obtain rfl := quoteFingerprint_injective injective text
  obtain ⟨issue⟩ := commits_createInvoiceInTransaction created
  have calls := DraftCalls.of_commits issue.drafted
  obtain ⟨own, quotedCalls⟩ := commits_quoteInvoiceInTransaction quoted
  have same := of_decide_eq_true calls.quoted
  simp only [quoteOf, InvoiceQuote.mk.injEq] at same
  obtain ⟨session, table, items, promotion, subTotal, discount, rate, tax, total⟩ := same
  obtain ⟨-, row, found, issued, -⟩ := commits_issueInvoice issue.issue
  have located : row.orderSessionId = draft.session.id := by
    rw [issued.orderSessionId, calls.own, Table.find?_key issue.found, ← own, session]
  refine ⟨row, by rw [issue.invoices_eq, found], located,
    ⟨issue.session, ?_, table.symm⟩, ?_, ?_, ?_, ?_, ?_, ?_, ?_⟩
  · rw [located, ← own, session]
    exact issue.found
  · rw [issue.linesOn_eq reachable.billsAgree]
    exact perm_of_sorted items.symm
  · rw [issued.promotionId, calls.promotion_id, quotedCalls.promotion_id]
    exact promotion.symm
  · rw [issued.subTotal, subTotal]
  · rw [issued.discountAmount, discount]
  · rw [issued.taxRate, rate]
  · rw [issued.taxAmount, tax]
  · rw [issued.totalAmount, total]

/-- The five cups are invoiced as quoted after another session has been opened. -/
theorem confirmed_charges_quote_ordered : ∃ (draft : InvoiceDraft) (id : Id) (after : Database)
    (row : Invoice), after.sales.invoices.find? id = some row ∧
    row.totalAmount = draft.calculation.totalAmount ∧
    (linesOn id after.sales).Perm (draft.items.map lineOf) := by
  let input := (taxedAt 825).input
  let later := (ordered 3500000).perform (.order (.openSession none 0 none)) 5
  have committed : ((quoteInvoiceInTransaction 0 input 4) (ordered 3500000)).toOption.any
      (fun outcome => ((createInvoiceInTransaction { taxedAt 825 with input := { input with
        quoteFingerprint := some (quoteOf input outcome.1.session outcome.1.items
          outcome.1.calculation) } } false 6) later).toOption.any fun _ => true) = true := by
    decide +kernel
  obtain ⟨draft, final, quoted, confirms⟩ := exists_commits_of_any committed
  obtain ⟨id, after, created, -⟩ := exists_commits_of_any confirms
  obtain ⟨row, found, -, -, lines, -, -, -, -, -, total⟩ :=
    confirmed_charges_quote (fun _ _ same => String.ofList_injective same)
      ((reachable_ordered 3500000).perform _ _) quoted ⟨_, rfl, created⟩
  exact ⟨draft, id, after, row, found, total, lines⟩

end Confirming

end InvoicesService

end CoffeeShop
