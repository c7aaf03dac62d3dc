import CoffeeShop.Library.Weights
import CoffeeShop.Sales.Billing
import Mathlib.Algebra.Order.Ring.Int
import Mathlib.Data.Multiset.Replicate

/-!
Splitting, merging and moving tables keeps what was ordered.

What a session holds is a multiset of dishes, one for each serving of a line.  Lines that
move whole or in part carry their dishes along, with the recipe that was captured for them.
-/

namespace CoffeeShop

open Transaction InventoryConsumption OrdersService SalesStore SalesSteps

set_option synthInstance.maxSize 100000

/-- A serving of an order line, as the guest, the kitchen and the stock know it. -/
structure Dish where
  menuItemId : Id
  priceAtTime : Money
  note : Option String
  selectedOptions : List SelectedMenuOption
  serveStatus : ServeStatus
  recipe : Option (List RecipeLine)
  deriving DecidableEq

/-- What a serving adds to the bill. -/
def Dish.price (dish : Dish) : Money := if dish.serveStatus = .cancelled then 0 else dish.priceAtTime

namespace OrderItem

def dish (sales : SalesStore) (item : OrderItem) : Dish where
  menuItemId := item.menuItemId
  priceAtTime := item.priceAtTime
  note := item.note
  selectedOptions := item.selectedOptions
  serveStatus := item.serveStatus
  recipe := if item.recipeSnapshottedAt.isSome then some (snapshotRecipe sales item.id) else none

/-- The servings of the line, if its session is among these. -/
def servings (sales : SalesStore) (among : Id → Bool) (item : OrderItem) : Multiset Dish :=
  if among item.orderSessionId then Multiset.replicate item.quantity (item.dish sales) else 0

/-- What the line adds to the bills of these sessions. -/
def due (among : Id → Bool) (item : OrderItem) : Money :=
  if among item.orderSessionId ∧ item.serveStatus ≠ .cancelled then item.lineTotal else 0

end OrderItem

namespace SalesStore

def dishes (sales : SalesStore) (among : Id → Bool) : Multiset Dish :=
  sales.items.weigh (OrderItem.servings sales among)

def totalDue (sales : SalesStore) (among : Id → Bool) : Money :=
  sales.items.weigh (OrderItem.due among)

/-- What the dishes sum up to, line by line. -/
theorem sum_dishes (sales : SalesStore) (among : Id → Bool) (value : Dish → Int) :
    ((sales.dishes among).map value).sum =
      sales.items.weigh fun item => ((item.servings sales among).map value).sum := by
  unfold dishes Table.weigh
  induction sales.items.rows with
  | nil => rfl
  | cons item rest inductionHypothesis =>
      simp only [List.map_cons, List.sum_cons, Multiset.map_add, Multiset.sum_add,
        inductionHypothesis]

/-- The bill is the price of the servings. -/
theorem totalDue_eq (sales : SalesStore) (among : Id → Bool) :
    sales.totalDue among = ((sales.dishes among).map Dish.price).sum := by
  rw [sum_dishes]
  refine Table.weigh_congr fun item _ => ?_
  unfold OrderItem.due OrderItem.servings
  by_cases counted : among item.orderSessionId = true
  · by_cases cancelled : item.serveStatus = .cancelled
    · simp [counted, cancelled, Dish.price, OrderItem.dish]
    · simp [counted, cancelled, Dish.price, OrderItem.dish, OrderItem.lineTotal, mul_comm]
  · simp [counted]

end SalesStore

/-- Every captured recipe is that of an order item. -/
def RecipesOwned (sales : SalesStore) : Prop :=
  ∀ row ∈ sales.recipes, ∃ item ∈ sales.items, item.id = row.orderItemId

section Recipes

variable {sales after : SalesStore} {id : Id} {recipe : List RecipeLine}

theorem snapshotRecipe_congr (same : after.recipes = sales.recipes) (id : Id) :
    snapshotRecipe after id = snapshotRecipe sales id := by
  unfold snapshotRecipe
  rw [same]

/-- The rows of one item are no part of the recipe of another. -/
theorem snapshotRecipe_of_ne {other : Id}
    (inserted : sales.recipes.insertAll? (recipeRows id recipe) = some after.recipes)
    (differs : other ≠ id) : snapshotRecipe after other = snapshotRecipe sales other := by
  unfold snapshotRecipe Table.select
  rw [Table.rows_insertAll? inserted, List.filter_append]
  have none : (recipeRows id recipe).filter (fun row => row.orderItemId = other) = [] := by
    refine List.filter_eq_nil_iff.mpr fun row membership => ?_
    obtain ⟨line, -, rfl⟩ := List.mem_map.mp membership
    simpa using differs.symm
  rw [none, List.append_nil]

/-- The rows that are written for a new item are its recipe. -/
theorem snapshotRecipe_inserted
    (inserted : sales.recipes.insertAll? (recipeRows id recipe) = some after.recipes)
    (fresh : ∀ row ∈ sales.recipes, row.orderItemId ≠ id) : snapshotRecipe after id = recipe := by
  unfold snapshotRecipe Table.select
  rw [Table.rows_insertAll? inserted, List.filter_append]
  have none : sales.recipes.rows.filter (fun row => row.orderItemId = id) = [] :=
    List.filter_eq_nil_iff.mpr fun row membership => by simpa using fresh row membership
  have all : (recipeRows id recipe).filter (fun row => row.orderItemId = id) =
      recipeRows id recipe := by
    refine List.filter_eq_self.mpr fun row membership => ?_
    obtain ⟨line, -, rfl⟩ := List.mem_map.mp membership
    simp
  rw [none, all, List.nil_append, recipeRows, List.map_map]
  exact List.map_id _

end Recipes

/-- The dishes of the sessions are regrouped within these, and other sessions are left alone. -/
structure Regrouped (among : Id → Bool) (before after : SalesStore) : Prop where
  dishes : after.dishes among = before.dishes among
  spared : ∀ item : OrderItem, among item.orderSessionId = false →
    (item ∈ after.items ↔ item ∈ before.items)

namespace Regrouped

variable {among : Id → Bool} {before after : SalesStore}

instance : IsPreorder SalesStore (Regrouped among) where
  refl _ := ⟨rfl, fun _ _ => Iff.rfl⟩
  trans _ _ _ first second := {
    dishes := second.dishes.trans first.dishes
    spared := fun item apart => (second.spared item apart).trans (first.spared item apart) }

theorem of_same (items : after.items = before.items) (recipes : after.recipes = before.recipes) :
    Regrouped among before after where
  dishes := by
    unfold SalesStore.dishes
    rw [items]
    refine Table.weigh_congr fun item _ => ?_
    unfold OrderItem.servings OrderItem.dish
    rw [snapshotRecipe_congr recipes]
  spared _ _ := by rw [items]

/-- Lines change their session among these. -/
theorem moved {condition : OrderItem → Bool} {target : Id} (inside : among target = true)
    (moves : ∀ item ∈ before.items, condition item = true → among item.orderSessionId = true) :
    Regrouped among before { before with
      items := before.items.update condition fun row => { row with orderSessionId := target } } where
  dishes := by
    have kept : (before.items.update condition fun row =>
        { row with orderSessionId := target }).weigh (OrderItem.servings before among) =
          before.dishes among := by
      refine Table.weigh_update fun item membership holds => ?_
      unfold OrderItem.servings
      rw [if_pos inside, if_pos (moves item membership holds)]
      rfl
    exact kept
  spared item apart := by
    simp only [Table.mem_update_iff]
    constructor
    · rintro (⟨old, -, -, rfl⟩ | ⟨kept, -⟩)
      · rw [inside] at apart
        cases apart
      · exact kept
    · intro kept
      refine .inr ⟨kept, ?_⟩
      by_contra holds
      rw [moves item kept (by simpa using holds)] at apart
      cases apart

end Regrouped

/-- The servings of a line are those of its two parts. -/
theorem OrderItem.replicate_divided {dish : Dish} {quantity moved : Nat} (less : moved < quantity) :
    Multiset.replicate (quantity - moved) dish + Multiset.replicate moved dish =
      Multiset.replicate quantity dish := by
  rw [← Multiset.replicate_add, Nat.sub_add_cancel less.le]

namespace LineMoved

variable {source destination : Id} {among : Id → Bool} {before after : SalesStore}

theorem recipesOwned (moved : LineMoved source destination before after)
    (owned : RecipesOwned before) : RecipesOwned after := by
  cases moved with
  | whole found own open_ =>
      intro row recorded
      obtain ⟨item, inStore, same⟩ := owned row recorded
      simp only [Table.mem_update]
      refine ⟨_, ⟨item, inStore, rfl⟩, ?_⟩
      split
      · exact same
      · exact same
  | divided found own open_ positive less inserted recorded ticketed =>
      intro row membership
      rcases (Table.mem_insertAll? recorded).mp membership with old | fresh
      · obtain ⟨item, inStore, same⟩ := owned row old
        simp only [Table.mem_insert? inserted, Table.mem_update]
        refine ⟨_, .inl ⟨item, inStore, rfl⟩, ?_⟩
        split
        · exact same
        · exact same
      · refine ⟨_, (Table.mem_insert? inserted).mpr (.inr rfl), ?_⟩
        split at fresh
        · obtain ⟨line, -, rfl⟩ := List.mem_map.mp fresh
          rfl
        · cases fresh

/-- The part has the recipe that its item had, and the recipes of the others stay. -/
theorem dishes_divided {item : OrderItem} {id : Id} {quantity : Nat} {now : Timestamp}
    {recipes : Table OrderItemRecipeIngredient.key} (same : after.recipes = recipes)
    (owned : RecipesOwned before) (absent : ∀ row ∈ before.items, row.id ≠ id)
    (recorded : before.recipes.insertAll? (if item.recipeSnapshottedAt.isSome then
      recipeRows id (snapshotRecipe before item.id) else []) = some recipes) :
    (∀ row ∈ before.items, row.dish after = row.dish before) ∧
      (item.part id destination quantity now).dish after = item.dish before := by
  subst same
  unfold OrderItem.dish
  by_cases captured : item.recipeSnapshottedAt.isSome = true
  · rw [if_pos captured] at recorded
    have fresh : ∀ row ∈ before.recipes, row.orderItemId ≠ id := by
      intro row membership equal
      obtain ⟨owner, inStore, isOwner⟩ := owned row membership
      exact absent owner inStore (isOwner.trans equal)
    refine ⟨fun row membership => ?_, ?_⟩
    · rw [snapshotRecipe_of_ne recorded (absent row membership)]
    · simp only [OrderItem.part, captured, if_true]
      rw [snapshotRecipe_inserted recorded fresh]
  · rw [if_neg captured] at recorded
    have kept : after.recipes = before.recipes := (Option.some.inj recorded).symm
    refine ⟨fun row _ => ?_, ?_⟩
    · rw [snapshotRecipe_congr kept]
    · simp only [OrderItem.part, captured, if_false, Bool.false_eq_true]

/-- A line that moves within these sessions takes its dishes along. -/
theorem regrouped (moved : LineMoved source destination before after)
    (owned : RecipesOwned before) (leaving : among source = true)
    (joining : among destination = true) : Regrouped among before after := by
  cases moved with
  | @whole item found own open_ =>
      refine .moved joining fun row membership same => ?_
      rw [Table.eq_of_key_eq membership found (of_decide_eq_true same), own]
      exact leaving
  | @divided item id quantity now items recipes ticketItems found own open_ positive less inserted
      recorded ticketed =>
      have absent : ∀ row ∈ before.items, row.id ≠ id := by
        intro row membership same
        refine (Table.rows_insert? inserted).2 _ (Table.mem_update.mpr ⟨row, membership, rfl⟩) ?_
        split
        · exact same
        · exact same
      have counted : among item.orderSessionId = true := own ▸ leaving
      let reduce (row : OrderItem) : OrderItem :=
        { row with quantity := item.quantity - quantity }
      have reduces : before.items.Replaces item (reduce item)
          (before.items.update (fun row => row.id = item.id) reduce) := by
        have only : ∀ other ∈ before.items, decide (other.id = item.id) = true →
            other.id = item.id := fun _ _ same => of_decide_eq_true same
        exact .of_update found (decide_eq_true rfl) only
      refine ⟨?_, fun row apart => ?_⟩
      · obtain ⟨stays, part_eq⟩ := @dishes_divided destination before
          { before with items, recipes, ticketItems } item id quantity now recipes rfl owned absent
          recorded
        have reduced_eq : OrderItem.dish { before with items, recipes, ticketItems }
            (reduce item) = item.dish before := stays item found
        calc
          _ = before.items.weigh
              (OrderItem.servings { before with items, recipes, ticketItems } among) := by
            refine Table.weigh_divided reduces inserted ?_
            unfold OrderItem.servings
            rw [reduced_eq, part_eq, stays item found, if_pos counted]
            have divided := @OrderItem.replicate_divided (item.dish before) _ _ less
            simpa [reduce, OrderItem.part, counted, joining] using divided
          _ = before.dishes among := by
            refine Table.weigh_congr fun row membership => ?_
            unfold OrderItem.servings
            rw [stays row membership]
      · have differs (line : OrderItem) (inside : among line.orderSessionId = true) :
            row ≠ line := by
          rintro rfl
          exact Bool.noConfusion (inside.symm.trans apart)
        exact reduces.mem_divided_iff inserted (differs item counted)
          (differs (reduce item) counted) (differs (item.part id destination quantity now) joining)

/-- Lines that move one after the other. -/
theorem run_regrouped (lines : Relation.ReflTransGen (LineMoved source destination) before after)
    (owned : RecipesOwned before) (leaving : among source = true)
    (joining : among destination = true) : Regrouped among before after := by
  have both : RecipesOwned after ∧ Regrouped among before after := by
    induction lines with
    | refl => exact ⟨owned, refl_of _ _⟩
    | tail _ moved inductionHypothesis =>
        obtain ⟨holds, regrouped⟩ := inductionHypothesis
        exact ⟨moved.recipesOwned holds,
          trans_of _ regrouped (moved.regrouped holds leaving joining)⟩
  exact both.2

end LineMoved

namespace RecipesOwned

variable {sales after : SalesStore}

/-- No recipe is written and every item is still there. -/
theorem kept (owned : RecipesOwned sales) (recipes : after.recipes = sales.recipes)
    (items : ∀ item ∈ sales.items, ∃ next ∈ after.items, next.id = item.id) :
    RecipesOwned after := by
  intro row recorded
  rw [recipes] at recorded
  obtain ⟨item, inStore, same⟩ := owned row recorded
  obtain ⟨next, isNext, equal⟩ := items item inStore
  exact ⟨next, isNext, equal.trans same⟩

theorem updated {condition : OrderItem → Bool} {change : OrderItem → OrderItem}
    (keeps : ∀ row, (change row).id = row.id) (owned : RecipesOwned sales)
    (recipes : after.recipes = sales.recipes)
    (items : after.items = sales.items.update condition change keeps) : RecipesOwned after := by
  refine owned.kept recipes fun item membership => ?_
  rw [items]
  refine ⟨_, Table.mem_update.mpr ⟨item, membership, rfl⟩, ?_⟩
  split
  · exact keeps item
  · rfl

/-- The new rows are of items that are there. -/
theorem recorded {lines : List OrderItemRecipeIngredient} (owned : RecipesOwned sales)
    (items : ∀ item ∈ sales.items, ∃ next ∈ after.items, next.id = item.id)
    (inserted : sales.recipes.insertAll? lines = some after.recipes)
    (new : ∀ line ∈ lines, ∃ item ∈ after.items, item.id = line.orderItemId) :
    RecipesOwned after := by
  intro row membership
  rcases (Table.mem_insertAll? inserted).mp membership with old | fresh
  · obtain ⟨item, inStore, same⟩ := owned row old
    obtain ⟨next, isNext, equal⟩ := items item inStore
    exact ⟨next, isNext, equal.trans same⟩
  · exact new row fresh

theorem step {refunds : Option PaymentMethod} (taken : SalesStep refunds sales after)
    (owned : RecipesOwned sales) : RecipesOwned after := by
  cases taken with
  | besides tables sessions items invoices remakes recipes =>
      exact owned.kept recipes fun item membership => ⟨item, items ▸ membership, rfl⟩
  | itemsAdded fresh priced active own inserted recipes =>
      refine owned.recorded (fun item membership => ?_) recipes fun line membership => ?_
      · exact ⟨item, (Table.mem_insertAll? inserted).mpr (.inl membership), rfl⟩
      · obtain ⟨row, inRows, same⟩ := own line membership
        exact ⟨row, (Table.mem_insertAll? inserted).mpr (.inr inRows), same.symm⟩
  | itemRemade paid free pending price snapshotted copied open_ replaces own inserted recipes =>
      refine owned.recorded (fun item membership => ?_) recipes fun line membership => ?_
      · exact ⟨item, (Table.mem_insert? inserted).mpr (.inl membership), rfl⟩
      · exact ⟨_, (Table.mem_insert? inserted).mpr (.inr rfl), (own line membership).symm⟩
  | recipesSnapshotted condition now own legacy recipes =>
      have stays : ∀ item ∈ sales.items, ∃ next ∈ sales.items.update condition fun item =>
          { item with recipeSnapshottedAt := some now }, next.id = item.id := by
        intro item membership
        refine ⟨_, Table.mem_update.mpr ⟨item, membership, rfl⟩, ?_⟩
        split
        · rfl
        · rfl
      refine owned.recorded stays recipes fun line membership => ?_
      obtain ⟨item, inStore, -, same⟩ := own line membership
      rw [same]
      exact stays item inStore
  | itemsAdvanced condition change keeps => exact owned.updated keeps rfl rfl
  | itemsCancelled | itemsMoved | invoiceIssued | invoicePaid | invoiceVoided =>
      exact owned.updated (by intro; rfl) rfl rfl
  | lineMoved active moved => exact moved.recipesOwned owned
  | _ => exact owned

end RecipesOwned

theorem Reachable.recipesOwned {database : Database} (reachable : Reachable database) :
    RecipesOwned database.sales :=
  reachable.salesInvariant RecipesOwned (fun _ membership => (Table.not_mem_empty membership).elim)
    fun _ _ _ taken owned => owned.step taken

/-- The order lines and the recipes that were captured for them. -/
def SalesStore.ordered (sales : SalesStore) :
    Table OrderItem.id × Table OrderItemRecipeIngredient.key := (sales.items, sales.recipes)

instance SalesStore.ordered_diningTable : Apart ordered diningTable := ⟨fun _ _ => rfl⟩
instance SalesStore.ordered_orderSession : Apart ordered orderSession := ⟨fun _ _ => rfl⟩

/-- A transfer is no business of the order lines. -/
instance transferTable_ordered {input : TransferDiningTableInput} {employeeId : Id} :
    Respects (On Database.sales (On SalesStore.ordered Eq)) (transferTable input employeeId) := by
  unfold OrdersService.transferTable setTableStatus
  infer_instance

/-- The commands that regroup tables, and the sessions that they are about. -/
inductive Regroups (before : SalesStore) : OrderCommand → (Id → Bool) → Prop
  /-- A split is about its source and about the session that it opens. -/
  | split (input : SplitOrderSessionInput) (employeeId : Id) :
      Regroups before (.splitTable input employeeId) fun id =>
        id = input.sourceOrderSessionId || (before.sessions.find? id).isNone
  | merge (input : MergeDiningTableInput) (employeeId : Id) :
      Regroups before (.mergeTables input employeeId) fun id =>
        id = input.destinationOrderSessionId || input.sourceOrderSessionIds.contains id
  | transfer (input : TransferDiningTableInput) (employeeId : Id) :
      Regroups before (.transferTable input employeeId) fun id =>
        id = input.sourceOrderSessionId

theorem Reachable.regrouped {before after : Database} {command : OrderCommand}
    {among : Id → Bool} {now : Timestamp} (reachable : Reachable before)
    (regroups : Regroups before.sales command among)
    (committed : Commits (command.execute now) before () after) :
    Regrouped among before.sales after.sales := by
  have owned := reachable.recipesOwned
  cases regroups with
  | split input employeeId =>
      obtain ⟨prepared, checked, session, sessions, -, -, inserted, lines⟩ :=
        commits_splitTable committed
      have moved := @LineMoved.run_regrouped prepared.source.id session.id
        (fun id => id = input.sourceOrderSessionId || (before.sales.sessions.find? id).isNone)
        _ _ lines owned ?_ ?_
      · exact ⟨moved.dishes, moved.spared⟩
      · simp [Table.find?_key checked.source]
      · simp [Table.find?_eq_none.mpr (Table.rows_insert? inserted).2]
  | merge input employeeId =>
      obtain ⟨target, sourceIds, merged⟩ := commits_mergeTables committed
      have moved := @Regrouped.moved
        (fun id => id = input.destinationOrderSessionId ||
          input.sourceOrderSessionIds.contains id) before.sales
        (fun item => item.orderSessionId ∈ sourceIds && !item.isPaid && item.invoiceId.isNone)
        target.id (by simp [merged.target_id]) fun item membership moves => ?_
      · rw [merged.after_eq]
        exact ⟨moved.dishes, moved.spared⟩
      · simp only [Bool.and_eq_true, decide_eq_true_eq] at moves
        simp [merged.listed _ moves.1.1]
  | transfer input employeeId =>
      obtain ⟨items, recipes⟩ := Prod.mk.inj (transferTable_ordered.step committed)
      exact .of_same items.symm recipes.symm

theorem Regrouped.totalDue_eq {among : Id → Bool} {before after : SalesStore}
    (regrouped : Regrouped among before after) :
    after.totalDue among = before.totalDue among := by
  rw [SalesStore.totalDue_eq, SalesStore.totalDue_eq, regrouped.dishes]

/-- Whatever is regrouped keeps its dishes and its price, and other sessions are left alone. -/
theorem Reachable.regrouping_conserves {before after : Database} {command : OrderCommand}
    {among : Id → Bool} {now : Timestamp} (reachable : Reachable before)
    (regroups : Regroups before.sales command among)
    (committed : Commits (command.execute now) before () after) :
    after.sales.dishes among = before.sales.dishes among ∧
      after.sales.totalDue among = before.sales.totalDue among ∧
      ∀ item : OrderItem, among item.orderSessionId = false →
        (item ∈ after.sales.items ↔ item ∈ before.sales.items) := by
  have regrouped := reachable.regrouped regroups committed
  exact ⟨regrouped.dishes, regrouped.totalDue_eq, regrouped.spared⟩

theorem seven_pos : 0 < 7 := by decide

theorem four_pos : 0 < 4 := by decide

/-- Seven cups are ordered at one of two tables. -/
def Database.seated : Database := Database.sample.performAll [
  (.inventory (.createItem 0 {
    name := "Coffee beans"
    stock := some 10000000
    initialUnitCost := some 100
    reorderPoint := none
    categoryId := 0
    unitId := 0 }), 1),
  (.table (.createTable "A1"), 2),
  (.table (.createTable "A2"), 3),
  (.order (.openSession (some 1) 0 none), 4),
  (.order (.addOrderItems 3
    [{ menuItemId := 0, quantity := 7, note := none, optionIds := [], quantity_pos := seven_pos }]
    0), 5)]

/-- Four of the cups move to the other table. -/
def cupsSplit : SplitOrderSessionInput where
  sourceOrderSessionId := 3
  destinationTableId := 2
  itemsToMove := [{
    orderItemId := 4
    quantityToMove := 4
    expectedOriginalQuantity := 7
    quantityToMove_pos := four_pos }]
  items_nodup := by decide

theorem Reachable.regrouping_conserves_seated :
    let among : Id → Bool := fun id => id = 3 || (Database.seated.sales.sessions.find? id).isNone
    let after := Database.seated.perform (.order (.splitTable cupsSplit 0)) 6
    after.sales.dishes among = Database.seated.sales.dishes among ∧
      after.sales.totalDue among = Database.seated.sales.totalDue among ∧
      ∀ item : OrderItem, among item.orderSessionId = false →
        (item ∈ after.sales.items ↔ item ∈ Database.seated.sales.items) := by
  have reachable : Reachable Database.seated := Reachable.sample.performAll _
  have committed := @Database.commits_perform Database.seated (.order (.splitTable cupsSplit 0)) 6
    (by decide +kernel)
  exact reachable.regrouping_conserves (.split cupsSplit 0) committed

end CoffeeShop
