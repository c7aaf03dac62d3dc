import CoffeeShop.Execution
import CoffeeShop.Library.DecimalText

/-!
What a menu selection accepts and resolves to.
-/

namespace CoffeeShop

open Transaction

namespace MenuOptionSelection

variable {store store' : InventoryStore} {groups : List MenuItemOptionGroup} {ids others : List Id}
variable {menuItem : MenuItem} {selection : MenuSelection}

def optionsOf (groups : List MenuItemOptionGroup) : List MenuItemOption :=
  groups.flatMap (·.options)

/-- The options that the identifiers select, in the order of the menu. -/
def chosen (groups : List MenuItemOptionGroup) (ids : List Id) :
    List (MenuItemOptionGroup × MenuItemOption) :=
  groups.flatMap fun group =>
    (group.options.filter fun option => option.id ∈ ids).map fun option => (group, option)

/-- The ingredient of the line is not deleted. -/
def IsActive (store : InventoryStore) (line : RecipeLine) : Prop :=
  (store.items.find? line.inventoryItemId).any (·.deletedAt.isNone) = true

/-- What the groups ask of the identifiers. -/
structure GroupsMet (store : InventoryStore) (groups : List MenuItemOptionGroup) (ids : List Id) :
    Prop where
  bounds : ∀ group ∈ groups,
    group.minSelected ≤ (group.options.filter fun option => option.id ∈ ids).length ∧
      (group.options.filter fun option => option.id ∈ ids).length ≤ group.maxSelected
  active : ∀ option ∈ optionsOf groups, option.id ∈ ids → ∀ line ∈ option.ingredients,
    IsActive store line

section Groups

theorem commits_assertActiveIngredients {lines : List RecipeLine} {result : Unit} :
    Commits (forEach lines assertActiveIngredient) store result store' ↔
      (∀ line ∈ lines, IsActive store line) ∧ store' = store := by
  have single (line : RecipeLine) (store'' : InventoryStore) :
      Commits (assertActiveIngredient line) store () store'' ↔
        IsActive store line ∧ store'' = store := by
    simp only [assertActiveIngredient, commits_bind, commits_findUnique, commits_require, IsActive]
    constructor
    · rintro ⟨_, _, ⟨rfl, rfl⟩, found, rfl⟩
      exact ⟨found, rfl⟩
    · rintro ⟨found, rfl⟩
      exact ⟨_, _, ⟨rfl, rfl⟩, found, rfl⟩
  induction lines with
  | nil => simp
  | cons line rest inductionHypothesis =>
      rw [commits_forEach_cons, List.forall_mem_cons]
      constructor
      · rintro ⟨middle, first, last⟩
        obtain ⟨active, rfl⟩ := (single line middle).mp first
        obtain ⟨others, rfl⟩ := inductionHypothesis.mp last
        exact ⟨⟨active, others⟩, rfl⟩
      · rintro ⟨⟨active, others⟩, rfl⟩
        exact ⟨_, (single line _).mpr ⟨active, rfl⟩, inductionHypothesis.mpr ⟨others, rfl⟩⟩

/-- Only which options are selected matters of the identifiers. -/
theorem chosen_congr (same : ∀ option ∈ optionsOf groups, option.id ∈ ids ↔ option.id ∈ others) :
    chosen groups ids = chosen groups others := by
  refine List.flatMap_congr fun group member => ?_
  refine congrArg (List.map _) (List.filter_congr fun option isOption => ?_)
  exact decide_eq_decide.mpr (same option (List.mem_flatMap.mpr ⟨group, member, isOption⟩))

theorem GroupsMet.congr (met : GroupsMet store groups ids)
    (same : ∀ option ∈ optionsOf groups, option.id ∈ ids ↔ option.id ∈ others) :
    GroupsMet store groups others where
  bounds group member := by
    have filters : (group.options.filter fun option => option.id ∈ others) =
        group.options.filter fun option => option.id ∈ ids :=
      List.filter_congr fun option isOption =>
        decide_eq_decide.mpr (same option (List.mem_flatMap.mpr ⟨group, member, isOption⟩)).symm
    rw [filters]
    exact met.bounds group member
  active option isOption selected := met.active option isOption ((same option isOption).mpr selected)

/-- The groups are met one after the other, where each takes its own identifiers away.  Options
have their own identifiers, so what is left selects in the other groups what was given. -/
theorem commits_resolveGroups (distinct : ((optionsOf groups).map (·.id)).Nodup)
    {result : List (MenuItemOptionGroup × MenuItemOption) × List Id} :
    Commits (resolveGroups groups ids) store result store' ↔
      GroupsMet store groups ids ∧ result = (chosen groups ids,
        ids.filter fun id => id ∉ (optionsOf groups).map (·.id)) ∧ store' = store := by
  induction groups generalizing ids result store store' with
  | nil =>
      rw [resolveGroups, commits_pure]
      constructor
      · rintro ⟨rfl, rfl⟩
        refine ⟨⟨nofun, nofun⟩, ?_, rfl⟩
        simp [chosen, optionsOf]
      · rintro ⟨-, rfl, rfl⟩
        simp [chosen, optionsOf]
  | cons group groups inductionHypothesis =>
      have options : optionsOf (group :: groups) = group.options ++ optionsOf groups := by
        simp [optionsOf]
      rw [options, List.map_append, List.nodup_append] at distinct
      obtain ⟨-, distinctRest, apart⟩ := distinct
      -- What the group leaves selects in the other groups what was given.
      set taken := group.options.filter fun option => option.id ∈ ids with taken_eq
      set rest := ids.filter fun id => id ∉ taken.map (·.id) with rest_eq
      have same : ∀ option ∈ optionsOf groups, option.id ∈ rest ↔ option.id ∈ ids := by
        intro option isOption
        refine ⟨fun inRest => (List.mem_filter.mp inRest).1, fun inIds => ?_⟩
        refine List.mem_filter.mpr ⟨inIds, decide_eq_true fun isTaken => ?_⟩
        obtain ⟨other, inTaken, equal⟩ := List.mem_map.mp isTaken
        exact apart other.id (List.mem_map_of_mem (List.mem_filter.mp inTaken).1) option.id
          (List.mem_map_of_mem isOption) equal
      have unknown : (rest.filter fun id => id ∉ (optionsOf groups).map (·.id)) =
          ids.filter fun id => id ∉ (optionsOf (group :: groups)).map (·.id) := by
        rw [rest_eq, List.filter_filter, options]
        refine List.filter_congr fun id inIds => ?_
        rw [Bool.eq_iff_iff]
        simp only [taken_eq, List.map_append, List.mem_append, Bool.and_eq_true, decide_eq_true_eq,
          List.mem_map, List.mem_filter]
        constructor
        · rintro ⟨others, own⟩ (⟨option, isOption, rfl⟩ | elsewhere)
          · exact own ⟨option, ⟨isOption, inIds⟩, rfl⟩
          · exact others elsewhere
        · intro nowhere
          exact ⟨fun elsewhere => nowhere (.inr elsewhere),
            fun ⟨option, isOption, equal⟩ => nowhere (.inl ⟨option, isOption.1, equal⟩)⟩
      have met : GroupsMet store (group :: groups) ids ↔
          ((group.minSelected ≤ taken.length ∧ taken.length ≤ group.maxSelected) ∧
            ∀ line ∈ taken.flatMap (·.ingredients), IsActive store line) ∧
          GroupsMet store groups rest := by
        constructor
        · intro both
          refine ⟨⟨both.bounds group List.mem_cons_self, fun line isLine => ?_⟩,
            GroupsMet.congr ⟨fun other member => both.bounds other (List.mem_cons_of_mem _ member),
              fun option isOption => both.active option ?_⟩ fun option isOption =>
                (same option isOption).symm⟩
          · obtain ⟨option, isTaken, inOption⟩ := List.mem_flatMap.mp isLine
            obtain ⟨isOption, selected⟩ := List.mem_filter.mp isTaken
            refine both.active option ?_ (of_decide_eq_true selected) line inOption
            rw [options]
            exact List.mem_append_left _ isOption
          · rw [options]
            exact List.mem_append_right _ isOption
        · rintro ⟨⟨bounds, active⟩, others⟩
          have back := others.congr same
          refine ⟨List.forall_mem_cons.mpr ⟨bounds, back.bounds⟩, ?_⟩
          rw [options]
          intro option isOption selected line inOption
          obtain first | later := List.mem_append.mp isOption
          · exact active line (List.mem_flatMap.mpr
              ⟨option, List.mem_filter.mpr ⟨first, decide_eq_true selected⟩, inOption⟩)
          · exact back.active option later selected line inOption
      have selection : chosen (group :: groups) ids =
          taken.map (fun option => (group, option)) ++ chosen groups rest := by
        rw [chosen_congr same]
        simp [chosen, taken_eq]
      rw [met, selection, ← unknown]
      simp only [resolveGroups, ← taken_eq, ← rest_eq, commits_bind, commits_require,
        commits_assertActiveIngredients, inductionHypothesis distinctRest, commits_pure]
      constructor
      · rintro ⟨_, _, ⟨bounds, rfl⟩, _, _, ⟨active, rfl⟩, _, _, ⟨others, rfl, rfl⟩, rfl, rfl⟩
        exact ⟨⟨⟨bounds, active⟩, others⟩, rfl, rfl⟩
      · rintro ⟨⟨⟨bounds, active⟩, others⟩, rfl, rfl⟩
        exact ⟨(), _, ⟨bounds, rfl⟩, (), _, ⟨active, rfl⟩, _, _, ⟨others, rfl, rfl⟩, rfl, rfl⟩

end Groups

section Resolving

/-- The options of a menu item have identifiers of their own, as a primary key gives them. -/
def OptionsDistinct (menuItem : MenuItem) : Prop :=
  ((optionsOf menuItem.optionGroups).map (·.id)).Nodup

def unitPriceOf (menuItem : MenuItem) (ids : List Id) : Money :=
  menuItem.price + ((chosen menuItem.optionGroups ids).map (·.2.priceDelta)).sum

/-- What the identifiers select of the menu item. -/
def selectionOf (menuItem : MenuItem) (ids : List Id) : MenuSelection where
  unitPrice := unitPriceOf menuItem ids
  selectedOptions := (chosen menuItem.optionGroups ids).map selectedOption
  recipe := combineRecipe (menuItem.ingredients ++
    (chosen menuItem.optionGroups ids).flatMap (·.2.ingredients))

/-- When a selection is accepted. -/
structure Selectable (store : InventoryStore) (menuItem : MenuItem) (ids : List Id) : Prop where
  few : ids.length ≤ 20
  nodup : ids.Nodup
  known : ∀ id ∈ ids, ∃ group ∈ menuItem.optionGroups, ∃ option ∈ group.options, option.id = id
  groups : GroupsMet store menuItem.optionGroups ids
  base : ∀ line ∈ menuItem.ingredients, IsActive store line
  price : unitPriceOf menuItem ids ≤ 999999999999999999

theorem commits_resolveMenuSelection (distinct : OptionsDistinct menuItem) :
    Commits (resolveMenuSelection menuItem ids) store selection store' ↔
      Selectable store menuItem ids ∧ selection = selectionOf menuItem ids ∧ store' = store := by
  have known : (ids.filter fun id => id ∉ (optionsOf menuItem.optionGroups).map (·.id)) = [] ↔
      ∀ id ∈ ids, ∃ group ∈ menuItem.optionGroups, ∃ option ∈ group.options, option.id = id := by
    rw [List.filter_eq_nil_iff]
    refine forall₂_congr fun id _ => ?_
    rw [decide_eq_true_eq, not_not]
    simp only [optionsOf, List.mem_map, List.mem_flatMap]
    constructor
    · rintro ⟨option, ⟨group, isGroup, isOption⟩, equal⟩
      exact ⟨group, isGroup, option, isOption, equal⟩
    · rintro ⟨group, isGroup, option, isOption, equal⟩
      exact ⟨option, ⟨group, isGroup, isOption⟩, equal⟩
  have deltas : (((chosen menuItem.optionGroups ids).map (·.2)).map (·.priceDelta)).sum =
      ((chosen menuItem.optionGroups ids).map (·.2.priceDelta)).sum := by
    rw [List.map_map]
    rfl
  have recipes : ((chosen menuItem.optionGroups ids).map (·.2)).flatMap (·.ingredients) =
      (chosen menuItem.optionGroups ids).flatMap (·.2.ingredients) := by
    rw [List.flatMap_map]
  simp only [resolveMenuSelection, commits_bind, commits_require, commits_assertActiveIngredients,
    commits_resolveGroups distinct, commits_pure]
  constructor
  · rintro ⟨_, _, ⟨⟨few, nodup⟩, rfl⟩, _, _, ⟨base, rfl⟩, _, _, ⟨groups, rfl, rfl⟩, _, _,
      ⟨all, rfl⟩, _, _, ⟨price, rfl⟩, rfl, rfl⟩
    rw [deltas] at price
    refine ⟨⟨few, nodup, known.mp all, groups, base, price⟩, ?_, rfl⟩
    rw [deltas, recipes]
    rfl
  · rintro ⟨⟨few, nodup, all, groups, base, price⟩, rfl, rfl⟩
    refine ⟨(), _, ⟨⟨few, nodup⟩, rfl⟩, (), _, ⟨base, rfl⟩, _, _, ⟨groups, rfl, rfl⟩, (), _,
      ⟨known.mpr all, rfl⟩, (), _, ⟨?_, rfl⟩, ?_, rfl⟩
    · rw [deltas]
      exact price
    · rw [deltas, recipes]
      rfl

theorem chosen_perm (perm : ids.Perm others) : chosen groups ids = chosen groups others :=
  chosen_congr fun _ _ => perm.mem_iff

theorem selectionOf_perm (perm : ids.Perm others) :
    selectionOf menuItem ids = selectionOf menuItem others := by
  rw [selectionOf, selectionOf, unitPriceOf, unitPriceOf, chosen_perm perm]

theorem Selectable.perm (selectable : Selectable store menuItem ids) (perm : ids.Perm others) :
    Selectable store menuItem others where
  few := perm.length_eq ▸ selectable.few
  nodup := perm.nodup selectable.nodup
  known id member := selectable.known id (perm.mem_iff.mpr member)
  groups := selectable.groups.congr fun _ _ => perm.mem_iff
  base := selectable.base
  price := by
    rw [unitPriceOf, ← chosen_perm perm]
    exact selectable.price

end Resolving

section Recipes

/-- The quantity that the lines have of an ingredient. -/
def quantityOf (lines : List RecipeLine) (inventoryItemId : Id) : Quantity :=
  ((lines.filter fun line => line.inventoryItemId = inventoryItemId).map (·.quantity)).sum

theorem quantityOf_eq_total (lines : List RecipeLine) (inventoryItemId : Id) :
    quantityOf lines inventoryItemId =
      GroupedSum.total (lines.map fun line => (line.inventoryItemId, line.quantity))
        inventoryItemId := by
  induction lines with
  | nil => rfl
  | cons line rest inductionHypothesis =>
      rw [List.map_cons, GroupedSum.total_cons, ← inductionHypothesis, quantityOf, quantityOf,
        List.filter_cons]
      by_cases own : line.inventoryItemId = inventoryItemId
      · simp [own]
      · simp [own]

theorem quantityOf_append (first second : List RecipeLine) (inventoryItemId : Id) :
    quantityOf (first ++ second) inventoryItemId =
      quantityOf first inventoryItemId + quantityOf second inventoryItemId := by
  rw [quantityOf, List.filter_append, List.map_append, List.sum_append]
  rfl

theorem quantityOf_combineRecipe (lines : List RecipeLine) (inventoryItemId : Id) :
    quantityOf (combineRecipe lines) inventoryItemId = quantityOf lines inventoryItemId := by
  rw [quantityOf_eq_total, quantityOf_eq_total, combineRecipe, List.map_map]
  exact (congrArg (GroupedSum.total · inventoryItemId) (List.map_id _)).trans
    (GroupedSum.total_ofList _ _)

theorem nodup_combineRecipe (lines : List RecipeLine) :
    ((combineRecipe lines).map (·.inventoryItemId)).Nodup := by
  rw [combineRecipe, List.map_map]
  exact GroupedSum.nodup_ofList _

/-- The recipe has of each ingredient what the base and the options have. -/
theorem quantityOf_selectionOf (menuItem : MenuItem) (ids : List Id) (inventoryItemId : Id) :
    quantityOf (selectionOf menuItem ids).recipe inventoryItemId =
      quantityOf menuItem.ingredients inventoryItemId +
        ((chosen menuItem.optionGroups ids).map fun entry =>
          quantityOf entry.2.ingredients inventoryItemId).sum := by
  rw [selectionOf, quantityOf_combineRecipe, quantityOf_append]
  congr 1
  induction chosen menuItem.optionGroups ids with
  | nil => rfl
  | cons entry rest inductionHypothesis =>
      rw [List.flatMap_cons, quantityOf_append, inductionHypothesis, List.map_cons, List.sum_cons]

end Recipes

section Snapshots

/-- An element of `optionSnapshotSchema`. -/
structure OptionSnapshot where
  id : String
  groupName : String
  name : String
  priceDelta : String

/-- The snapshot that `resolveMenuSelection` takes of an option. -/
def snapshotOf (option : SelectedMenuOption) : OptionSnapshot where
  id := toString option.id
  groupName := option.groupName
  name := option.name
  priceDelta := DecimalText.plain option.priceDelta

def OptionSnapshot.members (snapshot : OptionSnapshot) : List (String × Json) :=
  [("id", .str snapshot.id), ("groupName", .str snapshot.groupName), ("name", .str snapshot.name),
    ("priceDelta", .str snapshot.priceDelta)]

def snapshotsJson (snapshots : List OptionSnapshot) : Json :=
  .arr (snapshots.map fun snapshot => .obj snapshot.members)

/-- The text of the member with the name. -/
def textOf (name : String) (members : List (String × Json)) : Option String :=
  match members.find? (·.1 = name) with
  | some (_, .str text) => some text
  | _ => none

/-- `optionSnapshotSchema` on one element, which it rebuilds in the order of the schema. -/
def readSnapshot : Json → Option OptionSnapshot
  | .obj members => do
      let id ← textOf "id" members
      let groupName ← textOf "groupName" members
      let name ← textOf "name" members
      let priceDelta ← textOf "priceDelta" members
      pure { id, groupName, name, priceDelta }
  | _ => none

def readSelectedOptions : Json → Option (List OptionSnapshot)
  | .arr items => if items.length ≤ maximumOptions then items.mapM readSnapshot else none
  | _ => none

/-- A `jsonb` column gives the members of the objects back in an order of its own. -/
inductive StoredAs : List OptionSnapshot → List Json → Prop
  | nil : StoredAs [] []
  | cons {snapshot : OptionSnapshot} {members : List (String × Json)}
      {snapshots : List OptionSnapshot} {items : List Json}
      (same : snapshot.members.Perm members) (others : StoredAs snapshots items) :
      StoredAs (snapshot :: snapshots) (.obj members :: items)

/-- The comparison of a quote with what its line resolves to now. -/
def QuoteHolds (quotedUnitPrice : Money) (quotedOptions : List OptionSnapshot)
    (selection : MenuSelection) : Prop :=
  quotedUnitPrice = selection.unitPrice ∧ Json.stringify (snapshotsJson quotedOptions) =
    Json.stringify (snapshotsJson (selection.selectedOptions.map snapshotOf))

theorem snapshotOf_injective : Function.Injective snapshotOf := by
  rintro ⟨id, groupName, name, priceDelta⟩ ⟨otherId, otherGroup, otherName, otherDelta⟩ same
  simp only [snapshotOf, OptionSnapshot.mk.injEq] at same
  obtain ⟨ids, rfl, rfl, deltas⟩ := same
  rw [toString_injective ids, DecimalText.plain_injective deltas]

theorem snapshotsJson_injective : Function.Injective snapshotsJson := by
  intro first second same
  refine List.map_injective_iff.mpr ?_ (Json.arr.inj same)
  rintro ⟨id, groupName, name, priceDelta⟩ ⟨otherId, otherGroup, otherName, otherDelta⟩ equal
  simp only [OptionSnapshot.members, Json.obj.injEq, List.cons.injEq, Prod.mk.injEq, true_and,
    and_true, Json.str.injEq] at equal
  obtain ⟨rfl, rfl, rfl, rfl⟩ := equal
  rfl

/-- The comparison of the texts is the comparison of what they are of. -/
theorem quoteHolds_iff {unitPrice : Money} {options : List SelectedMenuOption} :
    QuoteHolds unitPrice (options.map snapshotOf) selection ↔
      unitPrice = selection.unitPrice ∧ options = selection.selectedOptions := by
  refine and_congr_right fun _ => ⟨fun texts => ?_, fun same => by rw [same]⟩
  exact List.map_injective_iff.mpr snapshotOf_injective
    (snapshotsJson_injective (Json.stringify_injective texts))

theorem textOf_perm {name text : String} {members stored : List (String × Json)}
    (distinct : (members.map Prod.fst).Nodup) (perm : members.Perm stored)
    (member : (name, Json.str text) ∈ members) : textOf name stored = some text := by
  have isStored := perm.mem_iff.mp member
  have names := (perm.map Prod.fst).nodup distinct
  cases found : stored.find? (·.1 = name) with
  | none =>
      have differs := List.find?_eq_none.mp found _ isStored
      simp at differs
  | some entry =>
      have same : entry.1 = name := by simpa using List.find?_some found
      obtain rfl := List.inj_on_of_nodup_map names (List.mem_of_find?_eq_some found) isStored same
      rw [textOf, found]

theorem readSnapshot_stored {snapshot : OptionSnapshot} {members : List (String × Json)}
    (same : snapshot.members.Perm members) : readSnapshot (.obj members) = some snapshot := by
  have distinct : (snapshot.members.map Prod.fst).Nodup := by
    change ["id", "groupName", "name", "priceDelta"].Nodup
    decide
  have read {name text : String} (member : (name, Json.str text) ∈ snapshot.members) :
      textOf name members = some text := textOf_perm distinct same member
  have id : textOf "id" members = some snapshot.id := read (by simp [OptionSnapshot.members])
  have groupName : textOf "groupName" members = some snapshot.groupName :=
    read (by simp [OptionSnapshot.members])
  have name : textOf "name" members = some snapshot.name := read (by simp [OptionSnapshot.members])
  have priceDelta : textOf "priceDelta" members = some snapshot.priceDelta :=
    read (by simp [OptionSnapshot.members])
  rw [readSnapshot, id, groupName, name, priceDelta]
  rfl

/-- What was stored is read back. -/
theorem readSelectedOptions_stored {snapshots : List OptionSnapshot} {items : List Json}
    (stored : StoredAs snapshots items) (few : snapshots.length ≤ 20) :
    readSelectedOptions (.arr items) = some snapshots := by
  have read : items.mapM readSnapshot = some snapshots ∧ items.length = snapshots.length := by
    clear few
    induction stored with
    | nil => exact ⟨rfl, rfl⟩
    | cons same others inductionHypothesis =>
        refine ⟨?_, by simp [inductionHypothesis.2]⟩
        rw [List.mapM_cons, readSnapshot_stored same, inductionHypothesis.1]
        rfl
  rw [readSelectedOptions, if_pos (by rw [read.2]; exact few), read.1]

end Snapshots

section Quotes

/-- The check of `planItem` is the comparison of the texts. -/
theorem quote_eq_iff {quote : OnlineOrderQuote} :
    quote = { unitPrice := selection.unitPrice, selectedOptions := selection.selectedOptions } ↔
      QuoteHolds quote.unitPrice (quote.selectedOptions.map snapshotOf) selection := by
  obtain ⟨unitPrice, selectedOptions⟩ := quote
  rw [quoteHolds_iff, OnlineOrderQuote.mk.injEq]

/-- The options of a selection select themselves. -/
theorem chosen_chosen (groups : List MenuItemOptionGroup) (ids : List Id) :
    chosen groups (((chosen groups ids).map selectedOption).map (·.id)) = chosen groups ids := by
  refine chosen_congr fun option isOption => ?_
  simp only [chosen, List.map_map, List.mem_map, List.mem_flatMap, List.mem_filter,
    decide_eq_true_eq]
  constructor
  · rintro ⟨_, ⟨group, -, other, ⟨-, selected⟩, rfl⟩, equal⟩
    rw [← equal]
    exact selected
  · intro selected
    obtain ⟨group, isGroup, inGroup⟩ := List.mem_flatMap.mp isOption
    exact ⟨(group, option), ⟨group, isGroup, option, ⟨inGroup, selected⟩, rfl⟩, rfl⟩

theorem chosen_options (groups : List MenuItemOptionGroup) (ids : List Id) :
    (chosen groups ids).map (·.2) = (optionsOf groups).filter fun option => option.id ∈ ids := by
  induction groups with
  | nil => rfl
  | cons group groups inductionHypothesis =>
      have first : chosen (group :: groups) ids =
          ((group.options.filter fun option => option.id ∈ ids).map fun option => (group, option)) ++
            chosen groups ids := by
        simp [chosen]
      have options : optionsOf (group :: groups) = group.options ++ optionsOf groups := by
        simp [optionsOf]
      rw [first, options, List.map_append, inductionHypothesis, List.filter_append, List.map_map]
      exact congrArg (· ++ _) (List.map_id _)

/-- No more options are selected than there are identifiers. -/
theorem length_chosen_le (distinct : ((optionsOf groups).map (·.id)).Nodup) :
    (chosen groups ids).length ≤ ids.length := by
  have nodup : (((optionsOf groups).filter fun option => option.id ∈ ids).map (·.id)).Nodup :=
    (List.filter_sublist.map _).nodup distinct
  have subset : (((optionsOf groups).filter fun option => option.id ∈ ids).map (·.id)) ⊆ ids := by
    intro id member
    obtain ⟨option, selected, rfl⟩ := List.mem_map.mp member
    exact of_decide_eq_true (List.mem_filter.mp selected).2
  have shorter := (List.subperm_of_subset nodup subset).length_le
  rw [← chosen_options] at shorter
  simpa using shorter

/-- A selection is accepted under the stated conditions, does not depend on the order of the
identifiers, and adds prices and recipes up.  Its quote, stored and read back, holds while the
price and the options of the item stay, and only for the same unit price and options. -/
theorem resolveMenuSelection_spec (distinct : OptionsDistinct menuItem) :
    (∀ (store : InventoryStore) (ids : List Id),
      (∃ selection store', Commits (resolveMenuSelection menuItem ids) store selection store') ↔
        Selectable store menuItem ids) ∧
    ∀ (store : InventoryStore) (ids : List Id) (selection : MenuSelection)
      (store' : InventoryStore),
      Commits (resolveMenuSelection menuItem ids) store selection store' →
      (∀ others, ids.Perm others →
        Commits (resolveMenuSelection menuItem others) store selection store') ∧
      selection.unitPrice = menuItem.price +
        ((chosen menuItem.optionGroups ids).map (·.2.priceDelta)).sum ∧
      (selection.recipe.map (·.inventoryItemId)).Nodup ∧
      (∀ inventoryItemId, quantityOf selection.recipe inventoryItemId =
        quantityOf menuItem.ingredients inventoryItemId +
          ((chosen menuItem.optionGroups ids).map fun entry =>
            quantityOf entry.2.ingredients inventoryItemId).sum) ∧
      ∀ items, StoredAs (selection.selectedOptions.map snapshotOf) items →
        ∃ quoted, readSelectedOptions (.arr items) = some quoted ∧
          quoted.map (·.id) = selection.selectedOptions.map (fun option => toString option.id) ∧
          ∀ (later : MenuItem) (laterStore : InventoryStore) (accepted : MenuSelection)
            (laterStore' : InventoryStore), OptionsDistinct later →
            Commits (resolveMenuSelection later (selection.selectedOptions.map (·.id))) laterStore
              accepted laterStore' →
            (later.price = menuItem.price → later.optionGroups = menuItem.optionGroups →
              QuoteHolds selection.unitPrice quoted accepted) ∧
            (QuoteHolds selection.unitPrice quoted accepted →
              accepted.unitPrice = selection.unitPrice ∧
              accepted.selectedOptions = selection.selectedOptions) := by
  refine ⟨fun store ids => ⟨?_, fun selectable => ?_⟩, ?_⟩
  · rintro ⟨selection, store', committed⟩
    exact ((commits_resolveMenuSelection distinct).mp committed).1
  · exact ⟨_, _, (commits_resolveMenuSelection distinct).mpr ⟨selectable, rfl, rfl⟩⟩
  intro store ids selection store' committed
  obtain ⟨selectable, rfl, rfl⟩ := (commits_resolveMenuSelection distinct).mp committed
  refine ⟨fun others perm => ?_, rfl, nodup_combineRecipe _, quantityOf_selectionOf menuItem ids,
    fun items stored => ⟨_, readSelectedOptions_stored stored ?_, by rw [List.map_map]; rfl, ?_⟩⟩
  · exact (commits_resolveMenuSelection distinct).mpr
      ⟨selectable.perm perm, selectionOf_perm perm, rfl⟩
  · rw [List.length_map, selectionOf, List.length_map]
    exact (length_chosen_le distinct).trans selectable.few
  · intro later laterStore accepted laterStore' laterDistinct resolved
    obtain ⟨-, rfl, -⟩ := (commits_resolveMenuSelection laterDistinct).mp resolved
    rw [quoteHolds_iff]
    refine ⟨fun price groups => ?_, fun same => ⟨same.1.symm, same.2.symm⟩⟩
    simp only [selectionOf, unitPriceOf, price, groups, chosen_chosen, and_self]

/-- A drink in two sizes with an extra. -/
def drink : MenuItem where
  id := 0
  name := "Latte"
  price := 4000000
  isAvailable := true
  deletedAt := none
  categoryId := 0
  kitchenStationId := none
  ingredients := [{ inventoryItemId := 0, quantity := 180000 }]
  optionGroups := [
    {
      id := 0
      name := "Size"
      minSelected := 1
      maxSelected := 1
      options := [
        { id := 1, name := "Small", priceDelta := 0, ingredients := [] },
        {
          id := 2
          name := "Large"
          priceDelta := 1000000
          ingredients := [{ inventoryItemId := 0, quantity := 90000 }] }] },
    {
      id := 1
      name := "Extras"
      minSelected := 0
      maxSelected := 2
      options := [{ id := 3, name := "Oat milk", priceDelta := 500050, ingredients := [] }] }]

theorem storedAs_reverse (snapshots : List OptionSnapshot) :
    StoredAs snapshots (snapshots.map fun snapshot => .obj snapshot.members.reverse) := by
  induction snapshots with
  | nil => exact .nil
  | cons snapshot rest inductionHypothesis =>
      exact .cons (List.reverse_perm _).symm inductionHypothesis

/-- A large one with the extra, whichever is named first.  Its quote, which the database gives back
with the members the other way round, outlasts a new name but not a new price. -/
theorem resolveMenuSelection_spec_drink : ∃ selection quoted renamed dearer,
    Commits (resolveMenuSelection drink [3, 2]) Database.invoiced.inventory selection
      Database.invoiced.inventory ∧
    selection.unitPrice = 5500050 ∧ quantityOf selection.recipe 0 = 270000 ∧
    readSelectedOptions (.arr ((selection.selectedOptions.map snapshotOf).map fun snapshot =>
      .obj snapshot.members.reverse)) = some quoted ∧
    Commits (resolveMenuSelection { drink with name := "Caffe latte" } [2, 3])
      Database.invoiced.inventory renamed Database.invoiced.inventory ∧
    QuoteHolds selection.unitPrice quoted renamed ∧
    Commits (resolveMenuSelection { drink with price := 4100000 } [2, 3])
      Database.invoiced.inventory dearer Database.invoiced.inventory ∧
    ¬QuoteHolds selection.unitPrice quoted dearer := by
  have distinct : OptionsDistinct drink := by
    unfold OptionsDistinct
    decide
  have selectable : Selectable Database.invoiced.inventory drink [2, 3] := by
    have committed : ((resolveMenuSelection drink [2, 3]) Database.invoiced.inventory).toOption.any
        (fun outcome => outcome.2.items.rows.length = 1) = true := by decide +kernel
    obtain ⟨selection, after, resolved, -⟩ := exists_commits_of_any committed
    exact ((commits_resolveMenuSelection distinct).mp resolved).1
  have resolves (later : MenuItem) (same : later.optionGroups = drink.optionGroups)
      (base : later.ingredients = drink.ingredients)
      (low : unitPriceOf later [2, 3] ≤ 999999999999999999) :
      Commits (resolveMenuSelection later [2, 3]) Database.invoiced.inventory
        (selectionOf later [2, 3]) Database.invoiced.inventory := by
    have alike : OptionsDistinct later := by
      unfold OptionsDistinct
      rw [same]
      exact distinct
    refine (commits_resolveMenuSelection alike).mpr ⟨⟨selectable.few, selectable.nodup, ?_, ?_, ?_,
      low⟩, rfl, rfl⟩
    · rw [same]
      exact selectable.known
    · rw [same]
      exact selectable.groups
    · rw [base]
      exact selectable.base
  have original := resolves drink rfl rfl (by decide)
  have renamed := resolves { drink with name := "Caffe latte" } rfl rfl (by decide)
  have dearer := resolves { drink with price := 4100000 } rfl rfl (by decide)
  obtain ⟨reordered, price, -, recipe, reread⟩ :=
    (resolveMenuSelection_spec distinct).2 _ _ _ _ original
  obtain ⟨quoted, read, -, holds⟩ := reread _ (storedAs_reverse _)
  refine ⟨_, quoted, _, _, reordered [3, 2] (List.Perm.swap 3 2 []), price.trans (by decide),
    (recipe 0).trans (by decide), read, renamed,
    (holds { drink with name := "Caffe latte" } _ _ _ distinct renamed).1 rfl rfl, dearer,
    fun kept => ?_⟩
  have same := ((holds { drink with price := 4100000 } _ _ _ distinct dearer).2 kept).1
  exact absurd same (by decide)

end Quotes

end MenuOptionSelection

end CoffeeShop
