import CoffeeShop.Library.Transaction
import Mathlib.Algebra.BigOperators.Group.List.Basic
import Mathlib.Algebra.GroupWithZero.Nat
import Mathlib.Algebra.Ring.Int.Defs
import Mathlib.Data.List.Nodup

/-!
Relations with a primary key.

A table is the list of its rows together with the proof that no two of them share
the key.  Updates keep keys and deletions only drop rows, so both are total;
insertion is the one operation that the key can refuse.
-/

/-- Rows of one relation, no two with the same primary key. -/
structure Table {ρ κ : Type} (key : ρ → κ) where
  rows : List ρ
  distinct : (rows.map key).Nodup

namespace Table

variable {ρ κ : Type} {key : ρ → κ}

instance : Membership ρ (Table key) := ⟨fun table row => row ∈ table.rows⟩

theorem mem_def {table : Table key} {row : ρ} : row ∈ table ↔ row ∈ table.rows := Iff.rfl

def empty : Table key := ⟨[], List.nodup_nil⟩

@[simp] theorem not_mem_empty {row : ρ} : row ∉ (empty : Table key) := List.not_mem_nil

@[simp] theorem rows_empty : (empty : Table key).rows = [] := rfl

/-- The rows that satisfy the condition, in insertion order. -/
def select (table : Table key) (condition : ρ → Bool) : List ρ :=
  table.rows.filter condition

@[simp] theorem mem_select {table : Table key} {condition : ρ → Bool} {row : ρ} :
    row ∈ table.select condition ↔ row ∈ table ∧ condition row := List.mem_filter

/-- Only what a condition says of the rows of the table matters. -/
theorem select_congr {table : Table key} {condition other : ρ → Bool}
    (same : ∀ row ∈ table, condition row = other row) :
    table.select condition = table.select other := List.filter_congr same

theorem nodup_select (table : Table key) (condition : ρ → Bool) :
    ((table.select condition).map key).Nodup :=
  table.distinct.sublist (List.filter_sublist.map key)

/-- Some row that satisfies the condition, the one inserted first. -/
def first? (table : Table key) (condition : ρ → Bool) : Option ρ :=
  table.rows.find? condition

theorem mem_of_first? {table : Table key} {condition : ρ → Bool} {row : ρ}
    (found : table.first? condition = some row) : row ∈ table ∧ condition row :=
  ⟨List.mem_of_find?_eq_some found, List.find?_some found⟩

theorem first?_eq_none {table : Table key} {condition : ρ → Bool} :
    table.first? condition = none ↔ ∀ row ∈ table, condition row = false := by
  simp [first?, mem_def]

def count (table : Table key) (condition : ρ → Bool) : Nat :=
  table.rows.countP condition

def sum (table : Table key) (value : ρ → Int) : Int :=
  (table.rows.map value).sum

/-- The sum over the rows that satisfy the condition. -/
def sumWhere (table : Table key) (condition : ρ → Bool) (value : ρ → Int) : Int :=
  ((table.select condition).map value).sum

theorem sumWhere_eq (table : Table key) (condition : ρ → Bool) (value : ρ → Int) :
    table.sumWhere condition value = table.sum fun row => if condition row then value row else 0 := by
  simp only [sumWhere, select, sum]
  induction table.rows with
  | nil => rfl
  | cons head tail inductionHypothesis =>
      by_cases holds : condition head
      · simp [holds, inductionHypothesis]
      · simp [holds, inductionHypothesis]

@[simp] theorem sum_empty {value : ρ → Int} : (empty : Table key).sum value = 0 := rfl

/-- Change the rows that satisfy the condition; their keys stay. -/
def update (table : Table key) (condition : ρ → Bool) (change : ρ → ρ)
    (keeps : ∀ row, key (change row) = key row := by intro; rfl) : Table key where
  rows := table.rows.map fun row => if condition row then change row else row
  distinct := by
    have same : (key ∘ fun row => if condition row then change row else row) = key := by
      funext row
      by_cases holds : condition row
      · simp [holds, keeps]
      · simp [holds]
    rw [List.map_map, same]
    exact table.distinct

theorem mem_update {table : Table key} {condition : ρ → Bool} {change : ρ → ρ}
    {keeps : ∀ row, key (change row) = key row} {row : ρ} :
    row ∈ table.update condition change keeps ↔
      ∃ old ∈ table, (if condition old then change old else old) = row := List.mem_map

/-- A row after an update was changed or was left alone. -/
theorem mem_update_iff {table : Table key} {condition : ρ → Bool} {change : ρ → ρ}
    {keeps : ∀ row, key (change row) = key row} {row : ρ} :
    row ∈ table.update condition change keeps ↔
      (∃ old ∈ table, condition old = true ∧ change old = row) ∨
        (row ∈ table ∧ condition row = false) := by
  rw [mem_update]
  constructor
  · rintro ⟨old, inTable, rfl⟩
    by_cases holds : condition old = true
    · exact .inl ⟨old, inTable, holds, by rw [if_pos holds]⟩
    · rw [if_neg holds]
      exact .inr ⟨inTable, by simpa using holds⟩
  · rintro (⟨old, inTable, holds, rfl⟩ | ⟨inTable, fails⟩)
    · exact ⟨old, inTable, by rw [if_pos holds]⟩
    · exact ⟨row, inTable, by simp [fails]⟩

/-- A sum after an update, row by row. -/
theorem sumWhere_update {table : Table key} {condition before after : ρ → Bool} {change : ρ → ρ}
    {value : ρ → Int} (keeps : ∀ row, key (change row) = key row)
    (changed : ∀ row ∈ table, condition row = true →
      (if after (change row) then value (change row) else 0) = if before row then value row else 0)
    (kept : ∀ row ∈ table, condition row = false → after row = before row) :
    (table.update condition change keeps).sumWhere after value = table.sumWhere before value := by
  rw [sumWhere_eq, sumWhere_eq]
  simp only [sum, update, List.map_map]
  refine congrArg List.sum (List.map_congr_left fun row membership => ?_)
  by_cases holds : condition row = true
  · simp only [Function.comp_apply, if_pos holds]
    exact changed row membership holds
  · simp only [Function.comp_apply, if_neg holds]
    rw [kept row membership (by simpa using holds)]

/-- An update without a row to change. -/
theorem update_eq_self {table : Table key} {condition : ρ → Bool} {change : ρ → ρ}
    {keeps : ∀ row, key (change row) = key row} (none : ∀ row ∈ table, condition row = false) :
    table.update condition change keeps = table := by
  obtain ⟨rows, distinct⟩ := table
  have same : rows.map (fun row => if condition row then change row else row) = rows := by
    refine (List.map_congr_left fun row membership => ?_).trans (List.map_id rows)
    have fails := none row membership
    rw [fails]
    rfl
  simp only [update, same]

/-- Only what a condition says of the rows of the table matters. -/
theorem update_congr {table : Table key} {condition other : ρ → Bool} {change : ρ → ρ}
    {keeps : ∀ row, key (change row) = key row} (same : ∀ row ∈ table, condition row = other row) :
    table.update condition change keeps = table.update other change keeps := by
  have rows : table.rows.map (fun row => if condition row then change row else row) =
      table.rows.map fun row => if other row then change row else row := by
    refine List.map_congr_left fun row membership => ?_
    rw [same row membership]
  simp only [update, rows]

theorem count_eq_zero {table : Table key} {condition : ρ → Bool} :
    table.count condition = 0 ↔ ∀ row ∈ table, condition row = false := by
  simp [count, List.countP_eq_zero, mem_def]

/-- Drop the rows that satisfy the condition. -/
def delete (table : Table key) (condition : ρ → Bool) : Table key where
  rows := table.rows.filter fun row => !condition row
  distinct := table.distinct.sublist (List.filter_sublist.map key)

@[simp] theorem mem_delete {table : Table key} {condition : ρ → Bool} {row : ρ} :
    row ∈ table.delete condition ↔ row ∈ table ∧ condition row = false := by
  simp [mem_def, delete]

theorem sum_delete (table : Table key) (condition : ρ → Bool) (value : ρ → Int) :
    (table.delete condition).sum value =
      table.sum value - ((table.select condition).map value).sum := by
  simp only [sum, delete, select]
  induction table.rows with
  | nil => simp
  | cons head tail inductionHypothesis =>
      by_cases holds : condition head
      · simp [holds, inductionHypothesis]
      · simp [holds, inductionHypothesis, Int.add_sub_assoc]

section Keyed

variable [DecidableEq κ]

/-- The row with the key, if there is one. -/
def find? (table : Table key) (wanted : κ) : Option ρ :=
  table.rows.find? fun row => key row = wanted

theorem find?_eq_some {table : Table key} {wanted : κ} {row : ρ} :
    table.find? wanted = some row ↔ row ∈ table ∧ key row = wanted := by
  constructor
  · intro found
    exact ⟨List.mem_of_find?_eq_some found, by simpa using List.find?_some found⟩
  · rintro ⟨membership, rfl⟩
    obtain ⟨rows, distinct⟩ := table
    simp only [mem_def] at membership
    simp only [find?]
    induction rows with
    | nil => simp at membership
    | cons head tail inductionHypothesis =>
        simp only [List.map_cons, List.nodup_cons, List.mem_map, not_exists, not_and] at distinct
        rcases List.mem_cons.mp membership with rfl | inTail
        · simp
        · have differs : key head ≠ key row := fun equal => distinct.1 row inTail equal.symm
          simpa [List.find?_cons, differs] using inductionHypothesis distinct.2 inTail

theorem find?_eq_none {table : Table key} {wanted : κ} :
    table.find? wanted = none ↔ ∀ row ∈ table, key row ≠ wanted := by
  simp [find?, mem_def]

theorem find?_key {table : Table key} {wanted : κ} {row : ρ}
    (found : table.find? wanted = some row) : key row = wanted :=
  (find?_eq_some.mp found).2

theorem mem_of_find? {table : Table key} {wanted : κ} {row : ρ}
    (found : table.find? wanted = some row) : row ∈ table :=
  (find?_eq_some.mp found).1

theorem find?_of_mem {table : Table key} {row : ρ} (membership : row ∈ table) :
    table.find? (key row) = some row := find?_eq_some.mpr ⟨membership, rfl⟩

/-- Two rows with one key are the same row. -/
theorem eq_of_key_eq {table : Table key} {row other : ρ} (first : row ∈ table)
    (second : other ∈ table) (equal : key row = key other) : row = other := by
  have found := find?_of_mem first
  rw [equal, find?_of_mem second] at found
  exact (Option.some.inj found).symm

/-- A row with the key that was found is the row found. -/
theorem eq_of_find? {table : Table key} {wanted : κ} {row other : ρ}
    (found : table.find? wanted = some row) (membership : other ∈ table)
    (equal : key other = wanted) : other = row :=
  eq_of_key_eq membership (mem_of_find? found) (equal.trans (find?_key found).symm)

theorem select_key {table : Table key} {row : ρ} (membership : row ∈ table) :
    table.select (fun other => key row = key other) = [row] := by
  obtain ⟨rows, distinct⟩ := table
  simp only [mem_def] at membership
  simp only [select]
  induction rows with
  | nil => exact (List.not_mem_nil membership).elim
  | cons head tail inductionHypothesis =>
      simp only [List.map_cons, List.nodup_cons] at distinct
      rcases List.mem_cons.mp membership with rfl | inTail
      · have others : tail.filter (fun other => key row = key other) = [] := by
          refine List.filter_eq_nil_iff.mpr fun other inTail same => distinct.1 ?_
          rw [of_decide_eq_true same]
          exact List.mem_map_of_mem inTail
        simp [others]
      · have differs : key row ≠ key head := by
          intro same
          rw [← same] at distinct
          exact distinct.1 (List.mem_map_of_mem inTail)
        simp [differs, inductionHypothesis distinct.2 inTail]

@[simp] theorem find?_empty {wanted : κ} : (empty : Table key).find? wanted = none := rfl

@[simp] theorem find?_update {table : Table key} {condition : ρ → Bool} {change : ρ → ρ}
    {keeps : ∀ row, key (change row) = key row} {wanted : κ} :
    (table.update condition change keeps).find? wanted =
      (table.find? wanted).map fun row => if condition row then change row else row := by
  simp only [find?, update]
  induction table.rows with
  | nil => rfl
  | cons head tail inductionHypothesis =>
      have same : key (if condition head then change head else head) = key head := by
        by_cases holds : condition head
        · simp [holds, keeps]
        · simp [holds]
      by_cases equal : key head = wanted
      · simp [same, equal]
      · simpa [List.find?_cons, same, equal] using inductionHypothesis

@[simp] theorem find?_delete {table : Table key} {condition : ρ → Bool} {wanted : κ} :
    (table.delete condition).find? wanted =
      (table.find? wanted).filter fun row => !condition row := by
  cases found : table.find? wanted with
  | none =>
      rw [find?_eq_none] at found
      rw [Option.filter_none, find?_eq_none]
      exact fun row membership => found row (mem_delete.mp membership).1
  | some row =>
      obtain ⟨membership, rfl⟩ := find?_eq_some.mp found
      by_cases holds : condition row
      · simp only [Option.filter, holds, Bool.not_true, Bool.false_eq_true, if_false]
        rw [find?_eq_none]
        intro other others equal
        obtain ⟨inTable, passed⟩ := mem_delete.mp others
        rw [eq_of_key_eq inTable membership equal, holds] at passed
        exact Bool.noConfusion passed
      · simp only [Option.filter, holds, Bool.not_false, if_true]
        exact find?_eq_some.mpr ⟨mem_delete.mpr ⟨membership, by simpa using holds⟩, rfl⟩

/-- Exactly the row with the key satisfies a condition that asks for the key. -/
theorem count_key (table : Table key) (wanted : κ) (guard : ρ → Bool) :
    table.count (fun row => key row = wanted && guard row) =
      if (table.find? wanted).any guard then 1 else 0 := by
  obtain ⟨rows, distinct⟩ := table
  simp only [count, find?]
  induction rows with
  | nil => simp
  | cons head tail inductionHypothesis =>
      simp only [List.map_cons, List.nodup_cons, List.mem_map, not_exists, not_and] at distinct
      by_cases equal : key head = wanted
      · have absent : tail.countP (fun row => key row = wanted && guard row) = 0 := by
          rw [List.countP_eq_zero]
          intro row inTail
          have differs : key row ≠ wanted := fun same =>
            distinct.1 row inTail (same.trans equal.symm)
          simp [differs]
        by_cases passed : guard head
        · simp [equal, passed, absent]
        · simp [equal, passed, absent]
      · simp only [List.countP_cons, List.find?_cons, equal, decide_false, Bool.false_and,
          Bool.false_eq_true, if_false, Nat.add_zero]
        exact inductionHypothesis distinct.2

/-- Changing the row with one key changes a sum by the change of that row. -/
theorem sum_update_key {table : Table key} {row : ρ} {condition : ρ → Bool} {change : ρ → ρ}
    {keeps : ∀ row, key (change row) = key row} {value : ρ → Int} (membership : row ∈ table)
    (holds : condition row) (only : ∀ other ∈ table, condition other → key other = key row) :
    (table.update condition change keeps).sum value =
      table.sum value + (value (change row) - value row) := by
  obtain ⟨rows, distinct⟩ := table
  simp only [mem_def] at membership only
  simp only [sum, update]
  induction rows with
  | nil => simp at membership
  | cons head tail inductionHypothesis =>
      simp only [List.map_cons, List.nodup_cons, List.mem_map, not_exists, not_and] at distinct
      by_cases equal : key head = key row
      · have inHead : head ∈ (⟨head :: tail, by simpa using distinct⟩ : Table key) := by
          simp [mem_def]
        have same : head = row := eq_of_key_eq inHead membership equal
        have unchanged : tail.map (fun other => if condition other then change other else other)
            = tail := by
          refine (List.map_congr_left fun other inTail => ?_).trans (List.map_id tail)
          have differs : ¬condition other := fun passed =>
            distinct.1 other inTail
              ((only other (List.mem_cons_of_mem head inTail) passed).trans equal.symm)
          simp [differs]
        simp [same, holds, unchanged]
        omega
      · have inTail : row ∈ tail := by
          rcases List.mem_cons.mp membership with rfl | inTail
          · exact (equal rfl).elim
          · exact inTail
        have fails : ¬condition head := fun passed =>
          equal (only head List.mem_cons_self passed)
        have rest := inductionHypothesis distinct.2 inTail
          fun other others => only other (List.mem_cons_of_mem head others)
        simp only [List.map_cons, List.sum_cons, fails, Bool.false_eq_true, if_false, rest]
        omega

/-- Add a row unless its key is taken. -/
def insert? (table : Table key) (row : ρ) : Option (Table key) :=
  if fresh : key row ∈ table.rows.map key then none
  else some ⟨table.rows ++ [row], by
    rw [List.map_append, List.map_singleton, List.nodup_append]
    refine ⟨table.distinct, List.nodup_singleton _, fun taken inTable other single => ?_⟩
    rw [List.mem_singleton] at single
    rw [single]
    exact fun equal => fresh (equal ▸ inTable)⟩

/-- Add every row, or none if a key is taken or comes twice. -/
def insertAll? : Table key → List ρ → Option (Table key)
  | table, [] => some table
  | table, row :: rest => (table.insert? row).bind fun next => next.insertAll? rest

theorem insertAll?_singleton {table : Table key} {row : ρ} :
    table.insertAll? [row] = table.insert? row := Option.bind_fun_some (table.insert? row)

theorem rows_insert? {table after : Table key} {row : ρ} (inserted : table.insert? row = some after) :
    after.rows = table.rows ++ [row] ∧ ∀ other ∈ table, key other ≠ key row := by
  unfold insert? at inserted
  split at inserted
  · exact (Option.some_ne_none after inserted.symm).elim
  · rename_i fresh
    rw [← Option.some.inj inserted]
    refine ⟨rfl, fun other membership equal => fresh ?_⟩
    exact List.mem_map.mpr ⟨other, membership, equal⟩

theorem insert?_isSome {table : Table key} {row : ρ} :
    (table.insert? row).isSome ↔ ∀ other ∈ table, key other ≠ key row := by
  unfold insert?
  by_cases taken : key row ∈ table.rows.map key
  · obtain ⟨other, membership, equal⟩ := List.mem_map.mp taken
    simp only [taken, dite_true, Option.isSome_none, Bool.false_eq_true, false_iff, not_forall]
    exact ⟨other, membership, fun differs => differs equal⟩
  · simp only [taken, dite_false, Option.isSome_some, true_iff]
    exact fun other membership equal => taken (List.mem_map.mpr ⟨other, membership, equal⟩)

theorem rows_insertAll? {table after : Table key} {rows : List ρ}
    (inserted : table.insertAll? rows = some after) : after.rows = table.rows ++ rows := by
  induction rows generalizing table with
  | nil =>
      rw [← Option.some.inj inserted, List.append_nil]
  | cons row rest inductionHypothesis =>
      obtain ⟨next, first, others⟩ := Option.bind_eq_some_iff.mp inserted
      rw [inductionHypothesis others, (rows_insert? first).1]
      simp

theorem mem_insertAll? {table after : Table key} {rows : List ρ} {row : ρ}
    (inserted : table.insertAll? rows = some after) :
    row ∈ after ↔ row ∈ table ∨ row ∈ rows := by
  rw [mem_def, rows_insertAll? inserted, List.mem_append, mem_def]

theorem mem_insert? {table after : Table key} {row other : ρ}
    (inserted : table.insert? row = some after) :
    other ∈ after ↔ other ∈ table ∨ other = row := by
  rw [mem_def, (rows_insert? inserted).1, List.mem_append, List.mem_singleton, mem_def]

theorem find?_insert? {table after : Table key} {row : ρ} {wanted : κ}
    (inserted : table.insert? row = some after) :
    after.find? wanted = if key row = wanted then some row else table.find? wanted := by
  by_cases equal : key row = wanted
  · rw [if_pos equal, find?_eq_some]
    exact ⟨(mem_insert? inserted).mpr (.inr rfl), equal⟩
  · rw [if_neg equal]
    unfold find?
    rw [(rows_insert? inserted).1, List.find?_append]
    simp [equal]

/-- Rows that can be added have distinct keys, none of them taken. -/
theorem nodup_insertAll? {table after : Table key} {rows : List ρ}
    (inserted : table.insertAll? rows = some after) :
    (rows.map key).Nodup ∧ ∀ row ∈ rows, ∀ other ∈ table, key other ≠ key row := by
  have distinct := after.distinct
  rw [rows_insertAll? inserted, List.map_append, List.nodup_append] at distinct
  exact ⟨distinct.2.1, fun row added other old => distinct.2.2 _ (List.mem_map_of_mem old) _
    (List.mem_map_of_mem added)⟩

/-- Rows with distinct keys of which none is taken can be added. -/
theorem exists_insertAll? {table : Table key} {rows : List ρ} (distinct : (rows.map key).Nodup)
    (free : ∀ row ∈ rows, ∀ other ∈ table, key other ≠ key row) :
    ∃ after, table.insertAll? rows = some after := by
  induction rows generalizing table with
  | nil => exact ⟨table, rfl⟩
  | cons row rest inductionHypothesis =>
      rw [List.map_cons, List.nodup_cons] at distinct
      rw [List.forall_mem_cons] at free
      obtain ⟨next, inserted⟩ := Option.isSome_iff_exists.mp (insert?_isSome.mpr free.1)
      obtain ⟨after, others⟩ := @inductionHypothesis next distinct.2 fun later inRest other old => by
        obtain older | rfl := (mem_insert? inserted).mp old
        · exact free.2 later inRest other older
        · exact fun equal => distinct.1 (equal ▸ List.mem_map_of_mem inRest)
      exact ⟨after, Option.bind_eq_some_iff.mpr ⟨next, inserted, others⟩⟩

omit [DecidableEq κ] in
theorem count_eq_sum (table : Table key) (condition : ρ → Bool) :
    (table.count condition : Int) = table.sum fun row => if condition row then 1 else 0 := by
  simp only [count, sum]
  induction table.rows with
  | nil => rfl
  | cons head tail inductionHypothesis =>
      rw [List.countP_cons, List.map_cons, List.sum_cons, ← inductionHypothesis]
      by_cases holds : condition head
      · simp [holds, add_comm]
      · simp [holds]

omit [DecidableEq κ] in
/-- A change that makes no row satisfy the condition that did not does not raise the count. -/
theorem count_update_le {table : Table key} {condition counted : ρ → Bool} {change : ρ → ρ}
    {keeps : ∀ row, key (change row) = key row}
    (kept : ∀ row ∈ table, condition row → counted (change row) → counted row) :
    (table.update condition change keeps).count counted ≤ table.count counted := by
  simp only [count, update, List.countP_map]
  refine List.countP_mono_left fun row membership holds => ?_
  simp only [Function.comp_apply] at holds
  split at holds
  · rename_i chosen
    exact kept row membership chosen holds
  · exact holds

/-- The count after a change of one row. -/
theorem count_update_key {table : Table key} {row : ρ} {condition counted : ρ → Bool}
    {change : ρ → ρ} {keeps : ∀ row, key (change row) = key row} (membership : row ∈ table)
    (holds : condition row) (only : ∀ other ∈ table, condition other → key other = key row) :
    (table.update condition change keeps).count counted + (if counted row then 1 else 0) =
      table.count counted + if counted (change row) then 1 else 0 := by
  have sums := @sum_update_key ρ κ key _ table row condition change keeps
    (fun other => if counted other then 1 else 0) membership holds only
  rw [← count_eq_sum, ← count_eq_sum] at sums
  cases before : counted row with
  | false => cases after : counted (change row) <;> simp [before, after] at sums ⊢ <;> omega
  | true => cases after : counted (change row) <;> simp [before, after] at sums ⊢ <;> omega

theorem sum_insert? {table after : Table key} {row : ρ} {value : ρ → Int}
    (inserted : table.insert? row = some after) :
    after.sum value = table.sum value + value row := by
  simp [sum, (rows_insert? inserted).1]

theorem sumWhere_insertAll? {table after : Table key} {rows : List ρ} {condition : ρ → Bool}
    {value : ρ → Int} (inserted : table.insertAll? rows = some after)
    (none : ∀ row ∈ rows, condition row = false) :
    after.sumWhere condition value = table.sumWhere condition value := by
  have fresh : rows.filter condition = [] := List.filter_eq_nil_iff.mpr fun row membership => by
    simp [none row membership]
  simp [sumWhere, select, rows_insertAll? inserted, fresh]

end Keyed

end Table
