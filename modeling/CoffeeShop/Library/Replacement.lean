import CoffeeShop.Library.Statement
import Mathlib.Algebra.Order.BigOperators.Group.List

/-!
Changes of a single row.

A statement that expects one row replaces it.  What such a replacement does to the rows
that are found, to the members of the table and to its sums does not depend on the
statement.  A sum over some of the rows grows with the rows that it counts.
-/

namespace Table

variable {ρ κ : Type} {key : ρ → κ} {table after : Table key} {value : ρ → Int}
variable {condition narrow wide : ρ → Bool}

theorem sumWhere_mono (nonneg : ∀ row ∈ table, 0 ≤ value row)
    (within : ∀ row ∈ table, narrow row = true → wide row = true) :
    table.sumWhere narrow value ≤ table.sumWhere wide value := by
  rw [sumWhere_eq, sumWhere_eq]
  refine List.sum_le_sum fun row membership => ?_
  by_cases holds : narrow row = true
  · rw [if_pos holds, if_pos (within row membership holds)]
  · rw [if_neg holds]
    split
    · exact nonneg row membership
    · exact le_rfl

theorem sumWhere_eq_zero (none : ∀ row ∈ table, condition row = false) :
    table.sumWhere condition value = 0 := by
  have empty : table.rows.filter condition = [] := List.filter_eq_nil_iff.mpr fun row membership => by
    simp [none row membership]
  simp [sumWhere, select, empty]

theorem sumWhere_insert? [DecidableEq κ] {row : ρ} (inserted : table.insert? row = some after) :
    after.sumWhere condition value =
      table.sumWhere condition value + if condition row then value row else 0 := by
  rw [sumWhere_eq, sumWhere_eq, sum_insert? inserted]

end Table

/-- The second table is the first with the next row in place of the row. -/
structure Table.Replaces {ρ κ : Type} {key : ρ → κ} [DecidableEq κ] (before : Table key)
    (row next : ρ) (after : Table key) : Prop where
  member : row ∈ before
  same : key next = key row
  rows : after.rows = before.rows.map fun other => if key other = key row then next else other

namespace Table.Replaces

variable {ρ κ : Type} {key : ρ → κ} [DecidableEq κ] {before after : Table key} {row next : ρ}

theorem mem_iff (replaces : before.Replaces row next after) {other : ρ} :
    other ∈ after ↔ other = next ∨ (other ∈ before ∧ key other ≠ key row) := by
  rw [mem_def, replaces.rows, List.mem_map]
  constructor
  · rintro ⟨old, inBefore, rfl⟩
    by_cases same : key old = key row
    · exact .inl (if_pos same)
    · rw [if_neg same]
      exact .inr ⟨inBefore, same⟩
  · rintro (rfl | ⟨inBefore, differs⟩)
    · exact ⟨row, replaces.member, if_pos rfl⟩
    · exact ⟨other, inBefore, if_neg differs⟩

theorem mem (replaces : before.Replaces row next after) : next ∈ after :=
  replaces.mem_iff.mpr (.inl rfl)

/-- A row that is divided into two leaves the other rows. -/
theorem mem_divided_iff {divided : Table key} {part other : ρ}
    (replaces : before.Replaces row next after) (inserted : after.insert? part = some divided)
    (not_row : other ≠ row) (not_next : other ≠ next) (not_part : other ≠ part) :
    other ∈ divided ↔ other ∈ before := by
  rw [mem_insert? inserted, or_iff_left not_part, replaces.mem_iff, or_iff_right not_next]
  constructor
  · exact And.left
  · intro inBefore
    exact ⟨inBefore, fun same => not_row (eq_of_key_eq inBefore replaces.member same)⟩

theorem find? (replaces : before.Replaces row next after) {wanted : κ} :
    after.find? wanted = if wanted = key row then some next else before.find? wanted := by
  by_cases equal : wanted = key row
  · rw [if_pos equal, equal, ← replaces.same]
    exact find?_of_mem replaces.mem
  · rw [if_neg equal]
    cases found : before.find? wanted with
    | none =>
        rw [find?_eq_none] at found ⊢
        intro other inAfter same
        obtain rfl | ⟨inBefore, -⟩ := replaces.mem_iff.mp inAfter
        · exact equal (same.symm.trans replaces.same)
        · exact found other inBefore same
    | some other =>
        obtain ⟨inBefore, rfl⟩ := find?_eq_some.mp found
        exact find?_of_mem (replaces.mem_iff.mpr (.inr ⟨inBefore, equal⟩))

/-- A sum loses what the row gave and gains what the next one gives. -/
theorem sumWhere (replaces : before.Replaces row next after) (condition : ρ → Bool)
    (value : ρ → Int) :
    after.sumWhere condition value + (if condition row then value row else 0) =
      before.sumWhere condition value + if condition next then value next else 0 := by
  have keeps : ∀ other, key (if key other = key row then next else other) = key other := by
    intro other
    split
    · next same => exact replaces.same.trans same.symm
    · rfl
  have updated : after.rows = (before.update (fun other => key other = key row)
      (fun other => if key other = key row then next else other) keeps).rows := by
    rw [replaces.rows]
    refine List.map_congr_left fun other _ => ?_
    by_cases same : key other = key row
    · simp [same]
    · simp [same]
  have sums := @sum_update_key ρ κ key _ before row (fun other => key other = key row) _ keeps
    (fun other => if condition other then value other else 0) replaces.member (by simp)
    fun other _ holds => of_decide_eq_true holds
  simp only [Table.sum, ← updated, if_true] at sums
  rw [sumWhere_eq, sumWhere_eq, Table.sum, Table.sum, sums]
  omega

theorem of_update {condition : ρ → Bool} {change : ρ → ρ}
    {keeps : ∀ other, key (change other) = key other} (member : row ∈ before)
    (holds : condition row = true)
    (only : ∀ other ∈ before, condition other = true → key other = key row) :
    before.Replaces row (change row) (before.update condition change keeps) where
  member := member
  same := keeps row
  rows := by
    refine List.map_congr_left fun other inBefore => ?_
    by_cases same : key other = key row
    · rw [eq_of_key_eq inBefore member same]
      simp [holds]
    · have fails : condition other ≠ true := fun passed => same (only other inBefore passed)
      simp [fails, same]

end Table.Replaces

namespace Transaction

variable {σ ε ρ κ : Type} {key : ρ → κ} [DecidableEq κ] {table : Part σ (Table key)}
variable {before after : σ} {failure : ε} {wanted : κ} {guard : ρ → Bool} {change : ρ → ρ}
variable {keeps : ∀ row, key (change row) = key row} {result : Unit}

/-- The row with the key passes the guard and is replaced. -/
theorem replaces_updateExpecting
    (committed : Commits (updateExpecting table wanted guard change failure keeps) before result
      after) :
    ∃ row, (table.get before).find? wanted = some row ∧ guard row = true ∧
      (table.get before).Replaces row (change row) (table.get after) ∧
      after = table.set (table.get after) before := by
  obtain ⟨⟨row, found, passed⟩, rfl⟩ := commits_updateExpecting.mp committed
  obtain rfl := Table.find?_key found
  rw [table.get_set]
  refine ⟨row, found, passed, .of_update (Table.mem_of_find? found) ?_ fun other _ holds => ?_, rfl⟩
  · simp [passed]
  · simp only [Bool.and_eq_true, decide_eq_true_eq] at holds
    exact holds.1

end Transaction
