import CoffeeShop.Library.Replacement
import Mathlib.Algebra.BigOperators.Group.List.Basic
import Mathlib.Tactic.Abel

/-!
Sums of the rows of a table in any additive monoid.

With multisets as values, a table is weighed by what it holds and how often.
-/

namespace Table

variable {ρ κ M : Type} {key : ρ → κ} [AddCommMonoid M] {table after : Table key}
variable {value other : ρ → M} {row next : ρ}

def weigh (table : Table key) (value : ρ → M) : M := (table.rows.map value).sum

theorem weigh_congr (same : ∀ row ∈ table, value row = other row) :
    table.weigh value = table.weigh other :=
  congrArg List.sum (List.map_congr_left same)

theorem weigh_update {condition : ρ → Bool} {change : ρ → ρ}
    {keeps : ∀ row, key (change row) = key row}
    (same : ∀ row ∈ table, condition row = true → value (change row) = value row) :
    (table.update condition change keeps).weigh value = table.weigh value := by
  unfold weigh update
  rw [List.map_map]
  refine congrArg List.sum (List.map_congr_left fun row membership => ?_)
  rw [Function.comp_apply]
  split
  · next holds => exact same row membership holds
  · rfl

theorem weigh_insert? [DecidableEq κ] (inserted : table.insert? row = some after) :
    after.weigh value = table.weigh value + value row := by
  rw [weigh, (rows_insert? inserted).1, List.map_append, List.sum_append]
  simp [weigh]

/-- The weight loses what the row gave and gains what the next one gives. -/
theorem weigh_replaces [DecidableEq κ] (replaces : table.Replaces row next after) :
    after.weigh value + value row = table.weigh value + value next := by
  obtain ⟨front, back, rows⟩ := List.append_of_mem replaces.member
  have distinct := table.distinct
  rw [rows, List.map_append, List.map_cons, List.nodup_append, List.nodup_cons] at distinct
  have spared (others : List ρ) (apart : ∀ other ∈ others, key other ≠ key row) :
      others.map (fun other => if key other = key row then next else other) = others := by
    conv_rhs => rw [← List.map_id others]
    exact List.map_congr_left fun other membership => if_neg (apart other membership)
  have before : ∀ other ∈ front, key other ≠ key row := by
    intro other membership
    exact distinct.2.2 _ (List.mem_map_of_mem membership) _ List.mem_cons_self
  have behind : ∀ other ∈ back, key other ≠ key row := by
    intro other membership same
    exact distinct.2.1.1 (same ▸ List.mem_map_of_mem membership)
  unfold weigh
  rw [replaces.rows, rows, List.map_append, List.map_cons, if_pos rfl, spared front before,
    spared back behind]
  simp only [List.map_append, List.map_cons, List.sum_append, List.sum_cons]
  abel

/-- A row that is divided into two gives its weight to both. -/
theorem weigh_divided [IsCancelAdd M] [DecidableEq κ] {middle : Table key} {part : ρ}
    (replaces : table.Replaces row next middle) (inserted : middle.insert? part = some after)
    (parts : value next + value part = value row) : after.weigh value = table.weigh value := by
  refine add_right_cancel (b := value row) ?_
  calc
    after.weigh value + value row = middle.weigh value + value row + value part := by
      rw [weigh_insert? inserted]
      abel
    _ = table.weigh value + (value next + value part) := by
      rw [weigh_replaces replaces, add_assoc]
    _ = table.weigh value + value row := by rw [parts]

end Table
