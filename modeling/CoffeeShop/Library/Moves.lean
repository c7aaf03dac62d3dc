import CoffeeShop.Library.Respects
import Mathlib.Logic.Relation

/-!
Tables as systems of rows.

The row under each key evolves on its own: a statement moves it or leaves it.  A
relation of single moves, of a row that may be missing, says everything that a program
can do to a row, and what each move preserves holds of the rows that a run leaves.
-/

namespace Transaction

variable {σ ε ρ κ : Type} {key : ρ → κ} [DecidableEq κ]

/-- Under every key, moves lead from the row of the first table to that of the second. -/
def Moves (move : κ → Option ρ → Option ρ → Prop) (before after : Table key) : Prop :=
  ∀ wanted, Relation.ReflTransGen (move wanted) (before.find? wanted) (after.find? wanted)

namespace Moves

variable {move : κ → Option ρ → Option ρ → Prop} {before after table : Table key}

instance : IsPreorder (Table key) (Moves move) where
  refl _ _ := Relation.ReflTransGen.refl
  trans _ _ _ first second wanted := (first wanted).trans (second wanted)

theorem update {condition : ρ → Bool} {change : ρ → ρ} (keeps : ∀ row, key (change row) = key row)
    (moved : ∀ row ∈ table, condition row = true →
      move (key row) (some row) (some (change row))) :
    Moves move table (table.update condition change keeps) := by
  intro wanted
  rw [Table.find?_update]
  cases found : table.find? wanted with
  | none => exact Relation.ReflTransGen.refl
  | some row =>
      obtain rfl := Table.find?_key found
      by_cases holds : condition row = true
      · have single := moved row (Table.mem_of_find? found) holds
        simpa [holds] using Relation.ReflTransGen.single single
      · simpa [holds] using Relation.ReflTransGen.refl

theorem insert {row : ρ} (inserted : table.insert? row = some after)
    (added : move (key row) none (some row)) : Moves move table after := by
  intro wanted
  rw [Table.find?_insert? inserted]
  by_cases same : key row = wanted
  · subst same
    have absent : table.find? (key row) = none := by
      have free := (Table.rows_insert? inserted).2
      rw [Table.find?_eq_none]
      intro other membership equal
      exact free other membership equal
    rw [if_pos rfl, absent]
    exact Relation.ReflTransGen.single added
  · rw [if_neg same]

/-- What every single move preserves holds of the row that was moved. -/
theorem holds {P : Option ρ → Prop} {wanted : κ} (moves : Moves move before after)
    (kept : ∀ first second, move wanted first second → P first → P second)
    (start : P (before.find? wanted)) : P (after.find? wanted) := by
  have moves := moves wanted
  generalize after.find? wanted = final at moves ⊢
  induction moves with
  | refl => exact start
  | tail _ last inductionHypothesis => exact kept _ _ last inductionHypothesis

theorem mono {other : κ → Option ρ → Option ρ → Prop} (moves : Moves move before after)
    (weaker : ∀ wanted first second, move wanted first second → other wanted first second) :
    Moves other before after :=
  fun wanted => Relation.ReflTransGen.mono (weaker wanted) _ _ (moves wanted)

end Moves

section Statements

variable {move : κ → Option ρ → Option ρ → Prop} {table : Part σ (Table key)} {failure : ε}

theorem moves_updateMany {condition : ρ → Bool} {change : ρ → ρ}
    {keeps : ∀ row, key (change row) = key row}
    (moved : ∀ row, condition row = true →
      move (key row) (some row) (some (change row))) :
    Respects (On table.get (Moves move)) (updateMany table condition change keeps : Tx σ ε _) where
  step before result after committed := by
    obtain ⟨-, rfl⟩ := commits_updateMany.mp committed
    unfold On
    rw [table.get_set]
    exact Moves.update keeps fun row _ holds => moved row holds

theorem moves_updateExpecting {wanted : κ} {guard : ρ → Bool} {change : ρ → ρ}
    {keeps : ∀ row, key (change row) = key row}
    (moved : ∀ row, key row = wanted → guard row = true →
      move (key row) (some row) (some (change row))) :
    Respects (On table.get (Moves move))
      (updateExpecting table wanted guard change failure keeps) := by
  have single : Respects (On table.get (Moves move))
      (updateMany table (fun row => key row = wanted && guard row) change keeps : Tx σ ε _) := by
    refine moves_updateMany fun row holds => ?_
    simp only [Bool.and_eq_true, decide_eq_true_eq] at holds
    exact moved row holds.1 holds.2
  unfold updateExpecting
  infer_instance

theorem moves_create {row : ρ} (added : move (key row) none (some row)) :
    Respects (On table.get (Moves move)) (create table row failure) where
  step before result after committed := by
    obtain ⟨next, inserted, rfl⟩ := commits_create.mp committed
    unfold On
    rw [table.get_set]
    exact Moves.insert inserted added

end Statements

end Transaction
