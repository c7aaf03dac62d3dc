import CoffeeShop.Library.Avoids

/-!
Constraints on the rows of a table.

A database refuses a statement that leaves a row which does not pass.  An assertion that asks of
the rows of a table only that they pass is kept by a statement that takes rows that pass to rows
that pass, and after such a statement the database refuses nothing.
-/

namespace Transaction

variable {σ ε α ρ κ : Type} {key : ρ → κ}

/-- The database refuses a table with a row that does not pass. -/
def check (table : Part σ (Table key)) (passes : ρ → Bool) (failure : ε) : Tx σ ε Unit := do
  let store ← get
  require ((table.get store).rows.all passes) failure

/-- Of the table, the assertion asks that its rows pass and nothing else. -/
class Constrained (P : σ → Prop) (table : Part σ (Table key)) (passes : outParam (ρ → Bool)) :
    Prop where
  holds : ∀ ⦃store⦄, P store → ∀ row ∈ table.get store, passes row = true
  set : ∀ ⦃store rows⦄, P store → (∀ row ∈ rows, passes row = true) → P (table.set rows store)

namespace Constrained

variable {P : σ → Prop} {table : Part σ (Table key)} {passes : ρ → Bool}
variable [constrained : Constrained P table passes] {failure : ε} {before after : σ}

section Check

/-- A check that passes admits the table that was written before it. -/
theorem checked {rows : Table key} {result : Unit} (holds : P before)
    (checks : Commits (check table passes failure) (table.set rows before) result after) :
    P after := by
  simp only [check, commits_bind, commits_get, commits_require] at checks
  obtain ⟨_, _, ⟨rfl, rfl⟩, accepted, rfl⟩ := checks
  rw [table.get_set] at accepted
  exact constrained.set holds (List.all_eq_true.mp accepted)

theorem updateMany_checked {condition : ρ → Bool} {change : ρ → ρ}
    {keeps : ∀ row, key (change row) = key row} :
    Preserves P (updateMany table condition change keeps >>= fun _ =>
      check table passes failure) where
  step before result after committed holds := by
    obtain ⟨_, _, updated, checks⟩ := commits_bind.mp committed
    obtain ⟨-, rfl⟩ := commits_updateMany.mp updated
    exact checked holds checks

variable [DecidableEq κ] {raised : ε}

theorem updateExpecting_checked {wanted : κ} {guard : ρ → Bool} {change : ρ → ρ}
    {keeps : ∀ row, key (change row) = key row} :
    Preserves P (updateExpecting table wanted guard change raised keeps >>= fun _ =>
      check table passes failure) where
  step before result after committed holds := by
    obtain ⟨_, _, updated, checks⟩ := commits_bind.mp committed
    obtain ⟨-, rfl⟩ := commits_updateExpecting.mp updated
    exact checked holds checks

theorem create_checked {row : ρ} :
    Preserves P (create table row raised >>= fun _ => check table passes failure) where
  step before result after committed holds := by
    obtain ⟨_, _, created, checks⟩ := commits_bind.mp committed
    obtain ⟨rows, -, rfl⟩ := commits_create.mp created
    exact checked holds checks

omit [DecidableEq κ] in
/-- A table whose rows pass is not refused. -/
theorem avoids_check (table : Part σ (Table key)) [constrained : Constrained P table passes]
    {forbidden : ε → Prop} : Avoids P forbidden (check table passes failure) where
  avoids store raised holds aborted := by
    simp only [check, aborts_bind, aborts_get, aborts_require, commits_get, false_or] at aborted
    obtain ⟨_, _, ⟨rfl, rfl⟩, wrong, -⟩ := aborted
    exact absurd (List.all_eq_true.mpr (constrained.holds holds)) wrong

end Check

section Writes

variable {change : ρ → ρ} {keeps : ∀ row, key (change row) = key row}

theorem updateMany {condition : ρ → Bool}
    (accepted : ∀ row, condition row = true → passes row = true → passes (change row) = true) :
    Preserves P (updateMany table condition change keeps : Tx σ ε Nat) where
  step before result after committed holds := by
    obtain ⟨-, rfl⟩ := commits_updateMany.mp committed
    refine constrained.set holds fun row member => ?_
    obtain ⟨old, inTable, chosen, rfl⟩ | ⟨inTable, -⟩ := Table.mem_update_iff.mp member
    · exact accepted old chosen (constrained.holds holds old inTable)
    · exact constrained.holds holds row inTable

variable [DecidableEq κ]

theorem updateExpecting {wanted : κ} {guard : ρ → Bool}
    (accepted : ∀ row, guard row = true → passes row = true → passes (change row) = true) :
    Preserves P (updateExpecting table wanted guard change failure keeps) := by
  have written : Preserves P (Transaction.updateMany table
      (fun row => key row = wanted && guard row) change keeps : Tx σ ε Nat) := by
    refine updateMany fun row chosen => accepted row ?_
    exact (Bool.and_eq_true_iff.mp chosen).2
  unfold Transaction.updateExpecting
  infer_instance

theorem create {row : ρ} (accepted : passes row = true) :
    Preserves P (create table row failure) where
  step before result after committed holds := by
    obtain ⟨rows, inserted, rfl⟩ := commits_create.mp committed
    refine constrained.set holds fun other member => ?_
    obtain earlier | rfl := (Table.mem_insert? inserted).mp member
    · exact constrained.holds holds other earlier
    · exact accepted

end Writes

section Admitted

/-! A statement that is checked is not refused if the rows that it writes pass. -/

variable {change : ρ → ρ} {keeps : ∀ row, key (change row) = key row} {forbidden : ε → Prop}

theorem avoids_updateMany {condition : ρ → Bool}
    (accepted : ∀ row, condition row = true → passes row = true → passes (change row) = true) :
    Avoids P forbidden (Transaction.updateMany table condition change keeps >>= fun _ =>
      check table passes failure) := by
  have written : Preserves P (Transaction.updateMany table condition change keeps : Tx σ ε Nat) :=
    updateMany accepted
  have admitted : Avoids P forbidden (check table passes failure) :=
    avoids_check table
  infer_instance

variable [DecidableEq κ] {raised : ε} [Permitted forbidden raised]

theorem avoids_updateExpecting {wanted : κ} {guard : ρ → Bool}
    (accepted : ∀ row, guard row = true → passes row = true → passes (change row) = true) :
    Avoids P forbidden (Transaction.updateExpecting table wanted guard change raised keeps >>=
      fun _ => check table passes failure) := by
  have written : Preserves P (Transaction.updateExpecting table wanted guard change raised keeps) :=
    updateExpecting accepted
  have admitted : Avoids P forbidden (check table passes failure) :=
    avoids_check table
  infer_instance

theorem avoids_create {row : ρ} (accepted : passes row = true) :
    Avoids P forbidden (Transaction.create table row raised >>= fun _ =>
      check table passes failure) := by
  have written : Preserves P (Transaction.create table row raised) := create accepted
  have admitted : Avoids P forbidden (check table passes failure) :=
    avoids_check table
  infer_instance

end Admitted

end Constrained

end Transaction
