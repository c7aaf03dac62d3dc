import CoffeeShop.Library.Table

/-!
Statements of a transaction on one table of the store.

Each statement names the table by the part of the store that holds it.  The
`commits` lemmas say what a statement reads and writes, so a program over several
tables simplifies to the values it found and the tables it left.
-/

namespace Transaction

variable {σ ε ρ κ : Type} {key : ρ → κ}

def findMany (table : Part σ (Table key)) (condition : ρ → Bool) : Tx σ ε (List ρ) := do
  let store ← get
  pure ((table.get store).select condition)

def findFirst (table : Part σ (Table key)) (condition : ρ → Bool) : Tx σ ε (Option ρ) := do
  let store ← get
  pure ((table.get store).first? condition)

def findFirstOrFail (table : Part σ (Table key)) (condition : ρ → Bool) (failure : ε) :
    Tx σ ε ρ := do
  let found ← findFirst table condition
  orFail found failure

def updateMany (table : Part σ (Table key)) (condition : ρ → Bool) (change : ρ → ρ)
    (keeps : ∀ row, key (change row) = key row := by intro; rfl) : Tx σ ε Nat := do
  let store ← get
  modify (table.set ((table.get store).update condition change keeps))
  pure ((table.get store).count condition)

def deleteMany (table : Part σ (Table key)) (condition : ρ → Bool) : Tx σ ε Nat := do
  let store ← get
  modify (table.set ((table.get store).delete condition))
  pure ((table.get store).count condition)

section Commits

variable {table : Part σ (Table key)} {condition : ρ → Bool} {before after : σ}

@[simp] theorem commits_findMany {result : List ρ} :
    Commits (findMany table condition : Tx σ ε _) before result after ↔
      result = (table.get before).select condition ∧ after = before := by
  simp [findMany, and_comm]

@[simp] theorem commits_findFirst {result : Option ρ} :
    Commits (findFirst table condition : Tx σ ε _) before result after ↔
      result = (table.get before).first? condition ∧ after = before := by
  simp [findFirst, and_comm]

@[simp] theorem commits_findFirstOrFail {failure : ε} {result : ρ} :
    Commits (findFirstOrFail table condition failure) before result after ↔
      (table.get before).first? condition = some result ∧ after = before := by
  simp only [findFirstOrFail, commits_bind, commits_findFirst, commits_orFail]
  constructor
  · rintro ⟨_, _, ⟨rfl, rfl⟩, found, rfl⟩
    exact ⟨found, rfl⟩
  · rintro ⟨found, rfl⟩
    exact ⟨_, _, ⟨rfl, rfl⟩, found, rfl⟩

@[simp] theorem commits_updateMany {change : ρ → ρ} {keeps : ∀ row, key (change row) = key row}
    {result : Nat} :
    Commits (updateMany table condition change keeps : Tx σ ε _) before result after ↔
      result = (table.get before).count condition ∧
        after = table.set ((table.get before).update condition change keeps) before := by
  simp [updateMany, and_comm]

@[simp] theorem commits_deleteMany {result : Nat} :
    Commits (deleteMany table condition : Tx σ ε _) before result after ↔
      result = (table.get before).count condition ∧
        after = table.set ((table.get before).delete condition) before := by
  simp [deleteMany, and_comm]

end Commits

section Keyed

variable [DecidableEq κ]

def findUnique (table : Part σ (Table key)) (wanted : κ) : Tx σ ε (Option ρ) := do
  let store ← get
  pure ((table.get store).find? wanted)

def findUniqueOrFail (table : Part σ (Table key)) (wanted : κ) (failure : ε) : Tx σ ε ρ := do
  let found ← findUnique table wanted
  orFail found failure

/-- Update the row with the key if it satisfies the guard, and abort otherwise. -/
def updateExpecting (table : Part σ (Table key)) (wanted : κ) (guard : ρ → Bool)
    (change : ρ → ρ) (failure : ε) (keeps : ∀ row, key (change row) = key row := by intro; rfl) :
    Tx σ ε Unit := do
  let count ← updateMany table (fun row => key row = wanted && guard row) change keeps
  require (count = 1) failure

def create (table : Part σ (Table key)) (row : ρ) (failure : ε) : Tx σ ε Unit := do
  let store ← get
  let next ← orFail ((table.get store).insert? row) failure
  modify (table.set next)

def createMany (table : Part σ (Table key)) (rows : List ρ) (failure : ε) : Tx σ ε Unit := do
  let store ← get
  let next ← orFail ((table.get store).insertAll? rows) failure
  modify (table.set next)

variable {table : Part σ (Table key)} {before after : σ} {failure : ε} {wanted : κ}

@[simp] theorem commits_findUnique {result : Option ρ} :
    Commits (findUnique table wanted : Tx σ ε _) before result after ↔
      result = (table.get before).find? wanted ∧ after = before := by
  simp [findUnique, and_comm]

@[simp] theorem commits_findUniqueOrFail {result : ρ} :
    Commits (findUniqueOrFail table wanted failure) before result after ↔
      (table.get before).find? wanted = some result ∧ after = before := by
  simp only [findUniqueOrFail, commits_bind, commits_findUnique, commits_orFail]
  constructor
  · rintro ⟨_, _, ⟨rfl, rfl⟩, found, rfl⟩
    exact ⟨found, rfl⟩
  · rintro ⟨found, rfl⟩
    exact ⟨_, _, ⟨rfl, rfl⟩, found, rfl⟩

@[simp] theorem commits_updateExpecting {guard : ρ → Bool} {change : ρ → ρ}
    {keeps : ∀ row, key (change row) = key row} {result : Unit} :
    Commits (updateExpecting table wanted guard change failure keeps) before result after ↔
      (∃ row, (table.get before).find? wanted = some row ∧ guard row) ∧
        after = table.set ((table.get before).update
          (fun row => key row = wanted && guard row) change keeps) before := by
  simp [updateExpecting, Table.count_key, Option.any_eq_true]

/-- The rows before and after an update of one of them. -/
theorem find?_updateExpecting {guard : ρ → Bool} {change : ρ → ρ}
    {keeps : ∀ row, key (change row) = key row} {result : Unit}
    (committed : Commits (updateExpecting table wanted guard change failure keeps) before result
      after) :
    ∃ row, (table.get before).find? wanted = some row ∧ guard row = true ∧
      (table.get after).find? wanted = some (change row) ∧
      ∀ other ≠ wanted, (table.get after).find? other = (table.get before).find? other := by
  obtain ⟨⟨row, found, passed⟩, rfl⟩ := commits_updateExpecting.mp committed
  refine ⟨row, found, passed, ?_, fun other apart => ?_⟩
  · rw [table.get_set, Table.find?_update, found, Option.map_some, if_pos]
    exact Bool.and_eq_true_iff.mpr ⟨decide_eq_true (Table.find?_key found), passed⟩
  · rw [table.get_set, Table.find?_update]
    cases atOther : (table.get before).find? other with
    | none => rfl
    | some row =>
        have differs : key row ≠ wanted := by
          rw [Table.find?_key atOther]
          exact apart
        simp [differs]

@[simp] theorem commits_create {row : ρ} {result : Unit} :
    Commits (create table row failure) before result after ↔
      ∃ next, (table.get before).insert? row = some next ∧ after = table.set next before := by
  simp [create]

@[simp] theorem commits_createMany {rows : List ρ} {result : Unit} :
    Commits (createMany table rows failure) before result after ↔
      ∃ next, (table.get before).insertAll? rows = some next ∧ after = table.set next before := by
  simp [createMany]

end Keyed

end Transaction
