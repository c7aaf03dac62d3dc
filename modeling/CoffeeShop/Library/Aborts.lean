import CoffeeShop.Library.Statement

/-!
Why a transaction aborts.

`Aborts` is the counterpart of `Commits`: the store that a program starts on and the
failure that it raises.  A composed program aborts where one of its parts does.
-/

namespace Transaction

variable {σ τ ε α β : Type}

/-- The transaction aborts on the store with the failure. -/
def Aborts (program : Tx σ ε α) (before : σ) (failure : ε) : Prop :=
  program before = .error failure

variable {before after : σ} {failure raised : ε}

instance [DecidableEq ε] {program : Tx σ ε α} : Decidable (Aborts program before failure) :=
  match ran : program before with
  | .ok _ => isFalse fun aborted => by
      unfold Aborts at aborted
      rw [ran] at aborted
      cases aborted
  | .error raised => decidable_of_iff (raised = failure) (by simp [Aborts, ran])

theorem Commits.not_aborts {program : Tx σ ε α} {result : α}
    (committed : Commits program before result after) : ¬Aborts program before failure := by
  intro aborted
  unfold Commits at committed
  unfold Aborts at aborted
  rw [committed] at aborted
  cases aborted

@[simp] theorem aborts_pure {value : α} :
    Aborts (pure value : Tx σ ε α) before failure ↔ False :=
  iff_false_intro (Commits.not_aborts (commits_pure.mpr ⟨rfl, rfl⟩))

@[simp] theorem aborts_bind {program : Tx σ ε α} {next : α → Tx σ ε β} :
    Aborts (program >>= next) before failure ↔
      Aborts program before failure ∨
        ∃ value middle, Commits program before value middle ∧
          Aborts (next value) middle failure := by
  simp only [Aborts, Commits, bind, StateT.bind, Except.bind]
  cases program before with
  | error raised => simp
  | ok pair =>
      simp only [reduceCtorEq, false_or, Except.ok.injEq, Prod.ext_iff]
      constructor
      · intro equal
        exact ⟨pair.1, pair.2, ⟨rfl, rfl⟩, equal⟩
      · rintro ⟨_, _, ⟨value, middle⟩, equal⟩
        rw [value, middle, equal]

@[simp] theorem aborts_map {program : Tx σ ε α} {function : α → β} :
    Aborts (function <$> program) before failure ↔ Aborts program before failure := by
  simp only [Aborts, Functor.map, StateT.map, bind, Except.bind]
  cases program before with
  | error raised => simp
  | ok pair => simp [pure, Except.pure]

@[simp] theorem aborts_throw :
    Aborts (throw raised : Tx σ ε α) before failure ↔ failure = raised := by
  simp [Aborts, throw, throwThe, MonadExceptOf.throw, StateT.lift, bind, Except.bind, eq_comm]

@[simp] theorem aborts_get : Aborts (get : Tx σ ε σ) before failure ↔ False :=
  iff_false_intro (Commits.not_aborts (commits_get.mpr ⟨rfl, rfl⟩))

@[simp] theorem aborts_modify {function : σ → σ} :
    Aborts (modify function : Tx σ ε Unit) before failure ↔ False := by
  have committed : Commits (modify function : Tx σ ε Unit) before () (function before) :=
    commits_modify.mpr rfl
  exact iff_false_intro committed.not_aborts

@[simp] theorem aborts_require {condition : Prop} [Decidable condition] :
    Aborts (require condition raised : Tx σ ε Unit) before failure ↔
      ¬condition ∧ failure = raised := by
  by_cases holds : condition
  · simp [require, holds]
  · simp [require, holds]

@[simp] theorem aborts_orFail {value : Option α} :
    Aborts (orFail value raised : Tx σ ε α) before failure ↔ value = none ∧ failure = raised := by
  cases value with
  | none => simp [orFail]
  | some value => simp [orFail]

@[simp] theorem aborts_when {condition : Prop} [Decidable condition] {program : Tx σ ε Unit} :
    Aborts (when condition program) before failure ↔
      condition ∧ Aborts program before failure := by
  by_cases holds : condition
  · simp [when, holds]
  · simp [when, holds]

@[simp] theorem aborts_ifSome {value : Option α} {present : α → Tx σ ε β} {absent : Tx σ ε β} :
    Aborts (ifSome value present absent) before failure ↔
      (∃ content, value = some content ∧ Aborts (present content) before failure) ∨
        (value = none ∧ Aborts absent before failure) := by
  cases value with
  | none => simp [ifSome]
  | some content => simp [ifSome]

@[simp] theorem aborts_whenSome {value : Option α} {body : α → Tx σ ε Unit} :
    Aborts (whenSome value body) before failure ↔
      ∃ content, value = some content ∧ Aborts (body content) before failure := by
  simp [whenSome]

@[simp] theorem aborts_forEach_nil {body : α → Tx σ ε Unit} :
    Aborts (forEach [] body) before failure ↔ False := by
  simp [forEach]

@[simp] theorem aborts_forEach_cons {head : α} {tail : List α} {body : α → Tx σ ε Unit} :
    Aborts (forEach (head :: tail) body) before failure ↔
      Aborts (body head) before failure ∨
        ∃ middle, Commits (body head) before () middle ∧
          Aborts (forEach tail body) middle failure := by
  simp only [forEach, aborts_bind]
  apply or_congr_right
  constructor
  · rintro ⟨_, middle, ran⟩
    exact ⟨middle, ran⟩
  · rintro ⟨middle, ran⟩
    exact ⟨(), middle, ran⟩

/-- A loop aborts at the first item that fails, once all earlier items have passed.  The
invariant speaks of the items that are left. -/
theorem aborts_forEach_iff {items : List α} {body : α → Tx σ ε Unit}
    {invariant : List α → σ → Prop} {Passes Fails : α → Prop}
    (aborts : ∀ head tail store, invariant (head :: tail) store →
      (Aborts (body head) store failure ↔ Fails head))
    (commits : ∀ head tail store, invariant (head :: tail) store →
      ((∃ next, Commits (body head) store () next) ↔ Passes head))
    (keeps : ∀ head tail store next, invariant (head :: tail) store →
      Commits (body head) store () next → invariant tail next)
    (start : invariant items before) :
    Aborts (forEach items body) before failure ↔
      ∃ first item rest, items = first ++ item :: rest ∧ (∀ earlier ∈ first, Passes earlier) ∧
        Fails item := by
  induction items generalizing before with
  | nil => simp
  | cons head tail inductionHypothesis =>
      rw [aborts_forEach_cons, aborts head tail before start]
      constructor
      · rintro (fails | ⟨middle, committed, late⟩)
        · exact ⟨[], head, tail, rfl, by simp, fails⟩
        · have kept := keeps head tail before middle start committed
          obtain ⟨first, item, rest, rfl, passed, fails⟩ := (inductionHypothesis kept).mp late
          have passes := (commits head _ before start).mp ⟨middle, committed⟩
          exact ⟨head :: first, item, rest, rfl, by simpa using ⟨passes, passed⟩, fails⟩
      · rintro ⟨first, item, rest, split, passed, fails⟩
        cases first with
        | nil =>
            obtain ⟨rfl, rfl⟩ := List.cons.inj split
            exact .inl fails
        | cons early first =>
            obtain ⟨rfl, rfl⟩ := List.cons.inj split
            obtain ⟨middle, committed⟩ :=
              (commits head _ before start).mpr (passed head List.mem_cons_self)
            have kept := keeps head _ before middle start committed
            have later := fun earlier inFirst => passed earlier (List.mem_cons_of_mem head inFirst)
            exact .inr ⟨middle, committed,
              (inductionHypothesis kept).mpr ⟨first, item, rest, rfl, later, fails⟩⟩

@[simp] theorem aborts_within {part : Part σ τ} {program : Tx τ ε α} :
    Aborts (within part program) before failure ↔ Aborts program (part.get before) failure := by
  unfold Aborts within
  cases program (part.get before) with
  | error => simp
  | ok pair => simp

section Statements

variable {ρ κ : Type} {key : ρ → κ} {table : Part σ (Table key)} {condition : ρ → Bool}

@[simp] theorem aborts_findMany :
    Aborts (findMany table condition : Tx σ ε _) before failure ↔ False := by
  simp [findMany]

@[simp] theorem aborts_findFirst :
    Aborts (findFirst table condition : Tx σ ε _) before failure ↔ False := by
  simp [findFirst]

@[simp] theorem aborts_updateMany {change : ρ → ρ} {keeps : ∀ row, key (change row) = key row} :
    Aborts (updateMany table condition change keeps : Tx σ ε _) before failure ↔ False := by
  simp [updateMany]

@[simp] theorem aborts_deleteMany :
    Aborts (deleteMany table condition : Tx σ ε _) before failure ↔ False := by
  simp [deleteMany]

variable [DecidableEq κ] {wanted : κ}

@[simp] theorem aborts_findUnique :
    Aborts (findUnique table wanted : Tx σ ε _) before failure ↔ False := by
  simp [findUnique]

@[simp] theorem aborts_updateExpecting {guard : ρ → Bool} {change : ρ → ρ}
    {keeps : ∀ row, key (change row) = key row} :
    Aborts (updateExpecting table wanted guard change raised keeps) before failure ↔
      ((table.get before).find? wanted).any guard = false ∧ failure = raised := by
  simp [updateExpecting, Table.count_key]

end Statements

end Transaction
