import Mathlib.Data.List.Forall2
import Mathlib.Logic.Basic
import Mathlib.Order.Basic

/-!
Transactions over a store.

A transaction either commits with a result and a new store, or fails and leaves
nothing behind.  `Commits` is the big-step relation of the committing runs; the
simp set below turns a program written in `do` notation into the conjunction of
its guards and its writes.
-/

namespace Transaction

variable {σ τ ε α β : Type}

/-- A program that reads and writes a store, and may abort. -/
abbrev Tx (σ ε : Type) : Type → Type := StateT σ (Except ε)

/-- The transaction commits on the first store with the result and the second store. -/
def Commits (program : Tx σ ε α) (before : σ) (result : α) (after : σ) : Prop :=
  program before = .ok (result, after)

/-- Abort unless the condition holds. -/
def require (condition : Prop) [Decidable condition] (failure : ε) : Tx σ ε Unit :=
  if condition then pure () else throw failure

/-- The value, or abort. -/
def orFail (value : Option α) (failure : ε) : Tx σ ε α :=
  match value with
  | some result => pure result
  | none => throw failure

/-- Run the program if the condition holds. -/
def when (condition : Prop) [Decidable condition] (program : Tx σ ε Unit) : Tx σ ε Unit :=
  if condition then program else pure ()

/-- Run the first program on the value, or the second one without a value. -/
def ifSome (value : Option α) (present : α → Tx σ ε β) (absent : Tx σ ε β) : Tx σ ε β :=
  match value with
  | some content => present content
  | none => absent

/-- Run the program on the value, if there is one. -/
def whenSome (value : Option α) (body : α → Tx σ ε Unit) : Tx σ ε Unit :=
  ifSome value body (pure ())

/-- Run a program for every element, first to last. -/
def forEach : List α → (α → Tx σ ε Unit) → Tx σ ε Unit
  | [], _ => pure ()
  | head :: tail, body => do
      body head
      forEach tail body

/-- The results of a program for every element, first to last. -/
def collect : List α → (α → Tx σ ε β) → Tx σ ε (List β)
  | [], _ => pure []
  | head :: tail, body => do
      let first ← body head
      let rest ← collect tail body
      pure (first :: rest)

section Commits

variable {before after : σ} {failure : ε}

@[simp] theorem commits_pure {value result : α} :
    Commits (pure value : Tx σ ε α) before result after ↔ result = value ∧ after = before := by
  change Except.ok (value, before) = .ok (result, after) ↔ _
  rw [Except.ok.injEq, Prod.mk.injEq]
  exact ⟨fun equal => ⟨equal.1.symm, equal.2.symm⟩, fun equal => ⟨equal.1.symm, equal.2.symm⟩⟩

@[simp] theorem commits_bind {program : Tx σ ε α} {next : α → Tx σ ε β} {result : β} :
    Commits (program >>= next) before result after ↔
      ∃ value middle, Commits program before value middle ∧
        Commits (next value) middle result after := by
  simp only [Commits, bind, StateT.bind, Except.bind]
  cases program before with
  | error => simp
  | ok pair =>
      simp only [Except.ok.injEq, Prod.ext_iff]
      exact ⟨fun equal => ⟨pair.1, pair.2, ⟨rfl, rfl⟩, equal⟩,
        fun ⟨_, _, ⟨value, middle⟩, equal⟩ => by rw [value, middle, equal]⟩

@[simp] theorem commits_map {program : Tx σ ε α} {function : α → β} {result : β} :
    Commits (function <$> program) before result after ↔
      ∃ value, Commits program before value after ∧ result = function value := by
  simp only [Commits, Functor.map, StateT.map, bind, Except.bind]
  cases program before with
  | error => simp
  | ok pair =>
      simp only [pure, Except.pure, Except.ok.injEq, Prod.ext_iff]
      exact ⟨fun ⟨mapped, final⟩ => ⟨pair.1, ⟨rfl, final⟩, mapped.symm⟩,
        fun ⟨_, ⟨value, final⟩, mapped⟩ => ⟨by rw [mapped, value], final⟩⟩

@[simp] theorem commits_throw {result : α} :
    Commits (throw failure : Tx σ ε α) before result after ↔ False := by
  simp [Commits, throw, throwThe, MonadExceptOf.throw, StateT.lift, bind, Except.bind]

@[simp] theorem commits_get {result : σ} :
    Commits (get : Tx σ ε σ) before result after ↔ result = before ∧ after = before := by
  simp only [Commits, get, getThe, MonadStateOf.get, StateT.get, pure, Except.pure,
    Except.ok.injEq, Prod.mk.injEq]
  exact ⟨fun equal => ⟨equal.1.symm, equal.2.symm⟩, fun equal => ⟨equal.1.symm, equal.2.symm⟩⟩

@[simp] theorem commits_modify {function : σ → σ} {result : Unit} :
    Commits (modify function : Tx σ ε Unit) before result after ↔ after = function before := by
  simp only [Commits, modify, modifyGet, MonadStateOf.modifyGet, StateT.modifyGet, pure,
    Except.pure, Except.ok.injEq, Prod.mk.injEq, true_and]
  exact eq_comm

@[simp] theorem commits_require {condition : Prop} [Decidable condition] {result : Unit} :
    Commits (require condition failure) before result after ↔ condition ∧ after = before := by
  by_cases holds : condition
  · simp [require, holds]
  · simp [require, holds]

@[simp] theorem commits_orFail {value : Option α} {result : α} :
    Commits (orFail value failure) before result after ↔ value = some result ∧ after = before := by
  cases value with
  | none => simp [orFail]
  | some value => simp [orFail, eq_comm]

theorem commits_ite {condition : Prop} [Decidable condition] {yes no : Tx σ ε α} {result : α} :
    Commits (if condition then yes else no) before result after ↔
      (condition ∧ Commits yes before result after) ∨
        (¬condition ∧ Commits no before result after) := by
  by_cases holds : condition
  · simp [holds]
  · simp [holds]

@[simp] theorem commits_when {condition : Prop} [Decidable condition] {program : Tx σ ε Unit}
    {result : Unit} :
    Commits (when condition program) before result after ↔
      (condition ∧ Commits program before () after) ∨ (¬condition ∧ after = before) := by
  by_cases holds : condition
  · simp [when, holds]
  · simp [when, holds]

@[simp] theorem commits_ifSome {value : Option α} {present : α → Tx σ ε β} {absent : Tx σ ε β}
    {result : β} :
    Commits (ifSome value present absent) before result after ↔
      (∃ content, value = some content ∧ Commits (present content) before result after) ∨
        (value = none ∧ Commits absent before result after) := by
  cases value with
  | none => simp [ifSome]
  | some content => simp [ifSome]

@[simp] theorem commits_whenSome {value : Option α} {body : α → Tx σ ε Unit} {result : Unit} :
    Commits (whenSome value body) before result after ↔
      (∃ content, value = some content ∧ Commits (body content) before () after) ∨
        (value = none ∧ after = before) := by
  simp [whenSome]

@[simp] theorem commits_forEach_nil {body : α → Tx σ ε Unit} {result : Unit} :
    Commits (forEach [] body) before result after ↔ after = before := by
  simp [forEach]

@[simp] theorem commits_forEach_cons {head : α} {tail : List α} {body : α → Tx σ ε Unit}
    {result : Unit} :
    Commits (forEach (head :: tail) body) before result after ↔
      ∃ middle, Commits (body head) before () middle ∧
        Commits (forEach tail body) middle () after := by
  simp only [forEach, commits_bind]
  exact ⟨fun ⟨_, middle, ran⟩ => ⟨middle, ran⟩, fun ⟨middle, ran⟩ => ⟨(), middle, ran⟩⟩

@[simp] theorem commits_collect_nil {body : α → Tx σ ε β} {result : List β} :
    Commits (collect [] body) before result after ↔ result = [] ∧ after = before := by
  simp [collect]

@[simp] theorem commits_collect_cons {head : α} {tail : List α} {body : α → Tx σ ε β}
    {result : List β} :
    Commits (collect (head :: tail) body) before result after ↔
      ∃ first middle rest, Commits (body head) before first middle ∧
        Commits (collect tail body) middle rest after ∧ result = first :: rest := by
  simp only [collect, commits_bind, commits_pure]
  constructor
  · rintro ⟨first, middle, ran, rest, last, others, rfl, rfl⟩
    exact ⟨first, middle, rest, ran, others, rfl⟩
  · rintro ⟨first, middle, rest, ran, others, rfl⟩
    exact ⟨first, middle, ran, rest, after, others, rfl, rfl⟩

theorem exists_right {items : List α} {results : List β} {P : α → β → Prop}
    (all : List.Forall₂ P items results) {item : α} (membership : item ∈ items) :
    ∃ result ∈ results, P item result := by
  induction all with
  | nil => simp at membership
  | cons holds rest inductionHypothesis =>
      rcases List.mem_cons.mp membership with rfl | inTail
      · exact ⟨_, List.mem_cons_self, holds⟩
      · obtain ⟨result, inResults, related⟩ := inductionHypothesis inTail
        exact ⟨result, List.mem_cons_of_mem _ inResults, related⟩

theorem exists_left {items : List α} {results : List β} {P : α → β → Prop}
    (all : List.Forall₂ P items results) {result : β} (membership : result ∈ results) :
    ∃ item ∈ items, P item result :=
  exists_right all.flip membership

/-- What the program establishes of each element holds of the list of results. -/
theorem Commits.collect_forall₂ {items : List α} {body : α → Tx σ ε β} {results : List β}
    {P : α → β → Prop} (committed : Commits (collect items body) before results after)
    (each : ∀ item ∈ items, ∀ result middle, Commits (body item) before result middle →
      P item result ∧ middle = before) :
    List.Forall₂ P items results ∧ after = before := by
  induction items generalizing results with
  | nil =>
      obtain ⟨rfl, rfl⟩ := commits_collect_nil.mp committed
      exact ⟨List.Forall₂.nil, rfl⟩
  | cons head tail inductionHypothesis =>
      obtain ⟨first, middle, rest, ran, others, rfl⟩ := commits_collect_cons.mp committed
      obtain ⟨holds, rfl⟩ := each head List.mem_cons_self first middle ran
      obtain ⟨all, rfl⟩ := inductionHypothesis others fun item inTail =>
        each item (List.mem_cons_of_mem head inTail)
      exact ⟨List.Forall₂.cons holds all, rfl⟩

/-- What every run of the program establishes of its result. -/
theorem Commits.forall₂_collect {items : List α} {body : α → Tx σ ε β} {results : List β}
    {P : α → β → Prop} (committed : Commits (collect items body) before results after)
    (each : ∀ item ∈ items, ∀ first result last, Commits (body item) first result last →
      P item result) : List.Forall₂ P items results := by
  induction items generalizing before results with
  | nil =>
      obtain ⟨rfl, -⟩ := commits_collect_nil.mp committed
      exact List.Forall₂.nil
  | cons head tail inductionHypothesis =>
      obtain ⟨first, middle, rest, ran, others, rfl⟩ := commits_collect_cons.mp committed
      refine List.Forall₂.cons (each head List.mem_cons_self before first middle ran) ?_
      exact inductionHypothesis others fun item inTail =>
        each item (List.mem_cons_of_mem head inTail)

/-- What every run of the program establishes of its element. -/
theorem Commits.forall_forEach {items : List α} {body : α → Tx σ ε Unit} {result : Unit}
    {P : α → Prop} (committed : Commits (forEach items body) before result after)
    (each : ∀ item ∈ items, ∀ first result last, Commits (body item) first result last → P item) :
    ∀ item ∈ items, P item := by
  induction items generalizing before with
  | nil => exact fun item none => (List.not_mem_nil none).elim
  | cons head tail inductionHypothesis =>
      obtain ⟨middle, ran, others⟩ := commits_forEach_cons.mp committed
      refine List.forall_mem_cons.mpr ⟨each head List.mem_cons_self before () middle ran, ?_⟩
      exact inductionHypothesis others fun item inTail =>
        each item (List.mem_cons_of_mem head inTail)

theorem commits_functional {program : Tx σ ε α} {result result' : α} {after' : σ}
    (first : Commits program before result after)
    (second : Commits program before result' after') :
    result = result' ∧ after = after' := by
  unfold Commits at first second
  rw [first] at second
  simpa using second

end Commits

/-- A part of a store that a program may read and replace on its own. -/
structure Part (σ τ : Type) where
  get : σ → τ
  set : τ → σ → σ
  get_set : ∀ value store, get (set value store) = value

/-- Run a program of the part inside the whole store. -/
def within (part : Part σ τ) (program : Tx τ ε α) : Tx σ ε α := fun store =>
  match program (part.get store) with
  | .ok (result, value) => .ok (result, part.set value store)
  | .error failure => .error failure

@[simp] theorem commits_within {part : Part σ τ} {program : Tx τ ε α}
    {before after : σ} {result : α} :
    Commits (within part program) before result after ↔
      ∃ value, Commits program (part.get before) result value ∧
        after = part.set value before := by
  unfold Commits within
  cases program (part.get before) with
  | error => simp
  | ok pair =>
      obtain ⟨output, value⟩ := pair
      simp only [Except.ok.injEq, Prod.mk.injEq]
      exact ⟨fun equal => ⟨value, ⟨equal.1, rfl⟩, equal.2.symm⟩,
        fun ⟨_, ⟨output, middle⟩, final⟩ => ⟨output, by rw [final, middle]⟩⟩

end Transaction
