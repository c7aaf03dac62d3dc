import CoffeeShop.Library.Statement
import Mathlib.Order.Defs.Unbundled

/-!
Relations between the stores before and after a transaction.

A program respects a preorder if every committing run relates the store it starts
on to the store it leaves.  Instances close the notion under every program former,
so what a composed program respects follows from its statements.  `On` reads a
relation through a view of the store: with equality it says that the view stays,
with implication that an assertion is kept.
-/

namespace Transaction

variable {σ τ υ ε α β : Type}

/-- The relation between the views of two stores. -/
def On (view : σ → τ) (R : τ → τ → Prop) (before after : σ) : Prop :=
  R (view before) (view after)

instance (view : σ → τ) (R : τ → τ → Prop) [IsPreorder τ R] : IsPreorder σ (On view R) where
  refl store := Std.Refl.refl (r := R) (view store)
  trans first second third := IsTrans.trans (r := R) (view first) (view second) (view third)

/-- What holds before holds after. -/
def Implies (before after : Prop) : Prop := before → after

instance : IsPreorder Prop Implies where
  refl _ := id
  trans _ _ _ first second := second ∘ first

/-- Every committing run relates the store before to the store after. -/
class Respects (R : σ → σ → Prop) (program : Tx σ ε α) : Prop where
  step : ∀ ⦃before result after⦄, Commits program before result after → R before after

/-- The view is the same after every committing run. -/
abbrev Keeps (view : σ → τ) (program : Tx σ ε α) : Prop := Respects (On view Eq) program

/-- Every committing run keeps the assertion. -/
abbrev Preserves (assertion : σ → Prop) (program : Tx σ ε α) : Prop :=
  Respects (On assertion Implies) program

theorem Keeps.eq (view : σ → τ) {program : Tx σ ε α} [keeps : Keeps view program] {before after : σ}
    {result : α} (committed : Commits program before result after) : view after = view before :=
  (keeps.step committed).symm

theorem Preserves.holds (assertion : σ → Prop) {program : Tx σ ε α}
    [preserves : Preserves assertion program] {before after : σ} {result : α}
    (committed : Commits program before result after) (holds : assertion before) :
    assertion after :=
  preserves.step committed holds

namespace Respects

variable {R : σ → σ → Prop} [IsPreorder σ R] {failure : ε}

instance pure (value : α) : Respects R (Pure.pure value : Tx σ ε α) where
  step before result after committed := by
    rw [(commits_pure.mp committed).2]
    exact Std.Refl.refl before

instance bind {program : Tx σ ε α} {next : α → Tx σ ε β} [first : Respects R program]
    [second : ∀ value, Respects R (next value)] : Respects R (program >>= next) where
  step before result after committed := by
    obtain ⟨value, middle, ran, continued⟩ := commits_bind.mp committed
    exact IsTrans.trans before middle after (first.step ran) ((second value).step continued)

theorem andThen {program : Tx σ ε α} {next : α → Tx σ ε β} (first : Respects R program)
    (second : ∀ value, Respects R (next value)) : Respects R (program >>= next) := inferInstance

/-- The rest of a program may rely on what the first part establishes of its result. -/
theorem bind_checked {program : Tx σ ε α} {next : α → Tx σ ε β} {P : α → Prop}
    [first : Respects R program]
    (checked : ∀ ⦃before value after⦄, Commits program before value after → P value)
    (second : ∀ value, P value → Respects R (next value)) : Respects R (program >>= next) where
  step before result after committed := by
    obtain ⟨value, middle, ran, continued⟩ := commits_bind.mp committed
    exact IsTrans.trans before middle after (first.step ran)
      ((second value (checked ran)).step continued)

instance throw : Respects R (throw failure : Tx σ ε α) where
  step _ _ _ committed := (commits_throw.mp committed).elim

instance get : Respects R (get : Tx σ ε σ) where
  step before result after committed := by
    rw [(commits_get.mp committed).2]
    exact Std.Refl.refl before

instance require {condition : Prop} [Decidable condition] :
    Respects R (require condition failure) where
  step before result after committed := by
    rw [(commits_require.mp committed).2]
    exact Std.Refl.refl before

instance orFail {value : Option α} : Respects R (orFail value failure) where
  step before result after committed := by
    rw [(commits_orFail.mp committed).2]
    exact Std.Refl.refl before

omit [IsPreorder σ R] in
instance ite {condition : Prop} [Decidable condition] {yes no : Tx σ ε α}
    [first : Respects R yes] [second : Respects R no] :
    Respects R (if condition then yes else no) := by
  by_cases holds : condition
  · rw [if_pos holds]
    exact first
  · rw [if_neg holds]
    exact second

instance when {condition : Prop} [Decidable condition] {program : Tx σ ε Unit}
    [Respects R program] : Respects R (when condition program) := by
  unfold Transaction.when
  infer_instance

/-- What follows a check may rely on it. -/
theorem requireThen {condition : Prop} [Decidable condition] {next : Unit → Tx σ ε α}
    (rest : condition → Respects R (next ())) :
    Respects R (Transaction.require condition failure >>= next) := by
  refine bind_checked (P := fun _ => condition) ?_ fun _ holds => rest holds
  intro before result after committed
  exact (commits_require.mp committed).1

theorem whenHolds {condition : Prop} [Decidable condition] {program : Tx σ ε Unit}
    (body : condition → Respects R program) : Respects R (Transaction.when condition program) := by
  by_cases holds : condition
  · have respects := body holds
    infer_instance
  · unfold Transaction.when
    rw [if_neg holds]
    infer_instance

omit [IsPreorder σ R] in
instance ifSome {value : Option α} {present : α → Tx σ ε β} {absent : Tx σ ε β}
    [first : ∀ content, Respects R (present content)] [second : Respects R absent] :
    Respects R (ifSome value present absent) := by
  cases value with
  | none => exact second
  | some content => exact first content

instance whenSome {value : Option α} {body : α → Tx σ ε Unit}
    [∀ content, Respects R (body content)] : Respects R (whenSome value body) := by
  unfold Transaction.whenSome
  infer_instance

theorem whenPresent {value : Option α} {body : α → Tx σ ε Unit}
    (present : ∀ content, value = some content → Respects R (body content)) :
    Respects R (Transaction.whenSome value body) := by
  cases value with
  | none => exact pure ()
  | some content => exact present content rfl

instance forEach {items : List α} {body : α → Tx σ ε Unit} [∀ item, Respects R (body item)] :
    Respects R (forEach items body) := by
  induction items with
  | nil => exact pure ()
  | cons head tail inductionHypothesis =>
      unfold Transaction.forEach
      infer_instance

instance collect {items : List α} {body : α → Tx σ ε β} [∀ item, Respects R (body item)] :
    Respects R (collect items body) := by
  induction items with
  | nil => exact pure []
  | cons head tail inductionHypothesis =>
      unfold Transaction.collect
      infer_instance

end Respects

/-- Replacing the part does not show in the view. -/
class Apart (view : σ → τ) (part : Part σ υ) : Prop where
  apart : ∀ value store, view (part.set value store) = view store

section Statements

variable {ρ κ : Type} {key : ρ → κ} {table : Part σ (Table key)} {condition : ρ → Bool}
variable {R : σ → σ → Prop} {S : τ → τ → Prop} {view : σ → τ}

instance Respects.findMany [IsPreorder σ R] :
    Respects R (findMany table condition : Tx σ ε _) := by
  unfold Transaction.findMany
  infer_instance

instance Respects.findFirst [IsPreorder σ R] :
    Respects R (findFirst table condition : Tx σ ε _) := by
  unfold Transaction.findFirst
  infer_instance

instance Respects.findFirstOrFail [IsPreorder σ R] {failure : ε} :
    Respects R (findFirstOrFail table condition failure) := by
  unfold Transaction.findFirstOrFail
  infer_instance

/-- A write to a part that the view does not show. -/
theorem Respects.write [IsPreorder τ S] (part : Part σ υ) [apart : Apart view part] {value : υ}
    {store : σ} : On view S store (part.set value store) := by
  unfold On
  rw [apart.apart]
  exact Std.Refl.refl (r := S) (view store)

instance Respects.updateMany [IsPreorder τ S] [Apart view table] {change : ρ → ρ}
    {keeps : ∀ row, key (change row) = key row} :
    Respects (On view S) (updateMany table condition change keeps : Tx σ ε _) where
  step before result after committed := by
    rw [(commits_updateMany.mp committed).2]
    exact Respects.write _

instance Respects.deleteMany [IsPreorder τ S] [Apart view table] :
    Respects (On view S) (deleteMany table condition : Tx σ ε _) where
  step before result after committed := by
    rw [(commits_deleteMany.mp committed).2]
    exact Respects.write _

instance Respects.within [IsPreorder τ S] {part : Part σ υ} [Apart view part]
    {program : Tx υ ε α} : Respects (On view S) (within part program) where
  step before result after committed := by
    obtain ⟨value, ran, final⟩ := commits_within.mp committed
    rw [final]
    exact Respects.write _

variable [DecidableEq κ] {failure : ε} {wanted : κ}

instance Respects.findUnique [IsPreorder σ R] :
    Respects R (findUnique table wanted : Tx σ ε _) := by
  unfold Transaction.findUnique
  infer_instance

instance Respects.findUniqueOrFail [IsPreorder σ R] :
    Respects R (findUniqueOrFail table wanted failure) := by
  unfold Transaction.findUniqueOrFail
  infer_instance

instance Respects.updateExpecting [IsPreorder τ S] [Apart view table] {guard : ρ → Bool}
    {change : ρ → ρ} {keeps : ∀ row, key (change row) = key row} :
    Respects (On view S) (updateExpecting table wanted guard change failure keeps) := by
  unfold Transaction.updateExpecting
  infer_instance

instance Respects.create [IsPreorder τ S] [Apart view table] {row : ρ} :
    Respects (On view S) (create table row failure) where
  step before result after committed := by
    obtain ⟨next, inserted, final⟩ := commits_create.mp committed
    rw [final]
    exact Respects.write _

instance Respects.createMany [IsPreorder τ S] [Apart view table] {rows : List ρ} :
    Respects (On view S) (createMany table rows failure) where
  step before result after committed := by
    obtain ⟨next, inserted, final⟩ := commits_createMany.mp committed
    rw [final]
    exact Respects.write _

end Statements

end Transaction
