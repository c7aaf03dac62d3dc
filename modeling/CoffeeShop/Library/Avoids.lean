import CoffeeShop.Library.Aborts
import CoffeeShop.Library.Respects

/-!
Failures that a transaction never raises.

A program avoids a kind of failures from the stores of an assertion if no run on such
a store aborts for one of them.  In a sequence the first part also has to keep the
assertion for the rest.
-/

namespace Transaction

variable {σ τ ε α β : Type}

/-- No run on a store of the assertion aborts with a forbidden failure. -/
class Avoids (P : σ → Prop) (forbidden : ε → Prop) (program : Tx σ ε α) : Prop where
  avoids : ∀ ⦃before failure⦄, P before → Aborts program before failure → ¬forbidden failure

/-- A failure that a program may raise. -/
class Permitted (forbidden : ε → Prop) (failure : ε) : Prop where
  permitted : ¬forbidden failure

/-- Nothing is asked of the store. -/
def Anything (_ : σ) : Prop := True

instance {program : Tx σ ε α} : Preserves Anything program where
  step _ _ _ _ _ := trivial

namespace Avoids

variable {P : σ → Prop} {forbidden : ε → Prop} {failure : ε}

instance pure (value : α) : Avoids P forbidden (Pure.pure value : Tx σ ε α) where
  avoids _ _ _ aborted := (aborts_pure.mp aborted).elim

instance bind {program : Tx σ ε α} {next : α → Tx σ ε β} [first : Avoids P forbidden program]
    [kept : Preserves P program] [second : ∀ value, Avoids P forbidden (next value)] :
    Avoids P forbidden (program >>= next) where
  avoids before failure holds aborted := by
    rcases aborts_bind.mp aborted with early | ⟨value, middle, ran, late⟩
    · exact first.avoids holds early
    · exact (second value).avoids (kept.step ran holds) late

/-- The rest of a program may rely on what the first part establishes of its result. -/
theorem andThen {program : Tx σ ε α} {next : α → Tx σ ε β} (first : Avoids P forbidden program)
    (kept : Preserves P program)
    (second : ∀ value, (∃ before after, P before ∧ Commits program before value after) →
      Avoids P forbidden (next value)) : Avoids P forbidden (program >>= next) where
  avoids before failure holds aborted := by
    rcases aborts_bind.mp aborted with early | ⟨value, middle, ran, late⟩
    · exact first.avoids holds early
    · exact (second value ⟨before, middle, holds, ran⟩).avoids (kept.step ran holds) late

instance throw [permitted : Permitted forbidden failure] :
    Avoids P forbidden (throw failure : Tx σ ε α) where
  avoids _ _ _ aborted := by
    rw [aborts_throw.mp aborted]
    exact permitted.permitted

instance get : Avoids P forbidden (get : Tx σ ε σ) where
  avoids _ _ _ aborted := (aborts_get.mp aborted).elim

instance require {condition : Prop} [Decidable condition]
    [permitted : Permitted forbidden failure] :
    Avoids P forbidden (require condition failure) where
  avoids _ _ _ aborted := by
    rw [(aborts_require.mp aborted).2]
    exact permitted.permitted

instance orFail {value : Option α} [permitted : Permitted forbidden failure] :
    Avoids P forbidden (orFail value failure) where
  avoids _ _ _ aborted := by
    rw [(aborts_orFail.mp aborted).2]
    exact permitted.permitted

instance ite {condition : Prop} [Decidable condition] {yes no : Tx σ ε α}
    [first : Avoids P forbidden yes] [second : Avoids P forbidden no] :
    Avoids P forbidden (if condition then yes else no) := by
  by_cases holds : condition
  · rw [if_pos holds]
    exact first
  · rw [if_neg holds]
    exact second

instance when {condition : Prop} [Decidable condition] {program : Tx σ ε Unit}
    [Avoids P forbidden program] : Avoids P forbidden (when condition program) := by
  unfold Transaction.when
  infer_instance

instance ifSome {value : Option α} {present : α → Tx σ ε β} {absent : Tx σ ε β}
    [first : ∀ content, Avoids P forbidden (present content)]
    [second : Avoids P forbidden absent] : Avoids P forbidden (ifSome value present absent) := by
  cases value with
  | none => exact second
  | some content => exact first content

instance whenSome {value : Option α} {body : α → Tx σ ε Unit}
    [∀ content, Avoids P forbidden (body content)] : Avoids P forbidden (whenSome value body) := by
  unfold Transaction.whenSome
  infer_instance

instance forEach {items : List α} {body : α → Tx σ ε Unit}
    [∀ item, Avoids P forbidden (body item)] [∀ item, Preserves P (body item)] :
    Avoids P forbidden (forEach items body) := by
  induction items with
  | nil => exact pure ()
  | cons head tail inductionHypothesis =>
      unfold Transaction.forEach
      infer_instance

instance collect {items : List α} {body : α → Tx σ ε β}
    [∀ item, Avoids P forbidden (body item)] [∀ item, Preserves P (body item)] :
    Avoids P forbidden (collect items body) := by
  induction items with
  | nil => exact pure []
  | cons head tail inductionHypothesis =>
      unfold Transaction.collect
      infer_instance

/-- A program of a part avoids what it avoids on the part. -/
theorem within {part : Part σ τ} {Q : τ → Prop} {program : Tx τ ε α}
    (avoids : Avoids Q forbidden program) (holds : ∀ store, P store → Q (part.get store)) :
    Avoids P forbidden (within part program) where
  avoids before _ start aborted := avoids.avoids (holds before start) (aborts_within.mp aborted)

section Statements

variable {ρ κ : Type} {key : ρ → κ} {table : Part σ (Table key)} {condition : ρ → Bool}

instance findMany : Avoids P forbidden (findMany table condition : Tx σ ε _) where
  avoids _ _ _ aborted := (aborts_findMany.mp aborted).elim

instance findFirst : Avoids P forbidden (findFirst table condition : Tx σ ε _) where
  avoids _ _ _ aborted := (aborts_findFirst.mp aborted).elim

instance findFirstOrFail [Permitted forbidden failure] :
    Avoids P forbidden (findFirstOrFail table condition failure) := by
  unfold Transaction.findFirstOrFail
  infer_instance

instance updateMany {change : ρ → ρ} {keeps : ∀ row, key (change row) = key row} :
    Avoids P forbidden (updateMany table condition change keeps : Tx σ ε _) where
  avoids _ _ _ aborted := (aborts_updateMany.mp aborted).elim

instance deleteMany : Avoids P forbidden (deleteMany table condition : Tx σ ε _) where
  avoids _ _ _ aborted := (aborts_deleteMany.mp aborted).elim

variable [DecidableEq κ] {wanted : κ}

instance findUnique : Avoids P forbidden (findUnique table wanted : Tx σ ε _) where
  avoids _ _ _ aborted := (aborts_findUnique.mp aborted).elim

instance findUniqueOrFail [Permitted forbidden failure] :
    Avoids P forbidden (findUniqueOrFail table wanted failure) := by
  unfold Transaction.findUniqueOrFail
  infer_instance

instance updateExpecting {guard : ρ → Bool} {change : ρ → ρ}
    {keeps : ∀ row, key (change row) = key row} [permitted : Permitted forbidden failure] :
    Avoids P forbidden (updateExpecting table wanted guard change failure keeps) where
  avoids _ _ _ aborted := by
    rw [(aborts_updateExpecting.mp aborted).2]
    exact permitted.permitted

instance create {row : ρ} [permitted : Permitted forbidden failure] :
    Avoids P forbidden (create table row failure) where
  avoids _ _ _ aborted := by
    simp only [Transaction.create, aborts_bind, aborts_get, aborts_orFail, aborts_modify,
      false_or, and_false, exists_false, or_false] at aborted
    obtain ⟨_, _, -, -, rfl⟩ := aborted
    exact permitted.permitted

instance createMany {rows : List ρ} [permitted : Permitted forbidden failure] :
    Avoids P forbidden (createMany table rows failure) where
  avoids _ _ _ aborted := by
    simp only [Transaction.createMany, aborts_bind, aborts_get, aborts_orFail, aborts_modify,
      false_or, and_false, exists_false, or_false] at aborted
    obtain ⟨_, _, -, -, rfl⟩ := aborted
    exact permitted.permitted

end Statements

end Avoids

end Transaction
