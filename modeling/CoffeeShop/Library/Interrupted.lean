import CoffeeShop.Library.Transaction

/-!
Loops of a transaction that others run between.

Before each round, and after the last one, the other transactions may change the store,
as far as the rounds that are done let them.
-/

namespace Transaction

variable {σ ε α : Type}

/-- A run of the loop, with the store that each of its rounds starts on.  The others see
which rounds are done. -/
inductive Interrupted (others : List α → σ → σ → Prop) (body : α → Tx σ ε Unit) :
    List α → List α → List σ → σ → σ → Prop
  | nil {done : List α} {before after : σ} (between : others done before after) :
      Interrupted others body done [] [] before after
  | cons {done rest : List α} {item : α} {starts : List σ} {before start middle after : σ}
      (between : others done before start) (round : Commits (body item) start () middle)
      (rounds : Interrupted others body (item :: done) rest starts middle after) :
      Interrupted others body done (item :: rest) (start :: starts) before after

variable {others : List α → σ → σ → Prop} {body : α → Tx σ ε Unit} {done items : List α}
variable {starts : List σ} {before after : σ}

/-- A loop that nobody interrupts. -/
theorem interrupted_forEach (committed : Commits (forEach items body) before () after) :
    ∃ starts, Interrupted (fun _ => Eq) body done items starts before after := by
  induction items generalizing before done with
  | nil =>
      rw [commits_forEach_nil] at committed
      exact ⟨[], .nil committed.symm⟩
  | cons item rest inductionHypothesis =>
      obtain ⟨middle, round, tail⟩ := commits_forEach_cons.mp committed
      obtain ⟨starts, rounds⟩ := inductionHypothesis tail
      exact ⟨before :: starts, .cons rfl round rounds⟩

namespace Interrupted

/-- What a round needs, it finds on the store it starts on. -/
theorem found {Found : α → σ → Prop}
    (needs : ∀ item start middle, Commits (body item) start () middle → Found item start)
    (run : Interrupted others body done items starts before after) :
    List.Forall₂ Found items starts := by
  induction run with
  | nil => exact .nil
  | cons _ round _ inductionHypothesis => exact .cons (needs _ _ _ round) inductionHypothesis

/-- What a round writes is there in the end, if neither the others nor the rounds for what
is apart from its item take it back. -/
theorem held {Held : α → σ → Prop} {apart : α → α → Prop}
    (writes : ∀ item start middle, Commits (body item) start () middle → Held item middle)
    (keeps : ∀ item other start middle, apart item other → Commits (body other) start () middle →
      Held item start → Held item middle)
    (leaves : ∀ done before after, others done before after → ∀ item ∈ done, Held item before →
      Held item after)
    (run : Interrupted others body done items starts before after)
    (distinct : items.Pairwise apart) (separate : ∀ item ∈ done, ∀ other ∈ items, apart item other)
    (start : ∀ item ∈ done, Held item before) :
    (∀ item ∈ done, Held item after) ∧ ∀ item ∈ items, Held item after := by
  induction run with
  | nil between =>
      exact ⟨fun item isDone => leaves _ _ _ between item isDone (start item isDone), nofun⟩
  | cons between round rounds inductionHypothesis =>
      rw [List.pairwise_cons] at distinct
      have now := inductionHypothesis distinct.2
        (List.forall_mem_cons.mpr ⟨distinct.1, fun item isDone other inRest =>
          separate item isDone other (List.mem_cons_of_mem _ inRest)⟩)
        (List.forall_mem_cons.mpr ⟨writes _ _ _ round, fun item isDone =>
          keeps item _ _ _ (separate item isDone _ List.mem_cons_self) round
            (leaves _ _ _ between item isDone (start item isDone))⟩)
      rw [List.forall_mem_cons] at now
      exact ⟨now.1.2, List.forall_mem_cons.mpr ⟨now.1.1, now.2⟩⟩

end Interrupted

end Transaction
