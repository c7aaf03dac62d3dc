import CoffeeShop.Library.Respects

/-!
Histories of transactions.

A history records the transactions that ran one after the other, each with the answer
it gave and the stores around it.  A transaction that aborts leaves its store, so every
list of transactions has a history.
-/

namespace Transaction

variable {σ ε ι α : Type}

/-- A transaction that ran, with its answer and the stores before and after it. -/
structure Entry (σ ε ι α : Type) where
  event : ι
  answer : Except ε α
  before : σ
  after : σ

/-- Run the program of the event on the store. -/
def record (execute : ι → Tx σ ε α) (store : σ) (event : ι) : Entry σ ε ι α :=
  match execute event store with
  | .ok (result, after) => { event, answer := .ok result, before := store, after }
  | .error failure => { event, answer := .error failure, before := store, after := store }

/-- What happens when the events run in this order. -/
def history (execute : ι → Tx σ ε α) : σ → List ι → List (Entry σ ε ι α)
  | _, [] => []
  | store, event :: events =>
      let entry := record execute store event
      entry :: history execute entry.after events

/-- The store that the events leave. -/
def final (execute : ι → Tx σ ε α) : σ → List ι → σ
  | store, [] => store
  | store, event :: events => final execute (record execute store event).after events

section Record

variable {execute : ι → Tx σ ε α} {store : σ} {event : ι}

@[simp] theorem record_event : (record execute store event).event = event := by
  unfold record
  split <;> rfl

@[simp] theorem record_before : (record execute store event).before = store := by
  unfold record
  split <;> rfl

/-- An entry commits its answer, or aborts and changes nothing. -/
theorem Entry.cases {entry : Entry σ ε ι α}
    (run : entry = record execute entry.before entry.event) :
    (∃ result, entry.answer = .ok result ∧
      Commits (execute entry.event) entry.before result entry.after) ∨
    ∃ failure, entry.answer = .error failure ∧ entry.after = entry.before := by
  obtain ⟨event, answer, before, after⟩ := entry
  unfold record at run
  cases ran : execute event before with
  | error failure =>
      simp only [ran, Entry.mk.injEq, true_and] at run
      exact .inr ⟨failure, run⟩
  | ok pair =>
      simp only [ran, Entry.mk.injEq, true_and] at run
      obtain ⟨rfl, rfl⟩ := run
      exact .inl ⟨pair.1, rfl, ran⟩

theorem record_of_commits {result : α} {after : σ}
    (committed : Commits (execute event) store result after) :
    record execute store event = { event, answer := .ok result, before := store, after } := by
  unfold Commits at committed
  simp [record, committed]

theorem record_of_error {failure : ε} (failed : execute event store = .error failure) :
    record execute store event =
      { event, answer := .error failure, before := store, after := store } := by
  simp [record, failed]

end Record

section History

variable {execute : ι → Tx σ ε α} {store : σ} {events : List ι}
variable {first middle last : List (Entry σ ε ι α)} {earlier later : Entry σ ε ι α}

/-- Each entry of a history is the run of its event on the store before it. -/
theorem eq_record_of_mem (membership : later ∈ history execute store events) :
    later = record execute later.before later.event := by
  induction events generalizing store with
  | nil => simp [history] at membership
  | cons event events inductionHypothesis =>
      rcases List.mem_cons.mp membership with rfl | inTail
      · simp
      · exact inductionHypothesis inTail

/-- The rest of a history is the history of the rest from the store that was left. -/
theorem exists_history_tail (split : history execute store events = first ++ earlier :: last) :
    ∃ remaining, last = history execute earlier.after remaining := by
  induction first generalizing store events with
  | nil =>
      cases events with
      | nil => simp [history] at split
      | cons event events =>
          simp only [history, List.nil_append, List.cons.injEq] at split
          obtain ⟨rfl, rfl⟩ := split
          exact ⟨events, rfl⟩
  | cons head first inductionHypothesis =>
      cases events with
      | nil => simp [history] at split
      | cons event events =>
          simp only [history, List.cons_append, List.cons.injEq] at split
          exact inductionHypothesis split.2

/-- What holds of the first store and is kept by the entries up to some entry holds before it. -/
theorem holds_before {P : σ → Prop} (split : history execute store events = first ++ later :: last)
    (start : P store) (kept : ∀ entry ∈ first, P entry.before → P entry.after) :
    P later.before := by
  induction first generalizing store events with
  | nil =>
      cases events with
      | nil => simp [history] at split
      | cons event events =>
          simp only [history, List.nil_append, List.cons.injEq] at split
          rw [← split.1, record_before]
          exact start
  | cons head first inductionHypothesis =>
      cases events with
      | nil => simp [history] at split
      | cons event events =>
          simp only [history, List.cons_append, List.cons.injEq] at split
          obtain ⟨rfl, rest⟩ := split
          apply inductionHypothesis rest
          · apply kept _ List.mem_cons_self
            rw [record_before]
            exact start
          · exact fun entry inFirst => kept entry (List.mem_cons_of_mem _ inFirst)

/-- What an entry leaves and the entries after it keep holds before a later entry. -/
theorem holds_until {P : σ → Prop}
    (split : history execute store events = first ++ earlier :: (middle ++ later :: last))
    (start : P earlier.after) (kept : ∀ entry ∈ middle, P entry.before → P entry.after) :
    P later.before := by
  obtain ⟨remaining, rest⟩ := exists_history_tail split
  exact holds_before rest.symm start kept

theorem final_append {front back : List ι} : final execute store (front ++ back) =
    final execute (final execute store front) back := by
  induction front generalizing store with
  | nil => rfl
  | cons event front inductionHypothesis => exact inductionHypothesis

/-- What a summary of the entries says about the store is kept along a history. -/
theorem foldl_history {β : Type} {note : β → Entry σ ε ι α → β} {P : β → σ → Prop} {summary : β}
    (start : P summary store)
    (kept : ∀ entry ∈ history execute store events, ∀ summary,
      P summary entry.before → P (note summary entry) entry.after) :
    P ((history execute store events).foldl note summary) (final execute store events) := by
  induction events generalizing store summary with
  | nil => exact start
  | cons event events inductionHypothesis =>
      apply inductionHypothesis
      · apply kept _ List.mem_cons_self
        rw [record_before]
        exact start
      · exact fun entry inTail => kept entry (List.mem_cons_of_mem _ inTail)

end History

end Transaction
