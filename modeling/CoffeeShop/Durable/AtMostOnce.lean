import CoffeeShop.Durable.Idempotency
import CoffeeShop.Library.Aborts

/-!
A command takes effect at most once for its key.

A key that has been used keeps its completed row until the housekeeping drops it, and
a call that finds the row changes nothing.
-/

namespace CoffeeShop

namespace IdempotencyService

open Transaction Backend

variable {σ Payload Result Response : Type} [DecidableEq Payload]
variable {before after : Backend σ Payload Response} {toJson : Result → Response}
variable {input request : IdempotentOperationInput Payload} {operation : Tx σ Failure Result}
variable {now : Timestamp} {result : Result} {response : Response}

/-- The key has a completed row with the payload and the response. -/
def Recorded (input : IdempotentOperationInput Payload) (response : Response)
    (backend : Backend σ Payload Response) : Prop :=
  ∃ row, backend.requests.find? input.requestKey = some row ∧ row.requestHash = input.request ∧
    row.status = .completed ∧ row.response = some response

theorem commits_replay {existing : IdempotencyRequest Payload Response} {hash : Payload}
    {outcome : Outcome Result Response} :
    Commits (replay existing hash) before outcome after ↔
      existing.requestHash = hash ∧ existing.status = .completed ∧
        (∃ response, existing.response = some response ∧ outcome = .replayed response) ∧
        after = before := by
  simp only [replay, commits_bind, commits_require, commits_orFail, commits_pure]
  constructor
  · rintro ⟨_, _, ⟨same, rfl⟩, _, _, ⟨completed, rfl⟩, response, _, ⟨stored, rfl⟩, rfl, rfl⟩
    exact ⟨same, completed, ⟨response, stored, rfl⟩, rfl⟩
  · rintro ⟨same, completed, ⟨response, stored, rfl⟩, rfl⟩
    exact ⟨(), _, ⟨same, rfl⟩, (), _, ⟨completed, rfl⟩, response, _, ⟨stored, rfl⟩, rfl, rfl⟩

/-- The transaction runs the callback once, or it replays and changes nothing. -/
theorem commits_executeInTransaction {outcome : Outcome Result Response}
    (committed : Commits (executeInTransaction toJson input operation now) before outcome after) :
    (∃ result, outcome = .performed result ∧ before.requests.find? input.requestKey = none ∧
      Commits operation before.store result after.store ∧ Recorded input (toJson result) after ∧
      ∀ key, key ≠ input.requestKey → after.requests.find? key = before.requests.find? key) ∨
    (∃ response, outcome = .replayed response ∧ after = before) := by
  simp only [executeInTransaction, findExisting, commits_bind, commits_findUnique,
    commits_ifSome] at committed
  obtain ⟨_, _, ⟨rfl, rfl⟩, ⟨existing, -, replayed⟩ | ⟨absent, performed⟩⟩ := committed
  · obtain ⟨-, -, ⟨response, -, rfl⟩, rfl⟩ := commits_replay.mp replayed
    exact .inr ⟨response, rfl, rfl⟩
  · simp only [perform, commits_bind, commits_create, commits_within, commits_updateExpecting,
      commits_pure] at performed
    obtain ⟨_, _, ⟨next, inserted, rfl⟩, result, _, ⟨store, ran, rfl⟩, _, _, ⟨-, rfl⟩, rfl, rfl⟩ :=
      performed
    left
    simp only [idempotencyRequest_get] at absent inserted
    refine ⟨result, rfl, absent, ran, ?_, fun key differs => ?_⟩
    · simp only [Recorded, idempotencyRequest_set_requests, storePart_set_requests,
        Table.find?_update, idempotencyRequest_get, Table.find?_insert? inserted]
      simp [newRequest]
    · simp only [idempotencyRequest_set_requests, storePart_set_requests, Table.find?_update,
        idempotencyRequest_get, Table.find?_insert? inserted]
      have other : (newRequest input now : IdempotencyRequest Payload Response).requestKey ≠ key :=
        Ne.symm differs
      rw [if_neg other]
      cases found : (Backend.requests _).find? key with
      | none => rfl
      | some row =>
          have own : row.requestKey = key := Table.find?_key found
          simp [own, differs]

/-- What a call answers once its key is recorded with the input and the response. -/
def answerOf (input request : IdempotentOperationInput Payload) (response : Response) :
    Except Failure (Option (Outcome Result Response)) :=
  if request.request = input.request then .ok (some (.replayed response))
  else .error differentRequest

theorem Recorded.replays (recorded : Recorded input response before)
    (own : request.requestKey = input.requestKey) {event : Event σ Payload Result}
    (call : event.input = some request) :
    record (Event.execute toJson) before event =
      { event, answer := answerOf input request response, before, after := before } := by
  obtain ⟨row, found, hash, completed, stored⟩ := recorded
  rw [← own] at found
  by_cases same : request.request = input.request
  · have matched : row.requestHash = request.request := hash.trans same.symm
    have replayed : Commits (replay row request.request) before
        (.replayed response : Outcome Result Response) before :=
      commits_replay.mpr ⟨matched, completed, ⟨response, stored, rfl⟩, rfl⟩
    simp only [answerOf, if_pos same]
    apply record_of_commits
    cases event with
    | lookup other =>
        cases call
        simp only [Event.execute, lookup, findExisting, commits_bind, commits_findUnique,
          commits_ifSome, commits_pure]
        exact ⟨some row, before, ⟨found.symm, rfl⟩,
          .inl ⟨row, rfl, _, before, replayed, rfl, rfl⟩⟩
    | transact other operation now =>
        cases call
        simp only [Event.execute, executeInTransaction, findExisting, commits_map, commits_bind,
          commits_findUnique, commits_ifSome]
        exact ⟨_, ⟨some row, before, ⟨found.symm, rfl⟩, .inl ⟨row, rfl, replayed⟩⟩, rfl⟩
    | housekeeping batch now => cases call
    | other program => cases call
  · have differs : row.requestHash ≠ request.request := fun equal =>
      same (equal.symm.trans hash)
    have refused : Aborts (replay row request.request :
        Tx (Backend σ Payload Response) Failure (Outcome Result Response)) before
        differentRequest := by
      simp [replay, differs]
    simp only [answerOf, if_neg same]
    apply record_of_error
    cases event with
    | lookup other =>
        cases call
        change Aborts (lookup request) before differentRequest
        simp only [lookup, findExisting, aborts_bind, commits_findUnique, aborts_ifSome]
        exact .inr ⟨some row, before, ⟨found.symm, rfl⟩, .inl ⟨row, rfl, .inl refused⟩⟩
    | transact other operation now =>
        cases call
        change Aborts (some <$> executeInTransaction toJson request operation now) before
          differentRequest
        simp only [aborts_map, executeInTransaction, findExisting, aborts_bind, commits_findUnique,
          aborts_ifSome]
        exact .inr ⟨some row, before, ⟨found.symm, rfl⟩, .inl ⟨row, rfl, refused⟩⟩
    | housekeeping batch now => cases call
    | other program => cases call

theorem commits_lookup {answer : Option (Outcome Result Response)}
    (committed : Commits (lookup input) before answer after) :
    (∀ result, answer ≠ some (.performed result)) ∧ after = before := by
  simp only [lookup, findExisting, commits_bind, commits_findUnique, commits_ifSome,
    commits_pure] at committed
  obtain ⟨_, _, ⟨-, rfl⟩, ⟨existing, -, _, _, replayed, rfl, rfl⟩ | ⟨-, rfl, rfl⟩⟩ := committed
  · obtain ⟨-, -, ⟨response, -, rfl⟩, rfl⟩ := commits_replay.mp replayed
    exact ⟨fun result equal => (by cases equal), rfl⟩
  · exact ⟨fun result equal => (by cases equal), rfl⟩

omit [DecidableEq Payload] in
theorem commits_purge {batch : RequestKey → Bool} {done : Unit}
    (committed : Commits (purge batch now) before done after) :
    after = { before with
      requests := before.requests.delete (fun row =>
        batch row.requestKey && isPurgeable now row) } := by
  simp only [purge, commits_bind, commits_deleteMany, commits_pure] at committed
  obtain ⟨_, _, ⟨-, rfl⟩, -, rfl⟩ := committed
  rfl

/-- Which rows one transaction leaves: all of them, apart from those the housekeeping drops. -/
theorem find?_of_commits {event : Event σ Payload Result}
    {answer : Option (Outcome Result Response)} {key : RequestKey}
    {row : IdempotencyRequest Payload Response}
    (committed : Commits (event.execute toJson) before answer after)
    (found : before.requests.find? key = some row) :
    after.requests.find? key = some row ∨
      (after.requests.find? key = none ∧ isProtected key.operation = false) := by
  cases event with
  | lookup input =>
      obtain ⟨-, rfl⟩ := commits_lookup committed
      exact .inl found
  | transact input operation now =>
      obtain ⟨outcome, ran, -⟩ := commits_map.mp committed
      rcases commits_executeInTransaction ran with
        ⟨result, -, absent, -, -, others⟩ | ⟨response, -, rfl⟩
      · have differs : key ≠ input.requestKey := by
          rintro rfl
          rw [absent] at found
          cases found
        exact .inl ((others key differs).trans found)
      · exact .inl found
  | housekeeping batch now =>
      simp only [Event.execute, commits_bind, commits_pure] at committed
      obtain ⟨_, _, purged, -, rfl⟩ := committed
      rw [commits_purge purged]
      simp only [Table.find?_delete, found]
      by_cases dropped : batch row.requestKey && isPurgeable now row
      · right
        have own : row.requestKey = key := Table.find?_key found
        simp only [Bool.and_eq_true, isPurgeable, own] at dropped
        have unprotected : isProtected key.operation = false := by simpa using dropped.2.2
        simp [Option.filter, isPurgeable, own, dropped, unprotected]
      · left
        simp [Option.filter, dropped]
  | other program =>
      simp only [Event.execute, commits_bind, commits_within, commits_pure] at committed
      obtain ⟨_, _, ⟨store, -, rfl⟩, -, rfl⟩ := committed
      exact .inl found

abbrev Entry (σ Payload Result Response : Type) : Type :=
  Transaction.Entry (Backend σ Payload Response) Failure (Event σ Payload Result)
    (Option (Outcome Result Response))

/-- The entry ran the callback of the input and committed its effect. -/
def Performs (entry : Entry σ Payload Result Response) (input : IdempotentOperationInput Payload)
    (result : Result) : Prop :=
  entry.event.input = some input ∧ entry.answer = .ok (some (.performed result))

/-- The row of the key was there, and the entry dropped it. -/
def Erases (entry : Entry σ Payload Result Response) (key : RequestKey) : Prop :=
  (entry.before.requests.find? key).isSome ∧ entry.after.requests.find? key = none

/-- A performed call found no row, ran its callback and left a completed row. -/
theorem performs_record {entry : Entry σ Payload Result Response} {result : Result}
    (performs : Performs entry input result)
    (run : entry = record (Event.execute toJson) entry.before entry.event) :
    entry.before.requests.find? input.requestKey = none ∧
      Recorded input (toJson result) entry.after ∧
      ∃ operation now, entry.event = .transact input operation now ∧
        Commits operation entry.before.store result entry.after.store := by
  obtain ⟨call, answer⟩ := performs
  rcases entry.cases run with ⟨given, same, committed⟩ | ⟨failure, failed, -⟩
  · rw [answer] at same
    cases same
    obtain ⟨event, _, before, after⟩ := entry
    cases event with
    | lookup other =>
        exact ((commits_lookup committed).1 result rfl).elim
    | transact other operation now =>
        cases call
        obtain ⟨outcome, ran, equal⟩ := commits_map.mp committed
        cases equal
        rcases commits_executeInTransaction ran with
          ⟨result, same, absent, effect, recorded, -⟩ | ⟨response, same, -⟩
        · cases same
          exact ⟨absent, recorded, operation, now, rfl, effect⟩
        · cases same
    | housekeeping batch now => cases call
    | other program => cases call
  · rw [answer] at failed
    cases failed

/-- The row of a key stays until an entry erases it, which no entry does for a protected key. -/
theorem find?_after_record {entry : Entry σ Payload Result Response} {key : RequestKey}
    {row : IdempotencyRequest Payload Response}
    (run : entry = record (Event.execute toJson) entry.before entry.event)
    (found : entry.before.requests.find? key = some row) :
    entry.after.requests.find? key = some row ∨
      (Erases entry key ∧ isProtected key.operation = false) := by
  rcases entry.cases run with ⟨answer, -, committed⟩ | ⟨failure, -, same⟩
  · rcases find?_of_commits committed found with kept | ⟨gone, unprotected⟩
    · exact .inl kept
    · exact .inr ⟨⟨by simp [found], gone⟩, unprotected⟩
  · rw [same]
    exact .inl found

/-- What the service guarantees of the transactions that ran. -/
structure AtMostOnce (toJson : Result → Response)
    (entries : List (Entry σ Payload Result Response)) : Prop where
  /-- The first success of a key took effect while the key had no row, and left one. -/
  recorded : ∀ entry ∈ entries, ∀ input result, Performs entry input result →
    entry.before.requests.find? input.requestKey = none ∧
      Recorded input (toJson result) entry.after ∧
      ∃ operation now, entry.event = .transact input operation now ∧
        Commits operation entry.before.store result entry.after.store
  /-- As long as that row exists, a later call with the key has no effect: it is answered with
  the stored response, or refused if its payload is another one.  The row of a protected
  operation exists forever. -/
  later_calls : ∀ first performed middle later last input result request,
    entries = first ++ performed :: (middle ++ later :: last) →
    Performs performed input result → later.event.input = some request →
    request.requestKey = input.requestKey →
    (isProtected input.requestKey.operation = true ∨
      ∀ entry ∈ middle, ¬Erases entry input.requestKey) →
    later.answer = answerOf input request (toJson result) ∧ later.after = later.before
  /-- What aborts leaves neither a row nor an effect. -/
  failed : ∀ entry ∈ entries, ∀ failure, entry.answer = .error failure →
    entry.after = entry.before
  /-- A key without a row may be used: the outcome is the one of the callback. -/
  fresh : ∀ entry ∈ entries, ∀ input operation now, entry.event = .transact input operation now →
    entry.before.requests.find? input.requestKey = none →
    (∀ result store, Commits operation entry.before.store result store →
      Performs entry input result ∧ entry.after.store = store) ∧
    ∀ failure, Aborts operation entry.before.store failure →
      entry.answer = .error failure ∧ entry.after = entry.before

theorem perform_of_fresh {entry : Entry σ Payload Result Response}
    (run : entry = record (Event.execute toJson) entry.before entry.event)
    (event : entry.event = .transact input operation now)
    (absent : entry.before.requests.find? input.requestKey = none) :
    (∀ result store, Commits operation entry.before.store result store →
      Performs entry input result ∧ entry.after.store = store) ∧
    ∀ failure, Aborts operation entry.before.store failure →
      entry.answer = .error failure ∧ entry.after = entry.before := by
  have free : ∀ other ∈ entry.before.requests, other.requestKey ≠ input.requestKey :=
    Table.find?_eq_none.mp absent
  have vacant : (entry.before.requests.insert? (newRequest input now)).isSome :=
    Table.insert?_isSome.mpr free
  obtain ⟨next, inserted⟩ := Option.isSome_iff_exists.mp vacant
  have found : next.find? input.requestKey = some (newRequest input now) := by
    rw [Table.find?_insert? inserted]
    exact if_pos rfl
  constructor
  · intro result store ran
    have committed : ∃ requests, Commits (Event.execute toJson (.transact input operation now))
        entry.before (some (.performed result)) { requests, store } := by
      refine ⟨next.update (fun row => row.requestKey = input.requestKey && true) fun row =>
        { row with
          status := .completed
          response := some (toJson result)
          completedAt := some now }, commits_map.mpr ⟨.performed result, ?_, rfl⟩⟩
      simp only [executeInTransaction, findExisting, perform, commits_bind, commits_findUnique,
        commits_ifSome, commits_create, commits_within, commits_updateExpecting, commits_pure]
      exact ⟨none, entry.before, ⟨absent.symm, rfl⟩, .inr ⟨rfl, (), _, ⟨next, inserted, rfl⟩,
        result, _, ⟨store, ran, rfl⟩, (), _, ⟨⟨_, found, trivial⟩, rfl⟩, rfl, rfl⟩⟩
    obtain ⟨requests, committed⟩ := committed
    rw [event, record_of_commits committed] at run
    rw [run]
    exact ⟨⟨rfl, rfl⟩, rfl⟩
  · intro failure aborted
    have raised : Aborts (Event.execute toJson (.transact input operation now)) entry.before
        failure := by
      refine aborts_map.mpr ?_
      simp only [executeInTransaction, findExisting, perform, aborts_bind, commits_findUnique,
        aborts_ifSome, commits_create, aborts_within]
      exact .inr ⟨none, entry.before, ⟨absent.symm, rfl⟩,
        .inr ⟨rfl, .inr ⟨(), _, ⟨next, inserted, rfl⟩, .inl aborted⟩⟩⟩
    rw [event, record_of_error raised] at run
    rw [run]
    exact ⟨rfl, rfl⟩

/-- In every history, whatever is called, retried, purged or run beside it. -/
theorem execute_atMostOnce (toJson : Result → Response) (store : σ)
    (events : List (Event σ Payload Result)) :
    AtMostOnce toJson (history (Event.execute toJson) (Backend.start store) events :
      List (Entry σ Payload Result Response)) where
  recorded entry membership input result performs :=
    performs_record performs (eq_record_of_mem membership)
  later_calls := by
    intro first performed middle later last input result request split performs call own lasting
    have membership : ∀ entry ∈ performed :: (middle ++ later :: last),
        entry = record (Event.execute toJson) entry.before entry.event := fun entry inRest =>
      eq_record_of_mem (split ▸ List.mem_append_right first inRest)
    obtain ⟨-, recorded, -⟩ :=
      performs_record performs (membership performed List.mem_cons_self)
    -- The completed row survives every entry up to the later call.
    have kept : ∀ entry ∈ middle, Recorded input (toJson result) entry.before →
        Recorded input (toJson result) entry.after := by
      rintro entry inMiddle ⟨row, found, content⟩
      have run := membership entry (List.mem_cons_of_mem _ (List.mem_append_left _ inMiddle))
      rcases find?_after_record run found with same | ⟨erases, unprotected⟩
      · exact ⟨row, same, content⟩
      · rcases lasting with isProtected | neverErased
        · rw [isProtected] at unprotected
          cases unprotected
        · exact (neverErased entry inMiddle erases).elim
    have present : Recorded input (toJson result) later.before := holds_until split recorded kept
    have run := membership later
      (List.mem_cons_of_mem _ (List.mem_append_right _ List.mem_cons_self))
    rw [present.replays own call] at run
    rw [run]
    exact ⟨rfl, rfl⟩
  failed entry membership failure answer := by
    rcases entry.cases (eq_record_of_mem membership) with ⟨result, same, -⟩ | ⟨raised, -, same⟩
    · rw [answer] at same
      cases same
    · exact same
  fresh entry membership input operation now event absent :=
    perform_of_fresh (eq_record_of_mem membership) event absent

end IdempotencyService

end CoffeeShop
