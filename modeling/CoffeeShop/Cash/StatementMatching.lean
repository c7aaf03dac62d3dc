import CoffeeShop.Cash.HandoverCredits

/-!
Bank statements are matched with hand-overs that they pay, for good.
-/

namespace CoffeeShop

open Transaction BankReconciliation

theorem BankStatementEntry.isOpen_ne {entry : BankStatementEntry} (opened : entry.isOpen = true) :
    entry.matchStatus ≠ .matched ∧ entry.matchStatus ≠ .ignored := by
  constructor
  · intro status
    simp [isOpen, status] at opened
  · intro status
    simp [isOpen, status] at opened

namespace BankStore

/-- What the entries say of the hand-overs. -/
structure Matches (store : BankStore) : Prop where
  matched : ∀ entry ∈ store.entries, entry.matchStatus = .matched →
    ∃ handover ∈ store.database.cash.handovers,
      entry.matchedHandoverId = some handover.id ∧ entry.Pays handover
  unlinked : ∀ entry ∈ store.entries, entry.matchStatus ≠ .matched → entry.matchedHandoverId = none
  debit : ∀ entry ∈ store.entries, entry.direction = .debit → entry.matchStatus = .ignored
  single : ∀ entry ∈ store.entries, ∀ other ∈ store.entries, ∀ id,
    entry.matchedHandoverId = some id → other.matchedHandoverId = some id → entry = other

namespace Matches

variable {before after : BankStore}

theorem imported {entry : BankStatementEntry} {entries : Table BankStatementEntry.id}
    (holds : before.Matches) (new : entry.IsImported)
    (inserted : before.entries.insert? entry = some entries) :
    Matches { before with entries } := by
  constructor
  · intro other member isMatched
    rcases (Table.mem_insert? inserted).mp member with old | rfl
    · exact holds.matched other old isMatched
    · exact (new.unmatched isMatched).elim
  · intro other member unmatched
    rcases (Table.mem_insert? inserted).mp member with old | rfl
    · exact holds.unlinked other old unmatched
    · exact new.unlinked
  · intro other member direction
    rcases (Table.mem_insert? inserted).mp member with old | rfl
    · exact holds.debit other old direction
    · exact new.debit direction
  · intro first firstMember second secondMember id linked alsoLinked
    rcases (Table.mem_insert? inserted).mp firstMember with firstOld | rfl
    · rcases (Table.mem_insert? inserted).mp secondMember with secondOld | rfl
      · exact holds.single first firstOld second secondOld id linked alsoLinked
      · exact nomatch new.unlinked.symm.trans alsoLinked
    · exact nomatch new.unlinked.symm.trans linked

theorem reviewed {condition : BankStatementEntry → Bool}
    {change : BankStatementEntry → BankStatementEntry} {keeps : ∀ row, (change row).id = row.id}
    (holds : before.Matches) (opens : ∀ row, condition row → row.isOpen = true)
    (unlinks : ∀ row : BankStatementEntry, row.Unlinks (change row)) :
    Matches { before with entries := before.entries.update condition change keeps } := by
  have unlinked {row : BankStatementEntry} (member : row ∈ before.entries) (met : condition row) :
      (change row).matchedHandoverId = none := by
    rcases (unlinks row).unlinked with none | same
    · exact none
    · rw [same]
      exact holds.unlinked row member (BankStatementEntry.isOpen_ne (opens row met)).1
  -- the entries after the step
  have cases {row : BankStatementEntry}
      (inTable : row ∈ before.entries.update condition change keeps) :
      (∃ old ∈ before.entries, condition old ∧ change old = row) ∨ row ∈ before.entries := by
    simp only [Table.mem_update_iff] at inTable
    exact inTable.imp_right And.left
  constructor
  · intro entry member isMatched
    rcases cases member with ⟨row, inStore, met, rfl⟩ | old
    · exact ((unlinks row).unmatched isMatched).elim
    · exact holds.matched entry old isMatched
  · intro entry member unmatched
    rcases cases member with ⟨row, inStore, met, rfl⟩ | old
    · exact unlinked inStore met
    · exact holds.unlinked entry old unmatched
  · intro entry member direction
    rcases cases member with ⟨row, inStore, met, rfl⟩ | old
    · rw [(unlinks row).direction] at direction
      have ignored := holds.debit row inStore direction
      exact ((BankStatementEntry.isOpen_ne (opens row met)).2 ignored).elim
    · exact holds.debit entry old direction
  · intro first firstMember second secondMember id linked alsoLinked
    rcases cases firstMember with ⟨row, inStore, met, rfl⟩ | firstOld
    · exact nomatch (unlinked inStore met).symm.trans linked
    · rcases cases secondMember with ⟨row, inStore, met, rfl⟩ | secondOld
      · exact nomatch (unlinked inStore met).symm.trans alsoLinked
      · exact holds.single first firstOld second secondOld id linked alsoLinked

theorem linked {id : Id} {entry : BankStatementEntry} {handover : CashHandover} {now : Timestamp}
    {keeps : ∀ row : BankStatementEntry, (row.link handover.id now).id = row.id}
    (holds : before.Matches) (known : before.entries.find? id = some entry)
    (opened : entry.isOpen = true) (pays : entry.Pays handover)
    (member : handover ∈ before.database.cash.handovers)
    (free : ∀ other ∈ before.entries, other.id ≠ id →
      other.matchedHandoverId ≠ some handover.id) :
    Matches { before with
      entries := before.entries.update (fun row => row.id = id && row.isOpen)
        (fun row => row.link handover.id now) keeps } := by
  -- the entries after the step: the linked one, and the others
  have cases {row : BankStatementEntry}
      (inTable : row ∈ before.entries.update (fun row => row.id = id && row.isOpen)
        (fun row => row.link handover.id now) keeps) :
      row = entry.link handover.id now ∨ row ∈ before.entries ∧ row.id ≠ id := by
    simp only [Table.mem_update_iff] at inTable
    rcases inTable with ⟨old, inStore, met, rfl⟩ | ⟨inStore, unmet⟩
    · simp only [Bool.and_eq_true, decide_eq_true_eq] at met
      exact .inl (by rw [Table.eq_of_find? known inStore met.1])
    · refine .inr ⟨inStore, fun same => ?_⟩
      rw [Table.eq_of_find? known inStore same] at unmet
      simp [Table.find?_key known, opened] at unmet
  constructor
  · intro row inTable isMatched
    rcases cases inTable with rfl | ⟨old, -⟩
    · exact ⟨handover, member, rfl, pays.1, pays.2, pays.3, pays.4, pays.5, pays.6⟩
    · exact holds.matched row old isMatched
  · intro row inTable unmatched
    rcases cases inTable with rfl | ⟨old, -⟩
    · exact (unmatched rfl).elim
    · exact holds.unlinked row old unmatched
  · intro row inTable direction
    rcases cases inTable with rfl | ⟨old, -⟩
    · have ignored := holds.debit entry (Table.mem_of_find? known) direction
      exact ((BankStatementEntry.isOpen_ne opened).2 ignored).elim
    · exact holds.debit row old direction
  · intro first firstMember second secondMember wanted linked alsoLinked
    rcases cases firstMember with rfl | ⟨firstOld, firstOther⟩
    · rcases cases secondMember with rfl | ⟨secondOld, secondOther⟩
      · rfl
      · rw [← Option.some.inj linked] at alsoLinked
        exact (free second secondOld secondOther alsoLinked).elim
    · rcases cases secondMember with rfl | ⟨secondOld, secondOther⟩
      · rw [← Option.some.inj alsoLinked] at linked
        exact (free first firstOld firstOther linked).elim
      · exact holds.single first firstOld second secondOld wanted linked alsoLinked

theorem step (holds : before.Matches) (taken : StatementStep before after) : after.Matches := by
  cases taken with
  | worked steps =>
      refine { holds with matched := fun entry member isMatched => ?_ }
      obtain ⟨handover, inStore, link, pays⟩ := holds.matched entry member isMatched
      exact ⟨handover, HandoverBooks.settled_steps steps inStore pays.settled pays.approved, link,
        pays⟩
  | received => exact ⟨holds.matched, holds.unlinked, holds.debit, holds.single⟩
  | imported new inserted => exact holds.imported new inserted
  | reviewed keeps opens unlinks => exact holds.reviewed opens unlinks
  | linked now keeps known opened pays member free =>
      exact holds.linked known opened pays member free

theorem steps (holds : before.Matches) (taken : StatementSteps before after) : after.Matches := by
  induction taken with
  | refl => exact holds
  | tail _ last inductionHypothesis => exact inductionHypothesis.step last

end Matches

end BankStore

/-- An entry that is matched or ignored stays as it is. -/
theorem StatementStep.keepsDecided {before after : BankStore} {entry : BankStatementEntry}
    (taken : StatementStep before after) (member : entry ∈ before.entries)
    (decided : entry.isOpen = false) : entry ∈ after.entries := by
  cases taken with
  | worked | received => exact member
  | imported new inserted => exact (Table.mem_insert? inserted).mpr (.inl member)
  | @reviewed condition change keeps opens unlinks =>
      simp only [Table.mem_update_iff]
      refine .inr ⟨member, ?_⟩
      cases met : condition entry with
      | true => exact nomatch decided.symm.trans (opens entry met)
      | false => rfl
  | linked =>
      simp only [Table.mem_update_iff]
      refine .inr ⟨member, ?_⟩
      rw [decided, Bool.and_false]

section Settlements

variable {id employeeId : Id} {now : Timestamp} {before after : BankStore}

instance : Apart BankStore.database BankStore.bankStatementEntry := ⟨fun _ _ => rfl⟩

instance : Keeps BankStore.database (markUnmatched id) := by
  unfold markUnmatched
  infer_instance

instance {reason : String} : Keeps BankStore.database (markMismatch id reason) := by
  unfold markMismatch
  infer_instance

/-- The settlement of a hand-over, if the entry leads to one, is all that happens to the
database. -/
theorem commits_matchEntry (committed : Commits (matchEntry id employeeId now) before () after) :
    after.database = before.database ∨ ∃ entry handover bankReference,
      before.entries.find? id = some entry ∧ entry.isOpen = true ∧
      before.database.cash.handovers.find? handover.id = some handover ∧
      handover.destinationFundId = entry.fundId ∧ handover.amounts.transferAmount = entry.amount ∧
      handover.bankReference = entry.bankReference ∧
      Commits (CashHandovers.settle handover.id employeeId
        { bankReference, evidenceReference := handover.evidenceReference.getD "" } now)
        before.database () after.database := by
  simp only [matchEntry, commits_bind, commits_findUniqueOrFail, commits_when] at committed
  obtain ⟨entry, _, ⟨known, rfl⟩, ⟨opened, matched⟩ | ⟨-, rfl⟩⟩ := committed
  · rcases commits_ifSome.mp matched with ⟨bankReference, stated, searched⟩ | ⟨-, marked⟩
    · simp only [matchReference, commits_bind, commits_get] at searched
      obtain ⟨store, _, ⟨rfl, rfl⟩, found⟩ := searched
      rcases commits_ifSome.mp found with ⟨handover, first, decided⟩ | ⟨-, marked⟩
      · obtain ⟨inStore, met⟩ := Table.mem_of_first? first
        simp only [Bool.and_eq_true, decide_eq_true_eq] at met
        rcases commits_ifSome.mp decided with ⟨reason, -, marked⟩ | ⟨clear, linked⟩
        · exact .inl (Keeps.eq BankStore.database marked)
        · simp only [settleAndLink, commits_bind, commits_when, commits_findFirst,
            commits_require] at linked
          obtain ⟨_, middle, paid, taken, _, ⟨rfl, rfl⟩, _, _, ⟨-, rfl⟩, linked⟩ := linked
          have same := Keeps.eq BankStore.database linked
          rcases paid with ⟨-, paid⟩ | ⟨-, rfl⟩
          · obtain ⟨database, ran, rfl⟩ := commits_within.mp paid
            have amount : handover.amounts.transferAmount = entry.amount := by
              by_contra differs
              simp [obstacle, differs] at clear
            refine .inr ⟨entry, handover, bankReference, known, opened, Table.find?_of_mem inStore,
              met.1, amount, met.2.trans stated.symm, ?_⟩
            rw [same]
            exact ran
          · exact .inl same
      · exact .inl (Keeps.eq BankStore.database marked)
    · exact .inl (Keeps.eq BankStore.database marked)
  · exact .inl rfl

/-- What the bank has credited settles a hand-over to the fund of the statement. -/
theorem matchEntry_settles (holds : before.Matches)
    (committed : Commits (matchEntry id employeeId now) before () after)
    {handover : CashHandover} (member : handover ∈ after.database.cash.handovers) :
    handover ∈ before.database.cash.handovers ∨ ∃ entry ∈ before.entries, entry.id = id ∧
      entry.direction = .credit ∧ handover.destinationFundId = entry.fundId ∧
      handover.amounts.transferAmount = entry.amount := by
  rcases commits_matchEntry committed with same | ⟨entry, old, bankReference, known, opened, found,
    fund, amount, reference, ran⟩
  · rw [same] at member
    exact .inl member
  obtain ⟨destinationId, read, middle, wanted, -, -, -, posted, written⟩ :=
    HandoverSteps.commits_settle ran
  obtain rfl : read = old := Option.some.inj (wanted.symm.trans found)
  obtain ⟨-, final⟩ := commits_updateExpecting.mp written
  have same : middle.handovers = before.database.cash.handovers := Keeps.eq CashStore.handovers posted
  rw [final] at member
  simp only [CashStore.cashHandover_set_handovers, CashStore.cashHandover_get, same] at member
  rcases (HandoverBooks.mem_moved _ found).mp member with rfl | ⟨earlier, -⟩
  · have inStore := Table.mem_of_find? known
    refine .inr ⟨entry, inStore, Table.find?_key known, ?_, fund, amount⟩
    cases direction : entry.direction with
    | credit => rfl
    | debit =>
        have ignored := holds.debit entry inStore direction
        exact ((BankStatementEntry.isOpen_ne opened).2 ignored).elim
  · exact .inl earlier

end Settlements

namespace BankStore

theorem Reachable.statementsMatch [UnicodeTables] {store : BankStore} (reachable : Reachable store) :
    store.Matches := by
  obtain ⟨start, -, -, noEntries, steps⟩ := reachable
  have empty {entry : BankStatementEntry} (member : entry ∈ start.entries) : False := by
    rw [noEntries] at member
    exact Table.not_mem_empty member
  have holds : start.Matches :=
    ⟨fun _ member => (empty member).elim, fun _ member => (empty member).elim,
      fun _ member => (empty member).elim, fun _ member => (empty member).elim⟩
  induction steps with
  | refl => exact holds
  | tail _ taken inductionHypothesis => exact inductionHypothesis.steps taken.statementSteps

theorem Steps.keepsDecided [UnicodeTables] {before after : BankStore} {entry : BankStatementEntry}
    (steps : Steps before after) (member : entry ∈ before.entries)
    (decided : entry.isOpen = false) : entry ∈ after.entries := by
  induction steps with
  | refl => exact member
  | tail _ taken inductionHypothesis =>
      refine Relation.ReflTransGen.head_induction_on (motive := fun store _ =>
        entry ∈ store.entries → entry ∈ _) taken.statementSteps id ?_ inductionHypothesis
      exact fun first _ continued inStore => continued (first.keepsDecided inStore decided)

/-- Bank statement matching is sound. -/
theorem Reachable.matching_sound [UnicodeTables] {store : BankStore} (reachable : Reachable store) :
    (∀ entry ∈ store.entries, entry.matchStatus = .matched →
      ∃ handover ∈ store.database.cash.handovers, entry.matchedHandoverId = some handover.id ∧
        entry.Pays handover ∧ ∀ other ∈ store.database.cash.handovers,
          entry.matchedHandoverId = some other.id → other = handover) ∧
    (∀ entry ∈ store.entries, ∀ other ∈ store.entries, ∀ handoverId,
      entry.matchedHandoverId = some handoverId → other.matchedHandoverId = some handoverId →
        entry = other) ∧
    (∀ after, Steps store after → ∀ entry ∈ store.entries,
      entry.matchStatus = .matched ∨ entry.matchStatus = .ignored → entry ∈ after.entries) ∧
    ∀ id employeeId now after, Commits (matchEntry id employeeId now) store () after →
      ∀ handover ∈ after.database.cash.handovers, handover ∈ store.database.cash.handovers ∨
        ∃ entry ∈ store.entries, entry.id = id ∧ entry.direction = .credit ∧
          handover.destinationFundId = entry.fundId ∧
          handover.amounts.transferAmount = entry.amount := by
  have holds := reachable.statementsMatch
  refine ⟨fun entry member isMatched => ?_, holds.single, fun after steps entry member decided => ?_,
    fun id employeeId now after committed handover member =>
      matchEntry_settles holds committed member⟩
  · obtain ⟨handover, inStore, link, pays⟩ := holds.matched entry member isMatched
    refine ⟨handover, inStore, link, pays, fun other known alsoLink => ?_⟩
    rw [link] at alsoLink
    exact (Table.eq_of_key_eq inStore known (Option.some.inj alsoLink)).symm
  · refine steps.keepsDecided member ?_
    rcases decided with isMatched | isIgnored
    · simp [BankStatementEntry.isOpen, isMatched]
    · simp [BankStatementEntry.isOpen, isIgnored]

/-- The credit of the sample statement is matched. -/
theorem Reachable.matching_sound_matched :
    ∃ entry ∈ BankStore.matched.entries, entry.id = 15 ∧
      ∃ handover ∈ BankStore.matched.database.cash.handovers,
        entry.matchedHandoverId = some handover.id ∧ entry.Pays handover := by
  have credited := (Bool.and_eq_true_iff.mp BankStore.matched_rows).2
  obtain ⟨entry, found, isMatched⟩ := (Option.any_eq_true _ _).mp credited
  have member := Table.mem_of_find? found
  obtain ⟨handover, inStore, link, pays, -⟩ :=
    (Reachable.matching_sound .matched).1 entry member (of_decide_eq_true isMatched)
  exact ⟨entry, member, Table.find?_key found, handover, inStore, link, pays⟩

end BankStore

end CoffeeShop
