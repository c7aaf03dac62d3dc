import CoffeeShop.Cash.HandoverSteps

/-!
The ledger rows of hand-overs, in every reachable state.
-/

namespace CoffeeShop

open Transaction CashStore CashHandovers

namespace HandoverMove

variable {old new : CashHandover} {rows : List CashTransaction}

/-- The source of the amounts, the requester and the funds are those of the request. -/
structure Keeps (old new : CashHandover) : Prop where
  id : new.id = old.id
  amounts : new.amounts = old.amounts
  requestedById : new.requestedById = old.requestedById
  sourceFundId : new.sourceFundId = old.sourceFundId
  destinationFundId : new.destinationFundId = old.destinationFundId

theorem keeps (move : HandoverMove old new rows) : Keeps old new := by
  cases move with
  | approved | settled | registered | resolved => exact ⟨rfl, rfl, rfl, rfl, rfl⟩

theorem posting_eq (move : HandoverMove old new rows) (role : HandoverRole) :
    new.posting role = old.posting role := by
  have same := move.keeps
  cases role with
  | variance | transfer | deposit =>
      simp [CashHandover.posting, same.amounts, same.sourceFundId, same.destinationFundId]

theorem stateCheck (move : HandoverMove old new rows) (checked : old.stateCheck = true) :
    new.stateCheck = true := by
  cases move with
  | approved employeeId varianceId sourceId destinationId note due now pending =>
      simp only [CashHandover.stateCheck, pending, CashHandover.isUnsettled,
        CashHandover.isUnposted] at checked
      by_cases exact_ : old.amounts.varianceAmount = 0
      · cases due with
        | none => simp_all [CashHandover.stateCheck, CashHandover.isUnsettled]
        | some date => simp_all [CashHandover.stateCheck]
      · cases due with
        | none => simp_all [CashHandover.stateCheck, CashHandover.isUnsettled]
        | some date => simp_all [CashHandover.stateCheck]
  | settled employeeId destinationId bankReference evidenceReference now approved awaited =>
      simp_all [CashHandover.stateCheck]
  | registered bankReference evidenceReference approved awaited =>
      simp_all [CashHandover.stateCheck]
  | resolved status employeeId note now pending ends =>
      simp only [CashHandover.stateCheck, pending, CashHandover.isUnsettled,
        CashHandover.isUnposted] at checked
      rcases ends with rfl | ⟨rfl, -⟩
      · simp_all [CashHandover.stateCheck, CashHandover.isUnsettled, CashHandover.isUnposted]
      · simp_all [CashHandover.stateCheck, CashHandover.isUnsettled, CashHandover.isUnposted]

theorem not_settled (move : HandoverMove old new rows) (approved : old.status = .approved)
    (settled : old.settlementStatus = .settled) : False := by
  cases move with
  | approved _ _ _ _ _ _ _ pending => exact nomatch approved.symm.trans pending
  | settled _ _ _ _ _ _ awaited => exact nomatch settled.symm.trans awaited
  | registered _ _ _ awaited => exact nomatch settled.symm.trans awaited
  | resolved _ _ _ _ pending => exact nomatch approved.symm.trans pending

/-- References stay, and the rows are what the new references name. -/
structure Refers (old new : CashHandover) (rows : List CashTransaction) : Prop where
  kept : ∀ role id, old.entryId role = some id → new.entryId role = some id
  added : ∀ role id, new.entryId role = some id →
    old.entryId role = some id ∨ ∃ row ∈ rows, row.id = id ∧ row.Posts old role
  owned : ∀ row ∈ rows, ∃ role, new.entryId role = some row.id
  apart : (rows.map (·.id)).Nodup → ∀ role other id, old.entryId role = none →
    old.entryId other = none → new.entryId role = some id → new.entryId other = some id →
      role = other

theorem refers (move : HandoverMove old new rows) (checked : old.stateCheck = true) :
    Refers old new rows := by
  cases move with
  | approved employeeId varianceId sourceId destinationId note due now pending other =>
      have unposted (role : HandoverRole) : old.entryId role = none := by
        simp only [CashHandover.stateCheck, pending, CashHandover.isUnposted, Bool.and_eq_true,
          Option.isNone_iff_eq_none] at checked
        obtain ⟨⟨-, ⟨source, destination⟩, variance⟩, -⟩ := checked
        cases role with
        | variance => exact variance
        | transfer => exact source
        | deposit => exact destination
      refine ⟨fun role id referred => ?_, fun role id referred => .inr ?_, fun row member => ?_,
        fun distinct role other id _ _ first second => ?_⟩
      · rw [unposted role] at referred
        cases referred
      · cases role with
        | variance =>
            simp only [CashHandover.entryId] at referred
            split at referred
            · cases referred
            · rename_i differs
              refine ⟨handoverEntry old.sourceFundId
                (if old.amounts.varianceAmount > 0 then .income else .expense)
                old.amounts.varianceAmount.natAbs employeeId varianceId now, ?_,
                Option.some.inj referred, rfl, rfl, rfl⟩
              simp [sourceEntries, differs]
        | transfer =>
            refine ⟨handoverEntry old.sourceFundId .expense old.amounts.transferAmount employeeId
              sourceId now, ?_, Option.some.inj referred, rfl, rfl, rfl⟩
            simp [sourceEntries]
        | deposit =>
            cases due with
            | some date => cases referred
            | none =>
                refine ⟨handoverEntry old.destinationFundId .income old.amounts.transferAmount
                  employeeId destinationId now, ?_, Option.some.inj referred, rfl, rfl, rfl⟩
                simp
      · rcases List.mem_append.mp member with source | destination
        · unfold sourceEntries at source
          rcases List.mem_append.mp source with varied | transferred
          · split at varied
            · rename_i differs
              rw [List.mem_singleton.mp varied]
              exact ⟨.variance, by simp [CashHandover.entryId, handoverEntry, differs]⟩
            · cases varied
          · rw [List.mem_singleton.mp transferred]
            exact ⟨.transfer, rfl⟩
        · cases due with
          | some date => cases destination
          | none =>
              rw [List.mem_singleton.mp destination]
              exact ⟨.deposit, rfl⟩
      · by_cases exact_ : old.amounts.varianceAmount = 0
        · cases due <;> cases role <;> cases other <;>
            simp_all [CashHandover.entryId, sourceEntries, handoverEntry]
        · cases due <;> cases role <;> cases other <;>
            simp_all [CashHandover.entryId, sourceEntries, handoverEntry]
  | settled employeeId destinationId bankReference evidenceReference now approved awaited =>
      have unpaid : old.destinationTransactionId = none := by
        simp only [CashHandover.stateCheck, approved, awaited, Bool.and_eq_true,
          Option.isNone_iff_eq_none] at checked
        exact checked.2.1.1.1.1
      refine ⟨fun role id referred => ?_, fun role id referred => ?_, fun row member => ?_,
        fun _ role other id free alsoFree first second => ?_⟩
      · cases role with
        | variance | transfer => exact referred
        | deposit =>
            rw [CashHandover.entryId, unpaid] at referred
            cases referred
      · cases role with
        | variance | transfer => exact .inl referred
        | deposit =>
            exact .inr ⟨_, List.mem_singleton.mpr rfl, Option.some.inj referred, rfl, rfl, rfl⟩
      · rw [List.mem_singleton.mp member]
        exact ⟨.deposit, rfl⟩
      · cases role with
        | variance | transfer => cases free.symm.trans first
        | deposit =>
            cases other with
            | variance | transfer => cases alsoFree.symm.trans second
            | deposit => rfl
  | registered | resolved =>
      refine ⟨fun _ _ referred => referred, fun _ _ referred => .inl referred,
        fun _ member => (List.not_mem_nil member).elim, fun _ _ _ _ free _ first _ => ?_⟩
      cases free.symm.trans first

/-- Who requests a hand-over does not decide on it. -/
structure Separate (handover : CashHandover) : Prop where
  approver : handover.status = .approved ∨ handover.status = .rejected →
    handover.resolvedById ≠ some handover.requestedById
  settler : handover.settledById ≠ some handover.requestedById

theorem separate (move : HandoverMove old new rows) (apart : Separate old) : Separate new := by
  cases move with
  | approved employeeId varianceId sourceId destinationId note due now pending other =>
      exact ⟨fun _ same => other (Option.some.inj same).symm, apart.settler⟩
  | settled employeeId destinationId bankReference evidenceReference now approved awaited other =>
      exact ⟨apart.approver, fun same => other (Option.some.inj same).symm⟩
  | registered => exact ⟨apart.approver, apart.settler⟩
  | resolved status employeeId note now pending ends =>
      refine ⟨fun decided same => ?_, apart.settler⟩
      rcases ends with rfl | ⟨rfl, other⟩
      · rcases decided with approved | rejected
        · cases approved
        · cases rejected
      · exact other (Option.some.inj same).symm

end HandoverMove

namespace HandoverBooks

structure Consistent (books : HandoverBooks) : Prop where
  checked : ∀ handover ∈ books.handovers, handover.stateCheck = true
  otherFund : ∀ handover ∈ books.handovers, handover.sourceFundId ≠ handover.destinationFundId
  separate : ∀ handover ∈ books.handovers, HandoverMove.Separate handover
  posted : ∀ handover ∈ books.handovers, ∀ role id, handover.entryId role = some id →
    ∃ row ∈ books.transactions, row.id = id ∧ row.Posts handover role
  attributed : ∀ row ∈ books.transactions, row.shiftId = none →
    ∃ handover ∈ books.handovers, ∃ role, handover.entryId role = some row.id
  single : ∀ handover ∈ books.handovers, ∀ other ∈ books.handovers, ∀ role otherRole id,
    handover.entryId role = some id → other.entryId otherRole = some id →
      handover = other ∧ role = otherRole

variable {before after : HandoverBooks}

/-- The rows of an update of the hand-over with the id. -/
theorem mem_moved {handovers : Table CashHandover.id} {id : Id} {old handover : CashHandover}
    {change : CashHandover → CashHandover} (keeps : ∀ row, (change row).id = row.id)
    (known : handovers.find? id = some old) :
    handover ∈ handovers.update (fun row => row.id = id && true) change keeps ↔
      handover = change old ∨ handover ∈ handovers ∧ handover ≠ old := by
  rw [Table.mem_update_iff]
  constructor
  · rintro (⟨former, member, met, rfl⟩ | ⟨member, unmet⟩)
    · have same : former.id = id := by simpa using met
      exact .inl (by rw [Table.eq_of_find? known member same])
    · refine .inr ⟨member, ?_⟩
      rintro rfl
      simp [Table.find?_key known] at unmet
  · rintro (rfl | ⟨member, differs⟩)
    · exact .inl ⟨old, Table.mem_of_find? known, by simp [Table.find?_key known], rfl⟩
    · refine .inr ⟨member, ?_⟩
      simp only [Bool.and_true, decide_eq_false_iff_not]
      exact fun same => differs (Table.eq_of_find? known member same)

namespace Consistent

theorem booked {row : CashTransaction} {transactions : Table CashTransaction.id}
    (consistent : before.Consistent) (attributed : row.shiftId.isSome = true)
    (appended : transactions.rows = before.transactions.rows ++ [row]) :
    Consistent { before with transactions } := by
  have grows (entry : CashTransaction) : entry ∈ transactions ↔
      entry ∈ before.transactions ∨ entry = row := by
    rw [Table.mem_def, appended, List.mem_append, List.mem_singleton]
    rfl
  refine { consistent with posted := fun handover member role id referred => ?_,
                           attributed := fun entry member unshifted => ?_ }
  · obtain ⟨entry, inLedger, own, posts⟩ := consistent.posted handover member role id referred
    exact ⟨entry, (grows entry).mpr (.inl inLedger), own, posts⟩
  · rcases (grows entry).mp member with old | rfl
    · exact consistent.attributed entry old unshifted
    · rw [unshifted] at attributed
      cases attributed

theorem requested {handover : CashHandover} {handovers : Table CashHandover.id}
    (consistent : before.Consistent) (new : handover.IsRequest)
    (inserted : before.handovers.insert? handover = some handovers) :
    Consistent { before with handovers } := by
  have unposted (role : HandoverRole) : handover.entryId role = none := by
    have checked := new.checked
    simp only [CashHandover.stateCheck, new.pending, CashHandover.isUnposted, Bool.and_eq_true,
      Option.isNone_iff_eq_none] at checked
    obtain ⟨⟨-, ⟨source, destination⟩, variance⟩, -⟩ := checked
    cases role with
    | variance => exact variance
    | transfer => exact source
    | deposit => exact destination
  have unresolved : HandoverMove.Separate handover := by
    have checked := new.checked
    simp only [CashHandover.stateCheck, new.pending, CashHandover.isUnsettled, Bool.and_eq_true,
      Option.isNone_iff_eq_none] at checked
    refine ⟨fun decided same => ?_, fun same => ?_⟩
    · rw [checked.1.1.2] at same
      cases same
    · rw [checked.2.1.1.2] at same
      cases same
  constructor
  · intro other member
    rcases (Table.mem_insert? inserted).mp member with old | rfl
    · exact consistent.checked other old
    · exact new.checked
  · intro other member
    rcases (Table.mem_insert? inserted).mp member with old | rfl
    · exact consistent.otherFund other old
    · exact new.otherFund
  · intro other member
    rcases (Table.mem_insert? inserted).mp member with old | rfl
    · exact consistent.separate other old
    · exact unresolved
  · intro other member role id referred
    rcases (Table.mem_insert? inserted).mp member with old | rfl
    · exact consistent.posted other old role id referred
    · exact nomatch (unposted role).symm.trans referred
  · intro row member unshifted
    obtain ⟨other, old, referred⟩ := consistent.attributed row member unshifted
    exact ⟨other, (Table.mem_insert? inserted).mpr (.inl old), referred⟩
  · intro first firstMember second secondMember role other id referred alsoReferred
    rcases (Table.mem_insert? inserted).mp firstMember with firstOld | rfl
    · rcases (Table.mem_insert? inserted).mp secondMember with secondOld | rfl
      · exact consistent.single first firstOld second secondOld role other id referred alsoReferred
      · exact nomatch (unposted other).symm.trans alsoReferred
    · exact nomatch (unposted role).symm.trans referred

theorem moved {id : Id} {old : CashHandover} {rows : List CashTransaction}
    {transactions : Table CashTransaction.id} {change : CashHandover → CashHandover}
    (consistent : before.Consistent) (keeps : ∀ row, (change row).id = row.id)
    (known : before.handovers.find? id = some old)
    (appended : transactions.rows = before.transactions.rows ++ rows)
    (move : HandoverMove old (change old) rows) :
    Consistent
      ⟨before.handovers.update (fun row => row.id = id && true) change keeps, transactions⟩ := by
  have inStore := Table.mem_of_find? known
  have refers := move.refers (consistent.checked old inStore)
  have grows (row : CashTransaction) : row ∈ transactions ↔
      row ∈ before.transactions ∨ row ∈ rows := by
    rw [Table.mem_def, appended, List.mem_append]
    rfl
  have distinct := transactions.distinct
  rw [appended, List.map_append, List.nodup_append] at distinct
  -- what is referred to already is not one of the new rows
  have apart {handover : CashHandover} {role : HandoverRole} {wanted : Id}
      (member : handover ∈ before.handovers) (referred : handover.entryId role = some wanted)
      {row : CashTransaction} (added : row ∈ rows) : row.id ≠ wanted := by
    obtain ⟨entry, inLedger, rfl, -⟩ := consistent.posted handover member role wanted referred
    exact (distinct.2.2 _ (List.mem_map_of_mem inLedger) _ (List.mem_map_of_mem added)).symm
  have origin {role : HandoverRole} {wanted : Id}
      (referred : (change old).entryId role = some wanted) : old.entryId role = some wanted ∨
        old.entryId role = none ∧ ∃ row ∈ rows, row.id = wanted := by
    cases former : old.entryId role with
    | some other =>
        have stays := refers.kept role other former
        rw [referred] at stays
        exact .inl stays.symm
    | none =>
        rcases refers.added role wanted referred with earlier | ⟨row, added, own, -⟩
        · exact nomatch former.symm.trans earlier
        · exact .inr ⟨rfl, row, added, own⟩
  constructor
  · intro handover member
    rcases (mem_moved keeps known).mp member with rfl | ⟨earlier, -⟩
    · exact move.stateCheck (consistent.checked old inStore)
    · exact consistent.checked handover earlier
  · intro handover member
    rcases (mem_moved keeps known).mp member with rfl | ⟨earlier, -⟩
    · rw [move.keeps.sourceFundId, move.keeps.destinationFundId]
      exact consistent.otherFund old inStore
    · exact consistent.otherFund handover earlier
  · intro handover member
    rcases (mem_moved keeps known).mp member with rfl | ⟨earlier, -⟩
    · exact move.separate (consistent.separate old inStore)
    · exact consistent.separate handover earlier
  · intro handover member role wanted referred
    rcases (mem_moved keeps known).mp member with rfl | ⟨earlier, -⟩
    · have same := move.posting_eq role
      rcases refers.added role wanted referred with before_ | ⟨row, added, own, posts⟩
      · obtain ⟨row, inLedger, own, posts⟩ := consistent.posted old inStore role wanted before_
        refine ⟨row, (grows row).mpr (.inl inLedger), own, posts.1, posts.2.1, ?_⟩
        rw [same]
        exact posts.2.2
      · refine ⟨row, (grows row).mpr (.inr added), own, posts.1, posts.2.1, ?_⟩
        rw [same]
        exact posts.2.2
    · obtain ⟨row, inLedger, own, posts⟩ := consistent.posted handover earlier role wanted referred
      exact ⟨row, (grows row).mpr (.inl inLedger), own, posts⟩
  · intro row member unshifted
    rcases (grows row).mp member with inLedger | added
    · obtain ⟨handover, earlier, role, referred⟩ := consistent.attributed row inLedger unshifted
      by_cases same : handover = old
      · subst same
        exact ⟨change handover, (mem_moved keeps known).mpr (.inl rfl), role,
          refers.kept role row.id referred⟩
      · exact ⟨handover, (mem_moved keeps known).mpr (.inr ⟨earlier, same⟩), role, referred⟩
    · obtain ⟨role, referred⟩ := refers.owned row added
      exact ⟨change old, (mem_moved keeps known).mpr (.inl rfl), role, referred⟩
  · intro first firstMember second secondMember role other wanted referred alsoReferred
    rcases (mem_moved keeps known).mp firstMember with rfl | ⟨firstOld, firstDiffers⟩
    · rcases (mem_moved keeps known).mp secondMember with rfl | ⟨secondOld, secondDiffers⟩
      · refine ⟨rfl, ?_⟩
        rcases origin referred with earlier | ⟨free, row, added, own⟩
        · rcases origin alsoReferred with alsoEarlier | ⟨-, row, added, own⟩
          · exact (consistent.single old inStore old inStore role other wanted earlier
              alsoEarlier).2
          · exact (apart inStore earlier added own).elim
        · rcases origin alsoReferred with alsoEarlier | ⟨alsoFree, -⟩
          · exact (apart inStore alsoEarlier added own).elim
          · exact refers.apart distinct.2.1 role other wanted free alsoFree referred alsoReferred
      · rcases origin referred with earlier | ⟨-, row, added, own⟩
        · exact (secondDiffers (consistent.single old inStore second secondOld role other wanted
            earlier alsoReferred).1.symm).elim
        · exact (apart secondOld alsoReferred added own).elim
    · rcases (mem_moved keeps known).mp secondMember with rfl | ⟨secondOld, secondDiffers⟩
      · rcases origin alsoReferred with earlier | ⟨-, row, added, own⟩
        · exact (firstDiffers (consistent.single first firstOld old inStore role other wanted
            referred earlier).1).elim
        · exact (apart firstOld referred added own).elim
      · exact consistent.single first firstOld second secondOld role other wanted referred
          alsoReferred

theorem step (consistent : before.Consistent) (taken : HandoverStep before after) :
    after.Consistent := by
  cases taken with
  | booked attributed appended => exact consistent.booked attributed appended
  | requested new inserted => exact consistent.requested new inserted
  | moved change keeps known appended move => exact consistent.moved keeps known appended move

theorem steps (consistent : before.Consistent) (taken : HandoverSteps before after) :
    after.Consistent := by
  induction taken with
  | refl => exact consistent
  | tail _ last inductionHypothesis => exact inductionHypothesis.step last

end Consistent

/-- A hand-over that is settled stays as it is. -/
theorem settled_steps {handover : CashHandover} (taken : HandoverSteps before after)
    (member : handover ∈ before.handovers) (settled : handover.settlementStatus = .settled)
    (approved : handover.status = .approved) : handover ∈ after.handovers := by
  induction taken with
  | refl => exact member
  | tail _ last inductionHypothesis =>
      cases last with
      | booked => exact inductionHypothesis
      | requested new inserted => exact (Table.mem_insert? inserted).mpr (.inl inductionHypothesis)
      | @moved id old rows transactions change keeps known appended move =>
          refine (mem_moved keeps known).mpr (.inr ⟨inductionHypothesis, ?_⟩)
          rintro rfl
          exact move.not_settled approved settled

end HandoverBooks

theorem Reachable.handoversConsistent {database : Database} (reachable : Reachable database) :
    database.cash.handoverBooks.Consistent := by
  refine reachable.invariant (fun database => database.cash.handoverBooks.Consistent)
    ⟨?_, ?_, ?_, ?_, ?_, ?_⟩ fun before after _ taken consistent => ?_
  · exact fun _ member => (Table.not_mem_empty member).elim
  · exact fun _ member => (Table.not_mem_empty member).elim
  · exact fun _ member => (Table.not_mem_empty member).elim
  · exact fun _ member => (Table.not_mem_empty member).elim
  · exact fun _ member => (Table.not_mem_empty member).elim
  · exact fun _ member => (Table.not_mem_empty member).elim
  · cases taken with
    | commit command now committed => exact consistent.steps (HandoverSteps.command.step committed)
    | administer => exact consistent

end CoffeeShop
