import CoffeeShop.Access.SessionSteps
import CoffeeShop.Library.Aborts

/-!
Families of sessions: who may still refresh, over all runs of the server.
-/

namespace CoffeeShop

open Transaction AuthSessionService

namespace IssuedSessions

/-- How sessions, families and tokens belong together. -/
structure Consistent (issued : IssuedSessions) (now : Timestamp) : Prop where
  /-- A family has one session that is not revoked. -/
  single : ∀ session ∈ issued.sessions, ∀ other ∈ issued.sessions,
    session.familyId = other.familyId → session.revokedAt = none → other.revokedAt = none →
      session = other
  held : ∀ session ∈ issued.sessions, session.Holds session.refreshTokenHash ∧
    session.refreshTokenHash ∈ issued.signed ∧
      session.refreshTokenHash.exp * 1000 ≤ session.expiresAt
  drawn : ∀ token ∈ issued.signed, token.sid < issued.nextId ∧ token.familyId < issued.nextId
  owned : ∀ token ∈ issued.signed, ∀ other ∈ issued.signed, token.familyId = other.familyId →
    token.sub = other.sub
  /-- The row of a token is kept as long as the token may pass the verification. -/
  kept : ∀ token ∈ issued.signed, now < token.exp * 1000 →
    ∃ session ∈ issued.sessions, session.refreshTokenHash = token

/-- No session of the family is usable. -/
def Closed (issued : IssuedSessions) (familyId : Id) (now : Timestamp) : Prop :=
  ∀ session ∈ issued.sessions, session.familyId = familyId → session.isUsable now = false

variable {before after issued : IssuedSessions} {now later : Timestamp} {familyId : Id}

theorem Consistent.tick (consistent : issued.Consistent now) (passes : now ≤ later) :
    issued.Consistent later :=
  { consistent with
    kept := fun token member lasts => consistent.kept token member (lt_of_le_of_lt passes lasts) }

theorem Closed.tick (closed : issued.Closed familyId now) (passes : now ≤ later) :
    issued.Closed familyId later := by
  intro session member own
  have unusable := closed session member own
  simp only [AuthSession.isUsable, Bool.and_eq_false_iff, decide_eq_false_iff_not] at unusable ⊢
  exact unusable.imp_right fun expired => not_lt.mpr ((not_lt.mp expired).trans passes)

theorem newSession_holds {token : RefreshToken} : (newSession token now).Holds token := by
  constructor <;> rfl

/-- The rows after some of them have ended. -/
theorem mem_ended {sessions : Table AuthSession.id} {condition : AuthSession → Bool}
    {change : AuthSession → AuthSession} {session : AuthSession}
    (keeps : ∀ row, (change row).id = row.id) (ends : ∀ row : AuthSession, row.Ends (change row))
    (member : session ∈ sessions.update condition change keeps) :
    ∃ former ∈ sessions, session.id = former.id ∧ session.familyId = former.familyId ∧
      session.employeeId = former.employeeId ∧
      session.refreshTokenHash = former.refreshTokenHash ∧
      session.expiresAt = former.expiresAt ∧
      (session.revokedAt = none → session = former ∧ condition former = false) := by
  obtain ⟨former, known, rfl⟩ := Table.mem_update.mp member
  refine ⟨former, known, ?_⟩
  by_cases met : condition former = true
  · have ended := ends former
    rw [if_pos met]
    refine ⟨ended.id, ended.familyId, ended.employeeId, ended.refreshTokenHash, ended.expiresAt, ?_⟩
    intro open_
    have revoked := ended.revoked
    rw [open_] at revoked
    cases revoked
  · rw [if_neg met]
    exact ⟨rfl, rfl, rfl, rfl, rfl, fun _ => ⟨rfl, Bool.eq_false_iff.mpr met⟩⟩

namespace Consistent

theorem ended {condition : AuthSession → Bool} {change : AuthSession → AuthSession}
    (consistent : before.Consistent now) (keeps : ∀ row, (change row).id = row.id)
    (ends : ∀ row : AuthSession, row.Ends (change row)) :
    Consistent { before with sessions := before.sessions.update condition change keeps } now where
  single session member other known same open_ otherOpen := by
    obtain ⟨former, inStore, -, -, -, -, -, kept⟩ := mem_ended keeps ends member
    obtain ⟨previous, alsoInStore, -, -, -, -, -, alsoKept⟩ := mem_ended keeps ends known
    obtain ⟨rfl, -⟩ := kept open_
    obtain ⟨rfl, -⟩ := alsoKept otherOpen
    exact consistent.single session inStore other alsoInStore same open_ otherOpen
  held session member := by
    obtain ⟨former, inStore, id, family, employee, hash, expires, -⟩ := mem_ended keeps ends member
    obtain ⟨holds, signed, lasts⟩ := consistent.held former inStore
    rw [hash, expires]
    exact ⟨⟨id.trans holds.id, family.trans holds.familyId, employee.trans holds.employeeId, hash⟩,
      signed, lasts⟩
  drawn := consistent.drawn
  owned := consistent.owned
  kept token member lasts := by
    obtain ⟨session, inStore, hash⟩ := consistent.kept token member lasts
    simp only [Table.mem_update]
    refine ⟨_, ⟨session, inStore, rfl⟩, ?_⟩
    split
    · exact (ends session).refreshTokenHash.trans hash
    · exact hash

/-- A session that is new in the store and alone in its family. -/
theorem issue {token : RefreshToken} {sessions : Table AuthSession.id} {nextId : Id}
    (consistent : before.Consistent now) (sid : token.sid < nextId)
    (family : token.familyId < nextId) (grows : before.nextId ≤ nextId)
    (exp : token.exp = now / 1000 + refreshTokenTtlMs / 1000)
    (alone : ∀ session ∈ before.sessions, session.familyId = token.familyId →
      session.revokedAt ≠ none)
    (owned : ∀ other ∈ before.signed, other.familyId = token.familyId → other.sub = token.sub)
    (inserted : before.sessions.insert? (newSession token now) = some sessions) :
    Consistent ⟨sessions, token :: before.signed, nextId⟩ now where
  single session member other known same open_ otherOpen := by
    rcases (Table.mem_insert? inserted).mp member with inStore | rfl
    · rcases (Table.mem_insert? inserted).mp known with alsoInStore | rfl
      · exact consistent.single session inStore other alsoInStore same open_ otherOpen
      · exact (alone session inStore same open_).elim
    · rcases (Table.mem_insert? inserted).mp known with alsoInStore | rfl
      · exact (alone other alsoInStore same.symm otherOpen).elim
      · rfl
  held session member := by
    rcases (Table.mem_insert? inserted).mp member with inStore | rfl
    · obtain ⟨holds, signed, lasts⟩ := consistent.held session inStore
      exact ⟨holds, List.mem_cons_of_mem _ signed, lasts⟩
    · refine ⟨newSession_holds, List.mem_cons_self, ?_⟩
      simp only [newSession, exp, refreshTokenTtlMs]
      lia
  drawn other member := by
    rcases List.mem_cons.mp member with rfl | signed
    · exact ⟨sid, family⟩
    · have earlier := consistent.drawn other signed
      exact ⟨earlier.1.trans_le grows, earlier.2.trans_le grows⟩
  owned first firstMember second secondMember same := by
    rcases List.mem_cons.mp firstMember with rfl | firstSigned
    · rcases List.mem_cons.mp secondMember with rfl | secondSigned
      · rfl
      · exact (owned second secondSigned same.symm).symm
    · rcases List.mem_cons.mp secondMember with rfl | secondSigned
      · exact owned first firstSigned same
      · exact consistent.owned first firstSigned second secondSigned same
  kept other member lasts := by
    rcases List.mem_cons.mp member with rfl | signed
    · exact ⟨_, (Table.mem_insert? inserted).mpr (.inr rfl), rfl⟩
    · obtain ⟨session, inStore, hash⟩ := consistent.kept other signed lasts
      exact ⟨session, (Table.mem_insert? inserted).mpr (.inl inStore), hash⟩

theorem family_lt (consistent : before.Consistent now) {session : AuthSession}
    (member : session ∈ before.sessions) : session.familyId < before.nextId := by
  obtain ⟨holds, signed, -⟩ := consistent.held session member
  rw [holds.familyId]
  exact (consistent.drawn _ signed).2

theorem step (consistent : before.Consistent now) (taken : SessionStep now before after) :
    after.Consistent now := by
  cases taken with
  | drawn =>
      refine { consistent with drawn := fun token member => ?_ }
      have earlier := consistent.drawn token member
      exact ⟨Nat.lt_succ_of_lt earlier.1, Nat.lt_succ_of_lt earlier.2⟩
  | ended condition change keeps ends => exact consistent.ended keeps ends
  | dropped condition old =>
      refine
        { consistent with
          single := fun session member other known => consistent.single session
            (Table.mem_delete.mp member).1 other (Table.mem_delete.mp known).1
          held := fun session member => consistent.held session (Table.mem_delete.mp member).1
          kept := fun token member lasts => ?_ }
      obtain ⟨session, inStore, hash⟩ := consistent.kept token member lasts
      refine ⟨session, Table.mem_delete.mpr ⟨inStore, Bool.eq_false_iff.mpr fun drops => ?_⟩, hash⟩
      have overdue := old session drops
      have outlives := (consistent.held session inStore).2.2
      rw [hash] at outlives
      lia
  | @opened token sessions sid family exp inserted =>
      refine consistent.issue (by lia) (by lia) (by lia) exp ?_ ?_ inserted
      · intro session member same
        have earlier := consistent.family_lt member
        lia
      · intro other member same
        have earlier := (consistent.drawn other member).2
        lia
  | @rotated token next session sessions condition change keeps ends known consumed usable holds
      sid family sub exp inserted =>
      obtain ⟨own, signed, -⟩ := consistent.held session known
      rw [holds.refreshTokenHash] at signed
      have earlier := (consistent.drawn token signed).2
      refine (consistent.ended keeps ends).issue (by lia) (by lia) (Nat.le_succ _) exp ?_ ?_ inserted
      · intro other member same open_
        obtain ⟨former, inStore, -, -, -, -, -, kept⟩ := mem_ended keeps ends member
        obtain ⟨rfl, unmet⟩ := kept open_
        have open' : session.revokedAt = none := by
          simp only [AuthSession.isUsable, Bool.and_eq_true, Option.isNone_iff_eq_none] at usable
          exact usable.1
        have equal := consistent.single other inStore session known
          (by rw [same, family, holds.familyId]) open_ open'
        rw [equal, consumed] at unmet
        cases unmet
      · intro other member same
        rw [sub]
        exact consistent.owned other member token signed (same.trans family)

theorem steps (consistent : before.Consistent now) (taken : SessionSteps now before after) :
    after.Consistent now := by
  induction taken with
  | refl => exact consistent
  | tail _ last inductionHypothesis => exact inductionHypothesis.step last

end Consistent

/-- A step does not open a family again. -/
theorem Closed.step (closed : before.Closed familyId now) (old : familyId < before.nextId)
    (taken : SessionStep now before after) :
    after.Closed familyId now ∧ familyId < after.nextId := by
  cases taken with
  | drawn => exact ⟨closed, Nat.lt_succ_of_lt old⟩
  | ended condition change keeps ends =>
      refine ⟨fun session member own => ?_, old⟩
      obtain ⟨former, inStore, -, family, -, -, expires, kept⟩ := mem_ended keeps ends member
      cases revoked : session.revokedAt with
      | none =>
          obtain ⟨rfl, -⟩ := kept revoked
          exact closed session inStore own
      | some => simp [AuthSession.isUsable, revoked]
  | dropped condition unused =>
      exact ⟨fun session member own => closed session (Table.mem_delete.mp member).1 own, old⟩
  | @opened token sessions sid family exp inserted =>
      refine ⟨fun session member own => ?_, Nat.lt_add_right 2 old⟩
      rcases (Table.mem_insert? inserted).mp member with inStore | rfl
      · exact closed session inStore own
      · have fresh : token.familyId = familyId := own
        lia
  | @rotated token next current sessions condition change keeps ends known consumed usable holds
      sid family sub exp inserted =>
      refine ⟨fun session member own => ?_, Nat.lt_succ_of_lt old⟩
      rcases (Table.mem_insert? inserted).mp member with inStore | rfl
      · obtain ⟨former, inStore, -, same, -, -, expires, kept⟩ := mem_ended keeps ends inStore
        cases revoked : session.revokedAt with
        | none =>
            obtain ⟨rfl, -⟩ := kept revoked
            exact closed session inStore own
        | some => simp [AuthSession.isUsable, revoked]
      · have inFamily : next.familyId = familyId := own
        have unusable := closed current known (by rw [holds.familyId, ← family, inFamily])
        rw [usable] at unusable
        cases unusable

theorem Closed.steps (closed : before.Closed familyId now) (old : familyId < before.nextId)
    (taken : SessionSteps now before after) :
    after.Closed familyId now ∧ familyId < after.nextId := by
  induction taken with
  | refl => exact ⟨closed, old⟩
  | tail _ last inductionHypothesis => exact inductionHypothesis.1.step inductionHypothesis.2 last

end IssuedSessions

end CoffeeShop
