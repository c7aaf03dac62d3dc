import CoffeeShop.Access.Runs

/-!
Delegation and owners over whole runs.

Nobody hands on a permission that they do not have, and a run that starts with an active
owner never loses the last one.
-/

namespace CoffeeShop

open Transaction

namespace AccessStore

variable {scope : String → Prop} {before after start store : AccessStore}

/-- The foreign keys of the assignments. -/
structure References (store : AccessStore) : Prop where
  employees : ∀ row ∈ store.employeeRoles, ∃ employee ∈ store.employees,
    employee.id = row.employeeId
  assigned : ∀ row ∈ store.employeeRoles, ∃ role ∈ store.roles, role.id = row.roleId
  carried : ∀ row ∈ store.rolePermissions, ∃ role ∈ store.roles, role.id = row.roleId

/-- Some active employee holds the owner role. -/
def HasOwner (store : AccessStore) : Prop :=
  ∃ employee ∈ store.employees, store.IsOwner employee

/-- A state that a run reaches from data that satisfies the foreign keys. -/
def Reachable (store : AccessStore) : Prop :=
  ∃ start : AccessStore, start.References ∧ Relation.ReflTransGen Step start store

theorem exists_update {ρ : Type} {identifier : ρ → Id} {table : Table identifier}
    {condition : ρ → Bool} {change : ρ → ρ} {keeps : ∀ row, identifier (change row) = identifier row}
    {id : Id} (known : ∃ row ∈ table, identifier row = id) :
    ∃ row ∈ table.update condition change keeps, identifier row = id := by
  obtain ⟨row, member, same⟩ := known
  refine ⟨_, Table.mem_update.mpr ⟨row, member, rfl⟩, ?_⟩
  split
  · exact (keeps row).trans same
  · exact same

theorem exists_insert {ρ : Type} {identifier : ρ → Id} {table next : Table identifier} {row : ρ}
    {id : Id} (inserted : table.insert? row = some next)
    (known : ∃ old ∈ table, identifier old = id) : ∃ old ∈ next, identifier old = id := by
  obtain ⟨old, member, same⟩ := known
  exact ⟨old, (Table.mem_insert? inserted).mpr (.inl member), same⟩

namespace References

theorem change (references : before.References) (taken : AccessChange scope before after) :
    after.References := by
  obtain ⟨employees, assigned, carried⟩ := references
  cases taken with
  | besides e r p rp er =>
      refine ⟨?_, ?_, ?_⟩
      · rw [er, e]
        exact employees
      · rw [er, r]
        exact assigned
      · rw [rp, r]
        exact carried
  | roleCreated role ids inserted granted within e p er =>
      refine ⟨?_, ?_, ?_⟩
      · rw [er, e]
        exact employees
      · rw [er]
        exact fun row member => exists_insert inserted (assigned row member)
      · intro row member
        rcases (Table.mem_insertAll? granted).mp member with old | new
        · exact exists_insert inserted (carried row old)
        · obtain ⟨permissionId, -, rfl⟩ := List.mem_map.mp new
          exact ⟨role, (Table.mem_insert? inserted).mpr (.inr rfl), rfl⟩
  | roleChanged condition change keeps plain deleted r kept e p er =>
      refine ⟨?_, ?_, ?_⟩
      · rw [er, e]
        exact employees
      · rw [er, r]
        exact fun row member => exists_update (assigned row member)
      · rw [r]
        exact fun row member => exists_update (carried row (kept row member))
  | permissionsReplaced roleId ids known granted within e r p er =>
      refine ⟨?_, ?_, ?_⟩
      · rw [er, e]
        exact employees
      · rw [er, r]
        exact assigned
      · rw [r]
        intro row member
        rcases (Table.mem_insertAll? granted).mp member with old | new
        · exact carried row (Table.mem_delete.mp old).1
        · obtain ⟨permissionId, -, rfl⟩ := List.mem_map.mp new
          exact known
  | employeeCreated employee inserted r p rp er =>
      refine ⟨?_, ?_, ?_⟩
      · rw [er]
        exact fun row member => exists_insert inserted (employees row member)
      · rw [er, r]
        exact assigned
      · rw [rp, r]
        exact carried
  | employeeChanged id condition change keeps named enabled owned e r p rp er =>
      refine ⟨?_, ?_, ?_⟩
      · rw [er, e]
        exact fun row member => exists_update (employees row member)
      · rw [er, r]
        exact assigned
      · rw [rp, r]
        exact carried
  | employeeDeleted id condition change keeps named disabled owned e r p rp er =>
      refine ⟨?_, ?_, ?_⟩
      · rw [er, e]
        exact fun row member => exists_update (employees row (Table.mem_delete.mp member).1)
      · rw [er, r]
        exact fun row member => assigned row (Table.mem_delete.mp member).1
      · rw [rp, r]
        exact carried
  | rolesReplaced id ids known present replaced within owned e r p rp =>
      refine ⟨?_, ?_, ?_⟩
      · rw [e]
        intro row member
        rcases (Table.mem_insertAll? replaced).mp member with old | new
        · exact employees row (Table.mem_delete.mp old).1
        · obtain ⟨roleId, -, rfl⟩ := List.mem_map.mp new
          exact present
      · rw [r]
        intro row member
        rcases (Table.mem_insertAll? replaced).mp member with old | new
        · exact assigned row (Table.mem_delete.mp old).1
        · obtain ⟨roleId, requested, rfl⟩ := List.mem_map.mp new
          exact known roleId requested
      · rw [rp, r]
        exact carried
  | roleAssigned id role known present inserted within e r p rp =>
      refine ⟨?_, ?_, ?_⟩
      · rw [e]
        intro row member
        rcases (Table.mem_insert? inserted).mp member with old | rfl
        · exact employees row old
        · exact present
      · rw [r]
        intro row member
        rcases (Table.mem_insert? inserted).mp member with old | rfl
        · exact assigned row old
        · exact ⟨role, known, rfl⟩
      · rw [rp, r]
        exact carried

theorem changes (references : before.References)
    (taken : Relation.ReflTransGen (AccessChange scope) before after) : after.References := by
  induction taken with
  | refl => exact references
  | tail _ last inductionHypothesis => exact inductionHypothesis.change last

theorem step (references : before.References) (taken : Step before after) : after.References := by
  cases taken with
  | commit command now committed => exact references.changes (commit_changes committed)
  | administer positions permissions dropped =>
      exact ⟨references.employees, references.assigned,
        fun row member => references.carried row (Table.mem_delete.mp member).1⟩

end References

theorem Reachable.references (reachable : Reachable store) : store.References := by
  obtain ⟨start, references, steps⟩ := reachable
  induction steps with
  | refl => exact references
  | tail _ last inductionHypothesis => exact inductionHypothesis.step last

theorem not_mem_of_insert? {ρ : Type} {identifier : ρ → Id} {table next : Table identifier}
    {row : ρ} (inserted : table.insert? row = some next) :
    ¬∃ old ∈ table, identifier old = identifier row := by
  rintro ⟨old, member, same⟩
  exact Table.insert?_isSome.mp (Option.isSome_of_eq_some inserted) old member same

theorem HasRole.congr {id : Id} {role : Role} (held : after.HasRole id role)
    (employeeRoles : ∀ row ∈ after.employeeRoles, row.employeeId = id → row ∈ before.employeeRoles)
    (roles : after.roles = before.roles) : before.HasRole id role := by
  obtain ⟨⟨row, member, own, same⟩, known, active⟩ := held
  exact ⟨⟨row, employeeRoles row member own, own, same⟩, roles ▸ known, active⟩

theorem Carries.congr {roleId : Id} {key : String} (carries : after.Carries roleId key)
    (rolePermissions : ∀ row ∈ after.rolePermissions, row.roleId = roleId →
      row ∈ before.rolePermissions) (permissions : after.permissions = before.permissions) :
    before.Carries roleId key := by
  obtain ⟨permission, known, active, same, row, member, own, named⟩ := carries
  exact ⟨permission, permissions ▸ known, active, same, row, rolePermissions row member own, own,
    named⟩

/-- A key that an employee may use after a change is one that the employee could use before, or
one of the scope. -/
theorem effective_of_change (taken : AccessChange scope before after)
    (references : before.References) {id : Id} {key : String}
    (effective : key ∈ after.effectivePermissions id) :
    key ∈ before.effectivePermissions id ∨ scope key := by
  rw [mem_effectivePermissions] at effective ⊢
  obtain ⟨⟨employee, known, named, enabled⟩, role, held, carries⟩ := effective
  cases taken with
  | besides e r p rp er =>
      exact .inl ⟨⟨employee, e ▸ known, named, enabled⟩, role,
        held.congr (fun _ member _ => er ▸ member) r,
        carries.congr (fun _ member _ => rp ▸ member) p⟩
  | roleCreated newRole ids inserted granted within e p er =>
      left
      obtain ⟨⟨row, member, own, same⟩, listed, active⟩ := held
      rw [er] at member
      have old := references.assigned row member
      have differs : role.id ≠ newRole.id := by
        intro equal
        rw [same, equal] at old
        exact not_mem_of_insert? inserted old
      have existing : role ∈ before.roles := by
        rcases (Table.mem_insert? inserted).mp listed with existing | rfl
        · exact existing
        · exact (differs rfl).elim
      refine ⟨⟨employee, e ▸ known, named, enabled⟩, role,
        ⟨⟨row, member, own, same⟩, existing, active⟩, carries.congr ?_ p⟩
      intro grant inStore carried
      rcases (Table.mem_insertAll? granted).mp inStore with earlier | new
      · exact earlier
      · obtain ⟨permissionId, -, rfl⟩ := List.mem_map.mp new
        exact (differs carried.symm).elim
  | roleChanged condition change keeps plain deleted r kept e p er =>
      left
      obtain ⟨⟨row, member, own, same⟩, listed, active⟩ := held
      rw [r] at listed
      obtain ⟨old, inStore, changed⟩ := Table.mem_update.mp listed
      have sameId : old.id = role.id := by
        rw [← changed]
        split
        · exact (keeps old).symm
        · rfl
      have oldActive : old.deletedAt = none := by
        rw [← changed] at active
        split at active
        · exact deleted old active
        · exact active
      refine ⟨⟨employee, e ▸ known, named, enabled⟩, old,
        ⟨⟨row, er ▸ member, own, same.trans sameId.symm⟩, inStore, oldActive⟩, ?_⟩
      rw [sameId]
      exact carries.congr (fun grant inStore _ => kept grant inStore) p
  | permissionsReplaced roleId ids present granted within e r p er =>
      obtain ⟨permission, listed, active, same, grant, inStore, own, granting⟩ := carries
      rw [p] at listed
      rcases (Table.mem_insertAll? granted).mp inStore with earlier | new
      · left
        exact ⟨⟨employee, e ▸ known, named, enabled⟩, role,
          held.congr (fun _ member _ => er ▸ member) r, permission, listed, active, same, grant,
          (Table.mem_delete.mp earlier).1, own, granting⟩
      · right
        obtain ⟨permissionId, requested, rfl⟩ := List.mem_map.mp new
        rw [← same]
        exact within permission listed active (granting ▸ requested)
  | employeeCreated newEmployee inserted r p rp er =>
      left
      obtain ⟨⟨row, member, own, same⟩, listed, active⟩ := held
      rw [er] at member
      have existing : employee ∈ before.employees := by
        rcases (Table.mem_insert? inserted).mp known with existing | rfl
        · exact existing
        · have old := references.employees row member
          rw [own, ← named] at old
          exact (not_mem_of_insert? inserted old).elim
      exact ⟨⟨employee, existing, named, enabled⟩, role,
        ⟨⟨row, member, own, same⟩, r ▸ listed, active⟩,
        carries.congr (fun _ member _ => rp ▸ member) p⟩
  | employeeChanged changedId condition change keeps only enabling owned e r p rp er =>
      have holds : before.HasRole id role := held.congr (fun _ member _ => er ▸ member) r
      have grants : before.Carries role.id key :=
        carries.congr (fun _ member _ => rp ▸ member) p
      rw [e] at known
      obtain ⟨old, inStore, changed⟩ := Table.mem_update.mp known
      split at changed
      · rename_i condition
        have sameId : old.id = id := by
          rw [← named, ← changed]
          exact (keeps old).symm
        rw [← changed] at enabled
        rcases enabling old inStore condition enabled with oldEnabled | within
        · exact .inl ⟨⟨old, inStore, sameId, oldEnabled⟩, role, holds, grants⟩
        · right
          apply within
          rw [sameId]
          exact mem_grantedKeys.mpr ⟨role, holds, grants⟩
      · subst changed
        exact .inl ⟨⟨old, inStore, named, enabled⟩, role, holds, grants⟩
  | employeeDeleted deletedId condition change keeps only disabled owned e r p rp er =>
      left
      rw [e] at known
      obtain ⟨old, inStore, changed⟩ := Table.mem_update.mp known
      split at changed
      · rw [← changed, disabled old] at enabled
        cases enabled
      · subst changed
        refine ⟨⟨old, inStore, named, enabled⟩, role, held.congr ?_ r,
          carries.congr (fun _ member _ => rp ▸ member) p⟩
        intro row member _
        rw [er] at member
        exact (Table.mem_delete.mp member).1
  | rolesReplaced replacedId ids listed present assigned within owned e r p rp =>
      have grants : before.Carries role.id key :=
        carries.congr (fun _ member _ => rp ▸ member) p
      obtain ⟨⟨row, member, own, same⟩, inStore, active⟩ := held
      rw [r] at inStore
      rcases (Table.mem_insertAll? assigned).mp member with earlier | new
      · left
        exact ⟨⟨employee, e ▸ known, named, enabled⟩, role,
          ⟨⟨row, (Table.mem_delete.mp earlier).1, own, same⟩, inStore, active⟩, grants⟩
      · right
        obtain ⟨roleId, requested, rfl⟩ := List.mem_map.mp new
        exact within role inStore active (same ▸ requested) key grants
  | roleAssigned assignedId newRole listed present assigned within e r p rp =>
      have grants : before.Carries role.id key :=
        carries.congr (fun _ member _ => rp ▸ member) p
      obtain ⟨⟨row, member, own, same⟩, inStore, active⟩ := held
      rw [r] at inStore
      rcases (Table.mem_insert? assigned).mp member with earlier | rfl
      · left
        exact ⟨⟨employee, e ▸ known, named, enabled⟩, role,
          ⟨⟨row, earlier, own, same⟩, inStore, active⟩, grants⟩
      · right
        apply within
        rw [show newRole.id = role.id from same]
        exact grants

theorem effective_of_changes (taken : Relation.ReflTransGen (AccessChange scope) before after)
    (references : before.References) {id : Id} {key : String}
    (effective : key ∈ after.effectivePermissions id) :
    key ∈ before.effectivePermissions id ∨ scope key := by
  induction taken with
  | refl => exact .inl effective
  | tail first last inductionHypothesis =>
      rcases effective_of_change last (references.changes first) effective with earlier | within
      · exact inductionHypothesis earlier
      · exact .inr within

/-- What a command of the roles or the employees service lets anybody do, they or the one who
issued it could do before. -/
theorem Reachable.no_escalation (reachable : Reachable store) {command : AccessCommand}
    {actorId : Id} (managed : command.ManagedBy actorId) {now : Timestamp}
    (committed : Commits (command.execute now) store () after) :
    (∀ employeeId, ∀ key ∈ after.effectivePermissions employeeId,
      key ∈ store.effectivePermissions employeeId ∨ key ∈ store.effectivePermissions actorId) ∧
    ∀ key ∈ after.effectivePermissions actorId, key ∈ store.effectivePermissions actorId := by
  have changes := AccessCommand.managed_changes managed committed
  constructor
  · intro employeeId key effective
    exact effective_of_changes changes reachable.references effective
  · intro key effective
    rcases effective_of_changes changes reachable.references effective with own | own
    · exact own
    · exact own

theorem References.sample : sample.References where
  employees := by decide
  assigned := by decide
  carried := by decide

/-- The owner makes the other employee a waiter. -/
theorem Reachable.no_escalation_sample : ∃ after : AccessStore,
    Commits ((AccessCommand.replaceEmployeeRoles 1 ⟨[1], none⟩ 0).execute 5) sample () after ∧
      "/orders_read" ∈ after.effectivePermissions 1 ∧
      ("/orders_read" ∈ sample.effectivePermissions 1 ∨
        "/orders_read" ∈ sample.effectivePermissions 0) := by
  obtain ⟨after, committed, effective⟩ : ∃ after : AccessStore,
      Commits ((AccessCommand.replaceEmployeeRoles 1 ⟨[1], none⟩ 0).execute 5) sample () after ∧
        "/orders_read" ∈ after.effectivePermissions 1 := ⟨_, rfl, by decide⟩
  have reachable : Reachable sample := ⟨sample, .sample, .refl⟩
  have managed : (AccessCommand.replaceEmployeeRoles 1 ⟨[1], none⟩ 0).ManagedBy 0 := rfl
  have kept := (reachable.no_escalation managed committed).1 1 _ effective
  exact ⟨after, committed, effective, kept⟩

theorem HasRole.grow {id : Id} {role : Role} (held : before.HasRole id role)
    (employeeRoles : ∀ row ∈ before.employeeRoles, row.employeeId = id → row ∈ after.employeeRoles)
    (roles : role ∈ before.roles → role ∈ after.roles) : after.HasRole id role := by
  obtain ⟨⟨row, member, own, same⟩, known, active⟩ := held
  exact ⟨⟨row, employeeRoles row member own, own, same⟩, roles known, active⟩

namespace HasOwner

/-- An owner whom a change does not concern stays one. -/
theorem stays {employee : EmployeeAccount} (member : employee ∈ after.employees)
    (owner : before.IsOwner employee)
    (employeeRoles : ∀ row ∈ before.employeeRoles, row.employeeId = employee.id →
      row ∈ after.employeeRoles)
    (roles : ∀ role ∈ before.roles, role.isOwner = true → role ∈ after.roles) :
    after.HasOwner := by
  obtain ⟨enabled, role, held, isOwner⟩ := owner
  exact ⟨employee, member, enabled, role,
    held.grow employeeRoles fun known => roles role known isOwner, isOwner⟩

theorem change (owned : before.HasOwner) (taken : AccessChange scope before after) :
    after.HasOwner := by
  obtain ⟨employee, known, owner⟩ := owned
  cases taken with
  | besides e r p rp er =>
      exact stays (e ▸ known) owner (fun _ member _ => er ▸ member) fun _ member _ => r ▸ member
  | roleCreated role ids inserted granted within e p er =>
      exact stays (e ▸ known) owner (fun _ member _ => er ▸ member)
        fun _ member _ => (Table.mem_insert? inserted).mpr (.inl member)
  | roleChanged condition change keeps plain deleted r kept e p er =>
      refine stays (e ▸ known) owner (fun _ member _ => er ▸ member) ?_
      intro role member isOwner
      rw [r]
      refine Table.mem_update.mpr ⟨role, member, ?_⟩
      have unmet : condition role ≠ true := by
        intro holds
        simp [Role.isOwner, plain role member holds] at isOwner
      rw [if_neg unmet]
  | permissionsReplaced roleId ids present granted within e r p er =>
      exact stays (e ▸ known) owner (fun _ member _ => er ▸ member) fun _ member _ => r ▸ member
  | employeeCreated newEmployee inserted r p rp er =>
      exact stays ((Table.mem_insert? inserted).mpr (.inl known)) owner
        (fun _ member _ => er ▸ member) fun _ member _ => r ▸ member
  | employeeChanged id condition change keeps only enabling owned e r p rp er =>
      have unchanged (other : EmployeeAccount) (member : other ∈ before.employees)
          (unmet : condition other ≠ true) : other ∈ after.employees := by
        rw [e]
        exact Table.mem_update.mpr ⟨other, member, if_neg unmet⟩
      by_cases holds : condition employee = true
      · rcases owned employee known holds owner with enabled | others
        · obtain ⟨-, role, held, isOwner⟩ := owner
          refine ⟨change employee, ?_, enabled, role, ?_, isOwner⟩
          · rw [e]
            exact Table.mem_update.mpr ⟨employee, known, if_pos holds⟩
          · rw [keeps employee]
            exact held.grow (fun _ member _ => er ▸ member) fun member => r ▸ member
        · obtain ⟨other, member, differs, otherOwner⟩ := others
          exact stays (unchanged other member fun met => differs (only other met)) otherOwner
            (fun _ member _ => er ▸ member) fun _ member _ => r ▸ member
      · exact stays (unchanged employee known holds) owner (fun _ member _ => er ▸ member)
          fun _ member _ => r ▸ member
  | employeeDeleted id condition change keeps only disabled owned e r p rp er =>
      have remains (other : EmployeeAccount) (member : other ∈ before.employees)
          (differs : other.id ≠ id) (isOwner : before.IsOwner other) : after.HasOwner := by
        refine stays ?_ isOwner ?_ fun _ member _ => r ▸ member
        · rw [e]
          exact Table.mem_update.mpr ⟨other, member, if_neg fun met => differs (only other met)⟩
        · intro row inStore own
          rw [er]
          exact Table.mem_delete.mpr ⟨inStore, by simpa [own] using differs⟩
      by_cases deleted : employee.id = id
      · obtain ⟨other, member, differs, otherOwner⟩ := owned employee known deleted owner
        exact remains other member differs otherOwner
      · exact remains employee known deleted owner
  | rolesReplaced id ids listed present assigned within owned e r p rp =>
      have remains (other : EmployeeAccount) (member : other ∈ before.employees)
          (differs : other.id ≠ id) (isOwner : before.IsOwner other) : after.HasOwner := by
        refine stays (e ▸ member) isOwner ?_ fun _ member _ => r ▸ member
        intro row inStore own
        refine (Table.mem_insertAll? assigned).mpr (.inl ?_)
        exact Table.mem_delete.mpr ⟨inStore, by simpa [own] using differs⟩
      by_cases replaced : employee.id = id
      · rcases owned employee known replaced owner with assigns | others
        · obtain ⟨role, inStore, active, requested, isOwner⟩ := assigns
          refine ⟨employee, e ▸ known, owner.1, role, ⟨⟨⟨id, role.id⟩, ?_, replaced.symm, rfl⟩,
            r ▸ inStore, active⟩, isOwner⟩
          refine (Table.mem_insertAll? assigned).mpr (.inr ?_)
          exact List.mem_map.mpr ⟨role.id, requested, rfl⟩
        · obtain ⟨other, member, differs, otherOwner⟩ := others
          exact remains other member differs otherOwner
      · exact remains employee known replaced owner
  | roleAssigned id role listed present assigned within e r p rp =>
      exact stays (e ▸ known) owner
        (fun _ member _ => (Table.mem_insert? assigned).mpr (.inl member))
        fun _ member _ => r ▸ member

theorem changes (owned : before.HasOwner)
    (taken : Relation.ReflTransGen (AccessChange scope) before after) : after.HasOwner := by
  induction taken with
  | refl => exact owned
  | tail _ last inductionHypothesis => exact inductionHypothesis.change last

theorem step (owned : before.HasOwner) (taken : Step before after) : after.HasOwner := by
  cases taken with
  | commit command now committed => exact owned.changes (commit_changes committed)
  | administer positions permissions dropped => exact owned

end HasOwner

/-- An active owner always remains. -/
theorem owner_remains (owned : start.HasOwner)
    (steps : Relation.ReflTransGen Step start store) : store.HasOwner := by
  induction steps with
  | refl => exact owned
  | tail _ last inductionHypothesis => exact inductionHypothesis.step last

theorem HasOwner.sample : sample.HasOwner :=
  ⟨_, List.mem_cons_self, rfl, _, ⟨⟨⟨0, 0⟩, List.mem_cons_self, rfl, rfl⟩, List.mem_cons_self, rfl⟩,
    rfl⟩

/-- The owner makes the other employee an owner, who then makes the first a waiter. -/
theorem owner_remains_demoted : ∃ both after : AccessStore,
    Commits ((AccessCommand.replaceEmployeeRoles 1 ⟨[0], none⟩ 0).execute 5) sample () both ∧
      Commits ((AccessCommand.replaceEmployeeRoles 0 ⟨[1], none⟩ 1).execute 6) both () after ∧
      after.HasOwner ∧ ∀ row ∈ after.employeeRoles.rows, row.employeeId = 0 → row.roleId = 1 := by
  obtain ⟨both, after, promoted, demoted, given⟩ : ∃ both after : AccessStore,
      Commits ((AccessCommand.replaceEmployeeRoles 1 ⟨[0], none⟩ 0).execute 5) sample () both ∧
        Commits ((AccessCommand.replaceEmployeeRoles 0 ⟨[1], none⟩ 1).execute 6) both () after ∧
        ∀ row ∈ after.employeeRoles.rows, row.employeeId = 0 → row.roleId = 1 :=
    ⟨_, _, rfl, rfl, by decide⟩
  have remains := owner_remains .sample ((Relation.ReflTransGen.single
    (.commit _ 5 promoted)).tail (.commit _ 6 demoted))
  exact ⟨both, after, promoted, demoted, remains, given⟩

end AccessStore

end CoffeeShop
