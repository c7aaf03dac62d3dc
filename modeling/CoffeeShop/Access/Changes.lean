import CoffeeShop.Access.Roles
import CoffeeShop.Access.Sessions

/-!
What one command may change of who holds which role and which role carries which
permission.
-/

namespace CoffeeShop

open Transaction AuthorizationService AccessStore

/-- The permissions that are not deleted and have one of the ids lie in the scope. -/
def AccessStore.Within (store : AccessStore) (scope : String → Prop) (permissionIds : List Id) :
    Prop :=
  ∀ permission ∈ store.permissions, permission.deletedAt = none →
    permission.id ∈ permissionIds → scope permission.key

/-- Another active employee holds the owner role. -/
def AccessStore.HasOtherOwner (store : AccessStore) (id : Id) : Prop :=
  ∃ other ∈ store.employees, other.id ≠ id ∧ other.isEnabled = true ∧
    ∃ role, store.HasRole other.id role ∧ role.isOwner = true

/-- The employee is active and holds the owner role. -/
def AccessStore.IsOwner (store : AccessStore) (employee : EmployeeAccount) : Prop :=
  employee.isEnabled = true ∧ ∃ role, store.HasRole employee.id role ∧ role.isOwner = true

/-- One command, by an actor who may grant the permission keys of the scope. -/
inductive AccessChange (scope : String → Prop) (before : AccessStore) : AccessStore → Prop where
  | besides {after : AccessStore} (employees : after.employees = before.employees)
      (roles : after.roles = before.roles) (permissions : after.permissions = before.permissions)
      (rolePermissions : after.rolePermissions = before.rolePermissions)
      (employeeRoles : after.employeeRoles = before.employeeRoles) :
      AccessChange scope before after
  | roleCreated {after : AccessStore} (role : Role) (permissionIds : List Id)
      (inserted : before.roles.insert? role = some after.roles)
      (granted : before.rolePermissions.insertAll?
        (permissionIds.map fun permissionId => ⟨role.id, permissionId⟩) =
          some after.rolePermissions)
      (within : before.Within scope permissionIds)
      (employees : after.employees = before.employees)
      (permissions : after.permissions = before.permissions)
      (employeeRoles : after.employeeRoles = before.employeeRoles) :
      AccessChange scope before after
  | roleChanged {after : AccessStore} (condition : Role → Bool) (change : Role → Role)
      (keeps : ∀ role, (change role).id = role.id)
      (plain : ∀ role ∈ before.roles, condition role = true → role.isSystemRole = false)
      (deleted : ∀ role, (change role).deletedAt = none → role.deletedAt = none)
      (roles : after.roles = before.roles.update condition change keeps)
      (carried : ∀ row ∈ after.rolePermissions, row ∈ before.rolePermissions)
      (employees : after.employees = before.employees)
      (permissions : after.permissions = before.permissions)
      (employeeRoles : after.employeeRoles = before.employeeRoles) :
      AccessChange scope before after
  | permissionsReplaced {after : AccessStore} (roleId : Id) (permissionIds : List Id)
      (known : ∃ role ∈ before.roles, role.id = roleId)
      (granted : (before.rolePermissions.delete (·.roleId = roleId)).insertAll?
        (permissionIds.map fun permissionId => ⟨roleId, permissionId⟩) =
          some after.rolePermissions)
      (within : before.Within scope permissionIds)
      (employees : after.employees = before.employees) (roles : after.roles = before.roles)
      (permissions : after.permissions = before.permissions)
      (employeeRoles : after.employeeRoles = before.employeeRoles) :
      AccessChange scope before after
  | employeeCreated {after : AccessStore} (employee : EmployeeAccount)
      (inserted : before.employees.insert? employee = some after.employees)
      (roles : after.roles = before.roles) (permissions : after.permissions = before.permissions)
      (rolePermissions : after.rolePermissions = before.rolePermissions)
      (employeeRoles : after.employeeRoles = before.employeeRoles) :
      AccessChange scope before after
  | employeeChanged {after : AccessStore} (id : Id) (condition : EmployeeAccount → Bool)
      (change : EmployeeAccount → EmployeeAccount) (keeps : ∀ row, (change row).id = row.id)
      (named : ∀ row, condition row = true → row.id = id)
      (enabled : ∀ row ∈ before.employees, condition row = true → (change row).isEnabled = true →
        row.isEnabled = true ∨ ∀ key ∈ before.grantedKeys row.id, scope key)
      (owned : ∀ row ∈ before.employees, condition row = true → before.IsOwner row →
        (change row).isEnabled = true ∨ before.HasOtherOwner id)
      (employees : after.employees = before.employees.update condition change keeps)
      (roles : after.roles = before.roles) (permissions : after.permissions = before.permissions)
      (rolePermissions : after.rolePermissions = before.rolePermissions)
      (employeeRoles : after.employeeRoles = before.employeeRoles) :
      AccessChange scope before after
  | employeeDeleted {after : AccessStore} (id : Id) (condition : EmployeeAccount → Bool)
      (change : EmployeeAccount → EmployeeAccount) (keeps : ∀ row, (change row).id = row.id)
      (named : ∀ row, condition row = true → row.id = id)
      (disabled : ∀ row, (change row).isEnabled = false)
      (owned : ∀ row ∈ before.employees, row.id = id → before.IsOwner row →
        before.HasOtherOwner id)
      (employees : after.employees = before.employees.update condition change keeps)
      (roles : after.roles = before.roles) (permissions : after.permissions = before.permissions)
      (rolePermissions : after.rolePermissions = before.rolePermissions)
      (employeeRoles : after.employeeRoles = before.employeeRoles.delete (·.employeeId = id)) :
      AccessChange scope before after
  | rolesReplaced {after : AccessStore} (id : Id) (roleIds : List Id)
      (known : ∀ roleId ∈ roleIds, ∃ role ∈ before.roles, role.id = roleId)
      (present : ∃ employee ∈ before.employees, employee.id = id)
      (assigned : (before.employeeRoles.delete (·.employeeId = id)).insertAll?
        (roleIds.map fun roleId => ⟨id, roleId⟩) = some after.employeeRoles)
      (within : ∀ role ∈ before.roles, role.deletedAt = none → role.id ∈ roleIds →
        ∀ key, before.Carries role.id key → scope key)
      (owned : ∀ row ∈ before.employees, row.id = id → before.IsOwner row →
        (∃ role ∈ before.roles, role.deletedAt = none ∧ role.id ∈ roleIds ∧ role.isOwner = true) ∨
          before.HasOtherOwner id)
      (employees : after.employees = before.employees) (roles : after.roles = before.roles)
      (permissions : after.permissions = before.permissions)
      (rolePermissions : after.rolePermissions = before.rolePermissions) :
      AccessChange scope before after
  | roleAssigned {after : AccessStore} (id : Id) (role : Role) (known : role ∈ before.roles)
      (present : ∃ employee ∈ before.employees, employee.id = id)
      (assigned : before.employeeRoles.insert? ⟨id, role.id⟩ = some after.employeeRoles)
      (within : ∀ key, before.Carries role.id key → scope key)
      (employees : after.employees = before.employees) (roles : after.roles = before.roles)
      (permissions : after.permissions = before.permissions)
      (rolePermissions : after.rolePermissions = before.rolePermissions) :
      AccessChange scope before after

namespace AccessChange

variable {scope : String → Prop} {before after : AccessStore} {result : Unit}
variable {id actorId : Id} {now : Timestamp}

theorem commits_findRole {role : Role}
    (committed : Commits (RolesService.findRole id) before role after) :
    role ∈ before.roles ∧ role.id = id ∧ role.deletedAt = none ∧ after = before := by
  obtain ⟨found, rfl⟩ := commits_findFirstOrFail.mp committed
  obtain ⟨member, holds⟩ := Table.mem_of_first? found
  simp only [Bool.and_eq_true, decide_eq_true_eq, Option.isNone_iff_eq_none] at holds
  exact ⟨member, holds.1, holds.2, rfl⟩

theorem commits_ensureRoleNameAvailable {name : String} {excludeId : Option Id}
    (committed : Commits (RolesService.ensureRoleNameAvailable name excludeId) before result
      after) : after = before := by
  simp only [RolesService.ensureRoleNameAvailable, commits_bind, commits_findFirst,
    commits_require] at committed
  obtain ⟨_, _, ⟨-, rfl⟩, -, rfl⟩ := committed
  rfl

/-- The keys that a command checks against the actor are ones that the actor may use. -/
theorem scope_of_granted {context : AuthorizationContext} {keys : List String}
    (listed : ∀ key, key ∈ context.permissionKeys ↔ key ∈ before.effectivePermissions actorId)
    (granted : ∀ key ∈ keys, key ∈ context.permissionKeys) :
    ∀ key ∈ keys, key ∈ before.effectivePermissions actorId :=
  fun key member => (listed key).mp (granted key member)

theorem commits_template {templateRoleId : Option Id} {permissions : List Permission}
    (committed : Commits (ifSome templateRoleId
      (fun templateRoleId => do
        let template ← RolesService.findRole templateRoleId
        let store ← get
        pure (store.permissionsOf template.id))
      (pure [])) before permissions after) :
    (∀ permission ∈ permissions, permission ∈ before.permissions) ∧ after = before := by
  rcases commits_ifSome.mp committed with ⟨templateId, -, read⟩ | ⟨-, nothing⟩
  · simp only [commits_bind, commits_get, commits_pure] at read
    obtain ⟨template, _, found, _, _, ⟨rfl, rfl⟩, rfl, rfl⟩ := read
    obtain ⟨-, -, -, rfl⟩ := commits_findRole found
    exact ⟨fun permission member => (mem_permissionsOf.mp member).1, rfl⟩
  · obtain ⟨rfl, rfl⟩ := commits_pure.mp nothing
    exact ⟨fun _ member => absurd member List.not_mem_nil, rfl⟩

/-- Rows with the ids of known permissions lie where these permissions do. -/
theorem within_of_known {permissions : List Permission} {keys : String → Prop}
    (known : ∀ permission ∈ permissions, permission ∈ before.permissions)
    (granted : ∀ key ∈ permissions.map (·.key), keys key) :
    before.Within keys (permissions.map (·.id)) := by
  intro permission member _ named
  obtain ⟨other, inList, same⟩ := List.mem_map.mp named
  have equal : other = permission := Table.eq_of_key_eq (known other inList) member same
  rw [← equal]
  exact granted other.key (List.mem_map.mpr ⟨other, inList, rfl⟩)

theorem createRole {input : CreateRoleInput}
    (committed : Commits (RolesService.createRole input actorId now) before result after) :
    AccessChange (· ∈ before.effectivePermissions actorId) before after := by
  simp only [RolesService.createRole, commits_bind, commits_require, commits_freshId,
    commits_create, commits_createMany] at committed
  obtain ⟨actor, _, contexted, _, _, checked, _, _, available, permissions, _, template, _, _,
    granted, _, store, ⟨-, rfl⟩, _, _, ⟨rfl, rfl⟩, _, _, ⟨roles, inserted, rfl⟩, rows, permitted,
    rfl⟩ := committed
  obtain ⟨listed, -, rfl⟩ := commits_getFreshAuthorizationContext contexted
  obtain ⟨-, rfl⟩ := commits_assertCanGrantPermissions checked
  obtain rfl := commits_ensureRoleNameAvailable available
  obtain ⟨known, rfl⟩ := commits_template template
  obtain ⟨allowed, rfl⟩ := commits_assertCanGrantPermissions granted
  refine .roleCreated _ (permissions.map (·.id)) inserted ?_
    (within_of_known known (scope_of_granted listed allowed)) rfl rfl rfl
  rw [List.map_map]
  exact permitted

theorem updateRole {input : UpdateRoleInput}
    (committed : Commits (RolesService.updateRole id input actorId now) before result after) :
    AccessChange (· ∈ before.effectivePermissions actorId) before after := by
  simp only [RolesService.updateRole, commits_bind, commits_require] at committed
  obtain ⟨actor, _, contexted, _, _, checked, role, _, found, _, _, ⟨plain, rfl⟩, _, current,
    ⟨-, rfl⟩, _, store, renamed, written⟩ := committed
  obtain ⟨listed, -, rfl⟩ := commits_getFreshAuthorizationContext contexted
  obtain ⟨-, rfl⟩ := commits_assertCanGrantPermissions checked
  obtain ⟨member, own, -, rfl⟩ := commits_findRole found
  have same : store = current := by
    rcases commits_whenSome.mp renamed with ⟨name, -, available⟩ | ⟨-, same⟩
    · exact commits_ensureRoleNameAvailable available
    · exact same
  subst same
  rcases commits_when.mp written with ⟨-, written⟩ | ⟨-, rfl⟩
  · obtain ⟨-, rfl⟩ := commits_updateExpecting.mp written
    refine .roleChanged _ _ (by intro; rfl) ?_ ?_ rfl (fun _ inStore => inStore) rfl rfl rfl
    · intro other inStore holds
      simp only [Bool.and_eq_true, decide_eq_true_eq] at holds
      rw [Table.eq_of_key_eq inStore member (holds.1.trans own.symm)]
      exact plain
    · intro other active
      exact active
  · exact .besides rfl rfl rfl rfl rfl

theorem commits_loadManagedRole {required : String} {managed : RolesService.ManagedRole}
    (committed : Commits (RolesService.loadManagedRole id actorId required) before managed after) :
    (∀ key, key ∈ managed.actor.permissionKeys ↔ key ∈ before.effectivePermissions actorId) ∧
      managed.role ∈ before.roles ∧ managed.role.id = id ∧ after = before := by
  simp only [RolesService.loadManagedRole, commits_bind, commits_get, commits_findUnique,
    commits_require, commits_pure] at committed
  obtain ⟨actor, _, contexted, _, _, checked, role, _, found, _, _, ⟨rfl, rfl⟩, _, _, granted, _, _,
    ⟨-, rfl⟩, _, _, ⟨-, rfl⟩, rfl, rfl⟩ := committed
  obtain ⟨-, rfl⟩ := commits_assertCanGrantPermissions granted
  obtain ⟨member, own, -, rfl⟩ := commits_findRole found
  obtain ⟨-, rfl⟩ := commits_assertCanGrantPermissions checked
  obtain ⟨listed, -, rfl⟩ := commits_getFreshAuthorizationContext contexted
  exact ⟨listed, member, own, rfl⟩

theorem deleteRole
    (committed : Commits (RolesService.deleteRole id actorId now) before result after) :
    AccessChange (· ∈ before.effectivePermissions actorId) before after := by
  simp only [RolesService.deleteRole, commits_bind, commits_require, commits_findFirst,
    commits_deleteMany, commits_updateExpecting] at committed
  obtain ⟨managed, _, loaded, _, _, ⟨plain, rfl⟩, _, _, ⟨-, rfl⟩, _, store, ⟨-, rfl⟩, _, _, ⟨-, rfl⟩,
    -, rfl⟩ := committed
  obtain ⟨-, member, own, rfl⟩ := commits_loadManagedRole loaded
  refine .roleChanged _ _ (by intro; rfl) ?_ ?_ rfl ?_ rfl rfl rfl
  · intro other inStore holds
    simp only [Bool.and_eq_true, decide_eq_true_eq] at holds
    rw [Table.eq_of_key_eq inStore member (holds.1.trans own.symm)]
    exact plain
  · intro role active
    cases active
  · intro row inStore
    exact (Table.mem_delete.mp inStore).1

theorem replaceRolePermissions {input : ReplaceRolePermissionsInput}
    (committed : Commits (RolesService.replaceRolePermissions id input actorId) before result
      after) :
    AccessChange (· ∈ before.effectivePermissions actorId) before after := by
  simp only [RolesService.replaceRolePermissions, commits_bind, commits_require,
    commits_findMany] at committed
  obtain ⟨_, _, ⟨distinct, rfl⟩, managed, _, loaded, _, _, ⟨plain, rfl⟩, permissions, _, ⟨rfl, rfl⟩,
    _, _, ⟨complete, rfl⟩, _, store, granted, written⟩ := committed
  obtain ⟨listed, member, own, rfl⟩ := commits_loadManagedRole loaded
  obtain ⟨allowed, rfl⟩ := commits_assertCanGrantPermissions granted
  rcases commits_when.mp written with ⟨-, written⟩ | ⟨-, rfl⟩
  · simp only [commits_bind, commits_require, commits_deleteMany, commits_createMany] at written
    obtain ⟨_, _, ⟨-, rfl⟩, _, _, ⟨-, rfl⟩, rows, permitted, rfl⟩ := written
    refine .permissionsReplaced id input.permissionIds ⟨_, member, own⟩ permitted ?_ rfl rfl rfl rfl
    intro permission member active named
    apply scope_of_granted listed allowed
    refine List.mem_map.mpr ⟨permission, Table.mem_select.mpr ⟨member, ?_⟩, rfl⟩
    simp [named, active]
  · exact .besides rfl rfl rfl rfl rfl

theorem insertEmployee {input : CreateEmployeeInput}
    (committed : Commits (EmployeesService.insertEmployee input id now) before result after) :
    ∃ employees, after = { before with employees } ∧ ∃ employee : EmployeeAccount,
      employee.id = id ∧ before.employees.insert? employee = some employees := by
  simp only [EmployeesService.insertEmployee, EmployeesService.assertUnique, commits_bind,
    commits_findFirst, commits_require, commits_create] at committed
  obtain ⟨_, _, ⟨_, _, ⟨-, rfl⟩, -, rfl⟩, employees, inserted, rfl⟩ := committed
  exact ⟨employees, rfl, _, rfl, inserted⟩

theorem commits_assertActivePosition {positionId : Id}
    (committed : Commits (EmployeesService.assertActivePosition positionId) before result after) :
    after = before := by
  simp only [EmployeesService.assertActivePosition, commits_bind, commits_findFirstOrFail,
    commits_pure] at committed
  obtain ⟨_, _, ⟨-, rfl⟩, -, rfl⟩ := committed
  rfl

theorem createEmployee {input : CreateEmployeeInput} (scope : String → Prop)
    (committed : Commits (EmployeesService.createEmployee input now) before result after) :
    AccessChange scope before after := by
  simp only [EmployeesService.createEmployee, commits_bind, commits_freshId] at committed
  obtain ⟨_, store, positioned, _, _, ⟨rfl, rfl⟩, written⟩ := committed
  obtain rfl := commits_assertActivePosition positioned
  obtain ⟨employees, rfl, employee, -, inserted⟩ := insertEmployee written
  exact .employeeCreated employee inserted rfl rfl rfl rfl

theorem commits_loadManagedEmployee {context : AuthorizationContext}
    {managed : EmployeesService.ManagedEmployee}
    (committed : Commits (EmployeesService.loadManagedEmployee id context) before managed after) :
    (∀ key ∈ before.grantedKeys id, key ∈ context.permissionKeys) ∧
      managed.employee ∈ before.employees ∧ managed.employee.id = id ∧
      managed.roles = before.rolesOf id ∧ after = before := by
  simp only [EmployeesService.loadManagedEmployee, commits_bind, commits_findFirstOrFail,
    commits_get, commits_pure] at committed
  obtain ⟨employee, _, ⟨found, rfl⟩, _, _, ⟨rfl, rfl⟩, _, store, granted, rfl, rfl⟩ := committed
  obtain ⟨member, holds⟩ := Table.mem_of_first? found
  simp only [Bool.and_eq_true, decide_eq_true_eq] at holds
  obtain ⟨allowed, rfl⟩ := commits_assertCanGrantPermissions granted
  exact ⟨allowed, member, holds.1, rfl, rfl⟩

/-- An owner may go if another one stays. -/
theorem commits_assertOwnerRemains {managed : EmployeesService.ManagedEmployee}
    (committed : Commits (EmployeesService.assertOwnerRemains managed) before result after)
    (roles : managed.roles = before.rolesOf managed.employee.id) :
    after = before ∧
      (before.IsOwner managed.employee → before.HasOtherOwner managed.employee.id) := by
  simp only [EmployeesService.assertOwnerRemains, commits_bind, commits_get,
    commits_require] at committed
  obtain ⟨_, _, ⟨rfl, rfl⟩, remains, rfl⟩ := committed
  refine ⟨rfl, ?_⟩
  rintro ⟨enabled, role, held, owner⟩
  rcases remains with inactive | unowned | others
  · simp [EmployeeAccount.isEnabled, inactive] at enabled
  · rw [roles, List.any_eq_false] at unowned
    exact (unowned role (mem_rolesOf.mpr held) owner).elim
  · have some : ¬∀ other ∈ after.employees,
        EmployeesService.otherOwner after managed.employee.id other = false :=
      fun none => others (Table.count_eq_zero.mpr none)
    push Not at some
    obtain ⟨other, member, chosen⟩ := some
    have holds := Bool.of_not_eq_false chosen
    simp only [EmployeesService.otherOwner, Bool.and_eq_true, decide_eq_true_eq,
      List.any_eq_true] at holds
    obtain ⟨⟨differs, active⟩, otherRole, listed, otherOwner⟩ := holds
    exact ⟨other, member, differs, active, otherRole, mem_rolesOf.mp listed, otherOwner⟩

/-- Statements on sessions and reset tokens leave the access tables alone. -/
def SameAccess (before after : AccessStore) : Prop :=
  after.employees = before.employees ∧ after.positions = before.positions ∧
    after.roles = before.roles ∧ after.permissions = before.permissions ∧
    after.rolePermissions = before.rolePermissions ∧ after.employeeRoles = before.employeeRoles

theorem revokeSessions {reason : SessionRevokeReason}
    (committed : Commits (EmployeesService.revokeSessions id reason now) before result after) :
    SameAccess before after := by
  simp only [EmployeesService.revokeSessions, commits_bind, commits_updateMany,
    commits_pure] at committed
  obtain ⟨_, _, ⟨-, rfl⟩, -, rfl⟩ := committed
  exact ⟨rfl, rfl, rfl, rfl, rfl, rfl⟩

theorem useResetTokens
    (committed : Commits (EmployeesService.useResetTokens id now) before result after) :
    SameAccess before after := by
  simp only [EmployeesService.useResetTokens, commits_bind, commits_updateMany,
    commits_pure] at committed
  obtain ⟨_, _, ⟨-, rfl⟩, -, rfl⟩ := committed
  exact ⟨rfl, rfl, rfl, rfl, rfl, rfl⟩

theorem updateEmployee {input : UpdateEmployeeInput}
    (committed : Commits (EmployeesService.updateEmployee id input actorId now) before result
      after) :
    AccessChange (· ∈ before.effectivePermissions actorId) before after := by
  simp only [EmployeesService.updateEmployee, commits_bind, commits_require] at committed
  obtain ⟨actor, _, contexted, _, _, checked, managed, _, loaded, _, positioning, ⟨-, rfl⟩, _,
    owning, positioned, _, checking, owned, _, store, unique, _, saved, written, revoked⟩ :=
    committed
  obtain ⟨listed, -, rfl⟩ := commits_getFreshAuthorizationContext contexted
  obtain ⟨-, rfl⟩ := commits_assertCanGrantPermissions checked
  obtain ⟨allowed, member, own, roles, rfl⟩ := commits_loadManagedEmployee loaded
  have unmoved : owning = positioning := by
    rcases commits_whenSome.mp positioned with ⟨positionId, -, active⟩ | ⟨-, same⟩
    · exact commits_assertActivePosition active
    · exact same
  subst unmoved
  have guarded : checking = owning ∧ (input.isActive = some false →
      owning.IsOwner managed.employee → owning.HasOtherOwner managed.employee.id) := by
    rcases commits_when.mp owned with ⟨-, disabling⟩ | ⟨enabled, same⟩
    · simp only [commits_bind, commits_require] at disabling
      obtain ⟨_, _, ⟨-, rfl⟩, remains⟩ := disabling
      obtain ⟨same, other⟩ := commits_assertOwnerRemains remains (own ▸ roles)
      exact ⟨same, fun _ => other⟩
    · exact ⟨same, fun disabling => (enabled disabling).elim⟩
  obtain ⟨rfl, remains⟩ := guarded
  simp only [EmployeesService.assertUnique, commits_bind, commits_findFirst,
    commits_require] at unique
  obtain ⟨_, _, ⟨-, rfl⟩, -, rfl⟩ := unique
  have kept : SameAccess saved after := by
    rcases commits_when.mp revoked with ⟨-, revoked⟩ | ⟨-, same⟩
    · obtain ⟨_, middle, first, second⟩ := commits_bind.mp revoked
      obtain ⟨e, p, r, q, rp, er⟩ := revokeSessions first
      obtain ⟨e', p', r', q', rp', er'⟩ := useResetTokens second
      exact ⟨e'.trans e, p'.trans p, r'.trans r, q'.trans q, rp'.trans rp, er'.trans er⟩
    · subst same
      exact ⟨rfl, rfl, rfl, rfl, rfl, rfl⟩
  obtain ⟨employees, -, roleTable, permissions, rolePermissions, employeeRoles⟩ := kept
  obtain ⟨-, rfl⟩ := commits_updateExpecting.mp written
  have onlyManaged (row : EmployeeAccount) (inStore : row ∈ store.employees) (named : row.id = id) :
      row = managed.employee := Table.eq_of_key_eq inStore member (named.trans own.symm)
  refine .employeeChanged id _ _ (by intro; rfl) ?_ ?_ ?_ employees roleTable permissions
    rolePermissions employeeRoles
  · intro row holds
    simp only [Bool.and_eq_true, decide_eq_true_eq] at holds
    exact holds.1
  · intro row inStore holds _
    simp only [Bool.and_eq_true, decide_eq_true_eq] at holds
    right
    rw [holds.1]
    exact scope_of_granted listed allowed
  · intro row inStore holds owner
    simp only [Bool.and_eq_true, decide_eq_true_eq] at holds
    rw [onlyManaged row inStore holds.1] at owner
    by_cases disabling : input.isActive = some false
    · right
      rw [← own]
      exact remains disabling owner
    · left
      have enabled := owner.1
      rw [onlyManaged row inStore holds.1]
      simp only [EmployeeAccount.isEnabled, Bool.and_eq_true] at enabled ⊢
      refine ⟨?_, enabled.2⟩
      cases active : input.isActive with
      | none => simpa using enabled.1
      | some value =>
          cases value with
          | false => exact (disabling active).elim
          | true => rfl

theorem deleteEmployee
    (committed : Commits (EmployeesService.deleteEmployee id actorId now) before result after) :
    AccessChange (· ∈ before.effectivePermissions actorId) before after := by
  simp only [EmployeesService.deleteEmployee, commits_bind, commits_require, commits_deleteMany,
    commits_updateExpecting] at committed
  obtain ⟨actor, _, contexted, _, _, checked, _, _, ⟨-, rfl⟩, managed, _, loaded, _, store, owned,
    _, middle, first, _, last, second, _, _, ⟨-, rfl⟩, -, rfl⟩ := committed
  obtain ⟨listed, -, rfl⟩ := commits_getFreshAuthorizationContext contexted
  obtain ⟨-, rfl⟩ := commits_assertCanGrantPermissions checked
  obtain ⟨allowed, member, own, roles, rfl⟩ := commits_loadManagedEmployee loaded
  obtain ⟨rfl, remains⟩ := commits_assertOwnerRemains owned (own ▸ roles)
  obtain ⟨e, p, r, q, rp, er⟩ := revokeSessions first
  obtain ⟨e', p', r', q', rp', er'⟩ := useResetTokens second
  refine .employeeDeleted id
    (fun row => row.id = id && row.deletedAt.isNone)
    (fun row => { row with deletedAt := some now, isActive := false, updatedAt := now })
    (by intro; rfl) ?_ ?_ ?_ ?_ (r'.trans r) (q'.trans q) (rp'.trans rp) ?_
  · intro row holds
    exact of_decide_eq_true (Bool.and_eq_true_iff.mp holds).1
  · intro row
    rfl
  · intro row inStore named owner
    rw [Table.eq_of_key_eq inStore member (named.trans own.symm)] at owner
    rw [← own]
    exact remains owner
  · simp only [accessEmployee_set_employees, accessEmployee_get, employeeRole_set_employees,
      e', e]
  · simp only [accessEmployee_set_employeeRoles, employeeRole_set_employeeRoles,
      employeeRole_get, er', er]

/-- There is a row for every id if there are as many rows as ids. -/
theorem exists_of_complete {roles : Table Role.id} {ids : List Id}
    (complete : (roles.select fun role => role.id ∈ ids && role.deletedAt.isNone).length =
      ids.length) : ∀ id ∈ ids, ∃ role ∈ roles, role.id = id := by
  have found : ((roles.select fun role => role.id ∈ ids && role.deletedAt.isNone).map
      (·.id)).Nodup := by
    refine List.Nodup.map_on ?_ (roles.nodup_select _).of_map
    intro first inFirst second inSecond same
    exact Table.eq_of_key_eq (Table.mem_select.mp inFirst).1 (Table.mem_select.mp inSecond).1 same
  have among : (roles.select fun role => role.id ∈ ids && role.deletedAt.isNone).map (·.id) ⊆
      ids := by
    intro id member
    obtain ⟨role, selected, rfl⟩ := List.mem_map.mp member
    have holds := (Table.mem_select.mp selected).2
    simp only [Bool.and_eq_true, decide_eq_true_eq] at holds
    exact holds.1
  have all := (found.subperm among).perm_of_length_le (by rw [List.length_map, complete])
  intro id member
  obtain ⟨role, selected, same⟩ := List.mem_map.mp (all.mem_iff.mpr member)
  exact ⟨role, (Table.mem_select.mp selected).1, same⟩

theorem replaceEmployeeRoles {input : ReplaceEmployeeRolesInput}
    (committed : Commits (EmployeesService.replaceEmployeeRoles id input actorId) before result
      after) :
    AccessChange (· ∈ before.effectivePermissions actorId) before after := by
  simp only [EmployeesService.replaceEmployeeRoles, commits_bind, commits_require,
    commits_findMany, commits_get] at committed
  obtain ⟨_, _, ⟨-, rfl⟩, actor, _, contexted, _, _, checked, _, _, ⟨-, rfl⟩, managed, _,
    loaded, _, _, ⟨-, rfl⟩, roles, _, ⟨selected, rfl⟩, _, _, ⟨complete, rfl⟩, _, _, ⟨rfl, rfl⟩, _, store,
    granted, written⟩ := committed
  obtain ⟨listed, -, rfl⟩ := commits_getFreshAuthorizationContext contexted
  obtain ⟨-, rfl⟩ := commits_assertCanGrantPermissions checked
  obtain ⟨-, member, own, held, rfl⟩ := commits_loadManagedEmployee loaded
  obtain ⟨allowed, rfl⟩ := commits_assertCanGrantPermissions granted
  rcases commits_when.mp written with ⟨-, written⟩ | ⟨-, rfl⟩
  · simp only [commits_bind, commits_require, commits_deleteMany, commits_createMany] at written
    obtain ⟨_, current, ⟨-, same⟩, _, kept, owned, _, _, ⟨-, rfl⟩, rows, assigned, rfl⟩ := written
    subst same
    have guarded : kept = current ∧ (roles.any (·.isOwner) = false →
        current.IsOwner managed.employee → current.HasOtherOwner managed.employee.id) := by
      rcases commits_when.mp owned with ⟨-, checking⟩ | ⟨kept, same⟩
      · obtain ⟨same, other⟩ := commits_assertOwnerRemains checking (own ▸ held)
        exact ⟨same, fun _ => other⟩
      · exact ⟨same, fun unowned => (kept unowned).elim⟩
    obtain ⟨rfl, remains⟩ := guarded
    have chosen (role : Role) (inStore : role ∈ kept.roles) (active : role.deletedAt = none)
        (named : role.id ∈ input.roleIds) : role ∈ roles := by
      rw [selected]
      refine Table.mem_select.mpr ⟨inStore, ?_⟩
      simp [named, active]
    refine .rolesReplaced id input.roleIds ?_ ⟨_, member, own⟩ assigned ?_ ?_ rfl rfl rfl rfl
    · exact exists_of_complete (selected ▸ complete)
    · intro role inStore active named key carries
      apply scope_of_granted listed allowed
      refine List.mem_flatMap.mpr ⟨role, chosen role inStore active named, ?_⟩
      exact mem_keysOf.mpr carries
    · intro row inStore named owner
      rw [Table.eq_of_key_eq inStore member (named.trans own.symm)] at owner
      by_cases ownerRole : roles.any (·.isOwner) = true
      · left
        obtain ⟨role, inRoles, holds⟩ := List.any_eq_true.mp ownerRole
        rw [selected] at inRoles
        obtain ⟨known, requested⟩ := Table.mem_select.mp inRoles
        simp only [Bool.and_eq_true, decide_eq_true_eq, Option.isNone_iff_eq_none] at requested
        exact ⟨role, known, requested.2, requested.1, holds⟩
      · right
        rw [← own]
        exact remains (Bool.eq_false_of_not_eq_true ownerRole) owner
  · exact .besides rfl rfl rfl rfl rfl

/-- A statement on the columns of one employee that neither enables nor disables the account. -/
theorem employeeTouched {condition : EmployeeAccount → Bool}
    {change : EmployeeAccount → EmployeeAccount} (scope : String → Prop) (id : Id)
    (keeps : ∀ row, (change row).id = row.id) (same : ∀ row, (change row).isEnabled = row.isEnabled)
    (employees : after.employees = before.employees.update condition change keeps)
    (named : ∀ row, condition row = true → row.id = id) (roles : after.roles = before.roles)
    (permissions : after.permissions = before.permissions)
    (rolePermissions : after.rolePermissions = before.rolePermissions)
    (employeeRoles : after.employeeRoles = before.employeeRoles) :
    AccessChange scope before after := by
  refine .employeeChanged id condition change keeps named ?_ ?_ employees roles permissions
    rolePermissions employeeRoles
  · intro row _ _ enabled
    rw [same row] at enabled
    exact .inl enabled
  · intro row _ _ owner
    rw [same row]
    exact .inl owner.1

theorem insertRoles {rows : List RoleMetadata} (scope : String → Prop)
    (committed : Commits (RolesService.insertRoles rows now) before result after) :
    Relation.ReflTransGen (AccessChange scope) before after := by
  induction rows generalizing before result with
  | nil =>
      obtain ⟨-, rfl⟩ := commits_pure.mp committed
      exact .refl
  | cons metadata rest inductionHypothesis =>
      simp only [RolesService.insertRoles, commits_bind, commits_findFirst] at committed
      obtain ⟨_, _, ⟨-, rfl⟩, _, middle, inserted, remaining⟩ := committed
      rcases commits_when.mp inserted with ⟨-, inserted⟩ | ⟨-, rfl⟩
      · simp only [commits_bind, commits_freshId, commits_create] at inserted
        obtain ⟨_, _, ⟨rfl, rfl⟩, roles, added, rfl⟩ := inserted
        refine .head ?_ (inductionHypothesis remaining)
        refine .roleCreated _ [] added rfl (fun _ _ _ named => ?_) rfl rfl rfl
        exact absurd named List.not_mem_nil
      · exact inductionHypothesis remaining

theorem importRoles {rows : List RoleMetadata} (scope : String → Prop)
    (committed : Commits (RolesService.importRoles rows actorId now) before result after) :
    Relation.ReflTransGen (AccessChange scope) before after := by
  simp only [RolesService.importRoles, commits_bind] at committed
  obtain ⟨actor, _, contexted, _, _, checked, inserted⟩ := committed
  obtain ⟨-, rfl⟩ := commits_assertCanGrantPermissions checked
  obtain ⟨-, -, rfl⟩ := commits_getFreshAuthorizationContext contexted
  exact insertRoles scope inserted

/-- The new employee of a sign-up gets the default role whoever asks for it. -/
theorem signUp {input : CreateEmployeeInput} {employeeId : Id}
    (committed : Commits (EmployeesService.signUp input now) before employeeId after) :
    Relation.ReflTransGen (AccessChange fun _ => True) before after := by
  simp only [EmployeesService.signUp, commits_bind, commits_findFirstOrFail, commits_freshId,
    commits_findFirst, commits_pure] at committed
  obtain ⟨_, _, ⟨-, rfl⟩, _, _, ⟨rfl, rfl⟩, _, _, written, role, middle, ⟨chosen, rfl⟩, _, _,
    assigned, rfl, rfl⟩ := committed
  obtain ⟨employees, same, employee, own, inserted⟩ := insertEmployee written
  refine Relation.ReflTransGen.head (b := middle) ?_ ?_
  · subst same
    exact .employeeCreated employee inserted rfl rfl rfl rfl
  subst same
  rcases commits_whenSome.mp assigned with ⟨role, found, assigned⟩ | ⟨-, rfl⟩
  · obtain ⟨rows, added, rfl⟩ := commits_create.mp assigned
    rw [chosen] at found
    obtain ⟨known, -⟩ := Table.mem_of_first? found
    refine .single (.roleAssigned _ role known ?_ added (fun _ _ => trivial) rfl rfl rfl rfl)
    exact ⟨employee, (Table.mem_insert? inserted).mpr (.inr rfl), own⟩
  · exact .refl

end AccessChange

end CoffeeShop
