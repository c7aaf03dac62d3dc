import CoffeeShop.Store.Access

/-!
Authorization contexts, and the keys that the roles of an employee grant.
-/

namespace CoffeeShop

open Transaction

structure AuthorizationContext where
  employeeId : Id
  employeeEmail : String
  permissionKeys : List String
  roleNames : List String

namespace PermissionKeys

def rolesRead : String := "/roles_read"
def rolesCreate : String := "/roles_create"
def rolesUpdate : String := "/roles_update"
def rolesDelete : String := "/roles_delete"
def rolePermissionsRead : String := "/roles_permissions_read"
def rolePermissionsUpdate : String := "/roles_permissions_update"
def employeesUpdate : String := "/employees_update"
def employeesDelete : String := "/employees_delete"
def employeeRolesUpdate : String := "/employees_roles_update"

end PermissionKeys

namespace AuthorizationService

def inactiveEmployee : Failure := .unauthorized "Employee account is inactive"

def grantOutsideScope : Failure :=
  .forbidden "Cannot manage permissions outside your delegated scope"

def getFreshAuthorizationContext (employeeId : Id) :
    Tx AccessStore Failure AuthorizationContext := do
  let store ← get
  let employee ← findFirstOrFail accessEmployee
    (fun employee => employee.id = employeeId && employee.isEnabled) inactiveEmployee
  pure {
    employeeId
    employeeEmail := employee.email
    permissionKeys := (store.grantedKeys employeeId).dedup
    roleNames := ((store.rolesOf employeeId).map (·.name)).dedup }

def canGrantPermissions (context : AuthorizationContext) (keys : List String) : Bool :=
  keys.all (· ∈ context.permissionKeys)

def assertCanGrantPermissions (context : AuthorizationContext) (keys : List String) :
    Tx AccessStore Failure Unit :=
  require (canGrantPermissions context keys) grantOutsideScope

/-- The review of the client names the rows that are there, each of them once. -/
def isReviewed (expected : Option (List Id)) (actual : List Id) : Bool :=
  expected.all fun ids =>
    ids.dedup.length = ids.length && actual.length = ids.dedup.length && actual.all (· ∈ ids)

def authorizationChanged : Failure :=
  .conflictWithCode "AUTHORIZATION_CHANGED"
    "Access assignments changed. Reload and review before saving."

variable {before after : AccessStore} {employeeId : Id} {context : AuthorizationContext}

/-- The context lists what the employee may do. -/
theorem commits_getFreshAuthorizationContext
    (committed : Commits (getFreshAuthorizationContext employeeId) before context after) :
    (∀ key, key ∈ context.permissionKeys ↔ key ∈ before.effectivePermissions employeeId) ∧
      (before.employees.find? employeeId).any (·.isEnabled) = true ∧ after = before := by
  simp only [getFreshAuthorizationContext, commits_bind, commits_get, commits_findFirstOrFail,
    commits_pure] at committed
  obtain ⟨_, _, ⟨rfl, rfl⟩, employee, _, ⟨found, rfl⟩, rfl, rfl⟩ := committed
  obtain ⟨member, holds⟩ := Table.mem_of_first? found
  simp only [Bool.and_eq_true, decide_eq_true_eq] at holds
  simp only [accessEmployee_get] at member
  have enabled : (after.employees.find? employeeId).any (·.isEnabled) = true := by
    rw [← holds.1, Table.find?_of_mem member]
    exact holds.2
  refine ⟨fun key => ?_, enabled, rfl⟩
  simp only [AccessStore.effectivePermissions, enabled, if_true, List.mem_dedup]

theorem commits_assertCanGrantPermissions {keys : List String} {result : Unit}
    (committed : Commits (assertCanGrantPermissions context keys) before result after) :
    (∀ key ∈ keys, key ∈ context.permissionKeys) ∧ after = before := by
  obtain ⟨granted, rfl⟩ := commits_require.mp committed
  simp only [canGrantPermissions, List.all_eq_true, decide_eq_true_eq] at granted
  exact ⟨granted, rfl⟩

end AuthorizationService

namespace AccessStore

/-- The employee has the role, and it is not deleted. -/
def HasRole (store : AccessStore) (employeeId : Id) (role : Role) : Prop :=
  (∃ row ∈ store.employeeRoles, row.employeeId = employeeId ∧ row.roleId = role.id) ∧
    role ∈ store.roles ∧ role.deletedAt = none

/-- The role carries the permission key. -/
def Carries (store : AccessStore) (roleId : Id) (key : String) : Prop :=
  ∃ permission ∈ store.permissions, permission.deletedAt = none ∧ permission.key = key ∧
    ∃ row ∈ store.rolePermissions, row.roleId = roleId ∧ row.permissionId = permission.id

variable {store before after : AccessStore} {employeeId roleId : Id} {key : String}

theorem mem_rolesOf {role : Role} :
    role ∈ store.rolesOf employeeId ↔ store.HasRole employeeId role := by
  simp only [rolesOf, List.mem_filterMap, Table.mem_select, decide_eq_true_eq,
    Option.filter_eq_some_iff, Option.isNone_iff_eq_none, HasRole]
  constructor
  · rintro ⟨row, ⟨member, own⟩, found, active⟩
    exact ⟨⟨row, member, own, (Table.find?_key found).symm⟩, Table.mem_of_find? found, active⟩
  · rintro ⟨⟨row, member, own, same⟩, inStore, active⟩
    exact ⟨row, ⟨member, own⟩, same ▸ Table.find?_of_mem inStore, active⟩

theorem mem_permissionsOf {permission : Permission} :
    permission ∈ store.permissionsOf roleId ↔
      permission ∈ store.permissions ∧ permission.deletedAt = none ∧
        ∃ row ∈ store.rolePermissions, row.roleId = roleId ∧ row.permissionId = permission.id := by
  simp only [permissionsOf, List.mem_filterMap, Table.mem_select, decide_eq_true_eq,
    Option.filter_eq_some_iff, Option.isNone_iff_eq_none]
  constructor
  · rintro ⟨row, ⟨member, own⟩, found, active⟩
    exact ⟨Table.mem_of_find? found, active, row, member, own, (Table.find?_key found).symm⟩
  · rintro ⟨inStore, active, row, member, own, same⟩
    exact ⟨row, ⟨member, own⟩, same ▸ Table.find?_of_mem inStore, active⟩

theorem mem_keysOf : key ∈ (store.permissionsOf roleId).map (·.key) ↔ store.Carries roleId key := by
  simp only [List.mem_map, mem_permissionsOf, Carries]
  constructor
  · rintro ⟨permission, ⟨member, active, row⟩, same⟩
    exact ⟨permission, member, active, same, row⟩
  · rintro ⟨permission, member, active, same, row⟩
    exact ⟨permission, ⟨member, active, row⟩, same⟩

theorem mem_grantedKeys :
    key ∈ store.grantedKeys employeeId ↔
      ∃ role, store.HasRole employeeId role ∧ store.Carries role.id key := by
  simp only [grantedKeys, List.mem_flatMap, mem_rolesOf, mem_keysOf]

theorem mem_effectivePermissions :
    key ∈ store.effectivePermissions employeeId ↔
      (∃ employee ∈ store.employees, employee.id = employeeId ∧ employee.isEnabled = true) ∧
        ∃ role, store.HasRole employeeId role ∧ store.Carries role.id key := by
  unfold effectivePermissions
  rw [← mem_grantedKeys]
  split
  · rename_i enabled
    obtain ⟨employee, found, holds⟩ := (Option.any_eq_true _ _).mp enabled
    exact ⟨fun granted => ⟨⟨employee, Table.mem_of_find? found, Table.find?_key found, holds⟩,
      granted⟩, fun both => both.2⟩
  · rename_i disabled
    simp only [List.not_mem_nil, false_iff, not_and]
    rintro ⟨employee, member, rfl, holds⟩
    rw [Table.find?_of_mem member] at disabled
    exact (disabled holds).elim

end AccessStore

end CoffeeShop
