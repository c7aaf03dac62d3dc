import CoffeeShop.Store.Basic
import Mathlib.Logic.Function.Basic
import Mathlib.Logic.Relation

/-!
System settings and their revisions.

The transactions are READ COMMITTED: they run statement by statement, read what others have
committed, and keep what they write to themselves until they commit.  A row that a
transaction has written stays locked until it ends.
-/

namespace CoffeeShop

inductive SettingValueType where
  | string
  | number
  | boolean
  | json
  deriving DecidableEq, Repr

inductive SettingValue where
  | null
  | boolean (value : Bool)
  | number (value : ℚ)
  | string (value : String)
  | array (items : List SettingValue)
  | object (members : List (String × SettingValue))

structure SystemSetting where
  key : String
  value : SettingValue
  valueType : SettingValueType
  description : Option String
  isPublic : Bool
  isSystem : Bool
  version : Nat
  updatedById : Option Id
  deletedAt : Option Timestamp

structure SystemSettingRevision where
  employeeId : Option Id
  version : Nat
  value : SettingValue
  valueType : SettingValueType
  description : Option String
  isPublic : Bool
  deletedAt : Option Timestamp

structure CreateSystemSettingDto where
  key : String
  value : SettingValue
  valueType : SettingValueType
  description : Option String
  isPublic : Bool

/-- Fields that are `none` are left alone; the description can also be removed. -/
structure UpdateSystemSettingDto where
  expectedVersion : Nat
  value : Option SettingValue
  description : Option (Option String)
  isPublic : Option Bool

/-- `pausedUntil`, as it was written and as the instant that it names. -/
structure PauseEnd where
  text : String
  instant : Instant

structure OnlineOrderIntakeValue where
  pausedUntil : Option PauseEnd
  reason : Option String

structure UpdateOnlineOrderIntakeDto where
  expectedVersion : Nat
  value : OnlineOrderIntakeValue

def OnlineOrderIntakeValue.json (intake : OnlineOrderIntakeValue) : SettingValue :=
  .object [
    ("pausedUntil", intake.pausedUntil.elim .null fun pause => .string pause.text),
    ("reason", intake.reason.elim .null .string)]

namespace SystemSettings

def onlineOrderIntakeKey : String := "online_orders.intake"

/-- `assertWritableKey`. -/
def isWritableKey (key : String) : Bool := key ≠ onlineOrderIntakeKey

/-- `assertValueType`. -/
def isValid : SettingValueType → SettingValue → Bool
  | .string, .string _ => true
  | .number, .number _ => true
  | .boolean, .boolean _ => true
  | .json, .null => true
  | .json, .array _ => true
  | .json, .object _ => true
  | _, _ => false

/-- The row of `create`. -/
def created (employeeId : Id) (dto : CreateSystemSettingDto) : SystemSetting where
  key := dto.key
  value := dto.value
  valueType := dto.valueType
  description := dto.description
  isPublic := dto.isPublic
  isSystem := false
  version := 1
  updatedById := some employeeId
  deletedAt := none

/-- What the `updateMany` of `update` makes of the row. -/
def updated (employeeId : Id) (dto : UpdateSystemSettingDto) (row : SystemSetting) :
    SystemSetting :=
  { row with
    value := dto.value.getD row.value
    description := dto.description.getD row.description
    isPublic := dto.isPublic.getD row.isPublic
    updatedById := some employeeId
    version := row.version + 1 }

/-- What the `updateMany` of `remove` makes of the row. -/
def removed (employeeId : Id) (deletedAt : Timestamp) (row : SystemSetting) : SystemSetting :=
  { row with
    deletedAt := some deletedAt
    updatedById := some employeeId
    version := row.version + 1 }

/-- `createRevision`. -/
def revisionOf (setting : SystemSetting) (employeeId : Id) : SystemSettingRevision where
  employeeId := some employeeId
  version := setting.version
  value := setting.value
  valueType := setting.valueType
  description := setting.description
  isPublic := setting.isPublic
  deletedAt := setting.deletedAt

/-- The row of the first update of the intake. -/
def intakeCreated (employeeId : Id) (value : OnlineOrderIntakeValue) : SystemSetting where
  key := onlineOrderIntakeKey
  value := value.json
  valueType := .json
  description := none
  isPublic := false
  isSystem := true
  version := 1
  updatedById := some employeeId
  deletedAt := none

def intakeUpdated (employeeId : Id) (value : OnlineOrderIntakeValue) (row : SystemSetting) :
    SystemSetting :=
  { row with
    value := value.json
    updatedById := some employeeId
    version := row.version + 1 }

/-- The revision of an update of the intake, without description and deletion mark. -/
def intakeRevision (setting : SystemSetting) (employeeId : Id) (value : OnlineOrderIntakeValue) :
    SystemSettingRevision where
  employeeId := some employeeId
  version := setting.version
  value := value.json
  valueType := setting.valueType
  description := none
  isPublic := setting.isPublic
  deletedAt := none

inductive Call where
  | create (employeeId : Id) (dto : CreateSystemSettingDto)
  | update (key : String) (employeeId : Id) (dto : UpdateSystemSettingDto)
  | remove (key : String) (employeeId : Id) (expectedVersion : Nat)

def Call.key : Call → String
  | create _ dto => dto.key
  | update key _ _ => key
  | remove key _ _ => key

def Call.employeeId : Call → Id
  | create employeeId _ => employeeId
  | update _ employeeId _ => employeeId
  | remove _ employeeId _ => employeeId

/-- How far a transaction is. -/
inductive Progress where
  | begun (call : Call)
  /-- `update` or `remove` has read the setting. -/
  | found (call : Call) (id : Id) (existing : SystemSetting)
  | inserted (id : Id) (row : SystemSetting) (employeeId : Id)
  | updated (id : Id) (row : SystemSetting) (employeeId : Id)
  | removed (id : Id) (existing row : SystemSetting) (employeeId : Id) (expectedVersion : Nat)
      (deletedAt : Timestamp)
  /-- The revision is written too. -/
  | recorded (id : Id) (row : SystemSetting) (revision : SystemSettingRevision)

/-- The row that the transaction has written, which it keeps locked. -/
def Progress.row? : Progress → Option (Id × SystemSetting)
  | begun _ => none
  | found _ _ _ => none
  | inserted id row _ => some (id, row)
  | updated id row _ => some (id, row)
  | removed id _ row _ _ _ => some (id, row)
  | recorded id row _ => some (id, row)

/-- The revision that the transaction writes or has written. -/
def Progress.revision? : Progress → Option SystemSettingRevision
  | begun _ => none
  | found _ _ _ => none
  | inserted _ row employeeId => some (revisionOf row employeeId)
  | updated _ row employeeId => some (revisionOf row employeeId)
  -- `remove` does not read the row again
  | removed _ existing _ employeeId expectedVersion deletedAt =>
      some (revisionOf { existing with version := expectedVersion + 1, deletedAt := some deletedAt }
        employeeId)
  | recorded _ _ revision => some revision

/-- What is committed, and the transactions that run. -/
structure Server where
  settings : Id → Option SystemSetting
  revisions : Id → List SystemSettingRevision
  employees : List Id
  transactions : Id → Option Progress

namespace Server

/-- The transaction has written the setting, which is locked until it ends. -/
def Writes (server : Server) (transaction id : Id) : Prop :=
  ∃ progress row, server.transactions transaction = some progress ∧
    progress.row? = some (id, row)

def Unlocked (server : Server) (id : Id) : Prop := ∀ transaction, ¬server.Writes transaction id

/-- No setting has the key, not even one that is not committed yet. -/
def KeyFree (server : Server) (key : String) : Prop :=
  (∀ id row, server.settings id = some row → row.key ≠ key) ∧
    ∀ transaction progress id row, server.transactions transaction = some progress →
      progress.row? = some (id, row) → row.key ≠ key

def moved (server : Server) (transaction : Id) (progress : Option Progress) : Server :=
  { server with transactions := Function.update server.transactions transaction progress }

/-- The row and its revision are committed. -/
def saved (server : Server) (id : Id) (row : SystemSetting) (revision : SystemSettingRevision) :
    Server :=
  { server with
    settings := Function.update server.settings id (some row)
    revisions := Function.update server.revisions id (server.revisions id ++ [revision]) }

/-- The checks of `update` and `remove` on what they have read. -/
def passes (existing : SystemSetting) : Call → Prop
  | .create _ _ => False
  | .update _ _ dto => ∀ value, dto.value = some value → isValid existing.valueType value = true
  | .remove _ _ _ => existing.isSystem = false

/-- The pause ends within the next day. -/
def pauseWithin (now : Instant) (value : OnlineOrderIntakeValue) : Prop :=
  ∀ pause, value.pausedUntil = some pause →
    0 < pause.instant - now ∧ pause.instant - now ≤ 24 * 60 * 60000

inductive Step (before : Server) : Server → Prop where
  | employees (employees : List Id) : Step before { before with employees }
  | begin (transaction : Id) (call : Call) (idle : before.transactions transaction = none)
      (writable : isWritableKey call.key = true)
      (valid : ∀ employeeId dto, call = .create employeeId dto →
        isValid dto.valueType dto.value = true) :
      Step before (before.moved transaction (some (.begun call)))
  | insert {transaction employeeId : Id} {dto : CreateSystemSettingDto} (id : Id)
      (begun : before.transactions transaction = some (.begun (.create employeeId dto)))
      (active : employeeId ∈ before.employees) (free : before.KeyFree dto.key)
      (fresh : before.settings id = none) (unlocked : before.Unlocked id) :
      Step before (before.moved transaction
        (some (.inserted id (created employeeId dto) employeeId)))
  | find {transaction id : Id} {call : Call} {existing : SystemSetting}
      (begun : before.transactions transaction = some (.begun call))
      (active : call.employeeId ∈ before.employees)
      (committed : before.settings id = some existing) (key : existing.key = call.key)
      (present : existing.deletedAt = none) (passes : passes existing call) :
      Step before (before.moved transaction (some (.found call id existing)))
  | update {transaction id employeeId : Id} {key : String} {dto : UpdateSystemSettingDto}
      {existing row : SystemSetting}
      (found : before.transactions transaction =
        some (.found (.update key employeeId dto) id existing))
      (unlocked : before.Unlocked id) (committed : before.settings id = some row)
      (version : row.version = dto.expectedVersion) (present : row.deletedAt = none) :
      Step before (before.moved transaction
        (some (.updated id (updated employeeId dto row) employeeId)))
  | remove {transaction id employeeId : Id} {key : String} {expectedVersion : Nat}
      {existing row : SystemSetting} (deletedAt : Timestamp)
      (found : before.transactions transaction =
        some (.found (.remove key employeeId expectedVersion) id existing))
      (unlocked : before.Unlocked id) (committed : before.settings id = some row)
      (version : row.version = expectedVersion) (present : row.deletedAt = none) :
      Step before (before.moved transaction
        (some (.removed id existing (removed employeeId deletedAt row) employeeId expectedVersion
          deletedAt)))
  | record {transaction id : Id} {progress : Progress} {row : SystemSetting}
      {revision : SystemSettingRevision} (written : before.transactions transaction = some progress)
      (holds : progress.row? = some (id, row)) (records : progress.revision? = some revision)
      (unique : ∀ other ∈ before.revisions id, other.version ≠ revision.version) :
      Step before (before.moved transaction (some (.recorded id row revision)))
  | commit {transaction id : Id} {row : SystemSetting} {revision : SystemSettingRevision}
      (recorded : before.transactions transaction = some (.recorded id row revision)) :
      Step before ((before.saved id row revision).moved transaction none)
  | abort (transaction : Id) : Step before (before.moved transaction none)
  | createIntake {employeeId : Id} {dto : UpdateOnlineOrderIntakeDto} {now : Instant} (id : Id)
      (active : employeeId ∈ before.employees) (pause : pauseWithin now dto.value)
      (version : dto.expectedVersion = 0) (free : before.KeyFree onlineOrderIntakeKey)
      (fresh : before.settings id = none) (unlocked : before.Unlocked id) :
      Step before (before.saved id (intakeCreated employeeId dto.value)
        (intakeRevision (intakeCreated employeeId dto.value) employeeId dto.value))
  | updateIntake {id employeeId : Id} {dto : UpdateOnlineOrderIntakeDto} {now : Instant}
      {row : SystemSetting} (active : employeeId ∈ before.employees)
      (pause : pauseWithin now dto.value) (started : dto.expectedVersion ≠ 0)
      (committed : before.settings id = some row) (key : row.key = onlineOrderIntakeKey)
      (present : row.deletedAt = none) (type : row.valueType = .json)
      (stored : ∃ value : OnlineOrderIntakeValue, row.value = value.json)
      (unlocked : before.Unlocked id) (version : row.version = dto.expectedVersion)
      (unique : ∀ other ∈ before.revisions id, other.version ≠ row.version + 1) :
      Step before (before.saved id (intakeUpdated employeeId dto.value row)
        (intakeRevision (intakeUpdated employeeId dto.value row) employeeId dto.value))

abbrev Steps : Server → Server → Prop := Relation.ReflTransGen Step

end Server

end SystemSettings

end CoffeeShop
