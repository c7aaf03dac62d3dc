import CoffeeShop.Settings.SystemSettings

/-!
The revisions of a setting are its history, unless a removal has read an older version than
the one that it removes.
-/

namespace CoffeeShop.SystemSettings

/-- The revision says what the setting is at its version. -/
structure Records (revision : SystemSettingRevision) (row : SystemSetting) : Prop where
  version : revision.version = row.version
  value : revision.value = row.value
  valueType : revision.valueType = row.valueType
  description : revision.description = row.description
  isPublic : revision.isPublic = row.isPublic
  deletedAt : revision.deletedAt = row.deletedAt

theorem revisionOf_records (row : SystemSetting) (employeeId : Id) :
    Records (revisionOf row employeeId) row :=
  ⟨rfl, rfl, rfl, rfl, rfl, rfl⟩

/-- The row is the next version of the committed one. -/
structure Follows (committed : Option SystemSetting) (row : SystemSetting) : Prop where
  version : row.version = (committed.elim 0 SystemSetting.version) + 1
  key : ∀ old, committed = some old → row.key = old.key

namespace Server

/-- The versions are 1 to the current one, which the last revision records. -/
structure Exact (server : Server) : Prop where
  versions : ∀ id row, server.settings id = some row →
    (server.revisions id).map SystemSettingRevision.version = List.range' 1 row.version
  current : ∀ id row, server.settings id = some row →
    ∃ revision ∈ server.revisions id, Records revision row
  unused : ∀ id, server.settings id = none → server.revisions id = []

/-- What a transaction may rely on. -/
structure Tracks (server : Server) (progress : Progress) : Prop where
  writable : ∀ call, progress = .begun call → call.key ≠ onlineOrderIntakeKey
  found : ∀ call id existing, progress = .found call id existing →
    existing.key ≠ onlineOrderIntakeKey ∧ ∃ row, server.settings id = some row ∧
      row.key = existing.key ∧ existing.version ≤ row.version ∧
      (existing.version = row.version → existing = row)
  written : ∀ id row, progress.row? = some (id, row) → row.key ≠ onlineOrderIntakeKey ∧
    Follows (server.settings id) row ∧
    ∀ revision, progress.revision? = some revision → Records revision row

structure Invariant (server : Server) : Prop where
  exact : server.Exact
  intake : ∀ id row, server.settings id = some row → row.key = onlineOrderIntakeKey →
    row.description = none
  tracks : ∀ transaction progress, server.transactions transaction = some progress →
    server.Tracks progress
  single : ∀ transaction other id, server.Writes transaction id → server.Writes other id →
    other = transaction

variable {server before after : Server}

theorem transactions_moved {transaction other : Id} {progress : Option Progress}
    {current : Progress} (holds : (server.moved transaction progress).transactions other =
      some current) :
    other = transaction ∧ progress = some current ∨
      other ≠ transaction ∧ server.transactions other = some current := by
  dsimp only [moved] at holds
  by_cases same : other = transaction
  · rw [same, Function.update_self] at holds
    exact .inl ⟨same, holds⟩
  · rw [Function.update_of_ne same] at holds
    exact .inr ⟨same, holds⟩

theorem writes_moved {transaction other id : Id} {progress : Option Progress}
    (writes : (server.moved transaction progress).Writes other id) :
    other = transaction ∧ (∃ next row, progress = some next ∧ next.row? = some (id, row)) ∨
      other ≠ transaction ∧ server.Writes other id := by
  obtain ⟨next, row, holds, written⟩ := writes
  obtain ⟨same, new⟩ | ⟨differs, old⟩ := transactions_moved holds
  · exact .inl ⟨same, next, row, new, written⟩
  · exact .inr ⟨differs, next, row, old, written⟩

/-- A transaction moves on; what it writes was its own or unlocked. -/
theorem Invariant.moved (invariant : server.Invariant) {transaction : Id}
    {progress : Option Progress} (tracks : ∀ next, progress = some next → server.Tracks next)
    (owns : ∀ next id row, progress = some next → next.row? = some (id, row) →
      server.Unlocked id ∨ server.Writes transaction id) :
    (server.moved transaction progress).Invariant := by
  refine ⟨⟨invariant.exact.versions, invariant.exact.current, invariant.exact.unused⟩,
    invariant.intake, ?_, ?_⟩
  · intro other current holds
    have kept : server.Tracks current := by
      obtain ⟨-, new⟩ | ⟨-, old⟩ := transactions_moved holds
      · exact tracks current new
      · exact invariant.tracks other current old
    exact ⟨kept.writable, kept.found, kept.written⟩
  · intro first second id writes otherWrites
    -- the moved transaction and another one
    have apart {other : Id} {next : Progress} {row : SystemSetting} (new : progress = some next)
        (written : next.row? = some (id, row)) (differs : other ≠ transaction)
        (old : server.Writes other id) : False := by
      obtain unlocked | own := owns next id row new written
      · exact unlocked other old
      · exact differs (invariant.single transaction other id own old)
    obtain ⟨rfl, next, row, new, written⟩ | ⟨differs, old⟩ := writes_moved writes
    · obtain ⟨rfl, -⟩ | ⟨differs, old⟩ := writes_moved otherWrites
      · rfl
      · exact (apart new written differs old).elim
    · obtain ⟨rfl, next, row, new, written⟩ | ⟨otherDiffers, otherOld⟩ := writes_moved otherWrites
      · exact (apart new written differs old).elim
      · exact invariant.single first second id old otherOld

theorem Invariant.ended (invariant : server.Invariant) (transaction : Id) :
    (server.moved transaction none).Invariant :=
  invariant.moved (fun _ none => nomatch none) fun _ _ _ none => nomatch none

/-- The next version of an unlocked setting is committed. -/
theorem Invariant.saved (invariant : server.Invariant) {id : Id} {row : SystemSetting}
    {revision : SystemSettingRevision} (unlocked : server.Unlocked id)
    (follows : Follows (server.settings id) row) (records : Records revision row)
    (intake : row.key = onlineOrderIntakeKey → row.description = none) :
    (server.saved id row revision).Invariant := by
  have settings (other : Id) : (server.saved id row revision).settings other =
      if other = id then some row else server.settings other := by
    unfold Server.saved
    exact Function.update_apply ..
  have revisions (other : Id) : (server.saved id row revision).revisions other =
      if other = id then server.revisions id ++ [revision] else server.revisions other := by
    unfold Server.saved
    exact Function.update_apply ..
  refine ⟨⟨?_, ?_, ?_⟩, ?_, ?_, invariant.single⟩
  · intro other current committed
    rw [settings] at committed
    rw [revisions]
    by_cases same : other = id
    · rw [if_pos same] at committed ⊢
      obtain rfl := Option.some.inj committed
      rw [List.map_append, List.map_singleton, records.version, follows.version]
      cases old : server.settings id with
      | none => simp [invariant.exact.unused id old]
      | some former =>
          rw [invariant.exact.versions id former old, Option.elim_some, List.range'_concat]
          simp [Nat.add_comm]
    · rw [if_neg same] at committed ⊢
      exact invariant.exact.versions other current committed
  · intro other current committed
    rw [settings] at committed
    rw [revisions]
    by_cases same : other = id
    · rw [if_pos same] at committed ⊢
      obtain rfl := Option.some.inj committed
      exact ⟨revision, List.mem_append_right _ (List.mem_singleton.mpr rfl), records⟩
    · rw [if_neg same] at committed ⊢
      exact invariant.exact.current other current committed
  · intro other committed
    rw [settings] at committed
    rw [revisions]
    by_cases same : other = id
    · rw [if_pos same] at committed
      exact nomatch committed
    · rw [if_neg same] at committed ⊢
      exact invariant.exact.unused other committed
  · intro other current committed key
    rw [settings] at committed
    by_cases same : other = id
    · rw [if_pos same] at committed
      obtain rfl := Option.some.inj committed
      exact intake key
    · rw [if_neg same] at committed
      exact invariant.intake other current committed key
  · intro transaction progress holds
    obtain ⟨writable, found, written⟩ := invariant.tracks transaction progress holds
    refine ⟨writable, ?_, ?_⟩
    · intro call wanted existing isFound
      obtain ⟨key, current, committed, sameKey, bounded, unchanged⟩ := found call wanted existing isFound
      refine ⟨key, ?_⟩
      rw [settings]
      by_cases same : wanted = id
      · rw [if_pos same]
        rw [same] at committed
        have version := follows.version
        rw [committed, Option.elim_some] at version
        exact ⟨row, rfl, (follows.key current committed).trans sameKey, by omega, by omega⟩
      · rw [if_neg same]
        exact ⟨current, committed, sameKey, bounded, unchanged⟩
    · intro wanted next isWritten
      have differs : wanted ≠ id := by
        rintro rfl
        exact unlocked transaction ⟨progress, next, holds, isWritten⟩
      rw [settings, if_neg differs]
      exact written wanted next isWritten

/-- A removal takes the version that its transaction has read. -/
def Prompt (before after : Server) : Prop :=
  ∀ transaction key employeeId expectedVersion id existing row deletedAt,
    before.transactions transaction =
      some (.found (.remove key employeeId expectedVersion) id existing) →
    after.transactions transaction =
      some (.removed id existing row employeeId expectedVersion deletedAt) →
    existing.version = expectedVersion

theorem Tracks.begun {call : Call} (writable : call.key ≠ onlineOrderIntakeKey) :
    server.Tracks (.begun call) := by
  refine ⟨?_, fun _ _ _ none => (nomatch none), fun _ _ none => (nomatch none)⟩
  rintro other ⟨⟩
  exact writable

theorem Tracks.read {call : Call} {id : Id} {existing : SystemSetting}
    (committed : server.settings id = some existing)
    (writable : existing.key ≠ onlineOrderIntakeKey) : server.Tracks (.found call id existing) := by
  refine ⟨fun _ none => (nomatch none), ?_, fun _ _ none => (nomatch none)⟩
  rintro other wanted row ⟨⟩
  exact ⟨writable, existing, committed, rfl, le_rfl, fun _ => rfl⟩

theorem Tracks.wrote {progress : Progress} {id : Id} {row : SystemSetting}
    (holds : progress.row? = some (id, row)) (writable : row.key ≠ onlineOrderIntakeKey)
    (follows : Follows (server.settings id) row)
    (records : ∀ revision, progress.revision? = some revision → Records revision row) :
    server.Tracks progress := by
  refine ⟨?_, ?_, ?_⟩
  · rintro call rfl
    exact nomatch holds
  · rintro call wanted existing rfl
    exact nomatch holds
  · intro wanted other same
    obtain ⟨rfl, rfl⟩ := Prod.mk.inj (Option.some.inj (holds.symm.trans same))
    exact ⟨writable, follows, records⟩

theorem follows_committed {id : Id} {row next : SystemSetting}
    (committed : server.settings id = some row) (version : next.version = row.version + 1)
    (key : next.key = row.key) : Follows (server.settings id) next := by
  constructor
  · rw [committed]
    exact version
  · intro old isCommitted
    rw [key, Option.some.inj (committed.symm.trans isCommitted)]

/-- A transaction writes an unlocked setting. -/
theorem Invariant.writes (invariant : server.Invariant) {transaction id : Id} {progress : Progress}
    {row : SystemSetting} (holds : progress.row? = some (id, row)) (unlocked : server.Unlocked id)
    (tracks : server.Tracks progress) : (server.moved transaction (some progress)).Invariant := by
  refine invariant.moved ?_ ?_
  · rintro next ⟨⟩
    exact tracks
  · rintro next wanted other ⟨⟩ written
    obtain ⟨rfl, -⟩ := Prod.mk.inj (Option.some.inj (holds.symm.trans written))
    exact .inl unlocked

theorem Invariant.commit (invariant : before.Invariant) {transaction id : Id}
    {row : SystemSetting} {revision : SystemSettingRevision}
    (recorded : before.transactions transaction = some (.recorded id row revision)) :
    ((before.saved id row revision).moved transaction none).Invariant := by
  obtain ⟨writable, follows, recording⟩ := (invariant.tracks _ _ recorded).written id row rfl
  -- the transaction ends, and what it wrote is committed
  have ended := invariant.ended transaction
  have unlocked : (before.moved transaction none).Unlocked id := by
    intro other writes
    obtain ⟨-, next, row, new, -⟩ | ⟨differs, old⟩ := writes_moved writes
    · exact nomatch new
    · exact differs (invariant.single transaction other id ⟨_, row, recorded, rfl⟩ old)
  exact ended.saved unlocked follows (recording revision rfl) fun key => absurd key writable

theorem Invariant.step (invariant : before.Invariant) (step : Step before after)
    (prompt : Prompt before after) : after.Invariant := by
  cases step with
  | employees employees =>
      refine ⟨⟨invariant.exact.versions, invariant.exact.current, invariant.exact.unused⟩,
        invariant.intake, fun transaction progress holds => ?_, invariant.single⟩
      obtain ⟨writable, found, written⟩ := invariant.tracks transaction progress holds
      exact ⟨writable, found, written⟩
  | begin transaction call idle writable valid =>
      refine invariant.moved ?_ ?_
      · rintro next ⟨⟩
        exact .begun (of_decide_eq_true writable)
      · rintro next id row ⟨⟩ none
        exact nomatch none
  | @insert transaction employeeId dto id begun active free fresh unlocked =>
      have writable := (invariant.tracks _ _ begun).writable _ rfl
      have follows : Follows (before.settings id) (created employeeId dto) := by
        rw [fresh]
        exact ⟨rfl, nofun⟩
      refine invariant.writes rfl unlocked (.wrote rfl writable follows ?_)
      rintro revision ⟨⟩
      exact revisionOf_records _ employeeId
  | @find transaction id call existing begun active committed key present passes =>
      have writable := (invariant.tracks _ _ begun).writable _ rfl
      refine invariant.moved ?_ ?_
      · rintro next ⟨⟩
        exact .read committed (key ▸ writable)
      · rintro next wanted row ⟨⟩ none
        exact nomatch none
  | @update transaction id employeeId key dto existing row found unlocked committed version present =>
      obtain ⟨writable, old, same, sameKey, -⟩ := (invariant.tracks _ _ found).found _ _ _ rfl
      obtain rfl := Option.some.inj (same.symm.trans committed)
      refine invariant.writes rfl unlocked
        (.wrote rfl (sameKey ▸ writable) (follows_committed committed rfl rfl) ?_)
      rintro revision ⟨⟩
      exact revisionOf_records _ employeeId
  | @remove transaction id employeeId key expectedVersion existing row deletedAt found unlocked
      committed version present =>
      obtain ⟨writable, old, same, sameKey, -, unchanged⟩ :=
        (invariant.tracks _ _ found).found _ _ _ rfl
      obtain rfl := Option.some.inj (same.symm.trans committed)
      have read : existing.version = expectedVersion :=
        prompt transaction key employeeId expectedVersion id existing _ deletedAt found
          (Function.update_self ..)
      obtain rfl := unchanged (read.trans version.symm)
      refine invariant.writes rfl unlocked
        (.wrote rfl writable (follows_committed committed rfl rfl) ?_)
      rintro revision ⟨⟩
      exact ⟨congrArg (· + 1) read.symm, rfl, rfl, rfl, rfl, rfl⟩
  | @record transaction id progress row revision isWritten holds records unique =>
      obtain ⟨writable, follows, recording⟩ :=
        (invariant.tracks _ _ isWritten).written id row holds
      refine invariant.moved ?_ ?_
      · rintro next ⟨⟩
        refine .wrote rfl writable follows ?_
        rintro other ⟨⟩
        exact recording revision records
      · rintro next wanted other ⟨⟩ ⟨⟩
        exact .inr ⟨progress, row, isWritten, holds⟩
  | commit recorded => exact invariant.commit recorded
  | abort transaction => exact invariant.ended transaction
  | @createIntake employeeId dto now id active pause version free fresh unlocked =>
      have follows : Follows (before.settings id) (intakeCreated employeeId dto.value) := by
        rw [fresh]
        exact ⟨rfl, nofun⟩
      exact invariant.saved unlocked follows ⟨rfl, rfl, rfl, rfl, rfl, rfl⟩ fun _ => rfl
  | @updateIntake id employeeId dto now row active pause started committed key present type stored
      unlocked version unique =>
      have description := invariant.intake id row committed key
      exact invariant.saved unlocked (follows_committed committed rfl rfl)
        ⟨rfl, rfl, rfl, description.symm, rfl, present.symm⟩ fun _ => description

/-- The database as it is set up: every setting at its first version, with its revision. -/
structure Initial (server : Server) : Prop where
  idle : ∀ transaction, server.transactions transaction = none
  settings : ∀ id row, server.settings id = some row →
    row.key ≠ onlineOrderIntakeKey ∧ row.version = 1 ∧ row.deletedAt = none ∧
      ∃ revision, server.revisions id = [revision] ∧ Records revision row
  unused : ∀ id, server.settings id = none → server.revisions id = []

theorem Initial.invariant (initial : server.Initial) : server.Invariant := by
  refine ⟨⟨?_, ?_, initial.unused⟩, ?_, ?_, ?_⟩
  · intro id row committed
    obtain ⟨-, version, -, revision, revisions, records⟩ := initial.settings id row committed
    rw [revisions, List.map_singleton, records.version, version]
    rfl
  · intro id row committed
    obtain ⟨-, -, -, revision, revisions, records⟩ := initial.settings id row committed
    exact ⟨revision, revisions ▸ List.mem_singleton.mpr rfl, records⟩
  · intro id row committed key
    exact absurd key (initial.settings id row committed).1
  · intro transaction progress holds
    exact nomatch (initial.idle transaction).symm.trans holds
  · rintro transaction other id ⟨progress, row, holds, -⟩
    exact nomatch (initial.idle transaction).symm.trans holds

/-- A step in which a removal, if it is one, takes the version that was read. -/
structure PromptStep (before after : Server) : Prop where
  step : Step before after
  prompt : Prompt before after

abbrev PromptSteps : Server → Server → Prop := Relation.ReflTransGen PromptStep

theorem Invariant.steps (invariant : before.Invariant) (steps : PromptSteps before after) :
    after.Invariant := by
  induction steps with
  | refl => exact invariant
  | tail _ taken inductionHypothesis => exact inductionHypothesis.step taken.step taken.prompt

theorem revisions_saved (id other : Id) (row : SystemSetting) (revision : SystemSettingRevision) :
    server.revisions other <+: (server.saved id row revision).revisions other := by
  unfold saved
  by_cases same : other = id
  · rw [same]
    simp only [Function.update_self]
    exact List.prefix_append _ _
  · simp only [Function.update_of_ne same]
    exact List.prefix_refl _

/-- Revisions stay. -/
theorem Step.revisions (step : Step before after) (id : Id) :
    before.revisions id <+: after.revisions id := by
  cases step with
  | @commit _ wanted row revision _ => exact revisions_saved wanted id row revision
  | createIntake wanted => exact revisions_saved wanted id _ _
  | @updateIntake wanted => exact revisions_saved wanted id _ _
  | _ => exact List.prefix_refl _

theorem mem_saved {id other : Id} {row : SystemSetting} {revision found : SystemSettingRevision}
    (records : Records revision row)
    (member : found ∈ (server.saved id row revision).revisions other) :
    found ∈ server.revisions other ∨ ∃ current,
      (server.saved id row revision).settings other = some current ∧ Records found current := by
  unfold saved at member ⊢
  by_cases same : other = id
  · rw [same] at member ⊢
    simp only [Function.update_self, List.mem_append, List.mem_singleton] at member ⊢
    obtain old | rfl := member
    · exact .inl old
    · exact .inr ⟨row, rfl, records⟩
  · simp only [Function.update_of_ne same] at member
    exact .inl member

/-- A new revision records the setting that is committed with it. -/
theorem Invariant.new_revision (invariant : before.Invariant) (step : Step before after) {id : Id}
    {revision : SystemSettingRevision} (member : revision ∈ after.revisions id) :
    revision ∈ before.revisions id ∨
      ∃ row, after.settings id = some row ∧ Records revision row := by
  cases step with
  | @commit transaction wanted row written recorded =>
      obtain ⟨-, -, recording⟩ := (invariant.tracks _ _ recorded).written wanted row rfl
      exact mem_saved (recording written rfl) member
  | createIntake =>
      exact mem_saved ⟨rfl, rfl, rfl, rfl, rfl, rfl⟩ member
  | @updateIntake wanted employeeId dto now row active pause started committed key present =>
      have description := invariant.intake wanted row committed key
      exact mem_saved ⟨rfl, rfl, rfl, description.symm, rfl, present.symm⟩ member
  | _ => exact .inl member

/-- The revisions after a run are the versions that the settings had in it. -/
structure History (Run : Server → Server → Prop) (start last : Server) : Prop where
  exact : last.Exact
  recorded : ∀ past id row, Run start past → Run past last → past.settings id = some row →
    ∃ revision ∈ last.revisions id, Records revision row
  happened : ∀ id, ∀ revision ∈ last.revisions id, ∃ past row, Run start past ∧ Run past last ∧
    past.settings id = some row ∧ Records revision row

theorem PromptSteps.revisions {id : Id} (steps : PromptSteps before after) :
    before.revisions id <+: after.revisions id := by
  induction steps with
  | refl => exact List.prefix_refl _
  | tail _ taken inductionHypothesis => exact inductionHypothesis.trans (taken.step.revisions id)

theorem happened (invariant : before.Invariant) (steps : PromptSteps before after)
    (current : ∀ id, ∀ revision ∈ before.revisions id,
      ∃ row, before.settings id = some row ∧ Records revision row) :
    ∀ id, ∀ revision ∈ after.revisions id, ∃ past row, PromptSteps before past ∧
      PromptSteps past after ∧ past.settings id = some row ∧ Records revision row := by
  induction steps with
  | refl =>
      intro id revision member
      obtain ⟨row, committed, records⟩ := current id revision member
      exact ⟨before, row, .refl, .refl, committed, records⟩
  | @tail middle after steps taken inductionHypothesis =>
      intro id revision member
      obtain old | ⟨row, committed, records⟩ :=
        (invariant.steps steps).new_revision taken.step member
      · obtain ⟨past, row, first, later, rest⟩ := inductionHypothesis id revision old
        exact ⟨past, row, first, later.tail taken, rest⟩
      · exact ⟨after, row, steps.tail taken, .refl, committed, records⟩

/-- The history of the settings is exact as long as removals take the version that they read. -/
theorem Initial.history {start last : Server} (initial : start.Initial)
    (run : PromptSteps start last) : History PromptSteps start last := by
  constructor
  · exact (initial.invariant.steps run).exact
  · intro past id row first later committed
    obtain ⟨revision, member, records⟩ :=
      (initial.invariant.steps first).exact.current id row committed
    exact ⟨revision, (PromptSteps.revisions later).subset member, records⟩
  · refine happened initial.invariant run fun id revision member => ?_
    cases committed : start.settings id with
    | none => exact absurd (initial.unused id committed ▸ member) List.not_mem_nil
    | some row =>
        obtain ⟨-, -, -, only, revisions, records⟩ := initial.settings id row committed
        rw [revisions] at member
        obtain rfl := List.mem_singleton.mp member
        exact ⟨row, rfl, records⟩

section Overtaken

/-- A setting at its first version. -/
def timeZone : SystemSetting where
  key := "shop.timezone"
  value := .string "UTC"
  valueType := .string
  description := none
  isPublic := false
  isSystem := false
  version := 1
  updatedById := none
  deletedAt := none

def sample : Server where
  settings id := if id = 0 then some timeZone else none
  revisions id := if id = 0 then [revisionOf timeZone 1] else []
  employees := [1]
  transactions _ := none

theorem sample_initial : sample.Initial := by
  refine ⟨fun _ => rfl, ?_, ?_⟩
  · intro id row committed
    by_cases first : id = 0
    · subst first
      obtain rfl : timeZone = row := Option.some.inj committed
      exact ⟨by decide, rfl, rfl, _, rfl, revisionOf_records timeZone 1⟩
    · exact absurd committed (by simp [sample, first])
  · intro id committed
    by_cases first : id = 0
    · exact absurd committed (by simp [sample, first])
    · simp [sample, first]

theorem sample_unlocked (id : Id) : sample.Unlocked id := by
  rintro transaction ⟨progress, row, holds, -⟩
  exact nomatch holds

theorem Unlocked.moved {id transaction : Id} {progress : Option Progress}
    (unlocked : server.Unlocked id) (writes : ∀ next, progress = some next → next.row? = none) :
    (server.moved transaction progress).Unlocked id := by
  intro other isWritten
  obtain ⟨-, next, row, new, written⟩ | ⟨-, old⟩ := writes_moved isWritten
  · exact nomatch (writes next new).symm.trans written
  · exact unlocked other old

theorem moved_moved {transaction : Id} {first second : Option Progress} :
    (server.moved transaction first).moved transaction second = server.moved transaction second := by
  unfold Server.moved
  rw [Function.update_idem]

/-- Two transactions: the first removes what it expects the second to write. -/
def removal : Call := .remove timeZone.key 1 2

def change : UpdateSystemSettingDto where
  expectedVersion := 1
  value := some (.string "Asia/Ho_Chi_Minh")
  description := none
  isPublic := none

def changed : SystemSetting := updated 1 change timeZone

/-- The removal has read the first version. -/
def reading : Server := sample.moved 0 (some (.found removal 0 timeZone))

/-- The update is committed in between. -/
def overtaken : Server := (reading.saved 0 changed (revisionOf changed 1)).moved 1 none

/-- The removal takes the second version and records the first one. -/
def mixed : Server :=
  (overtaken.saved 0 (removed 1 9 changed)
    (revisionOf { timeZone with version := 3, deletedAt := some 9 } 1)).moved 0 none

theorem Step.chain {transaction : Id} {first second : Option Progress}
    (step : Step (server.moved transaction first)
      ((server.moved transaction first).moved transaction second)) :
    Step (server.moved transaction first) (server.moved transaction second) := by
  rwa [moved_moved] at step

theorem Step.finish {transaction id : Id} {row : SystemSetting} {revision : SystemSettingRevision} :
    Step (server.moved transaction (some (.recorded id row revision)))
      ((server.saved id row revision).moved transaction none) := by
  have committed : Step (server.moved transaction (some (.recorded id row revision)))
      (((server.moved transaction (some (.recorded id row revision))).saved id row revision).moved
        transaction none) := .commit (Function.update_self ..)
  unfold Server.moved Server.saved at committed ⊢
  rwa [Function.update_idem] at committed

/-- No setting is being removed. -/
def Calm (server : Server) : Prop :=
  ∀ transaction id existing row employeeId expectedVersion deletedAt,
    server.transactions transaction ≠
      some (.removed id existing row employeeId expectedVersion deletedAt)

theorem Calm.moved {transaction : Id} {progress : Option Progress} (calm : server.Calm)
    (other : ∀ id existing row employeeId expectedVersion deletedAt,
      progress ≠ some (.removed id existing row employeeId expectedVersion deletedAt)) :
    (server.moved transaction progress).Calm := by
  intro wanted id existing row employeeId expectedVersion deletedAt holds
  obtain ⟨-, new⟩ | ⟨-, old⟩ := transactions_moved holds
  · exact other _ _ _ _ _ _ new
  · exact calm _ _ _ _ _ _ _ old

theorem Step.calm (step : Step before after) (calm : after.Calm) : PromptStep before after :=
  ⟨step, fun _ _ _ _ _ _ _ _ _ removed => absurd removed (calm _ _ _ _ _ _ _)⟩

theorem PromptSteps.steps (steps : PromptSteps before after) : Steps before after := by
  induction steps with
  | refl => exact .refl
  | tail _ taken inductionHypothesis => exact inductionHypothesis.tail taken.step

theorem sample_calm : sample.Calm := fun _ _ _ _ _ _ _ none => nomatch none

theorem reading_calm : reading.Calm := sample_calm.moved fun _ _ _ _ _ _ same => nomatch same

theorem reading_steps : PromptSteps sample reading := by
  have began : Step sample (sample.moved 0 (some (.begun removal))) :=
    .begin 0 removal rfl (by decide) fun _ _ same => nomatch same
  have found : Step (sample.moved 0 (some (.begun removal))) reading :=
    .chain (.find rfl (by decide) rfl rfl rfl rfl)
  have calm : (sample.moved 0 (some (.begun removal))).Calm :=
    sample_calm.moved fun _ _ _ _ _ _ same => nomatch same
  exact .tail (.single (began.calm calm)) (found.calm reading_calm)

theorem overtaken_steps : PromptSteps reading overtaken := by
  have began : Step reading (reading.moved 1 (some (.begun (.update timeZone.key 1 change)))) :=
    .begin 1 _ rfl (by decide) fun _ _ same => nomatch same
  have found : Step (reading.moved 1 (some (.begun (.update timeZone.key 1 change))))
      (reading.moved 1 (some (.found (.update timeZone.key 1 change) 0 timeZone))) := by
    refine .chain (.find rfl (by decide) rfl rfl rfl ?_)
    rintro value ⟨⟩
    rfl
  have unlocked :
      (reading.moved 1 (some (.found (.update timeZone.key 1 change) 0 timeZone))).Unlocked 0 := by
    refine Unlocked.moved (Unlocked.moved (sample_unlocked 0) ?_) ?_
    · rintro next ⟨⟩
      rfl
    · rintro next ⟨⟩
      rfl
  have wrote : Step (reading.moved 1 (some (.found (.update timeZone.key 1 change) 0 timeZone)))
      (reading.moved 1 (some (.updated 0 changed 1))) :=
    .chain (.update rfl unlocked rfl rfl rfl)
  have recorded : Step (reading.moved 1 (some (.updated 0 changed 1)))
      (reading.moved 1 (some (.recorded 0 changed (revisionOf changed 1)))) :=
    .chain (.record rfl rfl rfl (by decide))
  have committed : Step (reading.moved 1 (some (.recorded 0 changed (revisionOf changed 1))))
      overtaken := .finish
  have calm {progress : Option Progress}
      (other : ∀ id existing row employeeId expectedVersion deletedAt,
        progress ≠ some (.removed id existing row employeeId expectedVersion deletedAt)) :
      (reading.moved 1 progress).Calm := reading_calm.moved other
  have finished : overtaken.Calm := calm fun _ _ _ _ _ _ none => nomatch none
  refine .tail (.tail (.tail (.tail (.single (began.calm ?_)) (found.calm ?_)) (wrote.calm ?_))
    (recorded.calm ?_)) (committed.calm finished)
  all_goals exact calm fun _ _ _ _ _ _ same => nomatch same

theorem mixed_steps : Steps overtaken mixed := by
  have unlocked : overtaken.Unlocked 0 := by
    refine Unlocked.moved ?_ fun _ none => nomatch none
    have before : reading.Unlocked 0 := by
      refine Unlocked.moved (sample_unlocked 0) ?_
      rintro next ⟨⟩
      rfl
    exact before
  have wrote : Step overtaken (overtaken.moved 0
      (some (.removed 0 timeZone (removed 1 9 changed) 1 2 9))) :=
    .remove 9 rfl unlocked rfl rfl rfl
  have recorded : Step
      (overtaken.moved 0 (some (.removed 0 timeZone (removed 1 9 changed) 1 2 9)))
      (overtaken.moved 0 (some (.recorded 0 (removed 1 9 changed)
        (revisionOf { timeZone with version := 3, deletedAt := some 9 } 1)))) :=
    .chain (.record rfl rfl rfl (by decide))
  exact ((Relation.ReflTransGen.single wrote).tail recorded).tail .finish

theorem not_history : ¬∀ start last, Initial start → Steps start last →
    History Steps start last := by
  intro claimed
  have run := (PromptSteps.steps (reading_steps.trans overtaken_steps)).trans mixed_steps
  have history := claimed sample mixed sample_initial run
  obtain ⟨revision, member, records⟩ :=
    history.recorded mixed 0 (removed 1 9 changed) run .refl rfl
  have revisions : mixed.revisions 0 = [revisionOf timeZone 1, revisionOf changed 1,
      revisionOf { timeZone with version := 3, deletedAt := some 9 } 1] := rfl
  rw [revisions] at member
  simp only [List.mem_cons, List.not_mem_nil, or_false] at member
  obtain rfl | rfl | rfl := member
  · exact absurd records.version (by decide)
  · exact absurd records.version (by decide)
  · exact absurd (SettingValue.string.inj records.value) (by decide)

theorem history_overtaken : sample.Initial ∧ PromptSteps sample overtaken ∧
    History PromptSteps sample overtaken :=
  have run := reading_steps.trans overtaken_steps
  ⟨sample_initial, run, Initial.history sample_initial run⟩

end Overtaken

end Server

end CoffeeShop.SystemSettings
