import CoffeeShop.Menu.ImageRequests

/-!
Cleanups over whole runs.

A claim moves the expiry of its row past the clock of the batch, so of two claims on one upload the
later one has the later lease, and the row carries the lease of the claim that was taken last.
-/

namespace CoffeeShop

open Transaction

namespace MenuImages

variable {storage : ImageStorage} {before after gallery : Gallery} {actor : Actor}
variable {now : Timestamp} {worker : Worker}

/-- Of two claims on one upload, the newer one lasts longer. -/
def Outlasts (newer older : Claim) : Prop :=
  newer.uploadId = older.uploadId → older.lease < newer.lease

structure ClaimsValid (gallery : Gallery) : Prop where
  latest : ∀ upload ∈ gallery.store.uploads, ∀ claim,
    gallery.latestClaim upload.id = some claim →
      upload.status = .deleting ∧ upload.expiresAt = some claim.lease
  ordered : gallery.claims.Pairwise Outlasts
  named : ∀ claim ∈ gallery.claims,
    claim.objectKey = objectKeyOf claim.uploadId ∧ claim.uploadId < gallery.store.nextId

/-- The asset was read from a row. -/
structure Named (storage : ImageStorage) (gallery : Gallery) (asset : MenuImageAsset) : Prop where
  url : asset.url = storage.getPublicUrl asset.objectKey
  objectKey : asset.objectKey = objectKeyOf asset.id
  drawn : asset.id < gallery.store.nextId

structure TaskValid (storage : ImageStorage) (gallery : Gallery) (worker : Worker) (task : Task) :
    Prop where
  held : ∀ claim, task.claim = some claim → claim ∈ gallery.claims ∧ claim.worker = worker
  queued : ∀ asset ∈ task.assets, Named storage gallery asset
  answered : ∀ started claim rest, task = .removed started claim rest → claim ∈ gallery.confirmed

structure Valid (storage : ImageStorage) (gallery : Gallery) : Prop where
  consistent : Consistent storage gallery.store
  claims : ClaimsValid gallery
  tasks : ∀ worker, TaskValid storage gallery worker (gallery.tasks worker)
  removals : gallery.removals ⊆ gallery.claims

/-- What a step never takes back. -/
structure Grows (before after : Gallery) : Prop where
  nextId : before.store.nextId ≤ after.store.nextId
  claims : before.claims ⊆ after.claims
  removals : before.removals ⊆ after.removals
  confirmed : before.confirmed ⊆ after.confirmed

/-- The first claim in the list is the one that lasts longest. -/
theorem exists_latest {claims : List Claim} (ordered : claims.Pairwise Outlasts) {claim : Claim}
    (member : claim ∈ claims) :
    ∃ latest, claims.find? (·.uploadId = claim.uploadId) = some latest ∧
      (claim = latest ∨ claim.lease < latest.lease) := by
  induction claims with
  | nil => cases member
  | cons head tail inductionHypothesis =>
      obtain ⟨outlasts, rest⟩ := List.pairwise_cons.mp ordered
      by_cases same : head.uploadId = claim.uploadId
      · refine ⟨head, by simp [same], ?_⟩
        rcases List.mem_cons.mp member with equal | older
        · exact .inl equal
        · exact .inr (outlasts claim older same)
      · have older : claim ∈ tail := by
          rcases List.mem_cons.mp member with rfl | older
          · exact absurd rfl same
          · exact older
        obtain ⟨latest, found, lasts⟩ := inductionHypothesis rest older
        exact ⟨latest, by simp [same, found], lasts⟩

theorem mem_of_latestClaim {uploadId : Id} {claim : Claim}
    (latest : gallery.latestClaim uploadId = some claim) :
    claim ∈ gallery.claims ∧ claim.uploadId = uploadId :=
  ⟨List.mem_of_find?_eq_some latest, by simpa using List.find?_some latest⟩

namespace ClaimsValid

/-- A write that adds rows and leaves those that are being deleted alone. -/
theorem of_rows (valid : ClaimsValid before) (claims : after.claims = before.claims)
    (nextId : before.store.nextId ≤ after.store.nextId)
    (rows : ∀ upload ∈ after.store.uploads, before.store.nextId ≤ upload.id ∨
      ∃ old ∈ before.store.uploads, old.id = upload.id ∧
        (old.status = .deleting → upload = old)) : ClaimsValid after := by
  refine ⟨?_, claims ▸ valid.ordered, ?_⟩
  · intro upload member claim latest
    have earlier : before.latestClaim upload.id = some claim := by
      rw [Gallery.latestClaim, ← claims]
      exact latest
    rcases rows upload member with fresh | ⟨old, inBefore, same, kept⟩
    · obtain ⟨known, own⟩ := mem_of_latestClaim earlier
      have drawn := (valid.named claim known).2
      rw [own] at drawn
      exact absurd fresh (not_le_of_gt drawn)
    · have holds := valid.latest old inBefore claim (same ▸ earlier)
      rw [kept holds.1]
      exact holds
  · intro claim member
    have named := valid.named claim (claims ▸ member)
    exact ⟨named.1, named.2.trans_le nextId⟩

/-- A claim that changed a row is the latest on it. -/
theorem claim (valid : ClaimsValid before) {asset : MenuImageAsset} {started : Timestamp}
    {count : Nat} (named : Named storage before asset) (later : started ≤ now)
    (ran : Commits (claimAsset asset started (now + leaseMs)) before.store count after.store)
    (one : count ≠ 0)
    (claims : after.claims =
      ⟨worker, asset.id, asset.objectKey, now + leaseMs⟩ :: before.claims) :
    ClaimsValid after := by
  obtain ⟨counted, written⟩ := commits_updateMany.mp ran
  -- The row that the claim has changed.
  obtain ⟨row, known, own, expired⟩ : ∃ row ∈ before.store.uploads, row.id = asset.id ∧
      isExpired started row = true := by
    by_contra none
    push Not at none
    apply one
    rw [counted, Table.count_eq_zero]
    intro row member
    by_cases same : row.id = asset.id
    · simp [same, none row member same]
    · simp [same]
  refine ⟨?_, ?_, ?_⟩
  · intro upload member claim latest
    rw [Gallery.latestClaim, claims] at latest
    rw [written] at member
    rcases updated_or_kept (by intro; rfl) member with ⟨old, inBefore, met, rfl⟩ | ⟨inBefore, unmet⟩
    · simp only [Bool.and_eq_true, decide_eq_true_eq] at met
      rw [List.find?_cons_of_pos (by simp [met.1])] at latest
      cases latest
      exact ⟨rfl, rfl⟩
    · have differs : asset.id ≠ upload.id := by
        intro same
        have equal : row = upload := Table.eq_of_key_eq known inBefore (own.trans same)
        subst equal
        simp [own, expired] at unmet
      rw [List.find?_cons_of_neg (by simp [differs])] at latest
      exact valid.latest upload inBefore claim latest
  · rw [claims]
    refine List.pairwise_cons.mpr ⟨?_, valid.ordered⟩
    intro older member same
    obtain ⟨latest, found, lasts⟩ := exists_latest valid.ordered member
    have current : before.latestClaim row.id = some latest := by
      rw [Gallery.latestClaim, own]
      change asset.id = older.uploadId at same
      rw [same]
      exact found
    have expiry := (valid.latest row known latest current).2
    simp only [isExpired, expiry, Bool.and_eq_true, Option.any_some, decide_eq_true_eq] at expired
    have bounded : older.lease ≤ latest.lease := by
      rcases lasts with rfl | less
      · exact le_rfl
      · exact less.le
    change older.lease < now + leaseMs
    have ttl : 0 < leaseMs := by decide
    lia
  · intro claim member
    have nextId : after.store.nextId = before.store.nextId := by rw [written]; rfl
    rw [claims] at member
    rw [nextId]
    rcases List.mem_cons.mp member with rfl | older
    · exact ⟨named.objectKey, named.drawn⟩
    · exact valid.named claim older

end ClaimsValid

namespace TaskValid

variable {task : Task}

/-- The task stays valid while others take steps. -/
theorem mono (valid : TaskValid storage before worker task) (grows : Grows before after) :
    TaskValid storage after worker task := by
  constructor
  · intro claim holds
    exact ⟨grows.claims (valid.held claim holds).1, (valid.held claim holds).2⟩
  · intro asset member
    have named := valid.queued asset member
    exact ⟨named.url, named.objectKey, named.drawn.trans_le grows.nextId⟩
  · intro started claim rest removed
    exact grows.confirmed (valid.answered started claim rest removed)

theorem idle (gallery : Gallery) (worker : Worker) : TaskValid storage gallery worker .idle :=
  ⟨nofun, fun _ member => (nomatch member), nofun⟩

theorem sweeping {started : Timestamp} {assets : List MenuImageAsset}
    (queued : ∀ asset ∈ assets, Named storage gallery asset) :
    TaskValid storage gallery worker (.sweeping started assets) :=
  ⟨nofun, queued, nofun⟩

end TaskValid

/-- One worker goes on with its task. -/
theorem tasks_proceed {task : Task} (valid : Valid storage before) (grows : Grows before after)
    (same : after.tasks = Function.update before.tasks worker task)
    (next : TaskValid storage after worker task) (other : Worker) :
    TaskValid storage after other (after.tasks other) := by
  rw [same]
  by_cases equal : other = worker
  · subst equal
    rw [Function.update_self]
    exact next
  · rw [Function.update_of_ne equal]
    exact (valid.tasks other).mono grows

theorem Step.grows (publishes : storage.Publishes) (valid : Valid storage before)
    (step : Step storage now actor before after) : Grows before after := by
  have same := List.Subset.refl (α := Claim)
  cases step with
  | requested request ran =>
      exact ⟨(request.safe publishes valid.consistent ran).persists.nextId, same _, same _, same _⟩
  | uploads employeeId idle ran =>
      exact ⟨(createUpload_safe publishes valid.consistent ran).persists.nextId, same _, same _,
        same _⟩
  | finishes held ran =>
      exact ⟨(finishUpload_safe valid.consistent ran).persists.nextId, same _, same _, same _⟩
  | scans idle ran =>
      simp only [findExpired, commits_bind, commits_findMany, commits_pure] at ran
      obtain ⟨_, _, ⟨rfl, rfl⟩, -, rfl⟩ := ran
      exact ⟨le_rfl, same _, same _, same _⟩
  | postpones held mismatch later ran =>
      obtain ⟨-, rfl⟩ := commits_updateMany.mp ran
      exact ⟨le_rfl, same _, same _, same _⟩
  | claims held expected later ran one =>
      obtain ⟨-, rfl⟩ := commits_updateMany.mp ran
      exact ⟨le_rfl, List.subset_cons_self _ _, same _, same _⟩
  | misses held ran =>
      obtain ⟨-, rfl⟩ := commits_updateMany.mp ran
      exact ⟨le_rfl, same _, same _, same _⟩
  | removes held => exact ⟨le_rfl, same _, List.subset_cons_self _ _, same _⟩
  | answers held => exact ⟨le_rfl, same _, same _, List.subset_cons_self _ _⟩
  | deletes held ran =>
      obtain ⟨-, rfl⟩ := commits_deleteMany.mp ran
      exact ⟨le_rfl, same _, same _, same _⟩
  | _ => exact ⟨le_rfl, same _, same _, same _⟩

/-- The step keeps the database in order, and the claims with it. -/
structure Kept (storage : ImageStorage) (after : Gallery) : Prop where
  consistent : Consistent storage after.store
  claims : ClaimsValid after

theorem Kept.of_safe (valid : Valid storage before) (safe : Safe storage before.store after.store)
    (claims : after.claims = before.claims) : Kept storage after :=
  ⟨safe.consistent, valid.claims.of_rows claims safe.persists.nextId safe.persists.rows⟩

theorem Kept.of_same (valid : Valid storage before) (store : after.store = before.store)
    (claims : after.claims = before.claims) : Kept storage after :=
  ⟨store ▸ valid.consistent, valid.claims.of_rows claims (store ▸ le_rfl) fun upload member =>
    .inr ⟨upload, store ▸ member, rfl, fun _ => rfl⟩⟩

theorem Consistent.edit {store : MenuStore} (consistent : Consistent storage store)
    {condition : MenuEntry → Bool} {change : MenuEntry → MenuEntry} (edits : Edits change) :
    Consistent storage { store with items := store.items.update condition change edits.id } := by
  refine consistent.withItems rfl le_rfl ?_
  intro item member live
  rcases updated_or_kept edits.id member with ⟨old, inBefore, -, rfl⟩ | ⟨kept, -⟩
  · exact ⟨old, inBefore, (edits.id old).symm, (edits.deletedAt old).symm.trans live,
      (edits.imageUrl old).symm⟩
  · exact ⟨item, kept, rfl, live, rfl⟩

/-- The asset that a cleanup looks at next was read from a row. -/
theorem Valid.named (valid : Valid storage before) {started : Timestamp} {asset : MenuImageAsset}
    {rest : List MenuImageAsset} (held : before.tasks worker = .sweeping started (asset :: rest)) :
    Named storage before asset := by
  have queued := (valid.tasks worker).queued asset
  rw [held] at queued
  exact queued List.mem_cons_self

theorem Step.kept (publishes : storage.Publishes) (valid : Valid storage before)
    (step : Step storage now actor before after) : Kept storage after := by
  cases step with
  | staffed employees categories stations sales =>
      have consistent : Consistent storage
          { before.store with employees, categories, stations, sales } :=
        valid.consistent.withItems rfl le_rfl fun item member live =>
          ⟨item, member, rfl, live, rfl⟩
      exact .of_safe valid ⟨consistent, .of_same rfl le_rfl⟩ rfl
  | edited condition edits =>
      exact .of_safe valid ⟨valid.consistent.edit edits, .of_same rfl le_rfl⟩ rfl
  | requested request ran => exact .of_safe valid (request.safe publishes valid.consistent ran) rfl
  | uploads employeeId idle ran =>
      exact .of_safe valid (createUpload_safe publishes valid.consistent ran) rfl
  | finishes held ran => exact .of_safe valid (finishUpload_safe valid.consistent ran) rfl
  | scans idle ran =>
      simp only [findExpired, commits_bind, commits_findMany, commits_pure] at ran
      obtain ⟨_, _, ⟨rfl, rfl⟩, -, rfl⟩ := ran
      exact .of_same valid rfl rfl
  | postpones held mismatch later ran => exact absurd (valid.named held).url mismatch
  | claims held expected later ran one =>
      exact ⟨claimAsset_consistent valid.consistent ran,
        valid.claims.claim (valid.named held) later ran one rfl⟩
  | misses held ran =>
      obtain ⟨none, rfl⟩ := commits_updateMany.mp ran
      have unmet := Table.count_eq_zero.mp none.symm
      exact .of_same valid
        (congrArg (menuImageUpload.set · before.store) (Table.update_eq_self unmet)) rfl
  | deletes held ran =>
      have consistent := deleteClaimed_consistent valid.consistent ran
      obtain ⟨-, rfl⟩ := commits_deleteMany.mp ran
      refine ⟨consistent, valid.claims.of_rows rfl le_rfl ?_⟩
      intro upload member
      exact .inr ⟨upload, (Table.mem_delete.mp member).1, rfl, fun _ => rfl⟩
  | _ => exact .of_same valid rfl rfl

theorem Step.tasks (publishes : storage.Publishes) (valid : Valid storage before)
    (step : Step storage now actor before after) (other : Worker) :
    TaskValid storage after other (after.tasks other) := by
  have grows := step.grows publishes valid
  -- What the worker held before the step.
  have own {worker : Worker} {task : Task} (held : before.tasks worker = task) :
      TaskValid storage after worker task := held ▸ (valid.tasks worker).mono grows
  cases step with
  | staffed | edited | requested => exact (valid.tasks other).mono grows
  | uploads | stores held | finishes held | ends =>
      exact tasks_proceed valid grows rfl ⟨nofun, fun _ member => (nomatch member), nofun⟩ other
  | scans idle ran =>
      refine tasks_proceed valid grows rfl (.sweeping ?_) other
      simp only [findExpired, commits_bind, commits_findMany, commits_pure] at ran
      obtain ⟨_, _, ⟨rfl, rfl⟩, rfl, rfl⟩ := ran
      intro asset member
      obtain ⟨upload, taken, rfl⟩ := List.mem_map.mp member
      have sorted := (List.mem_insertionSort _).mp (List.mem_of_mem_take taken)
      have known := (Table.mem_select.mp sorted).1
      have uploads := valid.consistent.uploads
      exact ⟨uploads.published upload known, uploads.keyed upload known, uploads.drawn upload known⟩
  | postpones held mismatch later ran => exact absurd (valid.named held).url mismatch
  | claims held expected later ran one =>
      refine tasks_proceed valid grows rfl ⟨?_, ?_, ?_⟩ other
      · rintro _ ⟨⟩
        exact ⟨List.mem_cons_self, rfl⟩
      · intro asset member
        exact (own held).queued asset (List.mem_cons_of_mem _ member)
      · rintro _ _ _ ⟨⟩
  | misses held ran =>
      refine tasks_proceed valid grows rfl (.sweeping ?_) other
      intro asset member
      exact (own held).queued asset (List.mem_cons_of_mem _ member)
  | removes held =>
      refine tasks_proceed valid grows rfl ⟨(own held).held, (own held).queued, ?_⟩ other
      rintro _ _ _ ⟨⟩
  | fails held => exact tasks_proceed valid grows rfl (.sweeping (own held).queued) other
  | answers held =>
      refine tasks_proceed valid grows rfl ⟨(own held).held, (own held).queued, ?_⟩ other
      rintro _ _ _ ⟨⟩
      exact List.mem_cons_self
  | deletes held ran => exact tasks_proceed valid grows rfl (.sweeping (own held).queued) other

theorem Step.removals (publishes : storage.Publishes) (valid : Valid storage before)
    (step : Step storage now actor before after) : after.removals ⊆ after.claims := by
  have grows := (step.grows publishes valid).claims
  cases step with
  | @removes _ worker _ _ _ held =>
      intro removal member
      rcases List.mem_cons.mp member with rfl | older
      · have own := (valid.tasks worker).held removal
        rw [held] at own
        exact (own rfl).1
      · exact valid.removals older
  | _ => exact fun removal member => grows (valid.removals member)

theorem Step.valid (publishes : storage.Publishes) (valid : Valid storage before)
    (step : Step storage now actor before after) : Valid storage after :=
  ⟨(step.kept publishes valid).consistent, (step.kept publishes valid).claims,
    step.tasks publishes valid, step.removals publishes valid⟩

theorem Valid.start (storage : ImageStorage) (store : MenuStore) : Valid storage (.start store) where
  consistent :=
    { uploads := ⟨nofun, nofun, nofun, nofun, nofun⟩
      items := nofun }
  claims := ⟨nofun, .nil, nofun⟩
  tasks worker := .idle _ worker
  removals := List.nil_subset _

theorem Valid.run (publishes : storage.Publishes) (valid : Valid storage before)
    (runs : Relation.ReflTransGen (Moves storage) before after) : Valid storage after := by
  induction runs with
  | refl => exact valid
  | tail _ moved inductionHypothesis =>
      obtain ⟨now, actor, step⟩ := moved
      exact step.valid publishes inductionHypothesis

theorem Reachable.valid (publishes : storage.Publishes) (reachable : Reachable storage gallery) :
    Valid storage gallery := by
  obtain ⟨store, runs⟩ := reachable
  exact (Valid.start storage store).run publishes runs

theorem removals_run (publishes : storage.Publishes) (valid : Valid storage before)
    (runs : Relation.ReflTransGen (Moves storage) before after) :
    before.removals ⊆ after.removals := by
  induction runs with
  | refl => exact List.Subset.refl _
  | tail earlier moved inductionHypothesis =>
      obtain ⟨now, actor, step⟩ := moved
      intro removal member
      exact (step.grows publishes (valid.run publishes earlier)).removals (inductionHypothesis member)

/-- A cleanup that starts at this time reads the row, or as many rows as it may that come
before. -/
def InTurn (store : MenuStore) (now : Timestamp) (upload : MenuImageUpload) : Prop :=
  let batch := candidates (store.uploads.select (isExpired now))
  upload ∈ batch ∨ (batch.length = batchSize ∧ ∀ other ∈ batch, expiresFirst other upload = true)

theorem expiresFirst_iff {left right : MenuImageUpload} :
    expiresFirst left right = true ↔ left.expiresAt.getD 0 < right.expiresAt.getD 0 ∨
      (left.expiresAt.getD 0 = right.expiresAt.getD 0 ∧ left.id ≤ right.id) := by
  simp [expiresFirst]

theorem sorted_expiresFirst (uploads : List MenuImageUpload) :
    (uploads.insertionSort fun left right => expiresFirst left right).Pairwise
      fun left right => expiresFirst left right = true := by
  have total : Std.Total fun left right : MenuImageUpload => expiresFirst left right = true := by
    constructor
    intro left right
    simp only [expiresFirst_iff]
    lia
  have ordered : IsTrans MenuImageUpload fun left right => expiresFirst left right = true := by
    constructor
    intro first second third
    simp only [expiresFirst_iff]
    lia
  exact List.pairwise_insertionSort _ uploads

theorem inTurn_of_expired {store : MenuStore} {upload : MenuImageUpload}
    (member : upload ∈ store.uploads) (expired : isExpired now upload = true) :
    InTurn store now upload := by
  have known : upload ∈ (store.uploads.select (isExpired now)).insertionSort
      fun left right => expiresFirst left right :=
    (List.mem_insertionSort _).mpr (Table.mem_select.mpr ⟨member, expired⟩)
  have sorted := sorted_expiresFirst (store.uploads.select (isExpired now))
  rw [← List.take_append_drop batchSize (List.insertionSort _ _)] at known sorted
  rcases List.mem_append.mp known with taken | left
  · exact .inl taken
  · refine .inr ⟨?_, ?_⟩
    · have remaining := List.length_pos_of_mem left
      rw [List.length_drop] at remaining
      rw [candidates, List.length_take]
      lia
    · intro other taken
      exact (List.pairwise_append.mp sorted).2.2 other taken upload left

theorem claimAsset_of_expired {store : MenuStore} {upload : MenuImageUpload}
    {started lease : Timestamp} (member : upload ∈ store.uploads)
    (expired : isExpired started upload = true) :
    ∃ next, Commits (claimAsset upload.asset started lease) store 1 next ∧
      next.uploads.find? upload.id =
        some { upload with status := .deleting, expiresAt := some lease } := by
  have found := Table.find?_of_mem member
  refine ⟨_, commits_updateMany.mpr ⟨?_, rfl⟩, ?_⟩
  · change 1 = store.uploads.count fun row => row.id = upload.id && isExpired started row
    rw [Table.count_key, found, Option.any_some, if_pos expired]
  · simp [MenuImageUpload.asset, found, expired]

theorem exists_expiry {storage : ImageStorage} {store : MenuStore} {upload : MenuImageUpload}
    (valid : UploadsValid storage store) (member : upload ∈ store.uploads)
    (loose : upload.status ≠ .attached) :
    ∃ expiry, upload.expiresAt = some expiry ∧ ∀ now, expiry ≤ now → isExpired now upload = true := by
  have checked := valid.stateCheck upload member
  obtain ⟨expiry, expires⟩ : ∃ expiry, upload.expiresAt = some expiry := by
    apply Option.isSome_iff_exists.mp
    cases status : upload.status with
    | attached => exact absurd status loose
    | _ => simpa [MenuImageUpload.stateCheck, status] using checked
  refine ⟨expiry, expires, ?_⟩
  intro now due
  simp [isExpired, loose, expires, due]

theorem stays_of_claimAsset {store next : MenuStore} {asset : MenuImageAsset}
    {started lease : Timestamp} {count : Nat}
    (ran : Commits (claimAsset asset started lease) store count next) {upload : MenuImageUpload}
    (member : upload ∈ store.uploads) : ∃ kept ∈ next.uploads, kept.id = upload.id := by
  obtain ⟨-, written⟩ := commits_updateMany.mp ran
  have kept : ∃ kept ∈ next.uploads, kept.asset = upload.asset := by
    rw [written]
    refine exists_updated (fun _ => ?_) (fun _ => ?_) member
    · rfl
    · rfl
  obtain ⟨row, inAfter, same⟩ := kept
  exact ⟨row, inAfter, congrArg MenuImageAsset.id same⟩

/-- The actor has removed the object under the claim that was taken last on the row. -/
structure Deletes (gallery : Gallery) (actor : Actor) (upload : MenuImageUpload) (claim : Claim) :
    Prop where
  actor : actor = .worker claim.worker
  answered : claim ∈ gallery.confirmed
  latest : gallery.latestClaim upload.id = some claim
  objectKey : claim.objectKey = upload.objectKey
  lease : upload.status = .deleting ∧ upload.expiresAt = some claim.lease

theorem Step.deletes_of_gone (publishes : storage.Publishes) (valid : Valid storage before)
    (step : Step storage now actor before after) {upload : MenuImageUpload}
    (member : upload ∈ before.store.uploads) (gone : ∀ next ∈ after.store.uploads, next.id ≠ upload.id) :
    ∃ claim, Deletes before actor upload claim := by
  have stays (stays : ∃ next ∈ after.store.uploads, next.id = upload.id) :
      ∃ claim, Deletes before actor upload claim := by
    obtain ⟨next, inAfter, same⟩ := stays
    exact absurd same (gone next inAfter)
  cases step with
  | requested request ran =>
      exact stays ((request.safe publishes valid.consistent ran).persists.stays upload member)
  | uploads employeeId idle ran =>
      exact stays ((createUpload_safe publishes valid.consistent ran).persists.stays upload member)
  | finishes held ran =>
      exact stays ((finishUpload_safe valid.consistent ran).persists.stays upload member)
  | scans idle ran =>
      simp only [findExpired, commits_bind, commits_findMany, commits_pure] at ran
      obtain ⟨_, _, ⟨rfl, rfl⟩, -, rfl⟩ := ran
      exact stays ⟨upload, member, rfl⟩
  | postpones held mismatch later ran => exact absurd (valid.named held).url mismatch
  | claims held expected later ran one => exact stays (stays_of_claimAsset ran member)
  | misses held ran => exact stays (stays_of_claimAsset ran member)
  | @deletes _ _ worker started claim rest _ held ran =>
      obtain ⟨-, rfl⟩ := commits_deleteMany.mp ran
      have met : upload.id = claim.uploadId ∧ upload.status = .deleting ∧
          upload.expiresAt = some claim.lease := by
        by_contra unmet
        exact gone upload (Table.mem_delete.mpr ⟨member, by simpa using unmet⟩) rfl
      have task := valid.tasks worker
      rw [held] at task
      obtain ⟨taken, own⟩ := task.held claim rfl
      obtain ⟨latest, found, lasts⟩ := exists_latest valid.claims.ordered taken
      have current : before.latestClaim upload.id = some latest := by
        rw [Gallery.latestClaim, met.1]
        exact found
      have lease := (valid.claims.latest upload member latest current).2
      rw [met.2.2] at lease
      have equal : claim = latest := by
        rcases lasts with equal | less
        · exact equal
        · exact absurd (Option.some.inj lease) less.ne
      subst equal
      refine ⟨claim, by rw [own], task.answered _ _ _ rfl, current, ?_, met.2⟩
      rw [(valid.claims.named claim taken).1, valid.consistent.uploads.keyed upload member, met.1]
  | _ => exact stays ⟨upload, member, rfl⟩

/-- The object of an upload that a cleanup has asked to remove is not shown any more. -/
theorem Valid.deleting_of_removal (valid : Valid storage gallery) {removal : Claim}
    (asked : removal ∈ gallery.removals) {upload : MenuImageUpload}
    (member : upload ∈ gallery.store.uploads) (same : upload.objectKey = removal.objectKey) :
    upload.status = .deleting := by
  have taken := valid.removals asked
  have own : upload.id = removal.uploadId := by
    apply objectKeyOf_injective
    rw [← valid.consistent.uploads.keyed upload member, same]
    exact (valid.claims.named removal taken).1
  obtain ⟨latest, found, -⟩ := exists_latest valid.claims.ordered taken
  have current : gallery.latestClaim upload.id = some latest := by
    rw [Gallery.latestClaim, own]
    exact found
  exact (valid.claims.latest upload member latest current).1

/-- Pictures that the menu shows are never removed, and those that it does not show are never
forgotten: after any interleaving, the picture of a menu item is attached to it and to no other,
the storage is never asked for the object of an attached picture, a row goes only after the holder
of its lease has heard that the object is gone, and a row that is not attached expires, so that the
cleanups from then on read it in its turn and claim it. -/
theorem Reachable.images_in_use (publishes : storage.Publishes)
    (reachable : Reachable storage before)
    (runs : Relation.ReflTransGen (Moves storage) before after) :
    (∀ item ∈ after.store.items, item.deletedAt = none → ∀ upload ∈ after.store.uploads,
      item.imageUrl = some upload.url →
        upload.status = .attached ∧ upload.menuItemId = some item.id ∧
          ∀ other ∈ after.store.items, other.deletedAt = none →
            other.imageUrl = some upload.url → other = item) ∧
    (∀ removal ∈ before.removals, ∀ upload ∈ after.store.uploads,
      upload.objectKey = removal.objectKey → upload.status ≠ .attached) ∧
    (∀ now actor next, Step storage now actor after next → ∀ upload ∈ after.store.uploads,
      (∀ kept ∈ next.store.uploads, kept.id ≠ upload.id) →
        ∃ claim, Deletes after actor upload claim) ∧
    (∀ upload ∈ after.store.uploads, upload.status ≠ .attached →
      ∃ expiry, upload.expiresAt = some expiry ∧ ∀ started, expiry ≤ started →
        InTurn after.store started upload ∧ ∀ lease, ∃ next,
          Commits (claimAsset upload.asset started lease) after.store 1 next ∧
            next.uploads.find? upload.id =
              some { upload with status := .deleting, expiresAt := some lease }) := by
  have earlier := reachable.valid publishes
  have valid := earlier.run publishes runs
  refine ⟨?_, ?_, ?_, ?_⟩
  · intro item member live upload tracked shown
    obtain ⟨attached, own⟩ := (valid.consistent.items item member live).attached upload tracked shown
    refine ⟨attached, own, ?_⟩
    intro other otherMember otherLive otherShown
    have shows := (valid.consistent.items other otherMember otherLive).attached upload tracked
    have same := Option.some.inj ((shows otherShown).2.symm.trans own)
    exact Table.eq_of_key_eq otherMember member same
  · intro removal asked upload member same
    have later := removals_run publishes earlier runs asked
    rw [valid.deleting_of_removal later member same]
    nofun
  · intro now actor next step upload member gone
    exact step.deletes_of_gone publishes valid member gone
  · intro upload member loose
    obtain ⟨expiry, expires, due⟩ := exists_expiry valid.consistent.uploads member loose
    refine ⟨expiry, expires, ?_⟩
    intro started late
    refine ⟨inTurn_of_expired member (due started late), ?_⟩
    intro lease
    exact claimAsset_of_expired member (due started late)

def sampleOrigin : String := "https://images.example"

def samplePath : String := "/storage/v1/object/public/menu-images/"

/-- A bucket, with the URL functions on addresses that have neither query nor escapes. -/
def sampleStorage : ImageStorage where
  publicPrefix := some { origin := sampleOrigin, pathname := samplePath ++ menuImagePrefix }
  parse value :=
    if sampleOrigin.toList <+: value.toList then
      some { origin := sampleOrigin
             pathname := String.ofList (value.toList.drop sampleOrigin.toList.length) }
    else none
  decodeURIComponent := some
  getPublicUrl objectKey := sampleOrigin ++ (samplePath ++ objectKey)

theorem publishes_sample : sampleStorage.Publishes := by
  constructor
  · have nonempty : sampleOrigin ≠ "" := by decide
    simp [sampleStorage, nonempty]
  · intro id
    refine ⟨_, { origin := sampleOrigin, pathname := samplePath ++ objectKeyOf id },
      samplePath ++ objectKeyOf id, rfl, ?_, rfl, rfl, ?_⟩
    · simp [sampleStorage]
    · simp [objectKeyOf, String.toList_append, List.append_assoc]

/-- A menu with one category, and the employee 1. -/
def sampleMenu : MenuStore where
  items := .empty
  uploads := .empty
  employees := ⟨[{ id := 1, fullName := "An", isActive := true, deletedAt := none }], by decide⟩
  categories := ⟨[{ id := 2, deletedAt := none }], by decide⟩
  stations := .empty
  sales := .empty
  nextId := 10

def sampleUpload : MenuImageUpload where
  id := 10
  objectKey := objectKeyOf 10
  url := sampleStorage.getPublicUrl (objectKeyOf 10)
  status := .ready
  expiresAt := some draftTtlMs
  createdAt := 0
  employeeId := 1
  menuItemId := none

/-- The menu with the picture in this state. -/
def menuWith (status : MenuImageStatus) : MenuStore :=
  { sampleMenu with
    uploads := ⟨[{ sampleUpload with status }], List.nodup_singleton _⟩
    nextId := 11 }

theorem reachable_ready : ∃ gallery, Reachable sampleStorage gallery ∧
    gallery.store = menuWith .ready ∧ gallery.tasks 0 = .idle := by
  have uploads : Step sampleStorage 0 (.worker 0) (.start sampleMenu)
      { (Gallery.start sampleMenu).proceed 0 (.storing 10) with store := menuWith .uploading } :=
    .uploads 1 rfl rfl
  have stores : Step sampleStorage 1 (.worker 0)
      { (Gallery.start sampleMenu).proceed 0 (.storing 10) with store := menuWith .uploading } _ :=
    .stores rfl
  have finishes : Step sampleStorage 2 (.worker 0) (Gallery.proceed
      { (Gallery.start sampleMenu).proceed 0 (.storing 10) with store := menuWith .uploading }
      0 (.finishing 10)) _ := .finishes rfl rfl
  exact ⟨_, ⟨sampleMenu, .tail (.tail (.single ⟨0, _, uploads⟩) ⟨1, _, stores⟩)
    ⟨2, _, finishes⟩⟩, rfl, rfl⟩

def sampleDto : CreateMenuItemDto where
  name := "Latte"
  description := none
  imageUrl := some sampleUpload.url
  price := 450
  categoryId := 2
  kitchenStationId := none

def abandonedAsset : MenuImageAsset where
  id := 12
  objectKey := objectKeyOf 12
  url := sampleStorage.getPublicUrl (objectKeyOf 12)

/-- When the second picture, whose upload begins at 4, has expired. -/
def cleanupTime : Timestamp := 4 + draftTtlMs

/-- The first picture is shown by a menu item; the upload of the second is given up, and a cleanup
removes it. -/
theorem commits_sample : ∃ created drafted claimed gone : MenuStore,
    Commits ((MenuRequest.createItem sampleDto).execute sampleStorage 1 3) (menuWith .ready) ()
      created ∧
    Commits (createUpload sampleStorage 1 4) created 12 drafted ∧
    Commits (findExpired cleanupTime) drafted [abandonedAsset] drafted ∧
    Commits (claimAsset abandonedAsset cleanupTime (cleanupTime + leaseMs)) drafted 1 claimed ∧
    Commits (deleteClaimed 12 (cleanupTime + leaseMs)) claimed 1 gone ∧
    (∃ item ∈ claimed.items.rows, item.deletedAt = none ∧ item.imageUrl = some sampleUpload.url) ∧
    (∃ upload ∈ claimed.uploads.rows, upload.url = sampleUpload.url) ∧
    ∃ upload ∈ claimed.uploads.rows, upload.id = 12 ∧ upload.status ≠ .attached ∧
      ∀ kept ∈ gone.uploads.rows, kept.id ≠ 12 :=
  ⟨_, _, _, _, rfl, rfl, rfl, rfl, rfl, ⟨_, List.mem_cons_self, rfl, rfl⟩,
    ⟨_, List.mem_cons_self, rfl⟩,
    ⟨_, List.mem_cons_of_mem _ List.mem_cons_self, rfl, nofun, by decide⟩⟩

theorem Gallery.tasks_proceed (gallery : Gallery) (worker : Worker) (task : Task) :
    (gallery.proceed worker task).tasks worker = task := Function.update_self ..

/-- A cleanup that finds one picture asks the storage to remove its object. -/
theorem exists_removed {gallery : Gallery} {worker : Worker} {now : Timestamp}
    {asset : MenuImageAsset} {claimed : MenuStore} (idle : gallery.tasks worker = .idle)
    (finds : Commits (findExpired now) gallery.store [asset] gallery.store)
    (expected : asset.url = storage.getPublicUrl asset.objectKey)
    (claims : Commits (claimAsset asset now (now + leaseMs)) gallery.store 1 claimed) :
    ∃ before after, Relation.ReflTransGen (Moves storage) gallery before ∧ before.removals ≠ [] ∧
      Moves storage before after ∧ after.store = claimed ∧
      after.tasks worker = .removed now ⟨worker, asset.id, asset.objectKey, now + leaseMs⟩ [] := by
  let claim : Claim := ⟨worker, asset.id, asset.objectKey, now + leaseMs⟩
  obtain ⟨swept, scans, sweeping, same⟩ : ∃ swept,
      Step storage now (.worker worker) gallery swept ∧
        swept.tasks worker = .sweeping now [asset] ∧ swept.store = gallery.store :=
    ⟨_, .scans idle finds, Gallery.tasks_proceed .., rfl⟩
  rw [← same] at claims
  obtain ⟨leased, takes, holds, written⟩ : ∃ leased,
      Step storage now (.worker worker) swept leased ∧
        leased.tasks worker = .claimed now claim [] ∧ leased.store = claimed :=
    ⟨_, .claims sweeping expected le_rfl claims one_ne_zero, Gallery.tasks_proceed .., rfl⟩
  obtain ⟨asked, asks, removing, some_, kept⟩ : ∃ asked,
      Step storage now (.worker worker) leased asked ∧
        asked.tasks worker = .removing now claim [] ∧ asked.removals ≠ [] ∧
        asked.store = leased.store :=
    ⟨_, .removes holds, Gallery.tasks_proceed .., List.cons_ne_nil _ _, rfl⟩
  obtain ⟨answered, answers, removed, still⟩ : ∃ answered,
      Step storage now (.worker worker) asked answered ∧
        answered.tasks worker = .removed now claim [] ∧ answered.store = asked.store :=
    ⟨_, .answers removing, Gallery.tasks_proceed .., rfl⟩
  refine ⟨asked, answered, ?_, some_, ⟨now, _, answers⟩, ?_, removed⟩
  · exact ((Relation.ReflTransGen.single ⟨now, _, scans⟩).tail ⟨now, _, takes⟩).tail ⟨now, _, asks⟩
  · rw [still, kept, written]

/-- The employee 1 creates a menu item that shows the first picture, and a cleanup deletes the
second one, whose object it has asked the storage to remove. -/
theorem Reachable.images_in_use_cleaned : ∃ before after next : Gallery,
    Reachable sampleStorage before ∧ Moves sampleStorage before after ∧
    Moves sampleStorage after next ∧
    (∃ item ∈ after.store.items, ∃ upload ∈ after.store.uploads,
      item.imageUrl = some upload.url ∧ upload.status = .attached ∧
        upload.menuItemId = some item.id) ∧
    (∃ removal ∈ before.removals, ∀ upload ∈ after.store.uploads,
      upload.objectKey = removal.objectKey → upload.status ≠ .attached) ∧
    ∃ upload ∈ after.store.uploads, (∀ kept ∈ next.store.uploads, kept.id ≠ upload.id) ∧
      (∃ claim, Deletes after (.worker 0) upload claim) ∧
      ∃ expiry, upload.expiresAt = some expiry ∧ InTurn after.store expiry upload := by
  obtain ⟨gallery, reachable, ready, idle⟩ := reachable_ready
  obtain ⟨created, drafted, claimed, gone, creates, drafts, finds, claims, deletes,
    ⟨item, inMenu, live, shown⟩, ⟨first, tracked, same⟩, second, abandoned, named, loose, deleted⟩ :=
    commits_sample
  rw [← ready] at creates
  have requested : Step sampleStorage 3 (.employee 1) gallery { gallery with store := created } :=
    .requested (.createItem sampleDto) creates
  obtain ⟨storing, uploads, isDrafted⟩ : ∃ storing, Step sampleStorage 4 (.worker 0)
      { gallery with store := created } storing ∧ storing.store = drafted :=
    ⟨_, .uploads 1 idle drafts, rfl⟩
  obtain ⟨crashed, crashes, free, kept⟩ : ∃ crashed, Step sampleStorage 5 (.worker 0) storing
      crashed ∧ crashed.tasks 0 = .idle ∧ crashed.store = drafted :=
    ⟨_, .ends, Gallery.tasks_proceed .., isDrafted⟩
  rw [← kept] at finds claims
  obtain ⟨before, after, cleans, asked, answers, written, removed⟩ :=
    @exists_removed sampleStorage _ _ _ _ _ free finds rfl claims
  subst written
  have reached : Reachable sampleStorage before := by
    obtain ⟨start, runs⟩ := reachable
    exact ⟨start, (((runs.tail ⟨3, _, requested⟩).tail ⟨4, _, uploads⟩).tail
      ⟨5, _, crashes⟩).trans cleans⟩
  obtain ⟨attached, removals, deletions, expiries⟩ :=
    reached.images_in_use publishes_sample (.single answers)
  obtain ⟨removal, inRemovals⟩ := List.exists_mem_of_ne_nil _ asked
  have ends : Step sampleStorage (cleanupTime + 1) (.worker 0) after _ := .deletes removed deletes
  rw [← same] at shown
  obtain ⟨isAttached, own, -⟩ := attached item inMenu live first tracked shown
  obtain ⟨expiry, expires, turn⟩ := expiries second abandoned loose
  have isGone : ∀ kept ∈ gone.uploads, kept.id ≠ second.id := named ▸ deleted
  exact ⟨before, after, _, reached, answers, ⟨_, _, ends⟩,
    ⟨item, inMenu, first, tracked, shown, isAttached, own⟩,
    ⟨removal, inRemovals, removals removal inRemovals⟩, second, abandoned, isGone,
    deletions _ _ _ ends second abandoned isGone, expiry, expires, (turn expiry le_rfl).1⟩

end MenuImages

end CoffeeShop
