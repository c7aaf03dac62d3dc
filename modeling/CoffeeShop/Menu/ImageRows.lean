import CoffeeShop.Library.Text
import CoffeeShop.Menu.Images

/-!
What the writes of the menu do to the rows of the uploads.

A menu item that is not deleted either shows a text that no upload has, or the upload is attached
to it.  Only `syncReference` attaches, and every other write leaves attached rows alone.
-/

namespace CoffeeShop

open Transaction MenuImages

/-- What the storage client and the URL functions do on the keys of the bucket. -/
structure ImageStorage.Publishes (storage : ImageStorage) : Prop where
  empty : storage.parse "" = none
  published : ∀ id, ∃ expected url path, storage.publicPrefix = some expected ∧
    storage.parse (storage.getPublicUrl (objectKeyOf id)) = some url ∧
    url.origin = expected.origin ∧ storage.decodeURIComponent url.pathname = some path ∧
    expected.pathname.toList <+: path.toList

namespace MenuImages

variable {storage : ImageStorage} {before after store : MenuStore} {now : Timestamp}
variable {employeeId menuItemId : Id}

theorem isManagedUrl_published (publishes : storage.Publishes) (id : Id) :
    isManagedUrl storage (storage.getPublicUrl (objectKeyOf id)) = true := by
  obtain ⟨expected, url, path, configured, parsed, origin, decoded, start⟩ :=
    publishes.published id
  simp [isManagedUrl, configured, parsed, origin, decoded, start]

theorem not_isManagedUrl_empty (publishes : storage.Publishes) : isManagedUrl storage "" = false := by
  simp [isManagedUrl, publishes.empty]

theorem present_of_managed (publishes : storage.Publishes) {url : String}
    (managed : isManagedUrl storage url = true) : present (some url) = some url := by
  have nonempty : url ≠ "" := by
    rintro rfl
    rw [not_isManagedUrl_empty publishes] at managed
    cases managed
  simp [present, Option.filter, nonempty]

theorem objectKeyOf_injective {first second : Id} (same : objectKeyOf first = objectKeyOf second) :
    first = second := by
  apply toString_injective
  exact (String.append_right_inj _).mp ((String.append_left_inj _).mp same)

/-- What holds of the rows of the uploads. -/
structure UploadsValid (storage : ImageStorage) (store : MenuStore) : Prop where
  keyed : ∀ upload ∈ store.uploads, upload.objectKey = objectKeyOf upload.id
  published : ∀ upload ∈ store.uploads, upload.url = storage.getPublicUrl upload.objectKey
  single : ∀ upload ∈ store.uploads, ∀ other ∈ store.uploads,
    upload.url = other.url → upload.id = other.id
  drawn : ∀ upload ∈ store.uploads, upload.id < store.nextId
  stateCheck : ∀ upload ∈ store.uploads, upload.stateCheck = true

/-- The picture of the menu item is attached to it, if it was uploaded. -/
structure Shows (storage : ImageStorage) (store : MenuStore) (item : MenuEntry) : Prop where
  attached : ∀ upload ∈ store.uploads, item.imageUrl = some upload.url →
    upload.status = .attached ∧ upload.menuItemId = some item.id
  tracked : ∀ url, item.imageUrl = some url → isManagedUrl storage url = true →
    ∃ upload ∈ store.uploads, upload.url = url

structure Consistent (storage : ImageStorage) (store : MenuStore) : Prop where
  uploads : UploadsValid storage store
  items : ∀ item ∈ store.items, item.deletedAt = none → Shows storage store item

/-- A picture that is being deleted is left to the cleanups. -/
structure Persists (before after : MenuStore) : Prop where
  nextId : before.nextId ≤ after.nextId
  rows : ∀ upload ∈ after.uploads, before.nextId ≤ upload.id ∨
    ∃ old ∈ before.uploads, old.id = upload.id ∧ (old.status = .deleting → upload = old)
  stays : ∀ old ∈ before.uploads, ∃ upload ∈ after.uploads, upload.id = old.id

namespace Persists

theorem of_same (uploads : after.uploads = before.uploads) (nextId : before.nextId ≤ after.nextId) :
    Persists before after := by
  refine ⟨nextId, ?_, ?_⟩
  · intro upload member
    rw [uploads] at member
    exact .inr ⟨upload, member, rfl, fun _ => rfl⟩
  · intro old member
    rw [← uploads] at member
    exact ⟨old, member, rfl⟩

theorem trans {middle : MenuStore} (first : Persists before middle) (second : Persists middle after) :
    Persists before after := by
  refine ⟨first.nextId.trans second.nextId, ?_, ?_⟩
  · intro upload member
    rcases second.rows upload member with fresh | ⟨old, inMiddle, same, kept⟩
    · exact .inl (first.nextId.trans fresh)
    · rcases first.rows old inMiddle with fresh | ⟨oldest, inBefore, equal, stayed⟩
      · exact .inl (same ▸ fresh)
      · refine .inr ⟨oldest, inBefore, equal.trans same, ?_⟩
        intro deleting
        have unmoved := stayed deleting
        exact (kept (unmoved ▸ deleting)).trans unmoved
  · intro old member
    obtain ⟨next, inMiddle, same⟩ := first.stays old member
    obtain ⟨upload, inAfter, equal⟩ := second.stays next inMiddle
    exact ⟨upload, inAfter, equal.trans same⟩

end Persists

/-- The rows keep their names. -/
theorem UploadsValid.renew (valid : UploadsValid storage before)
    (nextId : before.nextId ≤ after.nextId)
    (renews : ∀ upload ∈ after.uploads, ∃ old ∈ before.uploads, upload.asset = old.asset)
    (checked : ∀ upload ∈ after.uploads, upload.stateCheck = true) :
    UploadsValid storage after := by
  have named (upload : MenuImageUpload) (member : upload ∈ after.uploads) :
      ∃ old ∈ before.uploads, upload.id = old.id ∧ upload.objectKey = old.objectKey ∧
        upload.url = old.url := by
    obtain ⟨old, inBefore, same⟩ := renews upload member
    exact ⟨old, inBefore, congrArg MenuImageAsset.id same, congrArg MenuImageAsset.objectKey same,
      congrArg MenuImageAsset.url same⟩
  refine ⟨?_, ?_, ?_, ?_, checked⟩
  · intro upload member
    obtain ⟨old, inBefore, id, key, -⟩ := named upload member
    rw [key, id]
    exact valid.keyed old inBefore
  · intro upload member
    obtain ⟨old, inBefore, -, key, url⟩ := named upload member
    rw [key, url]
    exact valid.published old inBefore
  · intro upload member other otherMember same
    obtain ⟨old, inBefore, id, -, url⟩ := named upload member
    obtain ⟨older, olderInBefore, otherId, -, otherUrl⟩ := named other otherMember
    rw [id, otherId]
    apply valid.single old inBefore older olderInBefore
    rw [← url, ← otherUrl, same]
  · intro upload member
    obtain ⟨old, inBefore, id, -⟩ := named upload member
    rw [id]
    exact (valid.drawn old inBefore).trans_le nextId

/-- A row after an update, whatever the proof that its key stays. -/
theorem updated_or_kept {ρ κ : Type} {key : ρ → κ} {table : Table key} {condition : ρ → Bool}
    {change : ρ → ρ} (keeps : ∀ row, key (change row) = key row) {row : ρ}
    (member : row ∈ table.update condition change keeps) :
    (∃ old ∈ table, condition old = true ∧ change old = row) ∨
      (row ∈ table ∧ condition row = false) :=
  (@Table.mem_update_iff _ _ _ _ _ _ keeps _).mp member

section Loose

variable {condition : MenuImageUpload → Bool} {change : MenuImageUpload → MenuImageUpload}
variable {keeps : ∀ upload, (change upload).id = upload.id}

theorem exists_updated {uploads : Table MenuImageUpload.id}
    (keeps : ∀ upload, (change upload).id = upload.id)
    (names : ∀ upload, (change upload).asset = upload.asset) {old : MenuImageUpload}
    (member : old ∈ uploads) :
    ∃ upload ∈ uploads.update condition change keeps, upload.asset = old.asset := by
  refine ⟨_, (@Table.mem_update _ _ _ _ _ _ keeps _).mpr ⟨old, member, rfl⟩, ?_⟩
  split
  · exact names old
  · rfl

/-- A write that spares attached rows and the names of the others. -/
theorem Consistent.updateLoose (consistent : Consistent storage store)
    (loose : ∀ upload, condition upload = true → upload.status ≠ .attached)
    (names : ∀ upload, (change upload).asset = upload.asset)
    (checked : ∀ upload, condition upload = true → upload.stateCheck = true →
      (change upload).stateCheck = true) :
    Consistent storage { store with uploads := store.uploads.update condition change keeps } := by
  constructor
  · refine consistent.uploads.renew (Nat.le_refl _) ?_ ?_
    · intro upload member
      rcases updated_or_kept keeps member with ⟨old, inBefore, -, rfl⟩ | ⟨inBefore, -⟩
      · exact ⟨old, inBefore, names old⟩
      · exact ⟨upload, inBefore, rfl⟩
    · intro upload member
      rcases updated_or_kept keeps member with ⟨old, inBefore, met, rfl⟩ | ⟨inBefore, -⟩
      · exact checked old met (consistent.uploads.stateCheck old inBefore)
      · exact consistent.uploads.stateCheck upload inBefore
  · intro item member live
    have shows := consistent.items item member live
    constructor
    · intro upload inAfter shown
      rcases updated_or_kept keeps inAfter with ⟨old, inBefore, met, rfl⟩ | ⟨inBefore, -⟩
      · rw [show (change old).url = old.url from congrArg MenuImageAsset.url (names old)] at shown
        exact absurd (shows.attached old inBefore shown).1 (loose old met)
      · exact shows.attached upload inBefore shown
    · intro url shown managed
      obtain ⟨old, inBefore, same⟩ := shows.tracked url shown managed
      obtain ⟨upload, inAfter, kept⟩ : ∃ upload ∈ store.uploads.update condition change keeps,
          upload.asset = old.asset := exists_updated keeps names inBefore
      exact ⟨upload, inAfter, (congrArg MenuImageAsset.url kept).trans same⟩

/-- A write that spares the rows that are being deleted. -/
theorem Persists.update (names : ∀ upload, (change upload).asset = upload.asset)
    (live : ∀ upload, condition upload = true → upload.status ≠ .deleting) :
    Persists store { store with uploads := store.uploads.update condition change keeps } := by
  refine ⟨le_rfl, ?_, ?_⟩
  · intro upload member
    rcases updated_or_kept keeps member with ⟨old, inBefore, met, rfl⟩ | ⟨inBefore, -⟩
    · exact .inr ⟨old, inBefore, (keeps old).symm, fun deleting => absurd deleting (live old met)⟩
    · exact .inr ⟨upload, inBefore, rfl, fun _ => rfl⟩
  · intro old member
    obtain ⟨upload, inAfter, kept⟩ : ∃ upload ∈ store.uploads.update condition change keeps,
        upload.asset = old.asset := exists_updated keeps names member
    exact ⟨upload, inAfter, congrArg MenuImageAsset.id kept⟩

theorem Consistent.deleteLoose (consistent : Consistent storage store)
    (loose : ∀ upload, condition upload = true → upload.status ≠ .attached) :
    Consistent storage { store with uploads := store.uploads.delete condition } := by
  constructor
  · refine consistent.uploads.renew (Nat.le_refl _) ?_ ?_
    · intro upload member
      exact ⟨upload, (Table.mem_delete.mp member).1, rfl⟩
    · intro upload member
      exact consistent.uploads.stateCheck upload (Table.mem_delete.mp member).1
  · intro item member live
    have shows := consistent.items item member live
    constructor
    · intro upload inAfter
      exact shows.attached upload (Table.mem_delete.mp inAfter).1
    · intro url shown managed
      obtain ⟨old, inBefore, rfl⟩ := shows.tracked url shown managed
      have spared : condition old = false := by
        by_contra met
        exact loose old (by simpa using met) (shows.attached old inBefore shown).1
      exact ⟨old, Table.mem_delete.mpr ⟨inBefore, spared⟩, rfl⟩

end Loose

/-- The menu shows the picture of no item that it did not show before. -/
theorem Consistent.withItems (consistent : Consistent storage before)
    (uploads : after.uploads = before.uploads) (nextId : before.nextId ≤ after.nextId)
    (items : ∀ item ∈ after.items, item.deletedAt = none →
      ∃ old ∈ before.items, old.id = item.id ∧ old.deletedAt = none ∧ old.imageUrl = item.imageUrl) :
    Consistent storage after := by
  constructor
  · apply consistent.uploads.renew nextId
    · intro upload member
      exact ⟨upload, uploads ▸ member, rfl⟩
    · intro upload member
      exact consistent.uploads.stateCheck upload (uploads ▸ member)
  · intro item member live
    obtain ⟨old, inBefore, id, oldLive, url⟩ := items item member live
    have shows := consistent.items old inBefore oldLive
    constructor
    · intro upload inAfter shown
      rw [← id]
      exact shows.attached upload (uploads ▸ inAfter) (url.trans shown)
    · intro url' shown managed
      obtain ⟨upload, tracked, same⟩ := shows.tracked url' (url.trans shown) managed
      exact ⟨upload, uploads ▸ tracked, same⟩

/-- What `syncReference` does to a row. -/
inductive Synchronizes (menuItemId : Id) (url : Option String) :
    MenuImageUpload → MenuImageUpload → Prop where
  | attached {old : MenuImageUpload} (shown : url = some old.url)
      (free : old.status = .ready ∨ old.status = .attached ∧ old.menuItemId = some menuItemId) :
      Synchronizes menuItemId url old { old with
        status := .attached, menuItemId := some menuItemId, expiresAt := none }
  | released {old : MenuImageUpload} (expiry : Timestamp) (hidden : url ≠ some old.url)
      (attached : old.status = .attached) (own : old.menuItemId = some menuItemId) :
      Synchronizes menuItemId url old { old with status := .deleting, expiresAt := some expiry }
  | kept {old : MenuImageUpload} (hidden : url ≠ some old.url) :
      Synchronizes menuItemId url old old

/-- The uploads after `syncReference` for the menu item and its text. -/
structure Synced (storage : ImageStorage) (menuItemId : Id) (url : Option String)
    (before after : MenuStore) : Prop where
  frame : ∃ uploads, after = { before with uploads }
  rows : ∀ upload ∈ after.uploads, ∃ old ∈ before.uploads, Synchronizes menuItemId url old upload
  stays : ∀ old ∈ before.uploads, ∃ upload ∈ after.uploads, upload.asset = old.asset
  tracked : ∀ shown, url = some shown → isManagedUrl storage shown = true →
    ∃ upload ∈ after.uploads, upload.url = shown

namespace Synced

variable {url : Option String}

theorem unchanged (hidden : ∀ upload ∈ store.uploads, url ≠ some upload.url)
    (unmanaged : ∀ shown, url = some shown → isManagedUrl storage shown = false) :
    Synced storage menuItemId url store store := by
  refine ⟨⟨store.uploads, rfl⟩, ?_, ?_, ?_⟩
  · intro upload member
    exact ⟨upload, member, .kept (hidden upload member)⟩
  · intro old member
    exact ⟨old, member, rfl⟩
  · intro shown same managed
    rw [unmanaged shown same] at managed
    cases managed

theorem attach (valid : UploadsValid storage before) {asset : MenuImageUpload}
    (known : asset ∈ before.uploads)
    (committed : Commits (attach employeeId menuItemId asset now) before () after) :
    Synced storage menuItemId (some asset.url) before after := by
  obtain ⟨⟨row, found, attachable⟩, written⟩ := commits_updateExpecting.mp committed
  have same : row = asset := by
    rw [menuImageUpload_get, Table.find?_of_mem known] at found
    exact (Option.some.inj found).symm
  subst same
  have stays : ∀ old ∈ before.uploads, ∃ upload ∈ after.uploads, upload.asset = old.asset := by
    intro old member
    rw [written]
    refine exists_updated (fun _ => ?_) (fun _ => ?_) member
    · rfl
    · rfl
  refine ⟨⟨_, written⟩, ?_, stays, ?_⟩
  · intro upload member
    rw [written] at member
    rcases updated_or_kept (by intro; rfl) member with ⟨old, inBefore, met, rfl⟩ | ⟨inBefore, unmet⟩
    · simp only [Bool.and_eq_true, decide_eq_true_eq] at met
      have equal : old = row := Table.eq_of_key_eq inBefore known met.1
      subst equal
      refine ⟨old, inBefore, .attached rfl ?_⟩
      simp only [isAttachable, Bool.or_eq_true, Bool.and_eq_true, decide_eq_true_eq] at attachable
      rcases attachable with ready | attached
      · exact .inl ready.1.1.1
      · exact .inr attached
    · refine ⟨upload, inBefore, .kept ?_⟩
      intro shown
      have id := valid.single row known upload inBefore (Option.some.inj shown)
      have equal : row = upload := Table.eq_of_key_eq known inBefore id
      subst equal
      simp [attachable] at unmet
  · rintro _ ⟨⟩ -
    obtain ⟨upload, inAfter, kept⟩ := stays row known
    exact ⟨upload, inAfter, congrArg MenuImageAsset.url kept⟩

theorem release {middle : MenuStore} {count : Nat} (synced : Synced storage menuItemId url before middle)
    (committed : Commits (releaseOthers menuItemId url now) middle count after) :
    Synced storage menuItemId url before after := by
  obtain ⟨-, written⟩ := commits_updateMany.mp committed
  obtain ⟨uploads, rfl⟩ := synced.frame
  have stays : ∀ mid ∈ uploads, ∃ upload ∈ after.uploads, upload.asset = mid.asset := by
    intro mid member
    rw [written]
    refine exists_updated (fun _ => ?_) (fun _ => ?_) member
    · rfl
    · rfl
  refine ⟨⟨_, written⟩, ?_, ?_, ?_⟩
  · intro upload member
    rw [written] at member
    rcases updated_or_kept (by intro; rfl) member with ⟨mid, inMiddle, met, rfl⟩ | ⟨inMiddle, -⟩
    · simp only [Bool.and_eq_true, decide_eq_true_eq] at met
      obtain ⟨old, inBefore, taken⟩ := synced.rows mid inMiddle
      refine ⟨old, inBefore, ?_⟩
      cases taken with
      | attached shown => simp [shown] at met
      | released => simp at met
      | kept hidden => exact .released _ hidden met.1.2 met.1.1
    · exact synced.rows upload inMiddle
  · intro old member
    obtain ⟨mid, inMiddle, same⟩ := synced.stays old member
    obtain ⟨upload, inAfter, kept⟩ := stays mid inMiddle
    exact ⟨upload, inAfter, kept.trans same⟩
  · intro shown same managed
    obtain ⟨mid, inMiddle, equal⟩ := synced.tracked shown same managed
    obtain ⟨upload, inAfter, kept⟩ := stays mid inMiddle
    exact ⟨upload, inAfter, (congrArg MenuImageAsset.url kept).trans equal⟩

theorem of_commits (valid : UploadsValid storage before)
    (committed : Commits (syncReference storage employeeId menuItemId url now) before () after) :
    Synced storage menuItemId (present url) before after := by
  simp only [syncReference, commits_bind, commits_pure] at committed
  obtain ⟨⟨⟩, middle, referenced, count, last, released, -, rfl⟩ := committed
  refine Synced.release ?_ released
  cases shown : present url with
  | none =>
      simp only [shown, commits_whenSome] at referenced
      obtain rfl : middle = before := by simpa using referenced
      apply Synced.unchanged
      · rintro _ _ ⟨⟩
      · rintro _ ⟨⟩
  | some text =>
      rw [shown] at referenced
      obtain ⟨_, ⟨⟩, ran⟩ | ⟨⟨⟩, -⟩ := commits_whenSome.mp referenced
      obtain ⟨asset, _, read, rest⟩ := commits_bind.mp ran
      obtain ⟨found, rfl⟩ := commits_findFirst.mp read
      rcases commits_ifSome.mp rest with ⟨asset, rfl, attached⟩ | ⟨rfl, refused⟩
      · have known := Table.mem_of_first? found.symm
        simp only [decide_eq_true_eq] at known
        obtain ⟨member, rfl⟩ := known
        exact .attach valid member attached
      · have absent := Table.first?_eq_none.mp found.symm
        obtain ⟨unmanaged, rfl⟩ := commits_require.mp refused
        refine .unchanged ?_ ?_
        · rintro upload member ⟨⟩
          simpa using absent upload member
        · rintro _ ⟨⟩
          exact unmanaged

/-- Rows that are being deleted stay as they are. -/
theorem persists (synced : Synced storage menuItemId url before after) : Persists before after := by
  obtain ⟨uploads, rfl⟩ := synced.frame
  refine ⟨le_rfl, ?_, ?_⟩
  · intro upload member
    obtain ⟨old, inBefore, taken⟩ := synced.rows upload member
    refine .inr ⟨old, inBefore, ?_⟩
    cases taken with
    | attached shown free =>
        refine ⟨rfl, fun deleting => ?_⟩
        rcases free with ready | attached
        · exact nomatch ready.symm.trans deleting
        · exact nomatch attached.1.symm.trans deleting
    | released expiry hidden attached =>
        exact ⟨rfl, fun deleting => nomatch attached.symm.trans deleting⟩
    | kept => exact ⟨rfl, fun _ => rfl⟩
  · intro old member
    obtain ⟨upload, inAfter, same⟩ := synced.stays old member
    exact ⟨upload, inAfter, congrArg MenuImageAsset.id same⟩

/-- The text of the menu item is the one that was passed on; the other items were in order. -/
theorem consistent (publishes : storage.Publishes)
    (synced : Synced storage menuItemId url before after) (valid : UploadsValid storage before)
    (others : ∀ item ∈ before.items, item.id ≠ menuItemId → item.deletedAt = none →
      Shows storage before item)
    (own : ∀ item ∈ before.items, item.id = menuItemId → item.deletedAt = none →
      present item.imageUrl = url) : Consistent storage after := by
  obtain ⟨uploads, rfl⟩ := synced.frame
  constructor
  · refine valid.renew (Nat.le_refl _) ?_ ?_
    · intro upload member
      obtain ⟨old, inBefore, taken⟩ := synced.rows upload member
      refine ⟨old, inBefore, ?_⟩
      cases taken with
      | _ => rfl
    · intro upload member
      obtain ⟨old, inBefore, taken⟩ := synced.rows upload member
      cases taken with
      | attached => rfl
      | released => rfl
      | kept => exact valid.stateCheck _ inBefore
  · intro item member live
    by_cases same : item.id = menuItemId
    · have text := own item member same live
      constructor
      · intro upload inAfter shown
        obtain ⟨old, inBefore, taken⟩ := synced.rows upload inAfter
        have managed : isManagedUrl storage old.url = true := by
          rw [valid.published old inBefore, valid.keyed old inBefore]
          exact isManagedUrl_published publishes old.id
        have url_eq : upload.url = old.url := by
          cases taken with
          | _ => rfl
        rw [shown, url_eq, present_of_managed publishes managed] at text
        cases taken with
        | attached => exact ⟨rfl, congrArg some same.symm⟩
        | released expiry hidden => exact absurd text.symm hidden
        | kept hidden => exact absurd text.symm hidden
      · intro shown equal managed
        rw [equal, present_of_managed publishes managed] at text
        exact synced.tracked shown text.symm managed
    · have shows := others item member same live
      constructor
      · intro upload inAfter shown
        obtain ⟨old, inBefore, taken⟩ := synced.rows upload inAfter
        cases taken with
        | attached _ free =>
            have taken := shows.attached old inBefore shown
            rcases free with ready | ⟨-, own⟩
            · exact nomatch ready.symm.trans taken.1
            · exact absurd (Option.some.inj (own.symm.trans taken.2)).symm same
        | released expiry hidden attached own =>
            have foreign := (shows.attached old inBefore shown).2
            exact absurd (Option.some.inj (own.symm.trans foreign)).symm same
        | kept => exact shows.attached upload inBefore shown
      · intro shown equal managed
        obtain ⟨old, inBefore, url_eq⟩ := shows.tracked shown equal managed
        obtain ⟨upload, inAfter, kept⟩ := synced.stays old inBefore
        exact ⟨upload, inAfter, (congrArg MenuImageAsset.url kept).trans url_eq⟩

end Synced

end MenuImages

end CoffeeShop
