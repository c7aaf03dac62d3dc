import CoffeeShop.Library.Respects
import CoffeeShop.Menu.ImageRows
import CoffeeShop.Menu.ImageRuns

/-!
Every write keeps the pictures of the menu attached.
-/

namespace CoffeeShop

open Transaction

namespace MenuImages

open MenuService

variable {storage : ImageStorage} {before after store : MenuStore} {now : Timestamp}
variable {employeeId menuItemId : Id}

section Reads

variable {R : MenuStore → MenuStore → Prop} [IsPreorder MenuStore R]

instance Respects.assertActiveEmployee : Respects R (assertActiveEmployee employeeId) := by
  unfold MenuService.assertActiveEmployee
  infer_instance

instance Respects.findActiveCategory {id : Id} : Respects R (findActiveCategory id) := by
  unfold MenuService.findActiveCategory
  infer_instance

instance Respects.findActiveKitchenStation {id : Id} : Respects R (findActiveKitchenStation id) := by
  unfold MenuService.findActiveKitchenStation
  infer_instance

end Reads

theorem commits_drawMenuId {id : Id} :
    Commits drawMenuId before id after ↔
      id = before.nextId ∧ after = { before with nextId := before.nextId + 1 } := by
  simp [drawMenuId, menuNextId, and_comm]

theorem commits_findActiveItem {id : Id} {item : MenuEntry}
    (found : Commits (findActiveItem id) before item after) :
    item ∈ before.items ∧ item.id = id ∧ after = before := by
  simp only [findActiveItem, commits_bind, commits_get, commits_findFirstOrFail] at found
  obtain ⟨_, _, ⟨rfl, rfl⟩, first, rfl⟩ := found
  obtain ⟨member, met⟩ := Table.mem_of_first? first
  simp only [Bool.and_eq_true, decide_eq_true_eq] at met
  exact ⟨member, met.1, rfl⟩

theorem Shows.congr {item : MenuEntry} (shows : Shows storage before item)
    (uploads : after.uploads = before.uploads) : Shows storage after item := by
  constructor
  · intro upload member
    exact shows.attached upload (uploads ▸ member)
  · intro url shown managed
    obtain ⟨upload, tracked, same⟩ := shows.tracked url shown managed
    exact ⟨upload, uploads ▸ tracked, same⟩

theorem UploadsValid.congr (valid : UploadsValid storage before)
    (uploads : after.uploads = before.uploads) (nextId : before.nextId ≤ after.nextId) :
    UploadsValid storage after := by
  refine valid.renew nextId ?_ ?_
  · intro upload member
    exact ⟨upload, uploads ▸ member, rfl⟩
  · intro upload member
    exact valid.stateCheck upload (uploads ▸ member)

/-- The write keeps the menu in order and leaves deletions to the cleanups. -/
structure Safe (storage : ImageStorage) (before after : MenuStore) : Prop where
  consistent : Consistent storage after
  persists : Persists before after

theorem createItem_safe (publishes : storage.Publishes) (consistent : Consistent storage before)
    {dto : CreateMenuItemDto}
    (committed : Commits (createItem storage employeeId dto now) before () after) :
    Safe storage before after := by
  simp only [createItem, commits_bind] at committed
  obtain ⟨⟨⟩, _, employed, _, _, category, ⟨⟩, _, station, id, _, drawn, ⟨⟩, middle, created,
    rest⟩ := committed
  cases Respects.step (R := Eq) employed
  cases Respects.step (R := Eq) category
  cases Respects.step (R := Eq) station
  obtain ⟨rfl, rfl⟩ := commits_drawMenuId.mp drawn
  obtain ⟨items, inserted, rfl⟩ := commits_create.mp created
  have valid : UploadsValid storage (menuEntry.set items { before with nextId := before.nextId + 1 }) :=
    consistent.uploads.congr rfl (Nat.le_succ _)
  have synced : Synced storage before.nextId (present dto.imageUrl)
      (menuEntry.set items { before with nextId := before.nextId + 1 }) after := by
    rcases commits_when.mp rest with ⟨-, ran⟩ | ⟨empty, rfl⟩
    · exact .of_commits valid ran
    · have none : present dto.imageUrl = none := by simpa using empty
      rw [none]
      apply Synced.unchanged
      · rintro _ _ ⟨⟩
      · rintro _ ⟨⟩
  have drew : Persists before (menuEntry.set items { before with nextId := before.nextId + 1 }) :=
    .of_same rfl (Nat.le_succ _)
  refine ⟨?_, drew.trans synced.persists⟩
  refine synced.consistent publishes valid ?_ ?_
  · intro item member differs live
    rcases (Table.mem_insert? inserted).mp member with old | rfl
    · exact (consistent.items item old live).congr rfl
    · exact absurd rfl differs
  · intro item member same live
    rcases (Table.mem_insert? inserted).mp member with old | rfl
    · have free := Table.insert?_isSome.mp (Option.isSome_of_eq_some inserted)
      exact absurd same (free item old)
    · rfl

theorem updateItem_safe (publishes : storage.Publishes) (consistent : Consistent storage before)
    {id : Id} {dto : UpdateMenuItemDto}
    (committed : Commits (updateItem storage id employeeId dto now) before () after) :
    Safe storage before after := by
  simp only [updateItem, commits_bind] at committed
  obtain ⟨⟨⟩, _, employed, existing, start, found, ⟨⟩, _, category, ⟨⟩, _, station, _, middle, updated,
    rest⟩ := committed
  obtain rfl := Respects.step (R := Eq) employed
  obtain ⟨known, own, rfl⟩ := commits_findActiveItem found
  obtain rfl := Respects.step (R := Eq) category
  obtain rfl := Respects.step (R := Eq) station
  obtain ⟨-, written⟩ := commits_updateMany.mp updated
  have uploads : middle.uploads = start.uploads := by rw [written]; rfl
  have nextId : middle.nextId = start.nextId := by rw [written]; rfl
  have rows : ∀ item ∈ middle.items, (∃ old ∈ start.items, old.id = id ∧
      UpdateMenuItemDto.apply dto old = item) ∨ (item ∈ start.items ∧ item.id ≠ id) := by
    intro item member
    rw [written] at member
    rcases updated_or_kept (by intro; rfl) member with ⟨old, inBefore, met, rfl⟩ | ⟨kept, unmet⟩
    · exact .inl ⟨old, inBefore, by simpa using met, rfl⟩
    · exact .inr ⟨kept, by simpa using unmet⟩
  have valid : UploadsValid storage middle := consistent.uploads.congr uploads nextId.ge
  rcases commits_whenSome.mp rest with ⟨imageUrl, given, ran⟩ | ⟨untouched, rfl⟩
  · have synced := Synced.of_commits valid ran
    have shown : dto.imageUrl = some imageUrl := (Option.filter_eq_some_iff.mp given).1
    refine ⟨?_, Persists.trans (.of_same uploads nextId.ge) synced.persists⟩
    refine synced.consistent publishes valid ?_ ?_
    · intro item member differs live
      rcases rows item member with ⟨old, -, same, rfl⟩ | ⟨kept, -⟩
      · exact absurd same differs
      · exact (consistent.items item kept live).congr uploads
    · intro item member same live
      rcases rows item member with ⟨old, -, -, rfl⟩ | ⟨-, differs⟩
      · simp [UpdateMenuItemDto.apply, shown]
      · exact absurd same differs
  · refine ⟨consistent.withItems uploads nextId.ge ?_, .of_same uploads nextId.ge⟩
    intro item member live
    rcases rows item member with ⟨old, inBefore, same, rfl⟩ | ⟨kept, -⟩
    · refine ⟨old, inBefore, rfl, live, ?_⟩
      have equal : old = existing := Table.eq_of_key_eq inBefore known (same.trans own.symm)
      subst equal
      cases named : dto.imageUrl with
      | none => simp [UpdateMenuItemDto.apply, named]
      | some url =>
          have unchanged : url = old.imageUrl := by simpa [named, Option.filter] using untouched
          simp [UpdateMenuItemDto.apply, named, unchanged]
    · exact ⟨item, kept, rfl, live, rfl⟩

theorem updateItemAvailability_safe (consistent : Consistent storage before) {id : Id}
    {isAvailable : Bool}
    (committed : Commits (updateItemAvailability id employeeId isAvailable) before () after) :
    Safe storage before after := by
  simp only [updateItemAvailability, commits_bind] at committed
  obtain ⟨⟨⟩, _, employed, existing, start, found, rest⟩ := committed
  obtain rfl := Respects.step (R := Eq) employed
  obtain ⟨-, -, rfl⟩ := commits_findActiveItem found
  rcases commits_when.mp rest with ⟨-, ran⟩ | ⟨-, rfl⟩
  · obtain ⟨_, _, updated, done⟩ := commits_bind.mp ran
    obtain ⟨-, rfl⟩ := commits_pure.mp done
    obtain ⟨-, rfl⟩ := commits_updateMany.mp updated
    refine ⟨consistent.withItems rfl le_rfl ?_, .of_same rfl le_rfl⟩
    intro item member live
    rcases updated_or_kept (by intro; rfl) member with ⟨old, inBefore, -, rfl⟩ | ⟨kept, -⟩
    · exact ⟨old, inBefore, rfl, live, rfl⟩
    · exact ⟨item, kept, rfl, live, rfl⟩
  · exact ⟨consistent, .of_same rfl le_rfl⟩

theorem deleteItem_safe (publishes : storage.Publishes) (consistent : Consistent storage before)
    {id : Id} (committed : Commits (deleteItem storage id employeeId now) before () after) :
    Safe storage before after := by
  simp only [deleteItem, commits_bind, commits_get, commits_require, commits_pure] at committed
  obtain ⟨⟨⟩, _, employed, _, _, found, _, _, ⟨rfl, rfl⟩, _, start, ⟨-, rfl⟩, _, middle, updated,
    ⟨⟩, last, ran, _, _, cleared, -, rfl⟩ := committed
  obtain rfl := Respects.step (R := Eq) employed
  obtain ⟨-, -, rfl⟩ := commits_findActiveItem found
  obtain ⟨-, written⟩ := commits_updateMany.mp updated
  obtain ⟨-, rfl⟩ := commits_updateMany.mp cleared
  have uploads : middle.uploads = start.uploads := by rw [written]; rfl
  have nextId : middle.nextId = start.nextId := by rw [written]; rfl
  have rows : ∀ item ∈ middle.items, item.deletedAt = none → item ∈ start.items ∧ item.id ≠ id := by
    intro item member live
    rw [written] at member
    rcases updated_or_kept (by intro; rfl) member with ⟨old, -, -, rfl⟩ | ⟨kept, unmet⟩
    · cases live
    · exact ⟨kept, by simpa using unmet⟩
  have valid : UploadsValid storage middle := consistent.uploads.congr uploads nextId.ge
  have synced := Synced.of_commits valid ran
  have safe : Consistent storage last := by
    refine synced.consistent publishes valid ?_ ?_
    · intro item member _ live
      exact (consistent.items item (rows item member live).1 live).congr uploads
    · intro item member same live
      exact absurd same (rows item member live).2
  have persists : Persists start last := Persists.trans (.of_same uploads nextId.ge) synced.persists
  refine ⟨safe.withItems rfl le_rfl ?_, persists.trans (.of_same rfl le_rfl)⟩
  intro item member live
  rcases updated_or_kept (by intro; rfl) member with ⟨old, inBefore, -, rfl⟩ | ⟨kept, -⟩
  · exact ⟨old, inBefore, rfl, live, rfl⟩
  · exact ⟨item, kept, rfl, live, rfl⟩

theorem MenuRequest.safe (publishes : storage.Publishes) (consistent : Consistent storage before)
    {request : MenuRequest}
    (committed : Commits (request.execute storage employeeId now) before () after) :
    Safe storage before after := by
  cases request with
  | createItem dto => exact createItem_safe publishes consistent committed
  | updateItem id dto => exact updateItem_safe publishes consistent committed
  | updateItemAvailability id isAvailable =>
      exact updateItemAvailability_safe consistent committed
  | deleteItem id => exact deleteItem_safe publishes consistent committed

theorem createUpload_safe (publishes : storage.Publishes) (consistent : Consistent storage before)
    {id : Id} (committed : Commits (createUpload storage employeeId now) before id after) :
    Safe storage before after := by
  simp only [createUpload, commits_bind, commits_drawMenuId, commits_findFirst, commits_require,
    commits_create, commits_pure] at committed
  obtain ⟨_, _, ⟨rfl, rfl⟩, clashing, _, ⟨read, rfl⟩, _, _, ⟨free, rfl⟩, _, _, ⟨uploads, inserted,
    rfl⟩, -, rfl⟩ := committed
  have absent : ∀ upload ∈ before.uploads,
      upload.url ≠ storage.getPublicUrl (objectKeyOf before.nextId) := by
    rw [Option.isNone_iff_eq_none.mp free] at read
    intro upload member
    have differs := Table.first?_eq_none.mp read.symm upload member
    simp only [Bool.or_eq_false_iff, decide_eq_false_iff_not] at differs
    exact differs.2
  have rows (upload : MenuImageUpload) := @Table.mem_insert? _ _ _ _ _ _ _ upload inserted
  refine ⟨⟨⟨?_, ?_, ?_, ?_, ?_⟩, ?_⟩, ⟨Nat.le_succ _, ?_, ?_⟩⟩
  · intro upload member
    rcases (rows upload).mp member with old | rfl
    · exact consistent.uploads.keyed upload old
    · rfl
  · intro upload member
    rcases (rows upload).mp member with old | rfl
    · exact consistent.uploads.published upload old
    · rfl
  · intro upload member other otherMember same
    rcases (rows upload).mp member with old | rfl
    · rcases (rows other).mp otherMember with older | rfl
      · exact consistent.uploads.single upload old other older same
      · exact absurd same (absent upload old)
    · rcases (rows other).mp otherMember with older | rfl
      · exact absurd same.symm (absent other older)
      · rfl
  · intro upload member
    rcases (rows upload).mp member with old | rfl
    · exact (consistent.uploads.drawn upload old).trans (Nat.lt_succ_self _)
    · exact Nat.lt_succ_self _
  · intro upload member
    rcases (rows upload).mp member with old | rfl
    · exact consistent.uploads.stateCheck upload old
    · rfl
  · intro item member live
    have shows := consistent.items item member live
    constructor
    · intro upload inAfter shown
      rcases (rows upload).mp inAfter with old | rfl
      · exact shows.attached upload old shown
      · obtain ⟨tracked, old, same⟩ :=
          shows.tracked _ shown (isManagedUrl_published publishes before.nextId)
        exact absurd same (absent tracked old)
    · intro url shown managed
      obtain ⟨tracked, old, same⟩ := shows.tracked url shown managed
      exact ⟨tracked, (rows tracked).mpr (.inl old), same⟩
  · intro upload member
    rcases (rows upload).mp member with old | rfl
    · exact .inr ⟨upload, old, rfl, fun _ => rfl⟩
    · exact .inl le_rfl
  · intro old member
    exact ⟨old, (rows old).mpr (.inl member), rfl⟩

theorem finishUpload_safe (consistent : Consistent storage before) {id : Id}
    (committed : Commits (finishUpload id now) before () after) : Safe storage before after := by
  obtain ⟨-, rfl⟩ := commits_updateExpecting.mp committed
  constructor
  · refine consistent.updateLoose ?_ (fun _ => rfl) ?_
    · intro upload met
      simp only [Bool.and_eq_true, decide_eq_true_eq] at met
      rw [met.2.1]
      nofun
    · intro upload met checked
      simp only [Bool.and_eq_true, decide_eq_true_eq] at met
      simpa [MenuImageUpload.stateCheck, met.2.1] using checked
  · refine Persists.update (fun _ => rfl) ?_
    intro upload met
    simp only [Bool.and_eq_true, decide_eq_true_eq] at met
    rw [met.2.1]
    nofun

theorem claimAsset_consistent (consistent : Consistent storage before) {asset : MenuImageAsset}
    {started lease : Timestamp} {count : Nat}
    (committed : Commits (claimAsset asset started lease) before count after) :
    Consistent storage after := by
  obtain ⟨-, rfl⟩ := commits_updateMany.mp committed
  refine consistent.updateLoose ?_ (fun _ => rfl) ?_
  · intro upload met
    simp only [isExpired, Bool.and_eq_true, decide_eq_true_eq] at met
    exact met.2.1
  · intro upload met checked
    rfl

theorem deleteClaimed_consistent (consistent : Consistent storage before) {id : Id}
    {lease : Timestamp} {count : Nat}
    (committed : Commits (deleteClaimed id lease) before count after) :
    Consistent storage after := by
  obtain ⟨-, rfl⟩ := commits_deleteMany.mp committed
  refine consistent.deleteLoose ?_
  intro upload met
  simp only [Bool.and_eq_true, decide_eq_true_eq] at met
  rw [met.2.1]
  nofun

end MenuImages

end CoffeeShop
