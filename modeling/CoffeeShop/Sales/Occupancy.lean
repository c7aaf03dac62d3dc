import CoffeeShop.Sales.Runs

/-!
Tables and the sessions at them agree.
-/

namespace CoffeeShop

open Transaction

/-- The guests of the session sit at the table. -/
def OrderSession.isAt (session : OrderSession) (tableId : Id) : Prop :=
  session.sessionStatus = .active ∧ session.tableId = some tableId

/-- An occupied table has an active session, and the other way round. -/
structure TablesAgree (sales : SalesStore) : Prop where
  taken : ∀ table ∈ sales.tables, table.status = .occupied →
    ∃ session ∈ sales.sessions, session.isAt table.id
  located : ∀ session ∈ sales.sessions, ∀ tableId, session.isAt tableId →
    ∃ table, sales.tables.find? tableId = some table ∧ table.status = .occupied ∧
      table.deletedAt = none
  single : ∀ tableId, ∀ session ∈ sales.sessions, ∀ other ∈ sales.sessions,
    session.isAt tableId → other.isAt tableId → session = other

namespace TablesAgree

variable {sales after : SalesStore}

theorem empty : TablesAgree SalesStore.empty where
  taken _ membership := (Table.not_mem_empty membership).elim
  located _ membership := (Table.not_mem_empty membership).elim
  single _ _ membership := (Table.not_mem_empty membership).elim

theorem congr (agree : TablesAgree sales) (tables : after.tables = sales.tables)
    (sessions : after.sessions = sales.sessions) : TablesAgree after := by
  constructor
  · rw [tables, sessions]
    exact agree.taken
  · rw [tables, sessions]
    exact agree.located
  · rw [sessions]
    exact agree.single

theorem tableCreated {table : DiningTable} {tables : Table DiningTable.id}
    (agree : TablesAgree sales) (empty : table.status = .empty)
    (inserted : sales.tables.insert? table = some tables) :
    TablesAgree { sales with tables } where
  taken row membership occupied := by
    rcases (Table.mem_insert? inserted).mp membership with old | rfl
    · exact agree.taken row old occupied
    · rw [empty] at occupied
      cases occupied
  located session membership tableId at_ := by
    obtain ⟨row, found, rest⟩ := agree.located session membership tableId at_
    have differs := (Table.rows_insert? inserted).2 row (Table.mem_of_find? found)
    rw [Table.find?_key found] at differs
    refine ⟨row, ?_, rest⟩
    rw [Table.find?_insert? inserted, if_neg fun same => differs same.symm]
    exact found
  single := agree.single

/-- A change of other columns, or of tables that nobody is at. -/
theorem tablesChanged {condition : DiningTable → Bool} {change : DiningTable → DiningTable}
    {keeps : ∀ row, (change row).id = row.id} (agree : TablesAgree sales)
    (status : ∀ row, (change row).status = row.status)
    (present : ∀ table ∈ sales.tables, condition table = true → table.status = .occupied →
      (change table).deletedAt = table.deletedAt) :
    TablesAgree { sales with tables := sales.tables.update condition change keeps } where
  taken row membership occupied := by
    simp only [Table.mem_update_iff] at membership
    rcases membership with ⟨old, inStore, -, rfl⟩ | ⟨inStore, -⟩
    · rw [status] at occupied
      rw [keeps]
      exact agree.taken old inStore occupied
    · exact agree.taken row inStore occupied
  located session membership tableId at_ := by
    obtain ⟨row, found, occupied, live⟩ := agree.located session membership tableId at_
    refine ⟨_, by rw [Table.find?_update, found, Option.map_some], ?_, ?_⟩
    · split
      · rw [status]
        exact occupied
      · exact occupied
    · split
      · next holds =>
          rw [present row (Table.mem_of_find? found) holds occupied]
          exact live
      · exact live
  single := agree.single

theorem sessionOpened {session : OrderSession} {sessions : Table OrderSession.id}
    {occupies : DiningTable → Bool} (agree : TablesAgree sales)
    (active : session.sessionStatus = .active)
    (only : ∀ table ∈ sales.tables, occupies table = true → session.tableId = some table.id)
    (taken : ∀ tableId, session.tableId = some tableId → ∃ table,
      sales.tables.find? tableId = some table ∧ table.deletedAt = none ∧ occupies table = true)
    (free : session.tableId.isSome = true → ∀ other ∈ sales.sessions,
      other.sessionStatus = .active → other.tableId ≠ session.tableId)
    (inserted : sales.sessions.insert? session = some sessions) :
    TablesAgree { sales with
      tables := sales.tables.update occupies fun row => { row with status := .occupied }
      sessions } where
  taken row membership occupied := by
    simp only [Table.mem_update_iff] at membership
    rcases membership with ⟨old, inStore, holds, rfl⟩ | ⟨inStore, -⟩
    · exact ⟨session, (Table.mem_insert? inserted).mpr (.inr rfl), active, only old inStore holds⟩
    · obtain ⟨other, inSessions, at_⟩ := agree.taken row inStore occupied
      exact ⟨other, (Table.mem_insert? inserted).mpr (.inl inSessions), at_⟩
  located other membership tableId at_ := by
    rcases (Table.mem_insert? inserted).mp membership with old | rfl
    · obtain ⟨row, found, occupied, live⟩ := agree.located other old tableId at_
      refine ⟨_, by rw [Table.find?_update, found, Option.map_some], ?_, ?_⟩
      · split
        · rfl
        · exact occupied
      · split <;> exact live
    · obtain ⟨row, found, live, holds⟩ := taken tableId at_.2
      refine ⟨{ row with status := .occupied }, ?_, rfl, live⟩
      rw [Table.find?_update, found, Option.map_some, if_pos holds]
  single tableId first inFirst second inSecond atFirst atSecond := by
    have fresh (other : OrderSession) (old : other ∈ sales.sessions) (at_ : other.isAt tableId)
        (own : session.isAt tableId) : False := by
      refine free ?_ other old at_.1 (at_.2.trans own.2.symm)
      rw [own.2]
      rfl
    rcases (Table.mem_insert? inserted).mp inFirst with oldFirst | rfl
    · rcases (Table.mem_insert? inserted).mp inSecond with oldSecond | rfl
      · exact agree.single tableId first oldFirst second oldSecond atFirst atSecond
      · exact (fresh first oldFirst atFirst atSecond).elim
    · rcases (Table.mem_insert? inserted).mp inSecond with oldSecond | rfl
      · exact (fresh second oldSecond atSecond atFirst).elim
      · rfl

theorem sessionMoved {id fromTableId toTableId : Id} {moves : OrderSession → Bool}
    {occupies empties : DiningTable → Bool} (agree : TablesAgree sales)
    (tables_ne : fromTableId ≠ toTableId)
    (moved : ∀ session ∈ sales.sessions, moves session = true → session.id = id ∧
      session.sessionStatus = .active ∧ session.tableId = some fromTableId)
    (moving : ∃ session ∈ sales.sessions, moves session = true)
    (only : ∀ table ∈ sales.tables, occupies table = true → table.id = toTableId)
    (taken : ∃ table, sales.tables.find? toTableId = some table ∧ table.deletedAt = none ∧
      occupies table = true)
    (free : ∀ other ∈ sales.sessions, other.sessionStatus = .active →
      other.tableId ≠ some toTableId)
    (left : ∀ table, empties table = true → table.id = fromTableId)
    (emptied : ∀ table, table.id = fromTableId → table.status = .occupied →
      empties table = true) :
    TablesAgree { sales with
      tables := (sales.tables.update occupies fun row => { row with status := .occupied }).update
        empties fun row => { row with status := .empty }
      sessions := sales.sessions.update moves fun row =>
        { row with tableId := some toTableId } } := by
  obtain ⟨mover, inMover, moves_mover⟩ := moving
  obtain ⟨mover_id, mover_active, mover_table⟩ := moved mover inMover moves_mover
  have alone (session : OrderSession) (old : session ∈ sales.sessions)
      (kept : moves session = false) : ¬session.isAt fromTableId := by
    intro at_
    obtain rfl := agree.single fromTableId session old mover inMover at_ ⟨mover_active, mover_table⟩
    rw [moves_mover] at kept
    cases kept
  constructor
  · intro row membership occupied
    simp only [Table.mem_update_iff] at membership
    rcases membership with ⟨old, -, -, rfl⟩ | ⟨⟨old, inStore, holds, rfl⟩ | ⟨inStore, -⟩, kept⟩
    · cases occupied
    · refine ⟨{ mover with tableId := some toTableId }, ?_, mover_active, ?_⟩
      · simp only [Table.mem_update_iff]
        exact .inl ⟨mover, inMover, moves_mover, rfl⟩
      · rw [only old inStore holds]
    · obtain ⟨session, inSessions, at_⟩ := agree.taken row inStore occupied
      refine ⟨session, ?_, at_⟩
      simp only [Table.mem_update_iff]
      refine .inr ⟨inSessions, ?_⟩
      by_contra moving
      obtain ⟨-, -, same⟩ := moved session inSessions (by simpa using moving)
      rw [emptied row (Option.some.inj (at_.2.symm.trans same)) occupied] at kept
      cases kept
  · intro session membership tableId at_
    simp only [Table.mem_update_iff] at membership
    rcases membership with ⟨old, -, -, rfl⟩ | ⟨inStore, kept⟩
    · obtain rfl : toTableId = tableId := Option.some.inj at_.2
      obtain ⟨row, found, live, holds⟩ := taken
      refine ⟨{ row with status := .occupied }, ?_, rfl, live⟩
      have named := Table.find?_key found
      have remains : ¬empties { row with status := .occupied } = true := fun empties_row =>
        tables_ne ((left _ empties_row).symm.trans named)
      rw [Table.find?_update, Table.find?_update, found, Option.map_some, if_pos holds,
        Option.map_some, if_neg remains]
    · obtain ⟨row, found, occupied, live⟩ := agree.located session inStore tableId at_
      have elsewhere : tableId ≠ fromTableId := by
        rintro rfl
        exact alone session inStore kept at_
      have remains (next : DiningTable) (same : next.id = row.id) : ¬empties next = true :=
        fun empties_row => elsewhere
          ((Table.find?_key found).symm.trans (same.symm.trans (left next empties_row)))
      rw [Table.find?_update, Table.find?_update, found, Option.map_some, Option.map_some]
      by_cases holds : occupies row = true
      · rw [if_pos holds, if_neg (remains { row with status := .occupied } rfl)]
        exact ⟨_, rfl, rfl, live⟩
      · rw [if_neg holds, if_neg (remains row rfl)]
        exact ⟨_, rfl, occupied, live⟩
  · intro tableId first inFirst second inSecond atFirst atSecond
    simp only [Table.mem_update_iff] at inFirst inSecond
    rcases inFirst with ⟨first, oldFirst, moveFirst, rfl⟩ | ⟨oldFirst, -⟩
    · rcases inSecond with ⟨second, oldSecond, moveSecond, rfl⟩ | ⟨oldSecond, -⟩
      · have same := (moved first oldFirst moveFirst).1.trans
          (moved second oldSecond moveSecond).1.symm
        rw [Table.eq_of_key_eq oldFirst oldSecond same]
      · exact (free second oldSecond atSecond.1 (atSecond.2.trans atFirst.2.symm)).elim
    · rcases inSecond with ⟨second, oldSecond, moveSecond, rfl⟩ | ⟨oldSecond, -⟩
      · exact (free first oldFirst atFirst.1 (atFirst.2.trans atSecond.2.symm)).elim
      · exact agree.single tableId first oldFirst second oldSecond atFirst atSecond

theorem sessionsClosed {status : SessionStatus} {closes : OrderSession → Bool}
    {empties : DiningTable → Bool} (agree : TablesAgree sales)
    (ends : ∀ session ∈ sales.sessions, closes session = true → status ≠ .active)
    (freed : ∀ session ∈ sales.sessions, closes session = true →
      ∀ table ∈ sales.tables, session.tableId = some table.id → table.status = .occupied →
        empties table = true)
    (emptied : ∀ table ∈ sales.tables, empties table = true →
      ∀ session ∈ sales.sessions, session.isAt table.id → closes session = true) :
    TablesAgree { sales with
      tables := sales.tables.update empties fun row => { row with status := .empty }
      sessions := sales.sessions.update closes fun row => { row with sessionStatus := status } } where
  taken row membership occupied := by
    simp only [Table.mem_update_iff] at membership
    rcases membership with ⟨old, -, -, rfl⟩ | ⟨inStore, kept⟩
    · cases occupied
    · obtain ⟨session, inSessions, at_⟩ := agree.taken row inStore occupied
      refine ⟨session, ?_, at_⟩
      simp only [Table.mem_update_iff]
      refine .inr ⟨inSessions, ?_⟩
      by_contra closing
      have empties_row := freed session inSessions (by simpa using closing) row inStore at_.2 occupied
      rw [empties_row] at kept
      cases kept
  located session membership tableId at_ := by
    simp only [Table.mem_update_iff] at membership
    rcases membership with ⟨old, inStore, closing, rfl⟩ | ⟨inStore, open_⟩
    · exact (ends old inStore closing at_.1).elim
    · obtain ⟨row, found, occupied, live⟩ := agree.located session inStore tableId at_
      have kept : ¬empties row = true := by
        intro empties_row
        rw [← Table.find?_key found] at at_
        rw [emptied row (Table.mem_of_find? found) empties_row session inStore at_] at open_
        cases open_
      exact ⟨row, by rw [Table.find?_update, found, Option.map_some, if_neg kept], occupied, live⟩
  single tableId first inFirst second inSecond atFirst atSecond := by
    simp only [Table.mem_update_iff] at inFirst inSecond
    rcases inFirst with ⟨old, inStore, closing, rfl⟩ | ⟨oldFirst, -⟩
    · exact (ends old inStore closing atFirst.1).elim
    · rcases inSecond with ⟨old, inStore, closing, rfl⟩ | ⟨oldSecond, -⟩
      · exact (ends old inStore closing atSecond.1).elim
      · exact agree.single tableId first oldFirst second oldSecond atFirst atSecond

/-- With as many sources as tables, every table named has one of them. -/
theorem exists_source {tableIds : List Id} {closes : OrderSession → Bool}
    (agree : TablesAgree sales)
    (count : (sales.sessions.select closes).length = tableIds.length)
    (sources : ∀ session ∈ sales.sessions, closes session = true →
      ∃ tableId ∈ tableIds, session.isAt tableId) {tableId : Id} (named : tableId ∈ tableIds) :
    ∃ session ∈ sales.sessions, closes session = true ∧ session.isAt tableId := by
  have distinct : ((sales.sessions.select closes).map (·.tableId)).Nodup := by
    refine List.Nodup.map_on (fun first inFirst second inSecond same => ?_)
      (sales.sessions.nodup_select closes).of_map
    obtain ⟨oldFirst, closesFirst⟩ := Table.mem_select.mp inFirst
    obtain ⟨oldSecond, closesSecond⟩ := Table.mem_select.mp inSecond
    obtain ⟨at_, _, isAt⟩ := sources first oldFirst closesFirst
    obtain ⟨_, _, active, _⟩ := sources second oldSecond closesSecond
    exact agree.single at_ first oldFirst second oldSecond isAt ⟨active, same.symm.trans isAt.2⟩
  have among : (sales.sessions.select closes).map (·.tableId) ⊆ tableIds.map some := by
    intro located inMap
    obtain ⟨session, selected, rfl⟩ := List.mem_map.mp inMap
    obtain ⟨old, closing⟩ := Table.mem_select.mp selected
    obtain ⟨at_, inIds, isAt⟩ := sources session old closing
    exact List.mem_map.mpr ⟨at_, inIds, isAt.2.symm⟩
  have all := (distinct.subperm among).perm_of_length_le (by simp [count])
  obtain ⟨session, selected, same⟩ :=
    List.mem_map.mp (all.mem_iff.mpr (List.mem_map.mpr ⟨tableId, named, rfl⟩))
  obtain ⟨old, closing⟩ := Table.mem_select.mp selected
  obtain ⟨_, _, active, _⟩ := sources session old closing
  exact ⟨session, old, closing, active, same⟩

theorem step {refunds : Option PaymentMethod} (taken : SalesStep refunds sales after)
    (agree : TablesAgree sales) : TablesAgree after := by
  cases taken with
  | besides tables sessions => exact agree.congr tables sessions
  | tableCreated empty inserted => exact agree.tableCreated empty inserted
  | tableRenamed condition name => exact agree.tablesChanged (fun _ => rfl) fun _ _ _ _ => rfl
  | tableDeleted condition now free =>
      refine agree.tablesChanged (fun _ => rfl) fun table membership holds occupied => ?_
      rw [(free table membership holds).1] at occupied
      cases occupied
  | sessionOpened occupies active only taken free inserted =>
      exact agree.sessionOpened active only taken free inserted
  | sessionMoved id fromTableId toTableId moves occupies empties tables_ne moved moving only taken
      free left emptied =>
      exact agree.sessionMoved tables_ne moved moving only taken free left emptied
  | sessionsClosed status closes empties active done freed emptied =>
      refine agree.sessionsClosed (fun session membership closing => ?_) freed
        fun table inTables empties_table session membership at_ => ?_
      · rcases done session membership closing with ⟨rfl, -⟩ | ⟨rfl, -⟩
        · exact SessionStatus.noConfusion
        · exact SessionStatus.noConfusion
      · obtain ⟨closed, inSessions, closing, same⟩ :=
          emptied table inTables empties_table session membership at_.1 at_.2
        rw [agree.single table.id session membership closed inSessions at_
          ⟨active closed inSessions closing, same⟩]
        exact closing
  | sessionsMerged tableIds closes nodup count sources =>
      have located (session : OrderSession) (membership : session ∈ sales.sessions)
          (closing : closes session = true) : ∃ tableId ∈ tableIds, session.isAt tableId := by
        obtain ⟨active, -, tableId, named, same⟩ := sources session membership closing
        exact ⟨tableId, named, active, same⟩
      refine agree.sessionsClosed (fun _ _ _ => SessionStatus.noConfusion)
        (fun session membership closing table _ same _ => ?_)
        fun table _ empties session membership at_ => ?_
      · obtain ⟨tableId, named, -, at_⟩ := located session membership closing
        rw [← Option.some.inj (same.symm.trans at_)] at named
        simpa using named
      · obtain ⟨closed, old, closing, isAt⟩ :=
          agree.exists_source count located (of_decide_eq_true empties)
        rw [agree.single table.id session membership closed old at_ isAt]
        exact closing
  | lineMoved active moved => exact agree.congr moved.tables_eq moved.sessions_eq
  | _ => exact agree.congr rfl rfl

end TablesAgree

theorem Reachable.tablesAgree {database : Database} (reachable : Reachable database) :
    TablesAgree database.sales :=
  reachable.salesInvariant TablesAgree .empty fun _ _ _ taken agree => agree.step taken

/-- A table is occupied exactly if it has one active session; a deleted one has none. -/
theorem Reachable.occupied_iff {database : Database} (reachable : Reachable database)
    {table : DiningTable} (membership : table ∈ database.sales.tables) :
    (table.status = .occupied ↔ ∃! session, session ∈ database.sales.sessions ∧
      session.sessionStatus = .active ∧ session.tableId = some table.id) ∧
    (table.status ≠ .occupied ∨ table.deletedAt ≠ none → ∀ session ∈ database.sales.sessions,
      session.sessionStatus = .active → session.tableId ≠ some table.id) := by
  have agree := reachable.tablesAgree
  have located (session : OrderSession) (inSessions : session ∈ database.sales.sessions)
      (at_ : session.isAt table.id) : table.status = .occupied ∧ table.deletedAt = none := by
    obtain ⟨row, found, rest⟩ := agree.located session inSessions table.id at_
    rw [Table.eq_of_find? found membership rfl]
    exact rest
  refine ⟨⟨fun occupied => ?_, ?_⟩, fun free session inSessions active same => ?_⟩
  · obtain ⟨session, inSessions, at_⟩ := agree.taken table membership occupied
    refine ⟨session, ⟨inSessions, at_⟩, fun other ⟨inOthers, atTable⟩ => ?_⟩
    exact agree.single table.id other inOthers session inSessions atTable at_
  · rintro ⟨session, ⟨inSessions, at_⟩, -⟩
    exact (located session inSessions at_).1
  · obtain ⟨occupied, live⟩ := located session inSessions ⟨active, same⟩
    rcases free with vacant | deleted
    · exact vacant occupied
    · exact deleted live

/-- The table with guests has one session. -/
theorem Reachable.occupied_iff_jammed : ∃! session, session ∈ Database.jammed.sales.sessions ∧
    session.sessionStatus = .active ∧ session.tableId = some 1 := by
  have seated : (Database.jammed.sales.tables.find? 1).any (·.status = .occupied) = true := by
    decide +kernel
  cases found : Database.jammed.sales.tables.find? 1 with
  | none =>
      rw [found] at seated
      cases seated
  | some table =>
      rw [found] at seated
      have named := Table.find?_key found
      have agrees := Reachable.jammed.occupied_iff (Table.mem_of_find? found)
      rw [named] at agrees
      exact agrees.1.mp (of_decide_eq_true seated)

end CoffeeShop
