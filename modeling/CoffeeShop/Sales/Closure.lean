import CoffeeShop.Sales.Runs

/-!
A session that has ended owes nothing.
-/

namespace CoffeeShop

open Transaction

/-- The item may belong to the session as it is. -/
def OrderItem.FitsIn (item : OrderItem) (session : OrderSession) : Prop :=
  match session.sessionStatus with
  | .active => True
  | .completed => item.isDone ∧
      (session.tableId.isSome = true → item.serveStatus = .cancelled ∨ item.serveStatus = .served)
  | .cancelled => item.serveStatus = .cancelled

/-- Every item has a session that it fits in, and no cancelled item is billed. -/
structure ItemsFit (sales : SalesStore) : Prop where
  fits : ∀ item ∈ sales.items, ∃ session,
    sales.sessions.find? item.orderSessionId = some session ∧ item.FitsIn session
  unbilled : ∀ item ∈ sales.items, item.serveStatus = .cancelled → item.invoiceId = none

section Items

variable {item next : OrderItem} {session : OrderSession}

theorem OrderItem.fitsIn_active (active : session.sessionStatus = .active) :
    item.FitsIn session := by
  unfold OrderItem.FitsIn
  rw [active]
  trivial

theorem OrderItem.fitsIn_cancelled (dead : item.serveStatus = .cancelled) :
    item.FitsIn session := by
  unfold OrderItem.FitsIn
  cases session.sessionStatus with
  | active => trivial
  | completed => exact ⟨.inl dead, fun _ => .inl dead⟩
  | cancelled => exact dead

/-- An item that goes on still fits. -/
theorem OrderItem.FitsIn.mono (fits : item.FitsIn session)
    (cancelled : item.serveStatus = .cancelled → next.serveStatus = .cancelled)
    (served : item.serveStatus = .served → next.serveStatus = .served)
    (paid : item.isPaid = true → next.isPaid = true) : next.FitsIn session := by
  unfold OrderItem.FitsIn at fits ⊢
  cases status : session.sessionStatus with
  | active => trivial
  | completed =>
      rw [status] at fits
      refine ⟨fits.1.imp cancelled paid, fun atTable => (fits.2 atTable).imp cancelled served⟩
  | cancelled =>
      rw [status] at fits
      exact cancelled fits

end Items

namespace ItemsFit

variable {sales after : SalesStore}

theorem empty : ItemsFit SalesStore.empty where
  fits _ membership := (Table.not_mem_empty membership).elim
  unbilled _ membership := (Table.not_mem_empty membership).elim

theorem congr (fit : ItemsFit sales) (items : after.items = sales.items)
    (sessions : after.sessions = sales.sessions) : ItemsFit after := by
  constructor
  · rw [items, sessions]
    exact fit.fits
  · rw [items]
    exact fit.unbilled

/-- A change of sessions whose items fit in what they become. -/
theorem sessionsUpdated {condition : OrderSession → Bool} {change : OrderSession → OrderSession}
    (keeps : ∀ row, (change row).id = row.id) (fit : ItemsFit sales)
    (items : after.items = sales.items)
    (sessions : after.sessions = sales.sessions.update condition change keeps)
    (fits : ∀ item ∈ sales.items, ∀ session ∈ sales.sessions, condition session = true →
      item.orderSessionId = session.id → item.FitsIn (change session)) : ItemsFit after := by
  constructor
  · rw [items, sessions]
    intro item membership
    obtain ⟨session, found, own⟩ := fit.fits item membership
    rw [Table.find?_update, found, Option.map_some]
    refine ⟨_, rfl, ?_⟩
    split
    · next holds =>
        exact fits item membership session (Table.mem_of_find? found) holds
          (Table.find?_key found).symm
    · exact own
  · rw [items]
    exact fit.unbilled

/-- A change of items that fit in the sessions they have then. -/
theorem itemsUpdated {condition : OrderItem → Bool} {change : OrderItem → OrderItem}
    (keeps : ∀ row, (change row).id = row.id) (fit : ItemsFit sales)
    (items : after.items = sales.items.update condition change keeps)
    (sessions : after.sessions = sales.sessions)
    (fits : ∀ item ∈ sales.items, condition item = true → ∀ session,
      sales.sessions.find? item.orderSessionId = some session → item.FitsIn session →
      ∃ session, sales.sessions.find? (change item).orderSessionId = some session ∧
        (change item).FitsIn session)
    (unbilled : ∀ item ∈ sales.items, condition item = true →
      (item.serveStatus = .cancelled → item.invoiceId = none) →
      (change item).serveStatus = .cancelled → (change item).invoiceId = none) :
    ItemsFit after := by
  constructor
  · rw [items, sessions]
    intro item membership
    simp only [Table.mem_update_iff] at membership
    rcases membership with ⟨old, inStore, holds, rfl⟩ | ⟨inStore, -⟩
    · obtain ⟨session, found, own⟩ := fit.fits old inStore
      exact fits old inStore holds session found own
    · exact fit.fits item inStore
  · rw [items]
    intro item membership
    simp only [Table.mem_update_iff] at membership
    rcases membership with ⟨old, inStore, holds, rfl⟩ | ⟨inStore, -⟩
    · exact unbilled old inStore holds (fit.unbilled old inStore)
    · exact fit.unbilled item inStore

/-- A change that leaves an item in its session. -/
theorem itemsContinued {condition : OrderItem → Bool} {change : OrderItem → OrderItem}
    (keeps : ∀ row, (change row).id = row.id) (fit : ItemsFit sales)
    (items : after.items = sales.items.update condition change keeps)
    (sessions : after.sessions = sales.sessions)
    (continues : ∀ item ∈ sales.items, condition item = true →
      (change item).orderSessionId = item.orderSessionId ∧
      (item.serveStatus = .cancelled → (change item).serveStatus = .cancelled) ∧
      (item.serveStatus = .served → (change item).serveStatus = .served) ∧
      (item.isPaid = true → (change item).isPaid = true))
    (unbilled : ∀ item ∈ sales.items, condition item = true →
      (item.serveStatus = .cancelled → item.invoiceId = none) →
      (change item).serveStatus = .cancelled → (change item).invoiceId = none) :
    ItemsFit after := by
  refine fit.itemsUpdated keeps items sessions
    (fun item membership holds session found own => ?_) unbilled
  obtain ⟨stays, cancelled, served, paid⟩ := continues item membership holds
  rw [stays]
  exact ⟨session, found, own.mono cancelled served paid⟩

theorem itemsInserted {rows : List OrderItem} {items : Table OrderItem.id} (fit : ItemsFit sales)
    (inserted : sales.items.insertAll? rows = some items) (after_items : after.items = items)
    (sessions : after.sessions = sales.sessions)
    (fits : ∀ row ∈ rows, ∃ session, sales.sessions.find? row.orderSessionId = some session ∧
      row.FitsIn session)
    (unbilled : ∀ row ∈ rows, row.serveStatus = .cancelled → row.invoiceId = none) :
    ItemsFit after := by
  constructor
  · rw [after_items, sessions]
    intro item membership
    rcases (Table.mem_insertAll? inserted).mp membership with old | fresh
    · exact fit.fits item old
    · exact fits item fresh
  · rw [after_items]
    intro item membership
    rcases (Table.mem_insertAll? inserted).mp membership with old | fresh
    · exact fit.unbilled item old
    · exact unbilled item fresh

theorem sessionOpened {session : OrderSession} {sessions : Table OrderSession.id}
    (fit : ItemsFit sales) (inserted : sales.sessions.insert? session = some sessions)
    (items : after.items = sales.items) (after_sessions : after.sessions = sessions) :
    ItemsFit after := by
  constructor
  · rw [items, after_sessions]
    intro item membership
    obtain ⟨other, found, own⟩ := fit.fits item membership
    have differs := (Table.rows_insert? inserted).2 other (Table.mem_of_find? found)
    rw [Table.find?_key found] at differs
    refine ⟨other, ?_, own⟩
    rw [Table.find?_insert? inserted, if_neg fun same => differs same.symm]
    exact found
  · rw [items]
    exact fit.unbilled

theorem lineMoved {source destination : Id} (fit : ItemsFit sales)
    (active : ∃ session, sales.sessions.find? destination = some session ∧
      session.sessionStatus = .active)
    (moved : LineMoved source destination sales after) : ItemsFit after := by
  obtain ⟨target, found, open_⟩ := active
  cases moved with
  | whole inStore own unpaid =>
      refine fit.itemsUpdated (by intro; rfl) rfl rfl (fun item _ _ _ _ _ => ?_) fun item _ _ free => free
      exact ⟨target, found, OrderItem.fitsIn_active open_⟩
  | @divided item _ quantity _ _ _ _ inStore own unpaid positive less inserted =>
      have reduced : ItemsFit { sales with
          items := sales.items.update (fun row => row.id = item.id) fun row =>
            { row with quantity := item.quantity - quantity } } :=
        fit.itemsContinued (by intro; rfl) rfl rfl (fun _ _ _ => ⟨rfl, id, id, id⟩)
          fun _ _ _ free => free
      refine reduced.itemsInserted (Table.insertAll?_singleton.trans inserted) rfl rfl
        (fun row membership => ?_) fun row membership _ => ?_
      · rw [List.mem_singleton.mp membership]
        exact ⟨target, found, OrderItem.fitsIn_active open_⟩
      · rw [List.mem_singleton.mp membership]
        rfl

theorem step {refunds : Option PaymentMethod} (taken : SalesStep refunds sales after)
    (fit : ItemsFit sales) : ItemsFit after := by
  cases taken with
  | besides tables sessions items => exact fit.congr items sessions
  | sessionOpened occupies active only taken free inserted =>
      exact fit.sessionOpened inserted rfl rfl
  | sessionMoved id fromTableId toTableId moves occupies empties tables_ne moved =>
      refine fit.sessionsUpdated (by intro; rfl) rfl rfl fun item _ session membership holds _ => ?_
      exact OrderItem.fitsIn_active (moved session membership holds).2.1
  | sessionsClosed status closes empties active done =>
      refine fit.sessionsUpdated (by intro; rfl) rfl rfl fun item inItems session membership holds own => ?_
      rcases done session membership holds with ⟨rfl, complete⟩ | ⟨rfl, cancel⟩
      · exact complete item inItems own
      · exact cancel item inItems own
  | sessionsMerged tableIds closes nodup count sources =>
      refine fit.sessionsUpdated (by intro; rfl) rfl rfl fun item inItems session membership holds own => ?_
      exact (sources session membership holds).2.1 item inItems own
  | itemsAdded fresh priced active owned inserted =>
      refine fit.itemsInserted inserted rfl rfl (fun row membership => ?_)
        fun row membership dead => ?_
      · obtain ⟨session, found, open_⟩ := active row membership
        exact ⟨session, found, OrderItem.fitsIn_active open_⟩
      · rw [(fresh row membership).2.1] at dead
        cases dead
  | itemRemade paid free pending price snapshotted copied open_ replaces owned inserted =>
      refine fit.itemsInserted (Table.insertAll?_singleton.trans inserted) rfl rfl
        (fun row membership => ?_) fun row membership _ => ?_
      · rw [List.mem_singleton.mp membership]
        obtain ⟨session, found, alive, atTable⟩ := open_
        refine ⟨session, found, ?_⟩
        unfold OrderItem.FitsIn
        cases status : session.sessionStatus with
        | active => trivial
        | completed =>
            refine ⟨.inr paid, fun located => ?_⟩
            rw [atTable located] at status
            cases status
        | cancelled => exact (alive status).elim
      · rw [List.mem_singleton.mp membership]
        exact free
  | recipesSnapshotted condition now owned legacy recorded =>
      exact fit.itemsContinued (by intro; rfl) rfl rfl (fun item _ _ => ⟨rfl, id, id, id⟩) fun item _ _ free => free
  | itemsAdvanced condition change keeps advances =>
      refine fit.itemsContinued keeps rfl rfl (fun item membership holds => ?_)
        fun item membership holds free dead => ?_
      · have goesOn := advances item membership holds
        exact ⟨goesOn.orderSessionId, goesOn.cancelled.mpr, goesOn.served,
          fun paid => goesOn.isPaid.trans paid⟩
      · have goesOn := advances item membership holds
        exact goesOn.invoiceId.trans (free (goesOn.cancelled.mp dead))
  | itemsCancelled condition note free =>
      refine fit.itemsUpdated (by intro; rfl) rfl rfl (fun item _ _ session found _ => ?_)
        fun item membership holds _ _ => free item membership holds
      exact ⟨session, found, OrderItem.fitsIn_cancelled rfl⟩
  | itemsMoved condition target free active =>
      obtain ⟨session, found, open_⟩ := active
      refine fit.itemsUpdated (by intro; rfl) rfl rfl (fun item _ _ _ _ _ => ?_) fun item _ _ free => free
      exact ⟨session, found, OrderItem.fitsIn_active open_⟩
  | lineMoved active moved => exact fit.lineMoved active moved
  | invoiceIssued links status billable total nonneg inserted =>
      refine fit.itemsContinued (by intro; rfl) rfl rfl (fun item _ _ => ⟨rfl, id, id, fun paid => ?_⟩)
        fun item membership holds _ dead => ?_
      · dsimp only
        split
        · rfl
        · exact paid
      · exact ((billable item membership holds).2.1 dead).elim
  | invoicePaid id condition change keeps found unpaid pays =>
      exact fit.itemsContinued (by intro; rfl) rfl rfl (fun item _ _ => ⟨rfl, fun dead => dead,
        fun served => served, fun _ => rfl⟩) fun item _ _ free => free
  | invoiceVoided id change keeps unpaid voids =>
      refine fit.itemsContinued (by intro; rfl) rfl rfl (fun item _ holds => ⟨rfl, fun dead => dead,
        fun served => served, fun paid => ?_⟩) fun item _ _ _ _ => rfl
      simp [paid] at holds
  | _ => exact fit.congr rfl rfl

end ItemsFit

theorem Reachable.itemsFit {database : Database} (reachable : Reachable database) :
    ItemsFit database.sales :=
  reachable.salesInvariant ItemsFit .empty fun _ _ _ taken fit => fit.step taken

/-- No order line is left behind in a session that has ended. -/
theorem Reachable.owes_nothing {database : Database} (reachable : Reachable database) :
    (∀ session ∈ database.sales.sessions, session.sessionStatus = .completed →
      ∀ item ∈ database.sales.items, item.orderSessionId = session.id →
        item.serveStatus ≠ .cancelled → item.isPaid = true ∧
          (session.tableId.isSome = true → item.serveStatus = .served)) ∧
    (∀ session ∈ database.sales.sessions, session.sessionStatus = .cancelled →
      ∀ item ∈ database.sales.items, item.orderSessionId = session.id →
        item.serveStatus = .cancelled ∧ item.invoiceId = none) ∧
    ∀ item ∈ database.sales.items, item.isPaid = false → item.serveStatus ≠ .cancelled →
      ∃ session, database.sales.sessions.find? item.orderSessionId = some session ∧
        session.sessionStatus = .active := by
  have fit := reachable.itemsFit
  have fitsIn (session : OrderSession) (membership : session ∈ database.sales.sessions)
      (item : OrderItem) (inItems : item ∈ database.sales.items)
      (own : item.orderSessionId = session.id) : item.FitsIn session := by
    obtain ⟨other, found, fits⟩ := fit.fits item inItems
    rw [Table.eq_of_find? found membership own.symm]
    exact fits
  refine ⟨fun session membership completed item inItems own live => ?_,
    fun session membership ended item inItems own => ?_, fun item inItems unpaid live => ?_⟩
  · have fits := fitsIn session membership item inItems own
    unfold OrderItem.FitsIn at fits
    rw [completed] at fits
    exact ⟨fits.1.resolve_left live, fun atTable => (fits.2 atTable).resolve_left live⟩
  · have fits := fitsIn session membership item inItems own
    unfold OrderItem.FitsIn at fits
    rw [ended] at fits
    exact ⟨fits, fit.unbilled item inItems fits⟩
  · obtain ⟨session, found, fits⟩ := fit.fits item inItems
    refine ⟨session, found, ?_⟩
    unfold OrderItem.FitsIn at fits
    cases status : session.sessionStatus with
    | active => rfl
    | completed =>
        rw [status] at fits
        rcases fits.1 with dead | paid
        · exact (live dead).elim
        · rw [paid] at unpaid
          cases unpaid
    | cancelled =>
        rw [status] at fits
        exact (live fits).elim

/-- The cups at the table with guests are still to be paid in an open session. -/
theorem Reachable.owes_nothing_jammed : ∃ item ∈ Database.jammed.sales.items,
    ∃ session, Database.jammed.sales.sessions.find? item.orderSessionId = some session ∧
      session.sessionStatus = .active := by
  have owed : (Database.jammed.sales.items.find? 4).any
      (fun item => !item.isPaid && item.serveStatus ≠ .cancelled) = true := by decide +kernel
  cases found : Database.jammed.sales.items.find? 4 with
  | none =>
      rw [found] at owed
      cases owed
  | some item =>
      rw [found] at owed
      simp only [Option.any_some, Bool.and_eq_true, Bool.not_eq_true', decide_eq_true_eq] at owed
      have membership := Table.mem_of_find? found
      exact ⟨item, membership,
        Reachable.jammed.owes_nothing.2.2 item membership owed.1 owed.2⟩

end CoffeeShop
