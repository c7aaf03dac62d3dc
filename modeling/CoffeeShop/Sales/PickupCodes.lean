import CoffeeShop.Execution
import CoffeeShop.Library.Text
import CoffeeShop.Orders.Feedback
import CoffeeShop.Runs
import CoffeeShop.Sales.Floor

/-!
Which pickup codes an invoice accepts, over any run.
-/

-- An instance for a program has one node for each of its statements.
set_option synthInstance.maxSize 100000

namespace CoffeeShop

open Transaction SalesStore TakeawayService

section Signatures

/-- What is signed for the code of a version. -/
def PickupCode.message (code : PickupCode) : String :=
  match code.version with
  | none => toString code.invoiceId
  | some version => toString code.invoiceId ++ (":" ++ toString version)

def signPickupCode (hmac : String → String) (code : PickupCode) : String := hmac code.message

/-- `verifyPickupCode` of a text, whose signature is compared with that of the current version. -/
def verifyPickupText (hmac : String → String) (invoiceId : Id) (text : String) (invoice : Invoice)
    (now : Timestamp) : Bool :=
  (getPickupCodeExpiry invoice).any (now < ·) &&
    text = signPickupCode hmac { invoiceId, version := invoice.pickupCodeVersion }

/-- The versions of the code of an invoice have different messages. -/
theorem PickupCode.message_injective {invoiceId : Id} {first second : Option Nat}
    (same : message { invoiceId, version := first } = message { invoiceId, version := second }) :
    first = second := by
  have longer (version : Nat) : toString invoiceId ≠ toString invoiceId ++ (":" ++ toString version) := by
    intro equal
    have lengths := congrArg String.length equal
    simp [String.length_append] at lengths
  cases first with
  | none => cases second with
    | none => rfl
    | some version => exact (longer version same).elim
  | some version => cases second with
    | none => exact (longer version same.symm).elim
    | some other =>
        have rest := (String.append_right_inj _).mp ((String.append_right_inj _).mp same)
        rw [toString_injective rest]

end Signatures

/-- The states of the pickup codes. -/
def SalesStore.codeStates (sales : SalesStore) (id : Id) : Option PickupCodeState :=
  (sales.invoices.find? id).map (·.codeState)

/-- No invoice that was there gets another code, and a new one has none. -/
def KeepsCodes (before after : Id → Option PickupCodeState) : Prop :=
  ∀ id, (∀ state, before id = some state → after id = some state) ∧
    (before id = none → ∀ state, after id = some state → state.pickupCodeIssuedAt = none)

instance : IsPreorder (Id → Option PickupCodeState) KeepsCodes where
  refl states id := by
    refine ⟨fun _ known => known, fun absent state known => ?_⟩
    rw [absent] at known
    exact nomatch known
  trans first second third start continued id := by
    refine ⟨fun state known => (continued id).1 state ((start id).1 state known), ?_⟩
    intro absent state known
    cases middle : second id with
    | none => exact (continued id).2 middle state known
    | some between =>
        have same := (continued id).1 between middle
        rw [known] at same
        rw [Option.some.inj same]
        exact (start id).2 absent between middle

/-- The next version, issued at a time or revoked. -/
def PickupCodeState.renewed (state : PickupCodeState) (issuedAt : Option Timestamp) :
    PickupCodeState :=
  { state with
    pickupCodeVersion := some (state.pickupCodeVersion.getD 0 + 1)
    pickupCodeIssuedAt := issuedAt }

namespace PickupCodes

variable {id employeeId : Id} {now : Timestamp}

instance : OffFloor codeStates where
  orderItem := ⟨fun _ _ => rfl⟩
  recipeIngredient := ⟨fun _ _ => rfl⟩
  orderRemake := ⟨fun _ _ => rfl⟩
  kitchenTicket := ⟨fun _ _ => rfl⟩
  kitchenTicketItem := ⟨fun _ _ => rfl⟩

instance : Apart codeStates orderSession := ⟨fun _ _ => rfl⟩
instance : Apart codeStates diningTable := ⟨fun _ _ => rfl⟩
instance : Apart codeStates onlineOrderRequest := ⟨fun _ _ => rfl⟩
instance : Apart codeStates reservation := ⟨fun _ _ => rfl⟩

instance : OffPayments codeStates KeepsCodes where
  insert := by
    intro row failure unissued
    constructor
    intro before result after committed id
    obtain ⟨invoices, inserted, rfl⟩ := commits_create.mp committed
    change before.invoices.insert? row = some invoices at inserted
    simp only [codeStates, invoice_set_invoices, Table.find?_insert? inserted]
    refine ⟨fun state known => ?_, fun absent state known => ?_⟩
    · obtain ⟨found, present, -⟩ := Option.map_eq_some_iff.mp known
      have fresh : row.id ≠ id := fun same =>
        Table.insert?_isSome.mp (Option.isSome_of_mem inserted) found
          (Table.mem_of_find? present) ((Table.find?_key present).trans same.symm)
      rw [if_neg fresh]
      exact known
    · split at known
      · rw [← Option.some.inj known]
        exact unissued
      · rw [absent] at known
        exact nomatch known
  updateMany := by
    intro condition change keeps kept
    constructor
    intro before result after committed
    obtain ⟨-, rfl⟩ := commits_updateMany.mp committed
    have same : codeStates (invoice.set ((invoice.get before).update condition change keeps) before)
        = codeStates before := by
      funext id
      simp only [codeStates, invoice_set_invoices, invoice_get, Table.find?_update, Option.map_map]
      refine congrArg (Option.map · (before.invoices.find? id)) (funext fun row => ?_)
      simp only [Function.comp_apply]
      split
      · exact kept row
      · rfl
    unfold On
    rw [same]
    exact refl_of KeepsCodes _

/-- The commands that may renew the code of an invoice. -/
def renews : Command → Option Id
  | .order (.provisionPickupCode invoiceId _ _) => some invoiceId
  | .order (.revokePickupCode claim _) => some claim.invoiceId
  | _ => none

/-- Every other command keeps the codes. -/
theorem command_keeps {command : Command} (other : renews command = none) :
    Respects (On Database.sales (On codeStates KeepsCodes)) (command.execute now) := by
  cases command with
  | inventory command =>
      cases command <;> (dsimp only [Command.execute, InventoryCommand.execute]; infer_instance)
  | cash command =>
      cases command <;> (dsimp only [Command.execute, CashCommand.execute]; infer_instance)
  | order command =>
      cases command with
      | provisionPickupCode => exact nomatch other
      | revokePickupCode => exact nomatch other
      | _ => dsimp only [Command.execute, OrderCommand.execute]; infer_instance
  | invoice command => exact OffFloor.invoiceCommand
  | online command => exact OffFloor.onlineCommand
  | payment command => exact OffFloor.paymentCommand
  | table command =>
      cases command <;> (dsimp only [Command.execute, TableCommand.execute]; infer_instance)
  | print command =>
      cases command <;> (dsimp only [Command.execute, PrintCommand.execute]; infer_instance)

theorem codeStates_renewPickupCode {found : Invoice} {issuedAt : Option Timestamp}
    {before after : SalesStore} {result : Unit}
    (known : before.invoices.find? found.id = some found)
    (committed : Commits (renewPickupCode found issuedAt) before result after) :
    after.codeStates =
      Function.update before.codeStates found.id (some (found.codeState.renewed issuedAt)) := by
  simp only [renewPickupCode, commits_bind, commits_require, commits_updateExpecting] at committed
  obtain ⟨_, start, ⟨-, rfl⟩, ⟨row, read, passed⟩, rfl⟩ := committed
  change start.invoices.find? found.id = some row at read
  obtain rfl : found = row := Option.some.inj (known.symm.trans read)
  funext id
  simp only [codeStates, invoice_set_invoices, invoice_get, Table.find?_update]
  by_cases same : id = found.id
  · have matched : (decide (found.id = found.id) && (decide (found.paymentStatus = .paid) &&
        decide (found.pickupCodeVersion = found.pickupCodeVersion) &&
          decide (found.pickupCodeIssuedAt = found.pickupCodeIssuedAt))) = true := by
      rw [passed]
      simp
    rw [same, known, Function.update_self, Option.map_some, if_pos matched]
    rfl
  · rw [Function.update_of_ne same]
    cases present : start.invoices.find? id with
    | none => simp [codeStates, present]
    | some other =>
        have differs : other.id ≠ found.id := by
          rw [Table.find?_key present]
          exact same
        simp [codeStates, present, differs]

theorem commits_findPickupInvoice {invoiceId : Id} {found : Invoice} {before after : SalesStore}
    (committed : Commits (findPickupInvoice invoiceId) before found after) :
    before.invoices.find? invoiceId = some found ∧ after = before := by
  simp only [findPickupInvoice, commits_bind, commits_findUniqueOrFail, commits_get,
    commits_require, commits_pure] at committed
  obtain ⟨_, _, ⟨read, rfl⟩, _, _, ⟨rfl, rfl⟩, _, _, ⟨-, rfl⟩, rfl, rfl⟩ := committed
  exact ⟨read, rfl⟩

/-- The code that is still good, or the one of a new version. -/
theorem provision_cases {invoiceId : Id} {currentCode : Option PickupCode}
    {answer : ProvisionedCode} {before after : Database}
    (committed : Commits (provision invoiceId employeeId currentCode now) before answer after) :
    ∃ state, before.sales.codeStates invoiceId = some state ∧
      (after.sales.codeStates = before.sales.codeStates ∨
        after.sales.codeStates =
          Function.update before.sales.codeStates invoiceId (some (state.renewed (some now))) ∧
        answer.code = { invoiceId, version := (state.renewed (some now)).pickupCodeVersion }) := by
  simp only [provision, commits_bind, commits_salesTx, commits_require] at committed
  obtain ⟨_, _, checked, sales, ⟨found, _, read, _, _, ⟨-, rfl⟩, rest⟩, rfl⟩ := committed
  cases Respects.step (R := Eq) checked
  obtain ⟨known, rfl⟩ := commits_findPickupInvoice read
  refine ⟨found.codeState, by simp [codeStates, known], ?_⟩
  split at rest
  · obtain ⟨-, rfl⟩ := commits_pure.mp rest
    exact .inl rfl
  · obtain ⟨_, _, renewed, answered⟩ := commits_bind.mp rest
    obtain ⟨rfl, rfl⟩ := commits_pure.mp answered
    have same : found.id = invoiceId := Table.find?_key known
    refine .inr ⟨?_, rfl⟩
    have states := codeStates_renewPickupCode (same ▸ known) renewed
    rw [same] at states
    exact states

theorem revoke_cases {claim : PickupClaim} {before after : Database} {result : Unit}
    (committed : Commits (revokePickupCode claim employeeId now) before result after) :
    ∃ state, before.sales.codeStates claim.invoiceId = some state ∧
      after.sales.codeStates =
        Function.update before.sales.codeStates claim.invoiceId (some (state.renewed none)) := by
  simp only [revokePickupCode, commits_bind, commits_salesTx, commits_require] at committed
  obtain ⟨_, _, checked, sales, ⟨found, _, read, _, _, ⟨-, rfl⟩, renewed⟩, rfl⟩ := committed
  cases Respects.step (R := Eq) checked
  obtain ⟨known, rfl⟩ := commits_findPickupInvoice read
  have same : found.id = claim.invoiceId := Table.find?_key known
  have states := codeStates_renewPickupCode (same ▸ known) renewed
  rw [same] at states
  exact ⟨found.codeState, by simp [codeStates, known], states⟩

/-- `provisionPickupCode` forgets the answer. -/
theorem exists_commits_provision {invoiceId : Id} {currentCode : Option PickupCode}
    {before after : Database} {result : Unit}
    (committed : Commits (provisionPickupCode invoiceId employeeId currentCode now)
      before result after) :
    ∃ answer, Commits (provision invoiceId employeeId currentCode now) before answer after := by
  simp only [provisionPickupCode, commits_bind, commits_salesTx, commits_require] at committed
  obtain ⟨active, start, checked, sales, ⟨found, middle, read, _, _, ⟨valid, rfl⟩, rest⟩, rfl⟩ :=
    committed
  simp only [provision, commits_bind, commits_salesTx, commits_require]
  split at rest
  · rename_i good
    obtain ⟨-, rfl⟩ := commits_pure.mp rest
    let answer : ProvisionedCode := {
      invoiceId
      code := { invoiceId, version := found.pickupCodeVersion }
      expiresAt := (getPickupCodeExpiry found).getD 0 }
    refine ⟨answer, active, start, checked, _, ⟨found, _, read, (), _, ⟨valid, rfl⟩, ?_⟩, rfl⟩
    rw [if_pos good]
    exact commits_pure.mpr ⟨rfl, rfl⟩
  · rename_i bad
    let answer : ProvisionedCode := {
      invoiceId
      code := { invoiceId, version := some (found.pickupCodeVersion.getD 0 + 1) }
      expiresAt := now + pickupCodeTtl }
    refine ⟨answer, active, start, checked, _, ⟨found, _, read, (), _, ⟨valid, rfl⟩, ?_⟩, rfl⟩
    rw [if_neg bad]
    exact commits_bind.mpr ⟨(), _, rest, commits_pure.mpr ⟨rfl, rfl⟩⟩

end PickupCodes

section Histories

variable {hmac : String → String} {id : Id} {start database : Database} {actions : List Action}

/-- What became of the code of an invoice. -/
inductive CodeChange where
  /-- The text is the code from this time on. -/
  | issued (text : String) (issuedAt : Timestamp)
  | revoked

def SalesStore.pickupVersion (sales : SalesStore) (id : Id) : Option (Option Nat) :=
  (sales.invoices.find? id).map (·.pickupCodeVersion)

/-- What the entry makes of the code of the invoice, if it sets another version. -/
def codeChange (hmac : String → String) (id : Id) (entry : RunEntry) : Option CodeChange :=
  if entry.before.sales.pickupVersion id = entry.after.sales.pickupVersion id then none
  else match entry.event with
    | .perform (.order (.provisionPickupCode invoiceId employeeId currentCode)) now =>
        match provision invoiceId employeeId currentCode now entry.before with
        | .ok (answer, _) => some (.issued (signPickupCode hmac answer.code) now)
        | .error _ => none
    | .perform (.order (.revokePickupCode _ _)) _ => some .revoked
    | _ => none

/-- The last change of the code of the invoice. -/
def lastChange (hmac : String → String) (id : Id) (entries : List RunEntry) : Option CodeChange :=
  entries.foldl (fun last entry => (codeChange hmac id entry).or last) none

/-- `verifyPickupCode` of the text in this state of the database. -/
def Accepts (hmac : String → String) (id : Id) (text : String) (database : Database)
    (now : Timestamp) : Prop :=
  ∃ invoice, database.sales.invoices.find? id = some invoice ∧
    verifyPickupText hmac id text invoice now

/-- What an entry does to the code of one invoice. -/
inductive CodeMove (hmac : String → String) (id : Id) : Option PickupCodeState →
    Option CodeChange → Option PickupCodeState → Prop where
  | absent : CodeMove hmac id none none none
  | invoiced {state : PickupCodeState} (unissued : state.pickupCodeIssuedAt = none) :
      CodeMove hmac id none none (some state)
  | kept {state : PickupCodeState} : CodeMove hmac id (some state) none (some state)
  | issued {state : PickupCodeState} (issuedAt : Timestamp) : CodeMove hmac id (some state)
      (some (.issued (signPickupCode hmac
        { invoiceId := id, version := (state.renewed (some issuedAt)).pickupCodeVersion }) issuedAt))
      (some (state.renewed (some issuedAt)))
  | revoked {state : PickupCodeState} :
      CodeMove hmac id (some state) (some .revoked) (some (state.renewed none))

theorem codeStates_pickupVersion {sales : SalesStore} :
    sales.pickupVersion id = (sales.codeStates id).map (·.pickupCodeVersion) := by
  simp only [SalesStore.pickupVersion, codeStates, Option.map_map]
  rfl

/-- An entry that keeps the codes changes none. -/
theorem CodeMove.of_keeps {entry : RunEntry}
    (keeps : KeepsCodes entry.before.sales.codeStates entry.after.sales.codeStates)
    (unchanged : codeChange hmac id entry = none) :
    CodeMove hmac id (entry.before.sales.codeStates id) (codeChange hmac id entry)
      (entry.after.sales.codeStates id) := by
  rw [unchanged]
  cases known : entry.before.sales.codeStates id with
  | some state =>
      rw [(keeps id).1 state known]
      exact .kept
  | none =>
      cases added : entry.after.sales.codeStates id with
      | none => exact .absent
      | some state => exact .invoiced ((keeps id).2 known state added)

theorem codeChange_of_same {entry : RunEntry}
    (same : entry.after.sales.codeStates id = entry.before.sales.codeStates id) :
    codeChange hmac id entry = none := by
  unfold codeChange
  rw [if_pos]
  rw [codeStates_pickupVersion, codeStates_pickupVersion, same]

theorem CodeMove.of_same {entry : RunEntry}
    (same : entry.after.sales.codeStates = entry.before.sales.codeStates) :
    CodeMove hmac id (entry.before.sales.codeStates id) (codeChange hmac id entry)
      (entry.after.sales.codeStates id) := by
  apply CodeMove.of_keeps
  · rw [same]
    exact refl_of KeepsCodes _
  · exact codeChange_of_same (congrFun same id)

theorem codeChange_of_other {entry : RunEntry} {command : Command} {now : Timestamp}
    (event : entry.event = .perform command now) (other : PickupCodes.renews command = none) :
    codeChange hmac id entry = none := by
  unfold codeChange
  rw [event]
  split
  · rfl
  · cases command with
    | order command =>
        cases command with
        | provisionPickupCode => exact nomatch other
        | revokePickupCode => exact nomatch other
        | _ => rfl
    | _ => rfl

/-- A renewed version is another one. -/
theorem PickupCodeState.renewed_ne {state : PickupCodeState} {issuedAt : Option Timestamp} :
    state.pickupCodeVersion ≠ (state.renewed issuedAt).pickupCodeVersion := by
  unfold renewed
  cases state.pickupCodeVersion with
  | none => exact nofun
  | some version =>
      intro same
      have next := Option.some.inj same
      simp at next

theorem codeMove_provision {entry : RunEntry} {invoiceId employeeId : Id}
    {currentCode : Option PickupCode} {now : Timestamp}
    (event : entry.event =
      .perform (.order (.provisionPickupCode invoiceId employeeId currentCode)) now)
    (committed : Commits (provisionPickupCode invoiceId employeeId currentCode now)
      entry.before () entry.after) :
    CodeMove hmac id (entry.before.sales.codeStates id) (codeChange hmac id entry)
      (entry.after.sales.codeStates id) := by
  obtain ⟨answer, provisioned⟩ := PickupCodes.exists_commits_provision committed
  obtain ⟨state, known, same | ⟨renewed, code⟩⟩ := PickupCodes.provision_cases provisioned
  · exact .of_same same
  by_cases this : id = invoiceId
  · subst this
    have next : entry.after.sales.codeStates id = some (state.renewed (some now)) := by
      rw [renewed, Function.update_self]
    have change : codeChange hmac id entry = some (.issued (signPickupCode hmac answer.code) now) := by
      unfold codeChange
      rw [codeStates_pickupVersion, codeStates_pickupVersion, known, next, if_neg, event]
      · unfold Commits at provisioned
        simp only [provisioned]
      · exact fun same => PickupCodeState.renewed_ne (Option.some.inj same)
    rw [known, next, change, code]
    exact .issued now
  · have same : entry.after.sales.codeStates id = entry.before.sales.codeStates id := by
      rw [renewed, Function.update_of_ne this]
    rw [codeChange_of_same same, same]
    cases entry.before.sales.codeStates id with
    | none => exact .absent
    | some state => exact .kept

theorem codeMove_revoke {entry : RunEntry} {claim : PickupClaim} {employeeId : Id}
    {now : Timestamp}
    (event : entry.event = .perform (.order (.revokePickupCode claim employeeId)) now)
    (committed : Commits (revokePickupCode claim employeeId now) entry.before () entry.after) :
    CodeMove hmac id (entry.before.sales.codeStates id) (codeChange hmac id entry)
      (entry.after.sales.codeStates id) := by
  obtain ⟨state, known, renewed⟩ := PickupCodes.revoke_cases committed
  by_cases this : id = claim.invoiceId
  · subst this
    have next : entry.after.sales.codeStates claim.invoiceId = some (state.renewed none) := by
      rw [renewed, Function.update_self]
    have change : codeChange hmac claim.invoiceId entry = some .revoked := by
      unfold codeChange
      rw [codeStates_pickupVersion, codeStates_pickupVersion, known, next, if_neg, event]
      exact fun same => PickupCodeState.renewed_ne (Option.some.inj same)
    rw [known, next, change]
    exact .revoked
  · have same : entry.after.sales.codeStates id = entry.before.sales.codeStates id := by
      rw [renewed, Function.update_of_ne this]
    rw [codeChange_of_same same, same]
    cases entry.before.sales.codeStates id with
    | none => exact .absent
    | some state => exact .kept

theorem codeMove {entry : RunEntry} (ran : entry ∈ history Action.execute start actions) :
    CodeMove hmac id (entry.before.sales.codeStates id) (codeChange hmac id entry)
      (entry.after.sales.codeStates id) := by
  rcases Entry.cases (eq_record_of_mem ran) with ⟨_, -, committed⟩ | ⟨_, -, same⟩
  · cases event : entry.event with
    | administer catalog reservations =>
        rw [event] at committed
        rw [Action.execute, commits_modify] at committed
        apply CodeMove.of_same
        rw [committed]
        rfl
    | perform command now =>
        rw [event, Action.execute] at committed
        cases other : PickupCodes.renews command with
        | none =>
            exact .of_keeps ((PickupCodes.command_keeps other).step committed)
              (codeChange_of_other event other)
        | some renewed =>
            cases command with
            | order command =>
                cases command with
                | provisionPickupCode invoiceId employeeId currentCode =>
                    exact codeMove_provision event committed
                | revokePickupCode claim employeeId => exact codeMove_revoke event committed
                | _ => exact nomatch other
            | _ => exact nomatch other
  · apply CodeMove.of_same
    rw [same]

/-- What the last change says about the state of the code. -/
def Governs (hmac : String → String) (id : Id) (last : Option CodeChange)
    (database : Database) : Prop :=
  match database.sales.codeStates id, last with
  | none, last => last = none
  | some state, none => state.pickupCodeIssuedAt = none
  | some state, some (.issued text issuedAt) => state.pickupCodeIssuedAt = some issuedAt ∧
      state.pickupCodeVersion.isSome ∧
      text = signPickupCode hmac { invoiceId := id, version := state.pickupCodeVersion }
  | some state, some .revoked => state.pickupCodeIssuedAt = none ∧ state.pickupCodeVersion.isSome

theorem governs_final (unissued : ∀ invoice ∈ start.sales.invoices.rows,
      invoice.pickupCodeIssuedAt = none) :
    Governs hmac id (lastChange hmac id (history Action.execute start actions))
      (final Action.execute start actions) := by
  refine foldl_history ?_ fun entry ran last governs => ?_
  · unfold Governs
    cases known : start.sales.codeStates id with
    | none => rfl
    | some state =>
        obtain ⟨invoice, present, rfl⟩ := Option.map_eq_some_iff.mp known
        exact unissued invoice (Table.mem_of_find? present)
  · have move := @codeMove hmac id _ _ _ ran
    unfold Governs at governs ⊢
    generalize entry.before.sales.codeStates id = before, codeChange hmac id entry = change,
      entry.after.sales.codeStates id = after at move governs
    cases move with
    | absent => exact governs
    | invoiced unissued =>
        rw [show last = none from governs]
        exact unissued
    | kept => exact governs
    | issued issuedAt => exact ⟨rfl, rfl, rfl⟩
    | revoked => exact ⟨rfl, rfl⟩

/-- When the last change of the code lets a text in. -/
def Admits (hmac : String → String) (id : Id) (text : String) (database : Database)
    (now : Timestamp) : Option CodeChange → Prop
  | some (.issued code issuedAt) => text = code ∧ now < issuedAt + pickupCodeTtl
  | some .revoked => False
  -- An invoice from before the versions.
  | none => ∃ invoice, database.sales.invoices.find? id = some invoice ∧
      invoice.pickupCodeVersion = none ∧
      text = signPickupCode hmac { invoiceId := id, version := none } ∧
      now < invoice.createdAt + pickupCodeTtl

theorem getPickupCodeExpiry_legacy {invoice : Invoice} (version : invoice.pickupCodeVersion = none) :
    getPickupCodeExpiry invoice = some (invoice.createdAt + pickupCodeTtl) := by
  rw [getPickupCodeExpiry, version]
  rw [Option.map_some]

theorem getPickupCodeExpiry_versioned {invoice : Invoice}
    (versioned : invoice.pickupCodeVersion.isSome) :
    getPickupCodeExpiry invoice = invoice.pickupCodeIssuedAt.map (· + pickupCodeTtl) := by
  unfold getPickupCodeExpiry
  cases present : invoice.pickupCodeVersion with
  | none =>
      rw [present] at versioned
      exact nomatch versioned
  | some version => rfl

theorem verifyPickupText_iff {text : String} {invoice : Invoice} {now : Timestamp} :
    verifyPickupText hmac id text invoice now ↔
      (∃ expiry, getPickupCodeExpiry invoice = some expiry ∧ now < expiry) ∧
        text = signPickupCode hmac { invoiceId := id, version := invoice.pickupCodeVersion } := by
  unfold verifyPickupText
  simp only [Bool.and_eq_true, Option.any_eq_true, decide_eq_true_eq]

/-- A versioned code without a time of issue is never good. -/
theorem not_verifyPickupText {text : String} {invoice : Invoice} {now : Timestamp}
    (versioned : invoice.pickupCodeVersion.isSome) (unissued : invoice.pickupCodeIssuedAt = none) :
    ¬verifyPickupText hmac id text invoice now := by
  rw [verifyPickupText_iff, getPickupCodeExpiry_versioned versioned, unissued]
  rintro ⟨⟨expiry, none, -⟩, -⟩
  exact nomatch none

theorem accepts_iff {last : Option CodeChange} {text : String} {now : Timestamp}
    (governs : Governs hmac id last database) :
    Accepts hmac id text database now ↔ Admits hmac id text database now last := by
  unfold Governs codeStates at governs
  cases known : database.sales.invoices.find? id with
  | none =>
      rw [known] at governs
      obtain rfl : last = none := governs
      constructor
      · rintro ⟨invoice, present, -⟩
        exact nomatch known.symm.trans present
      · rintro ⟨invoice, present, -⟩
        exact nomatch known.symm.trans present
  | some invoice =>
      rw [known] at governs
      have only : Accepts hmac id text database now ↔ verifyPickupText hmac id text invoice now :=
        ⟨fun ⟨other, present, verified⟩ => Option.some.inj (known.symm.trans present) ▸ verified,
          fun verified => ⟨invoice, known, verified⟩⟩
      rw [only]
      cases last with
      | none =>
          have unissued : invoice.pickupCodeIssuedAt = none := governs
          constructor
          · intro verified
            have legacy : invoice.pickupCodeVersion = none := by
              by_contra versioned
              exact not_verifyPickupText (Option.isSome_iff_ne_none.mpr versioned) unissued verified
            obtain ⟨⟨expiry, expires, early⟩, same⟩ := verifyPickupText_iff.mp verified
            rw [getPickupCodeExpiry_legacy legacy] at expires
            rw [legacy] at same
            exact ⟨invoice, known, legacy, same, Option.some.inj expires ▸ early⟩
          · rintro ⟨other, present, legacy, same, early⟩
            obtain rfl := Option.some.inj (known.symm.trans present)
            rw [verifyPickupText_iff, getPickupCodeExpiry_legacy legacy, legacy]
            exact ⟨⟨_, rfl, early⟩, same⟩
      | some change =>
          cases change with
          | issued code issuedAt =>
              have state : invoice.pickupCodeIssuedAt = some issuedAt ∧
                  invoice.pickupCodeVersion.isSome ∧ code = signPickupCode hmac
                    { invoiceId := id, version := invoice.pickupCodeVersion } := governs
              obtain ⟨issued, versioned, rfl⟩ := state
              rw [verifyPickupText_iff, getPickupCodeExpiry_versioned versioned, issued,
                Option.map_some]
              constructor
              · rintro ⟨⟨expiry, expires, early⟩, same⟩
                exact ⟨same, Option.some.inj expires ▸ early⟩
              · rintro ⟨same, early⟩
                exact ⟨⟨_, rfl, early⟩, same⟩
          | revoked =>
              have state : invoice.pickupCodeIssuedAt = none ∧
                  invoice.pickupCodeVersion.isSome := governs
              exact iff_of_false (not_verifyPickupText state.2 state.1) not_false

/-- The place of a version in the order in which they are set. -/
def versionRank : Option Nat → Nat
  | none => 0
  | some version => version + 1

theorem PickupCodeState.rank_renewed {state : PickupCodeState} {issuedAt : Option Timestamp} :
    versionRank state.pickupCodeVersion < versionRank (state.renewed issuedAt).pickupCodeVersion := by
  unfold renewed
  cases state.pickupCodeVersion with
  | none => exact Nat.succ_pos _
  | some version => exact Nat.lt_succ_self _

/-- A change sets a version that was not set before. -/
theorem version_final {version : Option Nat} (known : start.sales.pickupVersion id = some version) :
    ∃ last, (final Action.execute start actions).sales.pickupVersion id = some last ∧
      versionRank version ≤ versionRank last ∧
      (lastChange hmac id (history Action.execute start actions) ≠ none →
        versionRank version < versionRank last) := by
  let P (last : Option CodeChange) (database : Database) : Prop :=
    ∃ current, database.sales.pickupVersion id = some current ∧
      versionRank version ≤ versionRank current ∧
      (last ≠ none → versionRank version < versionRank current)
  suffices holds : P (lastChange hmac id (history Action.execute start actions))
      (final Action.execute start actions) from holds
  refine foldl_history ⟨version, known, le_rfl, fun changed => (changed rfl).elim⟩ ?_
  intro entry ran last ⟨current, present, least, more⟩
  have move := @codeMove hmac id _ _ _ ran
  simp only [P, codeStates_pickupVersion] at present ⊢
  generalize entry.before.sales.codeStates id = before, codeChange hmac id entry = change,
    entry.after.sales.codeStates id = after at move present
  cases move with
  | absent => exact nomatch present
  | invoiced => exact nomatch present
  | kept => exact ⟨current, present, least, more⟩
  | @issued state issuedAt =>
      obtain rfl := Option.some.inj present
      have raised := @PickupCodeState.rank_renewed state (some issuedAt)
      exact ⟨_, rfl, least.trans raised.le, fun _ => least.trans_lt raised⟩
  | @revoked state =>
      obtain rfl := Option.some.inj present
      have raised := @PickupCodeState.rank_renewed state none
      exact ⟨_, rfl, least.trans raised.le, fun _ => least.trans_lt raised⟩

theorem Accepts.pickupVersion {text : String} {now : Timestamp}
    (accepted : Accepts hmac id text database now) :
    ∃ version, database.sales.pickupVersion id = some version ∧
      text = signPickupCode hmac { invoiceId := id, version } := by
  obtain ⟨invoice, known, verified⟩ := accepted
  simp only [verifyPickupText, Bool.and_eq_true, decide_eq_true_eq] at verified
  refine ⟨invoice.pickupCodeVersion, ?_, verified.2⟩
  simp [SalesStore.pickupVersion, known]

/-- What tracking, feedback and handoff check of a code. -/
def Opens (claim : PickupClaim) (database : Database) (now : Timestamp) : Prop :=
  ∃ invoice, database.sales.invoices.find? claim.invoiceId = some invoice ∧
    verifyPickupCode claim invoice now

/-- The check compares the signatures. -/
theorem Opens.accepts {claim : PickupClaim} {now : Timestamp} (opened : Opens claim database now) :
    Accepts hmac claim.invoiceId (signPickupCode hmac claim.code) database now := by
  obtain ⟨invoice, known, verified⟩ := opened
  simp only [verifyPickupCode, Bool.and_eq_true, decide_eq_true_eq] at verified
  refine ⟨invoice, known, ?_⟩
  simp [verifyPickupText, verified.1, verified.2]

/-- A code that was replaced is never accepted again. -/
theorem not_accepts_of_replaced {text : String} {earlier now : Timestamp}
    (injective : Function.Injective hmac) (accepted : Accepts hmac id text start earlier)
    (changed : lastChange hmac id (history Action.execute start actions) ≠ none) :
    ¬Accepts hmac id text (final Action.execute start actions) now := by
  intro again
  obtain ⟨version, known, rfl⟩ := accepted.pickupVersion
  obtain ⟨current, present, same⟩ := again.pickupVersion
  obtain ⟨last, reached, -, raised⟩ := @version_final hmac _ _ actions _ known
  obtain rfl : last = current := Option.some.inj (reached.symm.trans present)
  obtain rfl := PickupCode.message_injective (injective same)
  exact lt_irrefl _ (raised changed)

end Histories

section Commits

variable {claim : PickupClaim} {now : Timestamp} {before after : FeedbackStore}

theorem openPickup_opens {found : Invoice}
    (committed : Commits (openPickup claim now) before found after) :
    Opens claim before.database now := by
  simp only [openPickup, commits_bind, commits_within, commits_salesTx, commits_require,
    commits_pure] at committed
  obtain ⟨invoice, _, ⟨_, ⟨_, read, rfl⟩, rfl⟩, _, _, ⟨verified, rfl⟩, rfl, rfl⟩ := committed
  exact ⟨_, (PickupCodes.commits_findPickupInvoice read).1, verified⟩

theorem getPickupStatus_opens {status : PickupStatus}
    (committed : Commits (getPickupStatus claim now) before status after) :
    Opens claim before.database now := by
  obtain ⟨_, _, opened, -⟩ := commits_bind.mp committed
  exact openPickup_opens opened

theorem submitTakeawayFeedback_opens {input : SubmitTakeawayFeedbackInput}
    {feedback : TakeawayFeedback}
    (committed : Commits (submitTakeawayFeedback input now) before feedback after) :
    Opens input.claim before.database now := by
  obtain ⟨_, _, opened, -⟩ := commits_bind.mp committed
  exact openPickup_opens opened

theorem handoffWithPickupCode_opens {id employeeId : Id} {before after : Database}
    (committed : Commits (OrdersService.handoffWithPickupCode claim id employeeId now)
      before () after) : Opens claim before now := by
  simp only [OrdersService.handoffWithPickupCode, OrdersService.changeItemStatus, commits_bind,
    commits_salesTx, commits_get, commits_require] at committed
  obtain ⟨_, _, active, item, _, ⟨_, read, rfl⟩, session, _, ⟨_, found, rfl⟩, _, _, ⟨rfl, rfl⟩,
    _, _, -, _, _, -, _, _, -, _, _, ⟨matched, -⟩, -⟩ := committed
  cases Respects.step (R := Eq) active
  cases Respects.step (R := Eq) read
  cases Respects.step (R := Eq) found
  simp only [Option.all_some, OrdersService.pickupMatches, Bool.and_eq_true, Option.any_eq_true]
    at matched
  obtain ⟨-, invoice, known, -, verified⟩ := matched
  exact ⟨invoice, known, verified⟩

end Commits

/-- A text is accepted exactly while it is the code of the last version, and once another
version is set it opens the order nowhere. -/
theorem pickupCode_accepted_iff {hmac : String → String} (injective : Function.Injective hmac)
    {start : Database}
    (unissued : ∀ invoice ∈ start.sales.invoices.rows, invoice.pickupCodeIssuedAt = none)
    (id : Id) (text : String) (earlier later : List Action) :
    (∀ now, Accepts hmac id text (final Action.execute start earlier) now ↔
      Admits hmac id text (final Action.execute start earlier) now
        (lastChange hmac id (history Action.execute start earlier))) ∧
    ∀ past, Accepts hmac id text (final Action.execute start earlier) past →
      lastChange hmac id (history Action.execute (final Action.execute start earlier) later) ≠ none →
      ∀ now, ¬Accepts hmac id text (final Action.execute start (earlier ++ later)) now ∧
        ∀ claim : PickupClaim, claim.invoiceId = id → signPickupCode hmac claim.code = text →
          (∀ store status after, store.database = final Action.execute start (earlier ++ later) →
            ¬Commits (getPickupStatus claim now) store status after) ∧
          (∀ rating comment store feedback after,
            store.database = final Action.execute start (earlier ++ later) →
            ¬Commits (submitTakeawayFeedback { claim, rating, comment } now) store feedback after) ∧
          ∀ itemId employeeId after,
            ¬Commits (OrdersService.handoffWithPickupCode claim itemId employeeId now)
              (final Action.execute start (earlier ++ later)) () after := by
  refine ⟨fun now => accepts_iff (governs_final unissued), fun past accepted changed now => ?_⟩
  have never : ¬Accepts hmac id text (final Action.execute start (earlier ++ later)) now := by
    rw [final_append]
    exact not_accepts_of_replaced injective accepted changed
  refine ⟨never, ?_⟩
  rintro claim rfl rfl
  refine ⟨fun store status after left committed => ?_,
    fun rating comment store feedback after left committed => ?_,
    fun itemId employeeId after committed => ?_⟩
  · apply never
    rw [← left]
    exact (getPickupStatus_opens committed).accepts
  · apply never
    rw [← left]
    exact (submitTakeawayFeedback_opens committed).accepts
  · exact never (handoffWithPickupCode_opens committed).accepts

/-- The code of the takeaway order of the sample shop, which is issued and revoked. -/
theorem pickupCode_accepted_iff_revoked :
    let claim : PickupClaim := { invoiceId := 3, code := { invoiceId := 3, version := some 1 } }
    let issued := [Action.perform (.order (.provisionPickupCode 3 0 none)) 8]
    let revoked := [Action.perform (.order (.revokePickupCode claim 0)) 9]
    Admits id 3 (signPickupCode id claim.code) (final Action.execute Database.sold issued) 10
      (lastChange id 3 (history Action.execute Database.sold issued)) ∧
    ∀ now, ¬Accepts id 3 (signPickupCode id claim.code)
      (final Action.execute Database.sold (issued ++ revoked)) now := by
  intro claim issued revoked
  have opened : Opens claim (final Action.execute Database.sold issued) 10 := by
    have found : ((final Action.execute Database.sold issued).sales.invoices.find?
        claim.invoiceId).any (fun invoice => verifyPickupCode claim invoice 10) = true := by
      decide +kernel
    obtain ⟨invoice, known, verified⟩ := (Option.any_eq_true _ _).mp found
    exact ⟨invoice, known, verified⟩
  have accepted : Accepts id 3 (signPickupCode id claim.code)
      (final Action.execute Database.sold issued) 10 := opened.accepts
  have changed : (lastChange id 3 (history Action.execute
      (final Action.execute Database.sold issued) revoked)).isSome = true := by decide +kernel
  have unissued : ∀ invoice ∈ Database.sold.sales.invoices.rows,
      invoice.pickupCodeIssuedAt = none := by decide +kernel
  have valid := pickupCode_accepted_iff Function.injective_id unissued 3
    (signPickupCode id claim.code) issued revoked
  exact ⟨(valid.1 10).mp accepted,
    fun now => (valid.2 10 accepted (Option.isSome_iff_ne_none.mp changed) now).1⟩

end CoffeeShop
