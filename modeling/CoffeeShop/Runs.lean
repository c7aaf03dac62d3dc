import CoffeeShop.Footprints
import CoffeeShop.Library.History

/-!
Runs of the backend from the empty database.

A run is the history of a list of actions: commands, each at its time, and edits of
the master data, in any order.  Identifiers are drawn from a counter that never falls.
-/

namespace CoffeeShop

open Transaction Database

/-- What may run next. -/
inductive Action where
  | perform (command : Command) (now : Timestamp)
  | administer (catalog : Catalog) (reservations : Table Reservation.id)

def Action.execute : Action → Transact Unit
  | .perform command now => command.execute now
  | .administer catalog reservations =>
      modify fun database => database.administer catalog reservations

/-- An action that ran, with its answer and the databases around it. -/
abbrev RunEntry := Entry Database Failure Action Unit

/-- What happens when the actions run in this order on the empty database. -/
def run (actions : List Action) : List RunEntry := history Action.execute Database.empty actions

/-- An action that commits is a step of the system. -/
theorem Action.step {action : Action} {before after : Database}
    (committed : Commits action.execute before () after) : Step before after := by
  cases action with
  | perform command now => exact .commit command now committed
  | administer catalog reservations =>
      have committed : Commits (modify fun database =>
        database.administer catalog reservations) before () after := committed
      rw [commits_modify.mp committed]
      exact .administer catalog reservations

section Entries

variable {actions : List Action} {entry : RunEntry}

/-- An entry is a step, or aborts and changes nothing. -/
theorem RunEntry.step (ran : entry ∈ run actions) :
    (entry.answer = .ok () ∧ Commits entry.event.execute entry.before () entry.after) ∨
      ∃ failure, entry.answer = .error failure ∧ entry.after = entry.before := by
  rcases Entry.cases (eq_record_of_mem ran) with ⟨result, answer, committed⟩ | aborted
  · exact .inl ⟨answer, committed⟩
  · exact .inr aborted

/-- What the steps of reachable databases preserve is kept by every entry of a run. -/
theorem RunEntry.kept {P : Database → Prop} (ran : entry ∈ run actions)
    (steps : ∀ after, Step entry.before after → P entry.before → P after)
    (holds : P entry.before) : P entry.after := by
  rcases RunEntry.step ran with ⟨-, committed⟩ | ⟨_, -, same⟩
  · exact steps entry.after (Action.step committed) holds
  · rw [same]
    exact holds

theorem RunEntry.reachable (ran : entry ∈ run actions) : Reachable entry.before := by
  obtain ⟨first, last, split⟩ := List.append_of_mem ran
  have start : Reachable Database.empty := .refl
  refine holds_before split start fun earlier inFirst reached => ?_
  have member : earlier ∈ run actions := by
    rw [split]
    exact List.mem_append_left _ inFirst
  exact RunEntry.kept member (fun after taken reached => reached.tail taken) reached

end Entries

section Identifiers

instance : Apart nextId inventoryPart := ⟨fun _ _ => rfl⟩
instance : Apart nextId salesPart := ⟨fun _ _ => rfl⟩
instance : Apart nextId cashPart := ⟨fun _ _ => rfl⟩
instance : Apart nextId paymentPart := ⟨fun _ _ => rfl⟩
instance : Apart nextId printPart := ⟨fun _ _ => rfl⟩
instance : Apart nextId stationPart := ⟨fun _ _ => rfl⟩

instance : Respects (On nextId (· ≤ ·)) freshId where
  step before result after committed := by
    obtain ⟨-, rfl⟩ := commits_freshId.mp committed
    exact Nat.le_succ before.nextId

/-- No command takes an identifier back. -/
instance Command.drawsIds {command : Command} {now : Timestamp} :
    Respects (On nextId (· ≤ ·)) (command.execute now) := by
  cases command with
  | inventory command =>
      cases command <;> (dsimp only [Command.execute, InventoryCommand.execute]; infer_instance)
  | cash command =>
      cases command <;> (dsimp only [Command.execute, CashCommand.execute]; infer_instance)
  | order command =>
      cases command <;> (dsimp only [Command.execute, OrderCommand.execute]; infer_instance)
  | invoice command =>
      cases command <;> (dsimp only [Command.execute, InvoiceCommand.execute]; infer_instance)
  | online command =>
      cases command <;> (dsimp only [Command.execute, OnlineCommand.execute]; infer_instance)
  | payment command =>
      cases command <;> (dsimp only [Command.execute, PaymentCommand.execute]; infer_instance)
  | table command =>
      cases command <;> (dsimp only [Command.execute, TableCommand.execute]; infer_instance)
  | print command =>
      cases command <;> (dsimp only [Command.execute, PrintCommand.execute]; infer_instance)

theorem Step.nextId_le {before after : Database} (taken : Step before after) :
    before.nextId ≤ after.nextId := by
  cases taken with
  | commit command now committed => exact Command.drawsIds.step committed
  | administer catalog reservations => exact Nat.le_refl before.nextId

end Identifiers

end CoffeeShop
