import CoffeeShop.Execution
import CoffeeShop.Sales.InvoiceSteps

/-!
Every command takes the sales tables through steps.
-/

namespace CoffeeShop

open Transaction

/-- The payment method whose invoices the command may refund. -/
def Command.refunds : Command → Option PaymentMethod
  | .invoice (.refundCash ..) => some .cash
  | .payment (.applyProviderResponse ..) => some .transfer
  | _ => none

namespace SalesSteps

set_option synthInstance.maxSize 100000

instance orderCommand {command : OrderCommand} {now : Timestamp} :
    Respects (Taken none) (command.execute now) := by
  cases command
  all_goals
    dsimp only [OrderCommand.execute, OrdersService.updateItemStatus,
      OrdersService.handoffTakeawayItem, OrdersService.handoffWithPickupCode]
    infer_instance

instance onlineCommand {command : OnlineCommand} {now : Timestamp} :
    Respects (Taken none) (command.execute now) := by
  cases command
  all_goals
    dsimp only [OnlineCommand.execute, OnlineOrders.receive, OnlineOrders.reject,
      OnlineOrders.cancelAccepted, OnlineOrders.markNoShow]
    infer_instance

instance inventoryCommand {command : InventoryCommand} {now : Timestamp} :
    Respects (Taken none) (command.execute now) := by
  cases command
  all_goals
    dsimp only [InventoryCommand.execute]
    infer_instance

instance cashCommand {command : CashCommand} {now : Timestamp} :
    Respects (Taken none) (command.execute now) := by
  cases command
  all_goals
    dsimp only [CashCommand.execute]
    infer_instance

instance tableCommand {command : TableCommand} {now : Timestamp} :
    Respects (Taken none) (command.execute now) := by
  cases command
  all_goals
    dsimp only [TableCommand.execute]
    infer_instance

instance printCommand {command : PrintCommand} {now : Timestamp} :
    Respects (Taken none) (command.execute now) := by
  cases command
  all_goals
    dsimp only [PrintCommand.execute]
    infer_instance

instance invoiceCommand {command : InvoiceCommand} {now : Timestamp} :
    Respects (Taken (Command.refunds (.invoice command))) (command.execute now) := by
  cases command
  all_goals
    dsimp only [InvoiceCommand.execute, Command.refunds]
    infer_instance

instance paymentCommand {command : PaymentCommand} {now : Timestamp} :
    Respects (Taken (Command.refunds (.payment command))) (command.execute now) := by
  cases command
  all_goals
    dsimp only [PaymentCommand.execute, Command.refunds, PaymentsService.createAttempt,
      PaymentsService.openAttempt, PaymentsService.handleVnpayIpn,
      PaymentsService.applyVnpay, PaymentsService.settleVnpay, PaymentsService.handleMomoIpn,
      PaymentsService.applyMomo, PaymentsService.settleMomo, PaymentReconciliation.queryProvider]
    infer_instance

end SalesSteps

/-- A committed command is a run of steps of the sales tables. -/
theorem Command.sales_steps {command : Command} {now : Timestamp} {before after : Database}
    (committed : Commits (command.execute now) before () after) :
    SalesSteps command.refunds before.sales after.sales := by
  cases command with
  | inventory command => exact SalesSteps.inventoryCommand.step committed
  | cash command => exact SalesSteps.cashCommand.step committed
  | order command => exact SalesSteps.orderCommand.step committed
  | invoice command => exact SalesSteps.invoiceCommand.step committed
  | online command => exact SalesSteps.onlineCommand.step committed
  | payment command => exact SalesSteps.paymentCommand.step committed
  | table command => exact SalesSteps.tableCommand.step committed
  | print command => exact SalesSteps.printCommand.step committed

/-- What every step of the sales tables preserves holds of every reachable state. -/
theorem Reachable.salesInvariant (assertion : SalesStore → Prop) {database : Database}
    (reachable : Reachable database) (start : assertion SalesStore.empty)
    (steps : ∀ refunds before after, SalesStep refunds before after → assertion before →
      assertion after) : assertion database.sales := by
  refine reachable.invariant (fun database => assertion database.sales) start
    fun before after _ taken holds => ?_
  have run (refunds : Option PaymentMethod) (first last : SalesStore)
      (ran : SalesSteps refunds first last) (holds : assertion first) : assertion last := by
    induction ran with
    | refl => exact holds
    | tail _ taken inductionHypothesis => exact steps refunds _ _ taken inductionHypothesis
  cases taken with
  | commit command now committed => exact run _ _ _ (Command.sales_steps committed) holds
  | administer catalog reservations =>
      exact run none before.sales _ (SalesSteps.of_billed_eq rfl) holds

end CoffeeShop
