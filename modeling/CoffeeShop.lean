import CoffeeShop.Access.Privileges
import CoffeeShop.Access.ResetFencing
import CoffeeShop.Cash.ImportRuns
import CoffeeShop.Cash.StatementMatching
import CoffeeShop.Durable.AtMostOnce
import CoffeeShop.Durable.OutboxFencing
import CoffeeShop.Execution
import CoffeeShop.Inventory.CostBounds
import CoffeeShop.Inventory.LineValues
import CoffeeShop.Inventory.ReceiptPosting
import CoffeeShop.Inventory.StocktakePosting
import CoffeeShop.Invoices.Quotes
import CoffeeShop.Invoices.Refunded
import CoffeeShop.Logging.RedactionLeaves
import CoffeeShop.Menu.ImageSafety
import CoffeeShop.Online.Fulfillment
import CoffeeShop.Online.PickupSchedule
import CoffeeShop.Orders.Availability
import CoffeeShop.Orders.Routing
import CoffeeShop.Orders.Selections
import CoffeeShop.Payments.Constraints
import CoffeeShop.Payments.MomoCallbacks
import CoffeeShop.Payments.Postponements
import CoffeeShop.Payments.Reviews
import CoffeeShop.Payments.Supersession
import CoffeeShop.Payments.VnpayCallbacks
import CoffeeShop.Printing.FailedSplits
import CoffeeShop.Printing.Leases
import CoffeeShop.Reports.InsightCalls
import CoffeeShop.Reservations.UsableTables
import CoffeeShop.Sales.Billing
import CoffeeShop.Sales.Occupancy
import CoffeeShop.Sales.PickupCodes
import CoffeeShop.Sales.Regrouping
import CoffeeShop.Settings.Revisions
