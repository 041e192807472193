import HostPanel.Lib.Table
import HostPanel.Lib.Program
import HostPanel.Lib.CaseMapping
import HostPanel.Lib.Growth
import HostPanel.Lib.Interleaving
import HostPanel.Lib.Double
import HostPanel.Model.Money
import HostPanel.Model.Database
import HostPanel.Model.Shared
import HostPanel.Model.Catalog
import HostPanel.Model.Orders
import HostPanel.Model.Invoices
import HostPanel.Model.Clients
import HostPanel.Lib.Journal
import HostPanel.Books.Changes
import HostPanel.Books.History
import HostPanel.Books.Ledger
import HostPanel.Books.Legality
import HostPanel.Books.Agreement
import HostPanel.Model.Actions
import HostPanel.Billing.Reconciliation
import HostPanel.Billing.Resubmission
import HostPanel.Billing.Keys
import HostPanel.Lib.Ownership
import HostPanel.Lib.Serial
import HostPanel.Lib.Absorbing
import HostPanel.Tenancy.Rows
import HostPanel.Tenancy.Isolation
import HostPanel.Concurrency.Payments
import HostPanel.Concurrency.Terminal
import HostPanel.Lib.Versions
import HostPanel.Pricing.Timeline
import HostPanel.Pricing.Lookup
import HostPanel.Model.LoginGuard
import HostPanel.Model.Staff
import HostPanel.Model.Contacts
import HostPanel.Model.Sessions
import HostPanel.Model.Login
import HostPanel.Access.Calls
import HostPanel.Access.Logins
import HostPanel.Access.Aging
import HostPanel.Access.Sessions
import HostPanel.Lib.Bearer
import HostPanel.Access.Lifetime
import HostPanel.Access.Logout
import HostPanel.Lib.Rely
import HostPanel.Access.Disabled
import HostPanel.Access.Portal
import HostPanel.Lib.Ticket
import HostPanel.Concurrency.ResetLinks
import HostPanel.Lib.Admission
import HostPanel.Model.Setup
import HostPanel.Concurrency.FirstSetup
import HostPanel.Lib.Lockout
import HostPanel.Access.Attempts
import HostPanel.Access.Lockout
import HostPanel.Access.SecondFactor
import HostPanel.Lib.Succession
import HostPanel.Concurrency.Prices
import HostPanel.Pricing.Storefront
import HostPanel.Model.Settings
import HostPanel.Model.Exports
import HostPanel.Lib.Transactions
import HostPanel.Books.Records
import HostPanel.Access.Invites
import HostPanel.Access.Grants
import HostPanel.Access.Administrators
import HostPanel.Lib.Faults
import HostPanel.Access.Registrations
import HostPanel.Lib.Numbering
import HostPanel.Concurrency.Numbers
import HostPanel.Lib.Race
import HostPanel.Concurrency.Retries
import HostPanel.Billing.Settlement
import HostPanel.Lib.Decimal
import HostPanel.Model.Admin
import HostPanel.Billing.Amounts
import HostPanel.Lib.Replay
import HostPanel.Books.Trail
import HostPanel.Lib.Mirror
import HostPanel.Access.Verification
import HostPanel.Lib.Arithmetic
import HostPanel.Model.OrderArithmetic
import HostPanel.Billing.Exactness
import HostPanel.Access.Pending
import HostPanel.Billing.Shares
import HostPanel.Billing.Decimals
import HostPanel.Billing.PaymentForm
import HostPanel.Access.Startup
import HostPanel.Lib.Audit
import HostPanel.Books.Entities
import HostPanel.Books.Audited
import HostPanel.Billing.Percentages
import HostPanel.Pricing.Frame
import HostPanel.Access.Secrets
import HostPanel.Access.Redirects
import HostPanel.Billing.Totals
import HostPanel.Lib.Errors
import HostPanel.Model.Web
import HostPanel.Web.Failures
import HostPanel.Web.Refusals
import HostPanel.Lib.Origin
import HostPanel.Web.Sessions
import HostPanel.Web.Authority
import HostPanel.Lib.Confined
import HostPanel.Web.Portal
import HostPanel.Model.Pages
import HostPanel.Web.Pages
import HostPanel.Lib.Simulation
import HostPanel.Web.Services
import HostPanel.Web.Writes
import HostPanel.Web.Books
import HostPanel.Web.Lasting
import HostPanel.Lib.Register
import HostPanel.Web.Links
import HostPanel.Web.Passwords
import HostPanel.Lib.Draws
import HostPanel.Model.Ids
import HostPanel.Access.RecoveryCodes
import HostPanel.Lib.Lockstep
import HostPanel.Concurrency.Logs
import HostPanel.Concurrency.WriteOnly
