import PaykitServer.Application.RequestBinding
import PaykitServer.Application.SharedReads
import PaykitServer.Ledger.Accounts
import PaykitServer.Ledger.Addresses
import PaykitServer.Ledger.BuyerContacts
import PaykitServer.Ledger.PaidAsset
import PaykitServer.Ledger.Progress
import PaykitServer.Ledger.Rotation
import PaykitServer.Ledger.Status
import PaykitServer.Paykit.Allowances
import PaykitServer.Persistence.CreatorWakeup
import PaykitServer.Persistence.DrainSets
import PaykitServer.Persistence.Invoices.ReceiptFacts
import PaykitServer.Pricing.Intents
import PaykitServer.Settlement.AmountMatch
import PaykitServer.Settlement.EvidenceExpiry
import PaykitServer.Settlement.Finality
import PaykitServer.Settlement.ReceiptOwnership
import PaykitServer.Settlement.ReceiptSelection
import PaykitServer.Settlement.Timeliness
import PaykitServer.Usdt.Verifier
import PaykitServer.Workers.AllowanceLoop
import PaykitServer.Workers.LifecycleAvailability
