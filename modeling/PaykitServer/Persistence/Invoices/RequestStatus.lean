import PaykitServer.Persistence.Invoices.Receipts
import PaykitServer.Persistence.PaymentDrains

/-!
# The status of an invoice's payment request

A status read reports the leading attempt of the invoice. An invoice without an
attempt is reported by how its proposal ended, with the same cases as in a drain;
an invoice that has neither is not readable.
-/

namespace PaykitServer.Persistence.Invoices

open Domain Relational

inductive PaymentState where
  | undetected
  | detected
  | confirmed
  | expired
deriving DecidableEq, Repr

structure BitcoinPaymentStatus where
  confirmations : Nat
  amountMatched : Bool
  paidOnTime : Bool
deriving DecidableEq

structure PaymentRequestStatusSummary where
  requestState : PaymentRequestLifecycleState
  paymentState : PaymentState
  invoiceCreatedAt : OffsetDateTime
  paymentDeadline : OffsetDateTime
  bitcoin : Option BitcoinPaymentStatus
  usdt : Option UsdtPaymentStatus
deriving DecidableEq

/-- The state of both rails together; a confirmed receipt on either one counts. -/
def paymentState (row : InvoiceRow) (usdt : Option UsdtPaymentStatus) : PaymentState :=
  if row.paymentExpiredAt.isSome then .expired
  else match row.paymentStatus with
    | .confirmed => .confirmed
    | .detected => if usdt.any (0 < ·.confirmations) then .confirmed else .detected
    | .undetected =>
      if usdt.any (0 < ·.confirmations) then .confirmed
      else if usdt.isSome then .detected
      else .undetected

def requestState (store : Store) (invoiceId : Uuid) : Option PaymentRequestLifecycleState :=
  ((leadingAttempt (store.lifecycles.rows.filter (·.invoiceId = some invoiceId))).map
    (·.requestState)).or (PaymentDrains.terminalFallback store invoiceId)

def bitcoinTimely (db : Database) (invoiceId : Uuid) : Bool :=
  (db.activeObservation invoiceId).any fun row =>
    row.present && db.timely invoiceId row.outpointLookupHash

def intoSummary (row : InvoiceRow) (requestState : Option PaymentRequestLifecycleState)
    (timely : Bool) (usdt : Option UsdtPaymentStatus) :
    Except PersistenceError PaymentRequestStatusSummary := do
  let requestState ← demand .corruptOrMissing requestState
  ensure (0 ≤ row.confirmationCount) .corruptOrMissing
  return {
    requestState
    paymentState := paymentState row usdt
    invoiceCreatedAt := row.invoiceCreatedAt
    paymentDeadline := row.paymentDeadline
    bitcoin :=
      if row.paymentStatus ≠ .undetected then
        some ⟨row.confirmationCount.toNat, row.amountMatched, row.amountMatched && timely⟩
      else none
    usdt }

def paymentRequestStatusByInvoice (crypto : Crypto) (store : Store) (invoiceId : Uuid) :
    Except PersistenceError (Option PaymentRequestStatusSummary) :=
  match store.db.invoice invoiceId with
  | none => .ok none
  | some row => do
    let usdt ← usdtPaymentStatus crypto store.db invoiceId
    let summary ← intoSummary row (requestState store invoiceId)
      (bitcoinTimely store.db invoiceId) usdt
    return some summary

def paymentRequestStatus (crypto : Crypto) (store : Store) (creator bundleId : String) :
    Except PersistenceError (Option PaymentRequestStatusSummary) :=
  match storedInvoice crypto store creator (utf8 bundleId) with
  | none => .ok none
  | some invoice => paymentRequestStatusByInvoice crypto store invoice.id

end PaykitServer.Persistence.Invoices
