import PaykitServer.Persistence.Invoices.Receipts
import PaykitServer.Persistence.Observations

/-!
# One invoice settles through either of its quoted payment options

After every change to the observations of an invoice its row is rebuilt from
both chains, so that one observer cannot erase the other. The Bitcoin columns
follow the active Bitcoin observation alone; expiry and the first match also
take the selected USDT receipt into account.
-/

namespace PaykitServer.Persistence

open Domain Bitcoin Relational

/-- SQL `LEAST`, which ignores nulls. -/
def least : Option OffsetDateTime → Option OffsetDateTime → Option OffsetDateTime
  | some a, some b => some (min a b)
  | some a, none => some a
  | none, b => b

/-- How an active Bitcoin observation counts toward an invoice. -/
def observedBitcoin (required : Nat) (binding : DirectBinding) (timely : Bool) :
    ObservedPayment :=
  let matched := binding.present && decide (required ≤ binding.sats)
  { present := binding.present
    matched := matched
    timely := timely
    confirmations :=
      if binding.present = false then 0
      else if matched then min binding.confirmations 6
      else binding.confirmations
    finalized := false
    receivedAt := none }

def bitcoinPayment (crypto : Crypto) (db : Database) (invoice : Uuid)
    (payment : InvoicePaymentRecordV1) : Except PersistenceError ObservedPayment :=
  match payment.bitcoin, db.activeObservation invoice with
  | some destination, some observation => do
    let _ ← decryptObservation crypto observation
    return observedBitcoin destination.requiredAmount observation.binding
      (db.timely invoice observation.outpointLookupHash)
  | _, _ => .ok .absent

def usdtRail (crypto : Crypto) (db : Database) (row : InvoiceRow)
    (payment : InvoicePaymentRecordV1) : Except PersistenceError (Option ObservedPayment) :=
  match payment.usdt with
  | some destination => do
    let selected ← usdtPayment crypto db row destination.requiredAmount
    return selected.map Prod.snd
  | none => .ok none

/-- Whether some rail currently shows an eligible payment. -/
def anyEligible (bitcoin : ObservedPayment) (usdt : Option ObservedPayment) : Bool :=
  bitcoin.eligible || usdt.any (·.eligible)

def bitcoinStatus (bitcoin : ObservedPayment) : PaymentStatus :=
  if bitcoin.present = false then .undetected
  else if bitcoin.confirmations = 0 then .detected
  else .confirmed

def InvoiceRow.project (row : InvoiceRow) (bitcoin : ObservedPayment)
    (usdt : Option ObservedPayment) (now : OffsetDateTime) : InvoiceRow :=
  { row with
    paymentStatus := bitcoinStatus bitcoin
    confirmationCount := bitcoin.confirmations
    amountMatched := bitcoin.matched
    firstAmountMatchedObservedAt :=
      least row.firstAmountMatchedObservedAt ((usdt.filter (·.eligible)).bind (·.receivedAt))
    paymentExpiredAt :=
      if anyEligible bitcoin usdt then none
      else if row.paymentDeadline < now then row.paymentExpiredAt.or (some now)
      else row.paymentExpiredAt }

def projectPayments (crypto : Crypto) (db : Database) (invoice : Uuid)
    (payment : InvoicePaymentRecordV1) (now : OffsetDateTime) :
    Except PersistenceError Database := do
  let row ← demand .unavailable (db.invoice invoice)
  let bitcoin ← bitcoinPayment crypto db invoice payment
  let usdt ← usdtRail crypto db row payment
  let invoices ← Table.write .unavailable
    (updateWhere (fun row => row.id = invoice) (·.project bitcoin usdt now) db.invoices.rows)
  if anyEligible bitcoin usdt then
    let contact : BuyerContactRow := ⟨row.id, row.creatorId, row.readerLookupHash⟩
    let contacts ← Table.write .unavailable
      (insertNew (fun stored => stored.creatorId = contact.creatorId ∧
        stored.readerLookupHash = contact.readerLookupHash) contact db.buyerContacts.rows)
    return { db with invoices := invoices, buyerContacts := contacts }
  else
    return { db with invoices := invoices }

/-- What a committed projection did: both rails were read, and only the invoice
row and the buyer contacts changed. -/
theorem projectPayments_ok {crypto : Crypto} {db db' : Database} {invoice : Uuid}
    {payment : InvoicePaymentRecordV1} {now : OffsetDateTime}
    (done : projectPayments crypto db invoice payment now = .ok db') :
    ∃ row bitcoin usdt invoices contacts,
      db.invoice invoice = some row ∧
        bitcoinPayment crypto db invoice payment = .ok bitcoin ∧
        usdtRail crypto db row payment = .ok usdt ∧
        invoices.rows = updateWhere (fun row => row.id = invoice) (·.project bitcoin usdt now)
          db.invoices.rows ∧
        db' = { db with invoices := invoices, buyerContacts := contacts } := by
  unfold projectPayments at done
  obtain ⟨row, hrow, bitcoin, hbitcoin, usdt, husdt, done⟩ := bind₃_eq_ok.mp done
  obtain ⟨invoices, hinvoices, done⟩ := bind_eq_ok.mp done
  have found := demand_eq_ok.mp hrow
  have written := Table.write_eq_ok.mp hinvoices
  split at done
  · obtain ⟨contacts, -, done⟩ := bind_eq_ok.mp done
    cases done
    exact ⟨row, bitcoin, usdt, invoices, contacts, found, hbitcoin, husdt, written, rfl⟩
  · cases done
    exact ⟨row, bitcoin, usdt, invoices, db.buyerContacts, found, hbitcoin, husdt, written, rfl⟩

end PaykitServer.Persistence
