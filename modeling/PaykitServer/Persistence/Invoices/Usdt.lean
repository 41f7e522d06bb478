import PaykitServer.Persistence.Invoices.Settlement
import PaykitServer.Persistence.Transfers

/-!
# USDT receipts of invoices

Every change to an invoice's receipts is followed, in the same transaction, by
the projection that rebuilds the invoice. Unlike Bitcoin observations, which are
timed by the database, this projection uses the process clock.
-/

namespace PaykitServer.Persistence.Invoices

open Relational

/-- Withdraw a receipt whose proof no longer verifies. `dbNow` is the database
time of the statement and `now` the process time of the projection. -/
def clearUsdtTransfer (crypto : Crypto) (db : Database) (invoice : Uuid)
    (payment : InvoicePaymentRecordV1) (transferHash : LookupHash)
    (dbNow now : OffsetDateTime) : Except PersistenceError Database := do
  let db ← withdrawReceipt db (.invoice invoice) transferHash dbNow
  projectPayments crypto db invoice payment now

/-- The part of an apply after its locking read. -/
def completeUsdtTransfer (crypto : Crypto) (db : Database) (invoice : Uuid)
    (payment : InvoicePaymentRecordV1) (locked : Option LockedReceipt)
    (transfer : VerifiedTransfer) (dbNow now : OffsetDateTime) :
    Except PersistenceError (Bool × Database) := do
  let transferHash := crypto.usdtTransferLookupHash transfer.identity
  match ← storeTransfer db (.invoice invoice) locked transfer transferHash dbNow with
  | (observed, none) => return (observed, db)
  | (observed, some db) =>
    let db ← projectPayments crypto db invoice payment now
    return (observed, db)

def applyUsdtTransfer (crypto : Crypto) (db : Database) (invoice : Uuid)
    (payment : InvoicePaymentRecordV1) (transfer : VerifiedTransfer)
    (dbNow now : OffsetDateTime) : Except PersistenceError (Bool × Database) :=
  completeUsdtTransfer crypto db invoice payment
    (lockReceipt db (.invoice invoice) (crypto.usdtTransferLookupHash transfer.identity))
    transfer dbNow now

theorem completeUsdtTransfer_ok {crypto : Crypto} {db db' : Database} {invoice : Uuid}
    {payment : InvoicePaymentRecordV1} {locked : Option LockedReceipt}
    {transfer : VerifiedTransfer} {dbNow now : OffsetDateTime} {observed : Bool}
    (done : completeUsdtTransfer crypto db invoice payment locked transfer dbNow now =
      .ok (observed, db')) :
    (storeTransfer db (.invoice invoice) locked transfer
        (crypto.usdtTransferLookupHash transfer.identity) dbNow = .ok (observed, none) ∧ db' = db) ∨
      ∃ mid, storeTransfer db (.invoice invoice) locked transfer
          (crypto.usdtTransferLookupHash transfer.identity) dbNow = .ok (observed, some mid) ∧
        projectPayments crypto mid invoice payment now = .ok db' := by
  unfold completeUsdtTransfer at done
  obtain ⟨⟨_, stored⟩, hstored, done⟩ := bind_eq_ok.mp done
  cases stored with
  | none =>
    cases done
    exact .inl ⟨hstored, rfl⟩
  | some mid =>
    obtain ⟨projected, hprojected, done⟩ := bind_eq_ok.mp done
    cases done
    exact .inr ⟨mid, hstored, hprojected⟩

end PaykitServer.Persistence.Invoices
