import PaykitServer.Persistence.Creators

/-!
# Work records of buyer contacts

An eligible payment leaves a work record for its creator and buyer, with the payment's own
transaction. Workers claim due records; a claim only defers the next one. What a claimed
record still needs is read again when the contact is saved, and its completion is kept.

The two scheduling columns are kept beside the rows of `buyer_contacts`.
-/

namespace PaykitServer.Persistence.Invoices

open Domain Application Relational

/-- The scheduling columns of a work record. Until its first claim a record is due since
its insertion. -/
structure ContactSchedule where
  nextAttemptAt : Option OffsetDateTime
  completedAt : Option OffsetDateTime
deriving DecidableEq

/-- The schedule of every work record, by its invoice. -/
abbrev Schedules := Uuid → ContactSchedule

/-- A verified buyer awaiting private contact resolution. -/
structure PendingBuyerContact where
  invoiceId : Uuid
  creatorId : Uuid
  reader : String
deriving DecidableEq

def contactRecord (db : Database) (invoice : Uuid) : Option BuyerContactRow :=
  lookup (fun row => some row.invoiceId) invoice db.buyerContacts.rows

/-- A record is due until it is completed, once its delay has passed. -/
def ContactSchedule.due (schedule : ContactSchedule) (now : OffsetDateTime) : Bool :=
  schedule.completedAt.isNone && schedule.nextAttemptAt.all (· ≤ now)

/-- What a claimed record is about, read from its invoice. -/
def decodeContact (crypto : Crypto) (sdk : Sdk) (store : Store) (row : BuyerContactRow) :
    Except PersistenceError (Option PendingBuyerContact) :=
  let creator := lookup (fun stored => some stored.id) row.creatorId store.creators.rows
  let invoice := (store.admission row.invoiceId).filter fun stored =>
    stored.creatorId = row.creatorId ∧ stored.readerLookupHash = row.readerLookupHash
  match creator, invoice with
  | some _, some invoice => do
    let intent ← decodeIntent sdk invoice.intent
    ensure (sdk.parsesReader intent.readerPubky = true) .corruptOrMissing
    ensure (textHash crypto intent.readerPubky = row.readerLookupHash) .corruptOrMissing
    return some ⟨row.invoiceId, row.creatorId, intent.readerPubky⟩
  | _, _ => .ok none

/-- Claim a due record: its next attempt is a minute away, whatever becomes of this one.
Which of the due records the statement takes depends on the locks of others. -/
def claimBuyerContact (crypto : Crypto) (sdk : Sdk) (store : Store) (schedules : Schedules)
    (taken : Uuid) : Option (Except PersistenceError (Option PendingBuyerContact) × Schedules) :=
  (contactRecord store.db taken).bind fun row =>
    if (schedules row.invoiceId).due store.clock then
      some (decodeContact crypto sdk store row, Function.update schedules row.invoiceId
        { schedules row.invoiceId with nextAttemptAt := some (store.clock + seconds 60) })
    else none

def PendingBuyerContact.names (crypto : Crypto) (pending : PendingBuyerContact)
    (row : BuyerContactRow) : Bool :=
  row.invoiceId = pending.invoiceId && row.creatorId = pending.creatorId &&
    row.readerLookupHash = textHash crypto pending.reader

/-- Whether a claimed attempt still needs saving. -/
def buyerContactIsPending (crypto : Crypto) (store : Store) (schedules : Schedules)
    (pending : PendingBuyerContact) : Bool :=
  store.db.buyerContacts.rows.any fun row =>
    pending.names crypto row && (schedules row.invoiceId).completedAt.isNone

/-- Retain the first completion of a record. -/
def completeBuyerContact (crypto : Crypto) (store : Store) (schedules : Schedules)
    (pending : PendingBuyerContact) : Schedules :=
  if store.db.buyerContacts.rows.any (pending.names crypto) then
    Function.update schedules pending.invoiceId { schedules pending.invoiceId with
      completedAt := (schedules pending.invoiceId).completedAt.or (some store.clock) }
  else schedules

end PaykitServer.Persistence.Invoices
