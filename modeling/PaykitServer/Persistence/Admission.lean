import PaykitServer.Persistence.Database

/-!
# Rows that admission leaves behind

Observation starts from the rows a request was admitted with. This module has
the inserts of invoice creation, provider-v2 creation, Marketplace preparation
and activation; pricing, replay checks and outbox work precede them and do not
touch these tables. A receiving address has one owner across invoices and
settlements.
-/

namespace PaykitServer.Persistence

open Domain Relational

/-- What a creator asks to be paid for, once the derivation index is fixed. -/
structure NewPayment where
  creatorId : Uuid
  creatorLookupHash : LookupHash
  readerLookupHash : LookupHash
  derivationIndex : Int
  bitcoin : Option PaymentDestination
  usdt : Option PaymentDestination
deriving DecidableEq

namespace NewPayment

def record (new : NewPayment) : InvoicePaymentRecordV1 :=
  ⟨1, new.derivationIndex, new.bitcoin, new.usdt⟩

def addressHash (crypto : Crypto) (new : NewPayment) : Option LookupHash :=
  new.bitcoin.map fun destination => crypto.bitcoinAddressLookupHash destination.address

def invoiceRow (crypto : Crypto) (new : NewPayment) (id : Uuid)
    (createdAt deadline : OffsetDateTime) : InvoiceRow where
  id := id
  creatorId := new.creatorId
  creatorLookupHash := new.creatorLookupHash
  readerLookupHash := new.readerLookupHash
  payment := new.record
  bitcoinAddressLookupHash := new.addressHash crypto
  derivationIndexLookupHash :=
    crypto.bitcoinDerivationIndexLookupHash new.creatorLookupHash new.derivationIndex
  invoiceCreatedAt := createdAt
  paymentDeadline := deadline
  paymentStatus := .undetected
  confirmationCount := 0
  amountMatched := false
  firstAmountMatchedObservedAt := none
  firstAmountMatchedOutpointLookupHash := none
  paymentExpiredAt := none

def settlementRow (crypto : Crypto) (new : NewPayment) (preparation : Uuid) : SettlementRow where
  preparationId := preparation
  creatorId := new.creatorId
  creatorLookupHash := new.creatorLookupHash
  payment := new.record
  bitcoinAddressLookupHash := new.addressHash crypto
  derivationIndexLookupHash :=
    crypto.bitcoinDerivationIndexLookupHash new.creatorLookupHash new.derivationIndex
  paymentStatus := .undetected
  confirmationCount := 0
  amountMatched := false
  firstAmountMatchedObservedAt := none
  firstAmountMatchedOutpointLookupHash := none
  paymentExpiredAt := none

end NewPayment

def insertInvoice (crypto : Crypto) (db : Database) (new : NewPayment)
    (createdAt deadline : OffsetDateTime) : Except PersistenceError (Uuid × Database) := do
  let (id, db) := db.newUuid
  ensure (∀ row ∈ db.settlements.rows, row.bitcoinAddressLookupHash = none ∨
    row.bitcoinAddressLookupHash ≠ new.addressHash crypto) .conflict
  let invoices ← Table.write .conflict
    (db.invoices.rows ++ [new.invoiceRow crypto id createdAt deadline])
  return (id, { db with invoices := invoices })

theorem insertInvoice_ok {crypto : Crypto} {db db' : Database} {new : NewPayment} {id : Uuid}
    {createdAt deadline : OffsetDateTime}
    (done : insertInvoice crypto db new createdAt deadline = .ok (id, db')) :
    ∃ invoices nextUuid, db' = { db with invoices := invoices, nextUuid := nextUuid } ∧
      invoices.rows = db.invoices.rows ++ [new.invoiceRow crypto id createdAt deadline] := by
  unfold insertInvoice at done
  obtain ⟨_, _, invoices, written, done⟩ := bind₂_eq_ok.mp done
  cases done
  exact ⟨invoices, _, rfl, Table.write_eq_ok.mp written⟩

/-- The rows of a v1 invoice; its deadline is a whole number of seconds after
creation. -/
def createInvoice (crypto : Crypto) (db : Database) (new : NewPayment)
    (createdAt : OffsetDateTime) (paymentWindowSeconds : Nat) :
    Except PersistenceError Database := do
  let (_, db) ← insertInvoice crypto db new createdAt (createdAt + paymentWindowSeconds * 1000000)
  return db

/-- The rows of a provider-v2 invoice: Bitcoin only, with a caller-owned deadline
and a confirmation threshold. -/
def createProviderV2 (crypto : Crypto) (db : Database) (new : NewPayment)
    (bitcoin : PaymentDestination) (createdAt deadline : OffsetDateTime)
    (minimumConfirmations : Nat) : Except PersistenceError Database := do
  let (id, db) ← insertInvoice crypto db { new with bitcoin := some bitcoin, usdt := none }
    createdAt deadline
  let providers ← Table.write .conflict
    (db.providerV2.rows ++ [⟨id, deadline, minimumConfirmations⟩])
  return { db with providerV2 := providers }

def prepareSettlement (db : Database) (creatorId : Uuid) : Except PersistenceError Database := do
  let (id, db) := db.newUuid
  let preparations ← Table.write .conflict
    (db.preparations.rows ++ [⟨id, creatorId, .prepared, none, none⟩])
  return { db with preparations := preparations }

def activateSettlement (crypto : Crypto) (db : Database) (preparation : Uuid) (new : NewPayment)
    (now : OffsetDateTime) (paymentWindowSeconds : Nat) : Except PersistenceError Database := do
  let stored ← demand .corruptOrMissing
    (lookup (fun row : PreparationRow => some row.id) preparation db.preparations.rows)
  ensure (stored.state = .prepared ∧ stored.creatorId = new.creatorId) .corruptOrMissing
  ensure (∀ row ∈ db.invoices.rows, row.bitcoinAddressLookupHash = none ∨
    row.bitcoinAddressLookupHash ≠ new.addressHash crypto) .conflict
  let preparations ← Table.write .unavailable
    (updateWhere (fun row => row.id = preparation)
      (fun row => { row with
        state := .active
        activatedAt := some now
        paymentDeadline := some (now + paymentWindowSeconds * 1000000) })
      db.preparations.rows)
  let settlements ← Table.write .conflict
    (db.settlements.rows ++ [new.settlementRow crypto preparation])
  return { db with preparations := preparations, settlements := settlements }

end PaykitServer.Persistence
