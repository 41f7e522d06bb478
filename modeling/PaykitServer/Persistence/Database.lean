import PaykitServer.Bitcoin
import PaykitServer.Crypto
import PaykitServer.Relational.Table

/-!
# The stored state

One record holds the tables that settlement reads and writes, with the keys,
unique indexes and row checks the migrations declare. A column that holds an
authenticated envelope is represented by the record sealed in it, bound to its
row; version numbers and keyed hashes that the code compares after opening an
envelope are kept. `nextUuid` stands for the random source of `Uuid::new_v4`.
-/

namespace PaykitServer.Persistence

open Domain Bitcoin Relational

inductive PersistenceError where
  | deploymentMismatch
  | corruptOrMissing
  | reauthenticationMismatch
  | unavailable
  | conflict
  | invalidInput
  | deadlineElapsed
deriving DecidableEq, Repr

/-- One quoted payment option of an invoice. -/
structure PaymentDestination where
  address : String
  requiredAmount : Nat
deriving DecidableEq

structure InvoicePaymentRecordV1 where
  version : Nat
  derivationIndex : Int
  bitcoin : Option PaymentDestination
  usdt : Option PaymentDestination
deriving DecidableEq

/-- A row of `invoices`. -/
structure InvoiceRow where
  id : Uuid
  creatorId : Uuid
  creatorLookupHash : LookupHash
  readerLookupHash : LookupHash
  payment : InvoicePaymentRecordV1
  bitcoinAddressLookupHash : Option LookupHash
  derivationIndexLookupHash : LookupHash
  invoiceCreatedAt : OffsetDateTime
  paymentDeadline : OffsetDateTime
  paymentStatus : PaymentStatus
  confirmationCount : Int
  amountMatched : Bool
  firstAmountMatchedObservedAt : Option OffsetDateTime
  firstAmountMatchedOutpointLookupHash : Option LookupHash
  paymentExpiredAt : Option OffsetDateTime
deriving DecidableEq

/-- The row checks of `invoices` that concern observation. -/
def InvoiceRow.Checks (row : InvoiceRow) : Prop :=
  row.invoiceCreatedAt < row.paymentDeadline ∧
    (∀ first ∈ row.firstAmountMatchedObservedAt, row.invoiceCreatedAt ≤ first) ∧
    (∀ expired ∈ row.paymentExpiredAt, row.paymentDeadline ≤ expired)

instance (row : InvoiceRow) : Decidable row.Checks :=
  inferInstanceAs (Decidable (_ ∧ _ ∧ _))

def InvoiceConstraints (rows : List InvoiceRow) : Prop :=
  UniqueIndex (fun row => some row.id) rows ∧
    UniqueIndex InvoiceRow.bitcoinAddressLookupHash rows ∧ ∀ row ∈ rows, row.Checks

instance : DecidablePred InvoiceConstraints := fun rows =>
  inferInstanceAs (Decidable (_ ∧ _ ∧ ∀ row ∈ rows, _))

/-- A row of `invoice_provider_v2`: the immutable provider-v2 binding. -/
structure ProviderV2Row where
  invoiceId : Uuid
  deadline : OffsetDateTime
  minimumConfirmations : Nat
deriving DecidableEq

def ProviderV2Constraints (rows : List ProviderV2Row) : Prop :=
  UniqueIndex (fun row => some row.invoiceId) rows ∧ ∀ row ∈ rows, row.minimumConfirmations ≤ 6

instance : DecidablePred ProviderV2Constraints := fun rows =>
  inferInstanceAs (Decidable (_ ∧ ∀ row ∈ rows, _))

/-- A row of `invoice_provider_v2_current_sample`. -/
structure CurrentSampleRow where
  invoiceId : Uuid
  observationId : Option Uuid
  observedAt : OffsetDateTime
  status : PaymentStatus
  confirmations : Nat
  amountMatched : Bool
deriving DecidableEq

/-- The shape check shared by stored provider-v2 samples. -/
def CurrentSampleRow.Checks (row : CurrentSampleRow) : Prop :=
  row.confirmations ≤ 6 ∧
    match row.status with
    | .undetected =>
      row.observationId = none ∧ row.confirmations = 0 ∧ row.amountMatched = false
    | .detected => row.observationId.isSome = true ∧ row.confirmations = 0
    | .confirmed => row.observationId.isSome = true ∧ 0 < row.confirmations

instance (row : CurrentSampleRow) : Decidable row.Checks :=
  match row with
  | ⟨_, _, _, .undetected, _, _⟩ => inferInstanceAs (Decidable (_ ∧ _ ∧ _ ∧ _))
  | ⟨_, _, _, .detected, _, _⟩ => inferInstanceAs (Decidable (_ ∧ _ ∧ _))
  | ⟨_, _, _, .confirmed, _, _⟩ => inferInstanceAs (Decidable (_ ∧ _ ∧ _))

def CurrentSampleConstraints (rows : List CurrentSampleRow) : Prop :=
  UniqueIndex (fun row => some row.invoiceId) rows ∧ ∀ row ∈ rows, row.Checks

instance : DecidablePred CurrentSampleConstraints := fun rows =>
  inferInstanceAs (Decidable (_ ∧ ∀ row ∈ rows, _))

/-- A row of `invoice_provider_v2_first_threshold_evidence`. The table rejects
every update, and a delete while the binding exists. -/
structure ThresholdEvidenceRow where
  invoiceId : Uuid
  observationId : Uuid
  observedAt : OffsetDateTime
  status : PaymentStatus
  confirmations : Nat
  amountMatched : Bool
deriving DecidableEq

def ThresholdEvidenceRow.Checks (row : ThresholdEvidenceRow) : Prop :=
  row.confirmations ≤ 6 ∧ row.amountMatched = true ∧
    ((row.status = .detected ∧ row.confirmations = 0) ∨
      (row.status = .confirmed ∧ 0 < row.confirmations))

instance (row : ThresholdEvidenceRow) : Decidable row.Checks :=
  inferInstanceAs (Decidable (_ ∧ _ ∧ _))

def ThresholdEvidenceConstraints (rows : List ThresholdEvidenceRow) : Prop :=
  UniqueIndex (fun row => some row.invoiceId) rows ∧ ∀ row ∈ rows, row.Checks

instance : DecidablePred ThresholdEvidenceConstraints := fun rows =>
  inferInstanceAs (Decidable (_ ∧ ∀ row ∈ rows, _))

/-- The observation facts sealed in an observation envelope. The outpoint is
stored as its canonical text, which spells exactly one outpoint. -/
structure BitcoinObservationV1 where
  version : Nat
  outpoint : BitcoinOutpoint
  observedSats : Nat
deriving DecidableEq

/-- A row of `bitcoin_observations`. -/
structure BitcoinObservationRow where
  id : Uuid
  invoiceId : Option Uuid
  marketplacePreparationId : Option Uuid
  observation : BitcoinObservationV1
  outpointLookupHash : LookupHash
  confirmations : Int
  present : Bool
  active : Bool
  firstObservedAt : OffsetDateTime
deriving DecidableEq

def BitcoinObservationRow.Checks (row : BitcoinObservationRow) : Prop :=
  0 ≤ row.confirmations ∧ row.invoiceId.isSome ≠ row.marketplacePreparationId.isSome

instance (row : BitcoinObservationRow) : Decidable row.Checks :=
  inferInstanceAs (Decidable (_ ∧ _))

/-- The key of the partial unique index on active invoice observations. -/
def BitcoinObservationRow.activeInvoice (row : BitcoinObservationRow) : Option Uuid :=
  if row.active then row.invoiceId else none

/-- The key of the partial unique index on active settlement observations. -/
def BitcoinObservationRow.activePreparation (row : BitcoinObservationRow) : Option Uuid :=
  if row.active then row.marketplacePreparationId else none

def BitcoinObservationConstraints (rows : List BitcoinObservationRow) : Prop :=
  UniqueIndex (fun row => some row.id) rows ∧
    UniqueIndex (fun row => some row.outpointLookupHash) rows ∧
    UniqueIndex BitcoinObservationRow.activeInvoice rows ∧
    UniqueIndex BitcoinObservationRow.activePreparation rows ∧ ∀ row ∈ rows, row.Checks

instance : DecidablePred BitcoinObservationConstraints := fun rows =>
  inferInstanceAs (Decidable (_ ∧ _ ∧ _ ∧ _ ∧ ∀ row ∈ rows, _))

/-- Facts of one verified ERC-20 receipt. -/
structure TransferFacts where
  identity : String
  amount : Nat
  timestamp : OffsetDateTime
deriving DecidableEq

/-- A row of `usdt_observations`. The attested sender follows the facts in the
envelope; rows written before it was recorded have none. -/
structure UsdtObservationRow where
  id : Uuid
  invoiceId : Option Uuid
  marketplacePreparationId : Option Uuid
  transferLookupHash : LookupHash
  facts : TransferFacts
  sender : Option (BitVec 160)
  confirmations : Int
  present : Bool
  finalized : Bool
  checkedAt : OffsetDateTime
deriving DecidableEq

def UsdtObservationRow.Checks (row : UsdtObservationRow) : Prop :=
  0 ≤ row.confirmations ∧ row.invoiceId.isSome ≠ row.marketplacePreparationId.isSome

instance (row : UsdtObservationRow) : Decidable row.Checks :=
  inferInstanceAs (Decidable (_ ∧ _))

def UsdtObservationConstraints (rows : List UsdtObservationRow) : Prop :=
  UniqueIndex (fun row => some row.id) rows ∧
    UniqueIndex (fun row => some row.transferLookupHash) rows ∧ ∀ row ∈ rows, row.Checks

instance : DecidablePred UsdtObservationConstraints := fun rows =>
  inferInstanceAs (Decidable (_ ∧ _ ∧ ∀ row ∈ rows, _))

/-- A row of `buyer_contacts`. -/
structure BuyerContactRow where
  invoiceId : Uuid
  creatorId : Uuid
  readerLookupHash : LookupHash
deriving DecidableEq

def BuyerContactConstraints (rows : List BuyerContactRow) : Prop :=
  UniqueIndex (fun row => some row.invoiceId) rows ∧
    UniqueIndex (fun row => some (row.creatorId, row.readerLookupHash)) rows

instance : DecidablePred BuyerContactConstraints := fun _ =>
  inferInstanceAs (Decidable (_ ∧ _))

inductive PreparationState where
  | prepared
  | active
  | voided
deriving DecidableEq, Repr

/-- A row of `marketplace_payment_preparations`. -/
structure PreparationRow where
  id : Uuid
  creatorId : Uuid
  state : PreparationState
  activatedAt : Option OffsetDateTime
  paymentDeadline : Option OffsetDateTime
deriving DecidableEq

def PreparationRow.Checks (row : PreparationRow) : Prop :=
  match row.state with
  | .active => ∃ activated ∈ row.activatedAt, ∃ deadline ∈ row.paymentDeadline, activated < deadline
  | .prepared | .voided => row.activatedAt = none ∧ row.paymentDeadline = none

instance (row : PreparationRow) : Decidable row.Checks :=
  match row with
  | ⟨_, _, .active, some activated, some deadline⟩ =>
    decidable_of_iff (activated < deadline) (by simp [PreparationRow.Checks])
  | ⟨_, _, .active, none, _⟩ => .isFalse (by simp [PreparationRow.Checks])
  | ⟨_, _, .active, some _, none⟩ => .isFalse (by simp [PreparationRow.Checks])
  | ⟨_, _, .prepared, _, _⟩ => inferInstanceAs (Decidable (_ ∧ _))
  | ⟨_, _, .voided, _, _⟩ => inferInstanceAs (Decidable (_ ∧ _))

def PreparationConstraints (rows : List PreparationRow) : Prop :=
  UniqueIndex (fun row => some row.id) rows ∧ ∀ row ∈ rows, row.Checks

instance : DecidablePred PreparationConstraints := fun rows =>
  inferInstanceAs (Decidable (_ ∧ ∀ row ∈ rows, _))

/-- A row of `marketplace_settlements`. -/
structure SettlementRow where
  preparationId : Uuid
  creatorId : Uuid
  creatorLookupHash : LookupHash
  payment : InvoicePaymentRecordV1
  bitcoinAddressLookupHash : Option LookupHash
  derivationIndexLookupHash : LookupHash
  paymentStatus : PaymentStatus
  confirmationCount : Int
  amountMatched : Bool
  firstAmountMatchedObservedAt : Option OffsetDateTime
  firstAmountMatchedOutpointLookupHash : Option LookupHash
  paymentExpiredAt : Option OffsetDateTime
deriving DecidableEq

def SettlementRow.Checks (row : SettlementRow) : Prop :=
  0 ≤ row.confirmationCount ∧
    row.firstAmountMatchedObservedAt.isSome = row.firstAmountMatchedOutpointLookupHash.isSome

instance (row : SettlementRow) : Decidable row.Checks :=
  inferInstanceAs (Decidable (_ ∧ _))

def SettlementConstraints (rows : List SettlementRow) : Prop :=
  UniqueIndex (fun row => some row.preparationId) rows ∧
    UniqueIndex SettlementRow.bitcoinAddressLookupHash rows ∧ ∀ row ∈ rows, row.Checks

instance : DecidablePred SettlementConstraints := fun rows =>
  inferInstanceAs (Decidable (_ ∧ _ ∧ ∀ row ∈ rows, _))

/-- The tables that payment observation reads and writes. -/
structure Database where
  invoices : Table InvoiceRow InvoiceConstraints
  providerV2 : Table ProviderV2Row ProviderV2Constraints
  currentSamples : Table CurrentSampleRow CurrentSampleConstraints
  thresholdEvidence : Table ThresholdEvidenceRow ThresholdEvidenceConstraints
  bitcoinObservations : Table BitcoinObservationRow BitcoinObservationConstraints
  /-- `invoice_timely_amount_matched_outpoints` -/
  invoiceTimely : List (Uuid × LookupHash)
  usdtObservations : Table UsdtObservationRow UsdtObservationConstraints
  buyerContacts : Table BuyerContactRow BuyerContactConstraints
  preparations : Table PreparationRow PreparationConstraints
  settlements : Table SettlementRow SettlementConstraints
  /-- `marketplace_timely_amount_matched_outpoints` -/
  marketplaceTimely : List (Uuid × LookupHash)
  nextUuid : Uuid

namespace Database

def empty : Database where
  invoices := ⟨[], by decide⟩
  providerV2 := ⟨[], by decide⟩
  currentSamples := ⟨[], by decide⟩
  thresholdEvidence := ⟨[], by decide⟩
  bitcoinObservations := ⟨[], by decide⟩
  invoiceTimely := []
  usdtObservations := ⟨[], by decide⟩
  buyerContacts := ⟨[], by decide⟩
  preparations := ⟨[], by decide⟩
  settlements := ⟨[], by decide⟩
  marketplaceTimely := []
  nextUuid := 0

def invoice (db : Database) (id : Uuid) : Option InvoiceRow :=
  lookup (fun row => some row.id) id db.invoices.rows

def invoiceByAddress (db : Database) (addressHash : LookupHash) : Option InvoiceRow :=
  lookup InvoiceRow.bitcoinAddressLookupHash addressHash db.invoices.rows

def providerBinding (db : Database) (invoice : Uuid) : Option ProviderV2Row :=
  lookup (fun row => some row.invoiceId) invoice db.providerV2.rows

def observationByOutpoint (db : Database) (outpointHash : LookupHash) :
    Option BitcoinObservationRow :=
  lookup (fun row => some row.outpointLookupHash) outpointHash db.bitcoinObservations.rows

def observationById (db : Database) (id : Uuid) : Option BitcoinObservationRow :=
  lookup (fun row => some row.id) id db.bitcoinObservations.rows

def activeObservation (db : Database) (invoice : Uuid) : Option BitcoinObservationRow :=
  lookup BitcoinObservationRow.activeInvoice invoice db.bitcoinObservations.rows

def evidence (db : Database) (invoice : Uuid) : Option ThresholdEvidenceRow :=
  lookup (fun row => some row.invoiceId) invoice db.thresholdEvidence.rows

def usdtByTransfer (db : Database) (transferHash : LookupHash) : Option UsdtObservationRow :=
  lookup (fun row => some row.transferLookupHash) transferHash db.usdtObservations.rows

/-- The receipts owned by one invoice, in storage order. -/
def receipts (db : Database) (invoice : Uuid) : List UsdtObservationRow :=
  db.usdtObservations.rows.filter fun row => row.invoiceId = some invoice

/-- Whether an outpoint is recorded as amount-matched on time for an invoice. -/
def timely (db : Database) (invoice : Uuid) (outpointHash : LookupHash) : Bool :=
  db.invoiceTimely.contains (invoice, outpointHash)

def newUuid (db : Database) : Uuid × Database :=
  (db.nextUuid, { db with nextUuid := db.nextUuid + 1 })

/-- The identity of the row a statement writes: the stored one's, or a fresh one. -/
def identityFor (db : Database) (existing : Option Uuid) : Uuid × Database :=
  match existing with
  | some id => (id, db)
  | none => db.newUuid

theorem identityFor_eq (db : Database) (existing : Option Uuid) :
    (∀ id ∈ existing, (db.identityFor existing).1 = id) ∧
      ∃ next, (db.identityFor existing).2 = { db with nextUuid := next } ∧ db.nextUuid ≤ next := by
  cases existing with
  | none => exact ⟨by simp, db.nextUuid + 1, rfl, Nat.le_succ _⟩
  | some id => exact ⟨by simp [identityFor], db.nextUuid, rfl, Nat.le_refl _⟩

end Database

end PaykitServer.Persistence
