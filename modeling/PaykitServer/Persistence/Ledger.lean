import PaykitServer.Application.SemanticIntent

/-!
# The ledger of requests

`Database` has the columns that payment observation reads and writes. The
`Store` adds everything that admission, delivery, draining and account rotation
work on: creators with their credentials and child-index counter, the admission
columns of invoices, the lifecycle of Marketplace preparations, the outbox, the
projected SDK lifecycles, drains and rotations, and the database clock.

`marketplace_payment_preparations` is one table seen from two sides. Its rows
are `Preparation`s here; the columns that settlement joins on are kept in
`Database.preparations` and written by the same statement, `writePreparations`.
-/

namespace PaykitServer.Persistence

open Domain Application Relational

/-- An account extended public key with its BIP84 account index. -/
structure BitcoinAccount where
  xpub : String
  accountIndex : Nat
deriving DecidableEq

structure PaykitIdentitySecretKey where
  secret : BitVec 256
  keyGeneration : Nat
deriving DecidableEq

structure CreatorCredentials where
  creator : String
  sessionSecret : String
  paykitIdentitySecret : PaykitIdentitySecretKey
  bitcoinAccount : Option BitcoinAccount
  usdtAddress : Option String
deriving DecidableEq

/-- A row of `creators`. -/
structure CreatorRow where
  id : Uuid
  creatorLookupHash : LookupHash
  credentials : CreatorCredentials
  nextChildIndex : Int
  bitcoinAccountGeneration : Int
deriving DecidableEq

def CreatorConstraints (rows : List CreatorRow) : Prop :=
  UniqueIndex (fun row => some row.id) rows ∧
    UniqueIndex (fun row => some row.creatorLookupHash) rows ∧
    ∀ row ∈ rows, 0 ≤ row.bitcoinAccountGeneration

instance : DecidablePred CreatorConstraints := fun rows =>
  inferInstanceAs (Decidable (_ ∧ _ ∧ ∀ row ∈ rows, _))

/-- A row of `reader_assignments`; the envelope seals the child index. -/
structure AssignmentRow where
  id : Uuid
  creatorId : Uuid
  readerLookupHash : LookupHash
  bundleLookupHash : LookupHash
  childIndex : Int
deriving DecidableEq

def AssignmentConstraints (rows : List AssignmentRow) : Prop :=
  UniqueIndex (fun row => some row.id) rows ∧
    UniqueIndex (fun row => some (row.creatorId, row.readerLookupHash, row.bundleLookupHash)) rows

instance : DecidablePred AssignmentConstraints := fun _ => inferInstanceAs (Decidable (_ ∧ _))

/-- A row of `lock_payment_generations`. -/
structure LockGenerationRow where
  creatorId : Uuid
  lockResourceLookupHash : LookupHash
  currentGeneration : Int
  activeDrainId : Option Uuid
  lastCleanupToken : Option LookupHash
deriving DecidableEq

def LockGenerationConstraints (rows : List LockGenerationRow) : Prop :=
  UniqueIndex (fun row => some (row.creatorId, row.lockResourceLookupHash)) rows ∧
    UniqueIndex LockGenerationRow.activeDrainId rows ∧ ∀ row ∈ rows, 0 ≤ row.currentGeneration

instance : DecidablePred LockGenerationConstraints := fun rows =>
  inferInstanceAs (Decidable (_ ∧ _ ∧ ∀ row ∈ rows, _))

/-- The immutable provider-v2 binding of an invoice, as admission writes it. -/
structure ProviderV2Binding where
  requestHash : LookupHash
  deadline : OffsetDateTime
  minimumConfirmations : Nat
  proposalExpiresAt : OffsetDateTime
deriving DecidableEq

/-- The columns of `invoices` that admission fixes, with the provider-v2 binding. -/
structure AdmissionRow where
  id : Uuid
  creatorId : Uuid
  readerLookupHash : LookupHash
  bundleLookupHash : LookupHash
  lockResourceLookupHash : LookupHash
  lockResourceGeneration : Int
  paymentRequestLookupHash : LookupHash
  intent : DeliveryIntentV1
  payment : InvoicePaymentRecordV1
  bitcoinAddressLookupHash : Option LookupHash
  derivationIndexLookupHash : LookupHash
  invoiceCreatedAt : OffsetDateTime
  proposalExpiresAt : OffsetDateTime
  paymentDeadline : OffsetDateTime
  bitcoinAccountGeneration : Option Int
  providerV2 : Option ProviderV2Binding
deriving DecidableEq

def AdmissionConstraints (rows : List AdmissionRow) : Prop :=
  UniqueIndex (fun row => some row.id) rows ∧
    UniqueIndex (fun row => some (row.creatorId, row.bundleLookupHash)) rows ∧
    UniqueIndex (fun row => some (row.creatorId, row.derivationIndexLookupHash)) rows ∧
    UniqueIndex (fun row => some row.paymentRequestLookupHash) rows ∧
    UniqueIndex (fun row => row.providerV2.map (·.requestHash)) rows ∧
    ∀ row ∈ rows, row.proposalExpiresAt < row.paymentDeadline

instance : DecidablePred AdmissionConstraints := fun rows =>
  inferInstanceAs (Decidable (_ ∧ _ ∧ _ ∧ _ ∧ _ ∧ ∀ row ∈ rows, _))

structure PreparationEnvelope where
  version : Nat
  operationId : String
  requestBinding : List UInt8
  reader : String
  reference : String
  terms : MarketplaceTerms
  paymentWindowSeconds : Nat
  prepareTtlSeconds : Nat
  preparedAt : OffsetDateTime
  prepareExpiresAt : OffsetDateTime
  childIndex : Int
  paymentRequestIntent : DeliveryIntentV1
deriving DecidableEq

inductive MarketplaceResolutionOutcome where
  | paidManually
  | refunded
  | abandoned
deriving DecidableEq, Repr

/-- A row of `marketplace_payment_preparations`. -/
structure Preparation where
  id : Uuid
  creatorId : Uuid
  operationLookupHash : LookupHash
  requestLookupHash : LookupHash
  readerLookupHash : LookupHash
  envelope : PreparationEnvelope
  preparedAt : OffsetDateTime
  prepareExpiresAt : OffsetDateTime
  bitcoinAccountGeneration : Option Int
  state : PreparationState
  activatedAt : Option OffsetDateTime
  paymentDeadline : Option OffsetDateTime
  voidedAt : Option OffsetDateTime
  businessOutcome : Option MarketplaceResolutionOutcome
  resolvedAt : Option OffsetDateTime
deriving DecidableEq

def Preparation.columns (row : Preparation) : PreparationRow :=
  ⟨row.id, row.creatorId, row.state, row.activatedAt, row.paymentDeadline⟩

def Preparation.Checks (row : Preparation) : Prop :=
  row.preparedAt < row.prepareExpiresAt ∧ row.columns.Checks ∧
    (row.voidedAt.isSome ↔ row.state = .voided) ∧
    row.businessOutcome.isSome = row.resolvedAt.isSome

instance (row : Preparation) : Decidable row.Checks :=
  inferInstanceAs (Decidable (_ ∧ _ ∧ _ ∧ _))

def PreparationTableConstraints (rows : List Preparation) : Prop :=
  UniqueIndex (fun row => some row.id) rows ∧
    UniqueIndex (fun row => some (row.creatorId, row.operationLookupHash)) rows ∧
    ∀ row ∈ rows, row.Checks

instance : DecidablePred PreparationTableConstraints := fun rows =>
  inferInstanceAs (Decidable (_ ∧ _ ∧ ∀ row ∈ rows, _))

inductive IntentKind where
  | endpointPublication
  | paymentRequestProposal
  | paymentRequestCancellation
deriving DecidableEq, Repr

inductive OutboxStatus where
  | queued
  | leased
  | retryable
  | handedOff
  | delivered
  | permanentlyFailed
deriving DecidableEq, Repr

inductive OutboxRetryClass where
  | adapterUnavailable
  | registryFetch
  | registryMissing
  | registryIncapable
  | readerAuthorizationFetch
  | readerAuthorizationMissing
  | readerAuthorizationInvalid
  | linkEstablishment
  | linkDependency
  | linkPending
  | paymentRequestProposal
  | paymentRequestCancellation
  | reconciliationPending
  | reconciliation
deriving DecidableEq, Repr

inductive ErrorClass where
  | retry (stage : OutboxRetryClass)
  | permanent
  | proposalExpired
  | cancellationObsolete
  | bitcoinAccountRotated
  | permanentSdkReconciliation
deriving DecidableEq, Repr

/-- A row of `outbox`. -/
structure OutboxRow where
  id : Uuid
  creatorId : Uuid
  invoiceId : Option Uuid
  marketplacePreparationId : Option Uuid
  intent : DeliveryIntentV1
  intentKind : IntentKind
  cancellationTarget : Option String
  cancellationDrainRequired : Bool
  proposalLookupHash : Option LookupHash
  status : OutboxStatus
  leaseOwner : Option Uuid
  claimToken : Option Uuid
  leaseExpiresAt : Option OffsetDateTime
  attemptCount : Nat
  failureCount : Nat
  nextAttemptAt : OffsetDateTime
  errorClass : Option ErrorClass
  sdkOutboundMessageId : Option Nat
  sdkEventId : Option String
  sdkPaymentRequestId : Option String
deriving DecidableEq

/-- The row checks of `outbox`. -/
def OutboxRow.Checks (row : OutboxRow) : Prop :=
  (row.status = .handedOff ∨ row.status = .delivered → row.sdkOutboundMessageId.isSome) ∧
    row.sdkEventId.isSome = row.sdkPaymentRequestId.isSome ∧
    (row.intentKind = .endpointPublication → row.sdkEventId = none) ∧
    (row.cancellationTarget.isSome ↔ row.intentKind = .paymentRequestCancellation) ∧
    (row.intentKind = .paymentRequestProposal → row.proposalLookupHash.isSome) ∧
    (row.intentKind = .paymentRequestCancellation → row.proposalLookupHash = none) ∧
    (row.cancellationDrainRequired = true → row.intentKind = .paymentRequestCancellation) ∧
    (row.invoiceId = none ∨ row.marketplacePreparationId = none)

instance (row : OutboxRow) : Decidable row.Checks :=
  inferInstanceAs (Decidable ((_ → _) ∧ _ ∧ (_ → _) ∧ _ ∧ (_ → _) ∧ (_ → _) ∧ (_ → _) ∧ _))

/-- The key of the partial unique index on Marketplace proposals. -/
def OutboxRow.marketplaceProposal (row : OutboxRow) : Option Uuid :=
  if row.intentKind = .paymentRequestProposal then row.marketplacePreparationId else none

/-- The key of the unique index on the cancellations of an invoice. -/
def OutboxRow.invoiceCancellation (row : OutboxRow) : Option (Uuid × String) :=
  if row.intentKind = .paymentRequestCancellation then
    row.invoiceId.bind fun invoice => row.cancellationTarget.map (invoice, ·)
  else none

/-- The key of the partial unique index on Marketplace cancellations. -/
def OutboxRow.marketplaceCancellation (row : OutboxRow) : Option (Uuid × String) :=
  if row.intentKind = .paymentRequestCancellation then
    row.marketplacePreparationId.bind fun preparation =>
      row.cancellationTarget.map (preparation, ·)
  else none

def OutboxConstraints (rows : List OutboxRow) : Prop :=
  UniqueIndex (fun row => some row.id) rows ∧
    UniqueIndex OutboxRow.marketplaceProposal rows ∧
    UniqueIndex OutboxRow.invoiceCancellation rows ∧
    UniqueIndex OutboxRow.marketplaceCancellation rows ∧ ∀ row ∈ rows, row.Checks

instance : DecidablePred OutboxConstraints := fun rows =>
  inferInstanceAs (Decidable (_ ∧ _ ∧ _ ∧ _ ∧ ∀ row ∈ rows, _))

inductive PaymentRequestLifecycleState where
  | proposed
  | proposalExpired
  | accepted
  | rejected
  | canceled
  | proofSubmitted
  | activeRecurring
  | recoveryRequired
  | invalidConflict
deriving DecidableEq, Repr

/-- A row of `payment_request_lifecycles`. -/
structure LifecycleRow where
  sdkPaymentRequestId : String
  invoiceId : Option Uuid
  marketplacePreparationId : Option Uuid
  requestState : PaymentRequestLifecycleState
  stateEventId : Option String
  lastStreamItemId : Option Nat
  lastOutboundMessageId : Option Nat
  lastEventAt : OffsetDateTime
deriving DecidableEq

def LifecycleRow.Checks (row : LifecycleRow) : Prop :=
  row.sdkPaymentRequestId ≠ "" ∧ row.stateEventId ≠ some "" ∧
    (row.lastStreamItemId.isSome ∨ row.lastOutboundMessageId.isSome) ∧
    row.invoiceId.isSome ≠ row.marketplacePreparationId.isSome

instance (row : LifecycleRow) : Decidable row.Checks :=
  inferInstanceAs (Decidable (_ ∧ _ ∧ _ ∧ _))

def LifecycleConstraints (rows : List LifecycleRow) : Prop :=
  UniqueIndex (fun row => some row.sdkPaymentRequestId) rows ∧ ∀ row ∈ rows, row.Checks

instance : DecidablePred LifecycleConstraints := fun rows =>
  inferInstanceAs (Decidable (_ ∧ ∀ row ∈ rows, _))

inductive DrainClassification where
  | accepted
  | rejected
  | canceled
  | proposalExpired
  | cancellationEnqueued
deriving DecidableEq, Repr

/-- A row of `payment_drain_items`. -/
structure DrainItem where
  invoiceId : Uuid
  classification : DrainClassification
deriving DecidableEq

/-- A row of `payment_drain_cancellations`. -/
structure DrainCancellation where
  invoiceId : Uuid
  sdkPaymentRequestId : String
  cancellationOutboxId : Uuid
deriving DecidableEq

/-- A row of `payment_drains` with its items and cancellations, which are deleted
with it. The frozen set hashes are represented by the sets. -/
structure DrainRow where
  id : Uuid
  creatorId : Uuid
  lockResourceLookupHash : LookupHash
  lockResourceGeneration : Int
  lockResource : String
  acceptedCount : Nat
  terminalCount : Nat
  completed : Bool
  createdAt : OffsetDateTime
  items : List DrainItem
  cancellations : List DrainCancellation
deriving DecidableEq

def DrainConstraints (rows : List DrainRow) : Prop :=
  UniqueIndex (fun row => some row.id) rows ∧
    UniqueIndex (fun row => some (row.creatorId, row.lockResourceLookupHash)) rows

instance : DecidablePred DrainConstraints := fun _ => inferInstanceAs (Decidable (_ ∧ _))

inductive RotationClassification where
  | accepted
  | terminal
  | proposalSuppressed
  | cancellationPending
  | preparationVoided
deriving DecidableEq, Repr

/-- A row of `creator_bitcoin_account_rotation_items`. -/
structure RotationItem where
  rotationId : Uuid
  invoiceId : Option Uuid
  marketplacePreparationId : Option Uuid
  sdkPaymentRequestId : Option String
  classification : RotationClassification
  cancellationOutboxId : Option Uuid
deriving DecidableEq

/-- A row of `creator_bitcoin_account_rotations`. -/
structure RotationRow where
  id : Uuid
  creatorId : Uuid
  fromGeneration : Int
  toGeneration : Int
  cancellationCount : Nat
  voidedPreparationCount : Nat
deriving DecidableEq

def RotationConstraints (rows : List RotationRow) : Prop :=
  UniqueIndex (fun row => some row.id) rows ∧
    UniqueIndex (fun row => some (row.creatorId, row.toGeneration)) rows

instance : DecidablePred RotationConstraints := fun _ => inferInstanceAs (Decidable (_ ∧ _))

/-- Everything the server stores, and the database clock. -/
structure Store where
  db : Database
  creators : Table CreatorRow CreatorConstraints
  assignments : Table AssignmentRow AssignmentConstraints
  lockGenerations : Table LockGenerationRow LockGenerationConstraints
  admissions : Table AdmissionRow AdmissionConstraints
  preparations : Table Preparation PreparationTableConstraints
  outbox : Table OutboxRow OutboxConstraints
  lifecycles : Table LifecycleRow LifecycleConstraints
  drains : Table DrainRow DrainConstraints
  rotations : Table RotationRow RotationConstraints
  rotationItems : List RotationItem
  clock : OffsetDateTime

namespace Store

/-- A freshly migrated store whose clock shows the given time. -/
def empty (clock : OffsetDateTime) : Store where
  db := .empty
  creators := ⟨[], by decide⟩
  assignments := ⟨[], by decide⟩
  lockGenerations := ⟨[], by decide⟩
  admissions := ⟨[], by decide⟩
  preparations := ⟨[], by decide⟩
  outbox := ⟨[], by decide⟩
  lifecycles := ⟨[], by decide⟩
  drains := ⟨[], by decide⟩
  rotations := ⟨[], by decide⟩
  rotationItems := []
  clock := clock

def newUuid (store : Store) : Uuid × Store :=
  (store.db.newUuid.1, { store with db := store.db.newUuid.2 })

def creatorByHash (store : Store) (hash : LookupHash) : Option CreatorRow :=
  lookup (fun row => some row.creatorLookupHash) hash store.creators.rows

def preparation (store : Store) (id : Uuid) : Option Preparation :=
  lookup (fun row => some row.id) id store.preparations.rows

def admission (store : Store) (id : Uuid) : Option AdmissionRow :=
  lookup (fun row => some row.id) id store.admissions.rows

def outboxRow (store : Store) (id : Uuid) : Option OutboxRow :=
  lookup (fun row => some row.id) id store.outbox.rows

def lockGeneration (store : Store) (creatorId : Uuid) (lockHash : LookupHash) :
    Option LockGenerationRow :=
  lookup (fun row => some (row.creatorId, row.lockResourceLookupHash)) (creatorId, lockHash)
    store.lockGenerations.rows

theorem preparation_id {store : Store} {id : Uuid} {row : Preparation}
    (found : store.preparation id = some row) : row.id = id := by
  have key := lookup_key found
  exact Option.some.inj key

/-- Write the rows of `marketplace_payment_preparations`, with the columns that
settlement joins on. -/
def writePreparations (store : Store) (e : PersistenceError) (rows : List Preparation) :
    Except PersistenceError Store := do
  let preparations ← Table.write e rows
  let columns ← Table.write e (rows.map Preparation.columns)
  return { store with
    preparations := preparations
    db := { store.db with preparations := columns } }

theorem writePreparations_ok {store store' : Store} {e : PersistenceError} {rows : List Preparation}
    (done : store.writePreparations e rows = .ok store') :
    ∃ preparations columns,
      store' = { store with
        preparations := preparations
        db := { store.db with preparations := columns } } ∧
      preparations.rows = rows ∧ columns.rows = preparations.rows.map Preparation.columns := by
  obtain ⟨preparations, written, columns, projected, done⟩ := bind₂_eq_ok.mp done
  cases done
  refine ⟨preparations, columns, rfl, Table.write_eq_ok.mp written, ?_⟩
  rw [Table.write_eq_ok.mp projected, Table.write_eq_ok.mp written]

end Store

end PaykitServer.Persistence

namespace PaykitServer.Sample

/-- An SDK for concrete runs that accepts every value and prices one to one. -/
def sdk : Application.Sdk where
  parsesReader _ := true
  acceptsRequestId _ := true
  acceptsTerms _ := true
  deadlineAt := some
  paymentUnits amount _ _ _ := some amount

end PaykitServer.Sample
