import PaykitServer.Persistence.Admission
import PaykitServer.Persistence.Ledger
import PaykitServer.Persistence.MarketplacePreparations

/-!
# The lifecycle of a Marketplace preparation

A preparation is quoted once, then activated or voided, and may be resolved with
a business outcome. Each operation is one transaction that locks the row it
decides about and reads the database clock after the lock. Repeating an operation
replays what is stored.
-/

namespace PaykitServer.Persistence

open Domain Application Relational

/-- A source of delivery intents for a child index. Payloads that quote a Bitcoin
address name the account generation it is derived from. -/
structure PayloadFactory where
  expectedBitcoinAccountGeneration : Option Int
  forChildIndex : Int → Except PersistenceError DeliveryIntentV1

def textHash (crypto : Crypto) (text : String) : LookupHash := crypto.lookupHash (utf8 text)

def proposalOutboxRow (id creatorId : Uuid) (invoiceId marketplacePreparationId : Option Uuid)
    (intent : DeliveryIntentV1) (proposalLookupHash : LookupHash) (now : OffsetDateTime) :
    OutboxRow where
  id := id
  creatorId := creatorId
  invoiceId := invoiceId
  marketplacePreparationId := marketplacePreparationId
  intent := intent
  intentKind := .paymentRequestProposal
  cancellationTarget := none
  cancellationDrainRequired := false
  proposalLookupHash := some proposalLookupHash
  status := .queued
  leaseOwner := none
  claimToken := none
  leaseExpiresAt := none
  attemptCount := 0
  failureCount := 0
  nextAttemptAt := now
  errorClass := none
  sdkOutboundMessageId := none
  sdkEventId := none
  sdkPaymentRequestId := none

namespace MarketplacePreparations

structure MarketplacePreparationInput where
  creator : String
  reader : String
  reference : String
  operationId : String
  requestBinding : List UInt8
  amount : Nat
  asset : CriterionAsset
  paymentWindowSeconds : Nat
  prepareTtlSeconds : Nat
  prepareDeadline : Option OffsetDateTime
  payloads : PayloadFactory

structure MarketplacePreparationResult where
  invoiceId : Uuid
  terms : MarketplaceTerms
  quote : MarketplaceQuote
  preparedAt : OffsetDateTime
  prepareExpiresAt : OffsetDateTime
  replayed : Bool
deriving DecidableEq

structure MarketplaceActivationInput where
  creator : String
  invoiceId : Uuid
  amount : Nat
  asset : CriterionAsset
  proposalAcceptanceSeconds : Nat

structure MarketplaceActivationResult where
  invoiceId : Uuid
  activatedAt : OffsetDateTime
  paymentDeadline : OffsetDateTime
  terms : MarketplaceTerms
  quote : MarketplaceQuote
  replayed : Bool
deriving DecidableEq

structure MarketplaceVoidResult where
  invoiceId : Uuid
  voidedAt : OffsetDateTime
  replayed : Bool
deriving DecidableEq

structure MarketplaceResolutionResult where
  invoiceId : Uuid
  outcome : MarketplaceResolutionOutcome
  resolvedAt : OffsetDateTime
  replayed : Bool
deriving DecidableEq

inductive LifecycleError where
  | persistence (error : PersistenceError)
  | totalMismatch
  | prepareExpired
  | lifecycleTerminal
  | invoiceActive
  | resolutionConflict
deriving DecidableEq, Repr

/-- A storage failure of a lifecycle operation. -/
def persist {α : Type} : Except PersistenceError α → Except LifecycleError α
  | .ok a => .ok a
  | .error e => .error (.persistence e)

@[simp] theorem persist_eq_ok {α : Type} {x : Except PersistenceError α} {a : α} :
    persist x = .ok a ↔ x = .ok a := by
  cases x <;> simp [persist]

def termsMatch (envelope : PreparationEnvelope) (amount : Nat) (asset : CriterionAsset) : Bool :=
  envelope.terms.amount = amount && envelope.terms.asset = asset

def envelopeQuote (sdk : Sdk) (envelope : PreparationEnvelope) :
    Except PersistenceError MarketplaceQuote :=
  orFail .corruptOrMissing
    (MarketplaceQuote.fromIntent sdk envelope.paymentRequestIntent envelope.terms)

/-- A stored lifetime is whole seconds and spans the two stored instants. -/
def lifetimeStored (envelope : PreparationEnvelope) (row : Preparation) : Prop :=
  envelope.prepareTtlSeconds < 2 ^ 63 ∧ envelope.preparedAt = row.preparedAt ∧
    envelope.prepareExpiresAt = row.prepareExpiresAt ∧
    OffsetDateTime.checkedAdd envelope.preparedAt (seconds envelope.prepareTtlSeconds) =
      some envelope.prepareExpiresAt

instance (envelope : PreparationEnvelope) (row : Preparation) :
    Decidable (lifetimeStored envelope row) :=
  inferInstanceAs (Decidable (_ ∧ _ ∧ _ ∧ _))

def validateReplay (crypto : Crypto) (sdk : Sdk) (input : MarketplacePreparationInput)
    (row : Preparation) : Except PersistenceError MarketplacePreparationResult := do
  let envelope := row.envelope
  ensure (row.operationLookupHash = textHash crypto input.operationId) .corruptOrMissing
  ensure (row.requestLookupHash = crypto.lookupHash input.requestBinding) .conflict
  ensure (row.readerLookupHash = textHash crypto input.reader) .corruptOrMissing
  ensure (envelope.version = 2 ∧ envelope.operationId = input.operationId ∧
    envelope.requestBinding = input.requestBinding ∧ envelope.reader = input.reader ∧
    envelope.reference = input.reference ∧ termsMatch envelope input.amount input.asset = true ∧
    envelope.paymentWindowSeconds = input.paymentWindowSeconds ∧ lifetimeStored envelope row ∧
    0 ≤ envelope.childIndex) .corruptOrMissing
  let quote ← validateIntent sdk envelope.paymentRequestIntent input.reader input.reference
    envelope.terms
  return ⟨row.id, envelope.terms, quote, row.preparedAt, row.prepareExpiresAt, true⟩

def preparationByOperation (store : Store) (creatorId : Uuid) (operationHash : LookupHash) :
    Option Preparation :=
  lookup (fun row => some (row.creatorId, row.operationLookupHash)) (creatorId, operationHash)
    store.preparations.rows

inductive MarketplacePreparationPreflight where
  | new
  | exactReplay
  | conflict
deriving DecidableEq, Repr

/-- Resolve a replay or a changed binding before mutable external work. -/
def preflight (crypto : Crypto) (store : Store) (creator operationId : String)
    (requestBinding : List UInt8) : Except PersistenceError MarketplacePreparationPreflight := do
  ensure (operationId ≠ "" ∧ requestBinding ≠ []) .invalidInput
  match (store.creatorByHash (textHash crypto creator)).bind fun row =>
      preparationByOperation store row.id (textHash crypto operationId) with
  | none => return .new
  | some stored =>
    if stored.requestLookupHash = crypto.lookupHash requestBinding then return .exactReplay
    else return .conflict

def newEnvelope (input : MarketplacePreparationInput) (terms : MarketplaceTerms)
    (preparedAt prepareExpiresAt : OffsetDateTime) (childIndex : Int)
    (intent : DeliveryIntentV1) : PreparationEnvelope where
  version := 2
  operationId := input.operationId
  requestBinding := input.requestBinding
  reader := input.reader
  reference := input.reference
  terms := terms
  paymentWindowSeconds := input.paymentWindowSeconds
  prepareTtlSeconds := input.prepareTtlSeconds
  preparedAt := preparedAt
  prepareExpiresAt := prepareExpiresAt
  childIndex := childIndex
  paymentRequestIntent := intent

def newPreparation (crypto : Crypto) (input : MarketplacePreparationInput) (id creatorId : Uuid)
    (envelope : PreparationEnvelope) (generation : Option Int) : Preparation where
  id := id
  creatorId := creatorId
  operationLookupHash := textHash crypto input.operationId
  requestLookupHash := crypto.lookupHash input.requestBinding
  readerLookupHash := textHash crypto input.reader
  envelope := envelope
  preparedAt := envelope.preparedAt
  prepareExpiresAt := envelope.prepareExpiresAt
  bitcoinAccountGeneration := generation
  state := .prepared
  activatedAt := none
  paymentDeadline := none
  voidedAt := none
  businessOutcome := none
  resolvedAt := none

def advanceChildIndex (store : Store) (creatorId : Uuid) : Except PersistenceError Store := do
  let creators ← Table.write .unavailable
    (updateWhere (fun row => row.id = creatorId)
      (fun row => { row with nextChildIndex := row.nextChildIndex + 1 }) store.creators.rows)
  return { store with creators := creators }

def insertPreparation (crypto : Crypto) (sdk : Sdk) (store : Store)
    (input : MarketplacePreparationInput) (creator : CreatorRow) :
    Except PersistenceError (MarketplacePreparationResult × Store) := do
  ensure (∀ expected ∈ input.payloads.expectedBitcoinAccountGeneration,
    expected = creator.bitcoinAccountGeneration) .conflict
  let prepareExpiresAt ← demand .invalidInput input.prepareDeadline
  ensure (store.clock < prepareExpiresAt) .deadlineElapsed
  let preparedAt ← demand .invalidInput
    (OffsetDateTime.checkedAdd prepareExpiresAt (-seconds input.prepareTtlSeconds))
  let intent ← input.payloads.forChildIndex creator.nextChildIndex
  let terms ← MarketplaceTerms.fromIntent sdk intent input.amount input.asset
  let quote ← validateIntent sdk intent input.reader input.reference terms
  let (id, store) := store.newUuid
  let envelope := newEnvelope input terms preparedAt prepareExpiresAt creator.nextChildIndex intent
  let row := newPreparation crypto input id creator.id envelope
    (input.payloads.expectedBitcoinAccountGeneration.map fun _ => creator.bitcoinAccountGeneration)
  -- A violated operation index is a conflict, any other violation is corruption.
  ensure (preparationByOperation store creator.id row.operationLookupHash = none) .conflict
  let store ← store.writePreparations .corruptOrMissing (store.preparations.rows ++ [row])
  let store ← advanceChildIndex store creator.id
  return (⟨id, terms, quote, preparedAt, prepareExpiresAt, false⟩, store)

/-- Create or exactly replay one creator-scoped Marketplace operation. -/
def prepare (crypto : Crypto) (sdk : Sdk) (store : Store) (input : MarketplacePreparationInput) :
    Except PersistenceError (MarketplacePreparationResult × Store) := do
  ensure (input.operationId ≠ "" ∧ input.requestBinding ≠ [] ∧ input.paymentWindowSeconds ≠ 0 ∧
    input.prepareTtlSeconds ≠ 0 ∧ input.prepareTtlSeconds < 2 ^ 63) .invalidInput
  let creator ← demand .corruptOrMissing (store.creatorByHash (textHash crypto input.creator))
  ensure (0 ≤ creator.nextChildIndex) .corruptOrMissing
  match preparationByOperation store creator.id (textHash crypto input.operationId) with
  | some row => do
    let result ← validateReplay crypto sdk input row
    return (result, store)
  | none => insertPreparation crypto sdk store input creator

def loadLifecycleLocked (crypto : Crypto) (store : Store) (creator : String) (invoiceId : Uuid) :
    Option (CreatorRow × Preparation) :=
  match store.creatorByHash (textHash crypto creator), store.preparation invoiceId with
  | some creator, some row => if row.creatorId = creator.id then some (creator, row) else none
  | _, _ => none

def decodeLifecycleEnvelope (sdk : Sdk) (row : Preparation) :
    Except PersistenceError PreparationEnvelope := do
  let envelope := row.envelope
  ensure ((envelope.version = 1 ∨ envelope.version = 2) ∧ lifetimeStored envelope row ∧
    envelope.paymentWindowSeconds ≠ 0 ∧ sdk.parsesReader envelope.reader = true) .corruptOrMissing
  let _ ← orFail .corruptOrMissing (validateIntent sdk envelope.paymentRequestIntent
    envelope.reader envelope.reference envelope.terms)
  return envelope

def settlementAddressHash (crypto : Crypto) (payment : InvoicePaymentRecordV1) :
    Option LookupHash :=
  payment.bitcoin.map fun destination => crypto.bitcoinAddressLookupHash destination.address

/-- The stored settlement of an active row must be the one its intent offers. -/
def validateSettlement (crypto : Crypto) (sdk : Sdk) (store : Store) (creator : CreatorRow)
    (row : Preparation) : Except PersistenceError Unit := do
  let stored ← demand .corruptOrMissing
    ((settlement store.db row.id).filter (·.creatorId = row.creatorId))
  let expected ← orFail .corruptOrMissing
    (fromIntent sdk row.envelope.childIndex row.envelope.paymentRequestIntent)
  ensure (stored.payment = expected ∧
    stored.bitcoinAddressLookupHash = settlementAddressHash crypto expected ∧
    stored.derivationIndexLookupHash = crypto.bitcoinDerivationIndexLookupHash
      creator.creatorLookupHash expected.derivationIndex) .corruptOrMissing

def proposalCount (store : Store) (row : Preparation) : Nat :=
  (store.outbox.rows.filter fun outbox =>
    outbox.marketplaceProposal = some row.id ∧ outbox.creatorId = row.creatorId).length

def replayActivation (crypto : Crypto) (sdk : Sdk) (store : Store)
    (input : MarketplaceActivationInput) (creator : CreatorRow) (row : Preparation)
    (envelope : PreparationEnvelope) : Except LifecycleError MarketplaceActivationResult := do
  ensure (termsMatch envelope input.amount input.asset = true) .totalMismatch
  let activatedAt ← demand (.persistence .corruptOrMissing) row.activatedAt
  let paymentDeadline ← demand (.persistence .corruptOrMissing) row.paymentDeadline
  ensure (proposalCount store row = 1) (.persistence .corruptOrMissing)
  persist (validateSettlement crypto sdk store creator row)
  let quote ← persist (envelopeQuote sdk envelope)
  return ⟨row.id, activatedAt, paymentDeadline, envelope.terms, quote, true⟩

/-- Insert the settlement of an activated preparation; a receiving address has one
owner across invoices and settlements. -/
def insertSettlement (crypto : Crypto) (db : Database) (creator : CreatorRow)
    (row : Preparation) (payment : InvoicePaymentRecordV1) : Except PersistenceError Database := do
  let new : NewPayment := ⟨creator.id, creator.creatorLookupHash, row.readerLookupHash,
    payment.derivationIndex, payment.bitcoin, payment.usdt⟩
  ensure (∀ invoice ∈ db.invoices.rows, invoice.bitcoinAddressLookupHash = none ∨
    invoice.bitcoinAddressLookupHash ≠ new.addressHash crypto) .corruptOrMissing
  let settlements ← Table.write .corruptOrMissing
    (db.settlements.rows ++ [new.settlementRow crypto row.id])
  return { db with settlements := settlements }

/-- The two instants fixed at activation. A proposal may be accepted for at most
half of the payment window. -/
def activationTimes (now : OffsetDateTime) (paymentWindowSeconds proposalAcceptanceSeconds : Nat) :
    Except PersistenceError (OffsetDateTime × OffsetDateTime) := do
  ensure (paymentWindowSeconds < 2 ^ 63) .corruptOrMissing
  let paymentDeadline ← demand .invalidInput
    (OffsetDateTime.checkedAdd now (seconds paymentWindowSeconds))
  ensure (proposalAcceptanceSeconds < 2 ^ 63) .invalidInput
  let proposalDuration := min (seconds proposalAcceptanceSeconds) (seconds paymentWindowSeconds / 2)
  let proposalExpiresAt ← demand .invalidInput (OffsetDateTime.checkedAdd now proposalDuration)
  return (proposalExpiresAt, paymentDeadline)

def activatePrepared (crypto : Crypto) (sdk : Sdk) (store : Store)
    (input : MarketplaceActivationInput) (creator : CreatorRow) (row : Preparation)
    (envelope : PreparationEnvelope) :
    Except LifecycleError (MarketplaceActivationResult × Store) := do
  ensure (row.resolvedAt = none) .lifecycleTerminal
  ensure (row.activatedAt = none ∧ row.paymentDeadline = none ∧ row.voidedAt = none)
    (.persistence .corruptOrMissing)
  ensure (store.clock < row.prepareExpiresAt) .prepareExpired
  ensure (termsMatch envelope input.amount input.asset = true) .totalMismatch
  let (proposalExpiresAt, paymentDeadline) ← persist (activationTimes store.clock
    envelope.paymentWindowSeconds input.proposalAcceptanceSeconds)
  let intent ← persist (orFail .corruptOrMissing
    (envelope.paymentRequestIntent.setDeadlines sdk proposalExpiresAt paymentDeadline))
  let quote ← persist
    (validateIntent sdk intent envelope.reader envelope.reference envelope.terms)
  let terms ← persist (orFail .corruptOrMissing intent.terms)
  let (outboxId, store) := store.newUuid
  let store ← persist (store.writePreparations .unavailable
    (updateWhere (fun stored => stored.id = row.id)
      (fun stored => { stored with
        state := .active
        activatedAt := some store.clock
        paymentDeadline := some paymentDeadline })
      store.preparations.rows))
  let payment ← persist (fromIntent sdk envelope.childIndex intent)
  let db ← persist (insertSettlement crypto store.db creator row payment)
  let outbox ← persist (Table.write .unavailable (store.outbox.rows ++
    [proposalOutboxRow outboxId creator.id none (some row.id) intent
      (crypto.paymentRequestProposalLookupHash terms.paymentReference) store.clock]))
  return (⟨row.id, store.clock, paymentDeadline, envelope.terms, quote, false⟩,
    { store with db := db, outbox := outbox })

def activate (crypto : Crypto) (sdk : Sdk) (store : Store) (input : MarketplaceActivationInput) :
    Except LifecycleError (Option MarketplaceActivationResult × Store) := do
  ensure (input.amount ≠ 0 ∧ input.proposalAcceptanceSeconds ≠ 0) (.persistence .invalidInput)
  match loadLifecycleLocked crypto store input.creator input.invoiceId with
  | none => return (none, store)
  | some (creator, row) => do
    let envelope ← persist (decodeLifecycleEnvelope sdk row)
    match row.state with
    | .active => do
      let result ← replayActivation crypto sdk store input creator row envelope
      return (some result, store)
    | .voided => .error .lifecycleTerminal
    | .prepared => do
      let (result, store) ← activatePrepared crypto sdk store input creator row envelope
      return (some result, store)

def void (crypto : Crypto) (sdk : Sdk) (store : Store) (creator : String) (invoiceId : Uuid) :
    Except LifecycleError (Option MarketplaceVoidResult × Store) :=
  match loadLifecycleLocked crypto store creator invoiceId with
  | none => .ok (none, store)
  | some (_, row) => do
    let _ ← persist (decodeLifecycleEnvelope sdk row)
    match row.state with
    | .voided => do
      let voidedAt ← demand (.persistence .corruptOrMissing) row.voidedAt
      return (some ⟨row.id, voidedAt, true⟩, store)
    | .active => .error .invoiceActive
    | .prepared => do
      ensure (row.activatedAt = none ∧ row.paymentDeadline = none ∧ row.voidedAt = none)
        (.persistence .corruptOrMissing)
      let store ← persist (store.writePreparations .unavailable
        (updateWhere (fun stored => stored.id = row.id)
          (fun stored => { stored with state := .voided, voidedAt := some store.clock })
          store.preparations.rows))
      return (some ⟨row.id, store.clock, false⟩, store)

/-- Record one immutable business outcome. -/
def resolve (crypto : Crypto) (sdk : Sdk) (store : Store) (creator : String) (invoiceId : Uuid)
    (outcome : MarketplaceResolutionOutcome) :
    Except LifecycleError (Option MarketplaceResolutionResult × Store) :=
  match loadLifecycleLocked crypto store creator invoiceId with
  | none => .ok (none, store)
  | some (_, row) => do
    let _ ← persist (decodeLifecycleEnvelope sdk row)
    match row.businessOutcome, row.resolvedAt with
    | some existing, some resolvedAt => do
      ensure (existing = outcome) .resolutionConflict
      return (some ⟨row.id, existing, resolvedAt, true⟩, store)
    | none, none => do
      let store ← persist (store.writePreparations .unavailable
        (updateWhere (fun stored => stored.id = row.id ∧ stored.businessOutcome = none ∧
            stored.resolvedAt = none)
          (fun stored => { stored with
            businessOutcome := some outcome
            resolvedAt := some store.clock })
          store.preparations.rows))
      return (some ⟨row.id, outcome, store.clock, false⟩, store)
    | _, _ => .error (.persistence .corruptOrMissing)

section Inversion

variable {crypto : Crypto} {sdk : Sdk} {store store' : Store}

theorem advanceChildIndex_ok {creatorId : Uuid}
    (done : advanceChildIndex store creatorId = .ok store') :
    ∃ creators, store' = { store with creators := creators } ∧
      creators.rows = updateWhere (fun row => row.id = creatorId)
        (fun row => { row with nextChildIndex := row.nextChildIndex + 1 }) store.creators.rows := by
  obtain ⟨creators, written, done⟩ := bind_eq_ok.mp done
  cases done
  exact ⟨creators, rfl, Table.write_eq_ok.mp written⟩

structure Quoted (sdk : Sdk) (store : Store) (input : MarketplacePreparationInput)
    (creator : CreatorRow) (intent : DeliveryIntentV1) (result : MarketplacePreparationResult) :
    Prop where
  identity : result.invoiceId = store.db.nextUuid
  replayed : result.replayed = false
  generation : ∀ expected ∈ input.payloads.expectedBitcoinAccountGeneration,
    expected = creator.bitcoinAccountGeneration
  deadline : input.prepareDeadline = some result.prepareExpiresAt
  inTime : store.clock < result.prepareExpiresAt
  lifetime : OffsetDateTime.checkedAdd result.prepareExpiresAt
    (-seconds input.prepareTtlSeconds) = some result.preparedAt
  payload : input.payloads.forChildIndex creator.nextChildIndex = .ok intent
  terms : MarketplaceTerms.fromIntent sdk intent input.amount input.asset = .ok result.terms
  quote : validateIntent sdk intent input.reader input.reference result.terms = .ok result.quote

def quotedPreparation (crypto : Crypto) (input : MarketplacePreparationInput)
    (creator : CreatorRow) (intent : DeliveryIntentV1) (result : MarketplacePreparationResult) :
    Preparation :=
  newPreparation crypto input result.invoiceId creator.id
    (newEnvelope input result.terms result.preparedAt result.prepareExpiresAt
      creator.nextChildIndex intent)
    (input.payloads.expectedBitcoinAccountGeneration.map fun _ => creator.bitcoinAccountGeneration)

variable {input : MarketplacePreparationInput} {result : MarketplacePreparationResult}
  {row : Preparation} {creator : String} {invoiceId : Uuid}

theorem insertPreparation_ok {creator : CreatorRow}
    (done : insertPreparation crypto sdk store input creator = .ok (result, store')) :
    ∃ intent preparations columns creators,
      store' = { store with
        preparations := preparations
        creators := creators
        db := { store.db with
          preparations := columns
          nextUuid := store.db.nextUuid + 1 } } ∧
      preparations.rows =
        store.preparations.rows ++ [quotedPreparation crypto input creator intent result] ∧
      columns.rows = preparations.rows.map Preparation.columns ∧
      creators.rows = updateWhere (fun row => row.id = creator.id)
        (fun row => { row with nextChildIndex := row.nextChildIndex + 1 }) store.creators.rows ∧
      Quoted sdk store input creator intent result := by
  unfold insertPreparation at done
  obtain ⟨_, generation, expires, deadline, _, inTime, done⟩ := bind₃_eq_ok.mp done
  obtain ⟨preparedAt, lifetime, intent, payload, terms, hterms, done⟩ := bind₃_eq_ok.mp done
  obtain ⟨quote, hquote, _, _, written, wrote, done⟩ := bind₃_eq_ok.mp done
  obtain ⟨advanced, advance, done⟩ := bind_eq_ok.mp done
  cases done
  obtain ⟨preparations, columns, rfl, rows, projected⟩ := Store.writePreparations_ok wrote
  obtain ⟨creators, rfl, counted⟩ := advanceChildIndex_ok advance
  exact ⟨intent, preparations, columns, creators, rfl, rows, projected, counted, rfl, rfl,
    ensure_eq_ok.mp generation, demand_eq_ok.mp deadline, ensure_eq_ok.mp inTime,
    demand_eq_ok.mp lifetime, payload, hterms, hquote⟩

theorem validateReplay_ok (done : validateReplay crypto sdk input row = .ok result) :
    validateIntent sdk row.envelope.paymentRequestIntent input.reader input.reference
        row.envelope.terms = .ok result.quote ∧
      result = ⟨row.id, row.envelope.terms, result.quote, row.preparedAt, row.prepareExpiresAt,
        true⟩ := by
  obtain ⟨_, _, _, _, _, _, done⟩ := bind₃_eq_ok.mp done
  obtain ⟨_, _, quote, quoted, done⟩ := bind₂_eq_ok.mp done
  cases done
  exact ⟨quoted, rfl⟩

theorem prepare_ok (done : prepare crypto sdk store input = .ok (result, store')) :
    ∃ creator, store.creatorByHash (textHash crypto input.creator) = some creator ∧
      ((∃ row, preparationByOperation store creator.id (textHash crypto input.operationId) =
          some row ∧ validateReplay crypto sdk input row = .ok result ∧ store' = store) ∨
        preparationByOperation store creator.id (textHash crypto input.operationId) = none ∧
          insertPreparation crypto sdk store input creator = .ok (result, store')) := by
  unfold prepare at done
  obtain ⟨_, _, creator, found, _, _, done⟩ := bind₃_eq_ok.mp done
  refine ⟨creator, demand_eq_ok.mp found, ?_⟩
  split at done
  · rename_i row stored
    obtain ⟨_, replayed, done⟩ := bind_eq_ok.mp done
    cases done
    exact .inl ⟨row, stored, replayed, rfl⟩
  · rename_i free
    exact .inr ⟨free, done⟩

theorem prepare_checked (done : prepare crypto sdk store input = .ok (result, store')) :
    (input.operationId ≠ "" ∧ input.requestBinding ≠ [] ∧ input.paymentWindowSeconds ≠ 0 ∧
      input.prepareTtlSeconds ≠ 0 ∧ input.prepareTtlSeconds < 2 ^ 63) ∧
    ∀ creator, store.creatorByHash (textHash crypto input.creator) = some creator →
      0 ≤ creator.nextChildIndex := by
  obtain ⟨_, asked, creator, found, _, counted, done⟩ := bind₃_eq_ok.mp done
  refine ⟨ensure_eq_ok.mp asked, fun other same => ?_⟩
  rw [demand_eq_ok.mp found] at same
  cases same
  exact ensure_eq_ok.mp counted

theorem loadLifecycleLocked_some {owner : CreatorRow}
    (loaded : loadLifecycleLocked crypto store creator invoiceId = some (owner, row)) :
    store.creatorByHash (textHash crypto creator) = some owner ∧
      store.preparation invoiceId = some row ∧ row.creatorId = owner.id := by
  unfold loadLifecycleLocked at loaded
  split at loaded
  · split at loaded
    · rename_i found stored same
      cases loaded
      exact ⟨found, stored, same⟩
    · cases loaded
  · cases loaded

theorem decodeLifecycleEnvelope_ok {envelope : PreparationEnvelope}
    (done : decodeLifecycleEnvelope sdk row = .ok envelope) : row.envelope = envelope := by
  obtain ⟨_, _, _, _, done⟩ := bind₂_eq_ok.mp done
  cases done
  rfl

/-- What an activation fixed and sent. -/
structure Activated (sdk : Sdk) (store : Store) (input : MarketplaceActivationInput)
    (row : Preparation) (intent : DeliveryIntentV1) (payment : InvoicePaymentRecordV1)
    (proposalExpiresAt paymentDeadline : OffsetDateTime) : Prop where
  unresolved : row.resolvedAt = none
  inTime : store.clock < row.prepareExpiresAt
  sameTerms : termsMatch row.envelope input.amount input.asset = true
  times : activationTimes store.clock row.envelope.paymentWindowSeconds
    input.proposalAcceptanceSeconds = .ok (proposalExpiresAt, paymentDeadline)
  deadlines : row.envelope.paymentRequestIntent.setDeadlines sdk proposalExpiresAt
    paymentDeadline = .ok intent
  payment : fromIntent sdk row.envelope.childIndex intent = .ok payment

def activatedPreparation (row : Preparation) (now paymentDeadline : OffsetDateTime) :
    Preparation :=
  { row with state := .active, activatedAt := some now, paymentDeadline := some paymentDeadline }

def newSettlement (creator : CreatorRow) (row : Preparation)
    (payment : InvoicePaymentRecordV1) : NewPayment :=
  ⟨creator.id, creator.creatorLookupHash, row.readerLookupHash, payment.derivationIndex,
    payment.bitcoin, payment.usdt⟩

theorem activatePrepared_ok {input : MarketplaceActivationInput} {creator : CreatorRow}
    {result : MarketplaceActivationResult}
    (done : activatePrepared crypto sdk store input creator row row.envelope =
      .ok (result, store')) :
    ∃ intent payment reference proposalExpiresAt preparations columns settlements outbox,
      store' = { store with
        preparations := preparations
        outbox := outbox
        db := { store.db with
          preparations := columns
          settlements := settlements
          nextUuid := store.db.nextUuid + 1 } } ∧
      preparations.rows = updateWhere (fun stored => stored.id = row.id)
        (activatedPreparation · store.clock result.paymentDeadline) store.preparations.rows ∧
      columns.rows = preparations.rows.map Preparation.columns ∧
      settlements.rows = store.db.settlements.rows ++
        [(newSettlement creator row payment).settlementRow crypto row.id] ∧
      outbox.rows = store.outbox.rows ++ [proposalOutboxRow store.db.nextUuid creator.id none
        (some row.id) intent (crypto.paymentRequestProposalLookupHash reference) store.clock] ∧
      result.invoiceId = row.id ∧ result.activatedAt = store.clock ∧ result.replayed = false ∧
      result.terms = row.envelope.terms ∧ envelopeQuote sdk row.envelope = .ok result.quote ∧
      Activated sdk store input row intent payment proposalExpiresAt
        result.paymentDeadline := by
  unfold activatePrepared at done
  obtain ⟨_, unresolved, _, _, _, inTime, done⟩ := bind₃_eq_ok.mp done
  obtain ⟨_, sameTerms, ⟨proposalExpiresAt, paymentDeadline⟩, times, done⟩ := bind₂_eq_ok.mp done
  obtain ⟨intent, deadlines, quote, quoted, terms, reference, done⟩ := bind₃_eq_ok.mp done
  obtain ⟨written, wrote, payment, offered, db, inserted, done⟩ := bind₃_eq_ok.mp done
  obtain ⟨outbox, enqueued, done⟩ := bind_eq_ok.mp done
  cases done
  simp only [persist_eq_ok] at times deadlines quoted wrote offered inserted enqueued
  obtain ⟨preparations, columns, rfl, rows, projected⟩ := Store.writePreparations_ok wrote
  obtain ⟨_, _, settlements, settled, inserted⟩ := bind₂_eq_ok.mp inserted
  cases inserted
  have fixed := orFail_eq_ok.mp deadlines
  have quote' := (validateIntent_ok quoted).2
  rw [quote_setDeadlines fixed] at quote'
  exact ⟨intent, payment, terms.paymentReference, proposalExpiresAt, preparations, columns,
    settlements, outbox, rfl, rows, projected, Table.write_eq_ok.mp settled,
    Table.write_eq_ok.mp enqueued, rfl, rfl, rfl, rfl, orFail_eq_ok.mpr quote',
    ensure_eq_ok.mp unresolved, ensure_eq_ok.mp inTime, ensure_eq_ok.mp sameTerms, times, fixed,
    offered⟩

theorem activate_ok {input : MarketplaceActivationInput}
    {result : Option MarketplaceActivationResult}
    (done : activate crypto sdk store input = .ok (result, store')) :
    (result = none ∧ store' = store) ∨
      ∃ creator row answer,
        loadLifecycleLocked crypto store input.creator input.invoiceId = some (creator, row) ∧
        result = some answer ∧ input.amount ≠ 0 ∧ input.proposalAcceptanceSeconds ≠ 0 ∧
        decodeLifecycleEnvelope sdk row = .ok row.envelope ∧
        ((row.state = .active ∧ store' = store ∧
            replayActivation crypto sdk store input creator row row.envelope = .ok answer) ∨
          row.state = .prepared ∧
            activatePrepared crypto sdk store input creator row row.envelope =
              .ok (answer, store')) := by
  unfold activate at done
  obtain ⟨_, asked, done⟩ := bind_eq_ok.mp done
  obtain ⟨amount, acceptance⟩ := ensure_eq_ok.mp asked
  split at done
  · cases done
    exact .inl ⟨rfl, rfl⟩
  · rename_i creator row loaded
    obtain ⟨envelope, decode, done⟩ := bind_eq_ok.mp done
    have decoded := persist_eq_ok.mp decode
    obtain rfl := decodeLifecycleEnvelope_ok decoded
    refine .inr ⟨creator, row, ?_⟩
    split at done
    · rename_i active
      obtain ⟨answer, replayed, done⟩ := bind_eq_ok.mp done
      cases done
      exact ⟨answer, loaded, rfl, amount, acceptance, decoded, .inl ⟨active, rfl, replayed⟩⟩
    · cases done
    · rename_i prepared
      obtain ⟨⟨answer, _⟩, activated, done⟩ := bind_eq_ok.mp done
      cases done
      exact ⟨answer, loaded, rfl, amount, acceptance, decoded, .inr ⟨prepared, activated⟩⟩

def voidedPreparation (row : Preparation) (now : OffsetDateTime) : Preparation :=
  { row with state := .voided, voidedAt := some now }

theorem void_ok {result : Option MarketplaceVoidResult}
    (done : void crypto sdk store creator invoiceId = .ok (result, store')) :
    (result = none ∧ store' = store) ∨
      ∃ owner row voidedAt,
        loadLifecycleLocked crypto store creator invoiceId = some (owner, row) ∧
        decodeLifecycleEnvelope sdk row = .ok row.envelope ∧
        ((row.state = .voided ∧ row.voidedAt = some voidedAt ∧ store' = store ∧
            result = some ⟨row.id, voidedAt, true⟩) ∨
          row.state = .prepared ∧ voidedAt = store.clock ∧
            result = some ⟨row.id, voidedAt, false⟩ ∧
            store.writePreparations .unavailable
              (updateWhere (fun stored => stored.id = row.id) (voidedPreparation · store.clock)
                store.preparations.rows) = .ok store') := by
  unfold void at done
  split at done
  · cases done
    exact .inl ⟨rfl, rfl⟩
  · rename_i owner row loaded
    obtain ⟨envelope, decode, done⟩ := bind_eq_ok.mp done
    have decoded := persist_eq_ok.mp decode
    obtain rfl := decodeLifecycleEnvelope_ok decoded
    refine .inr ⟨owner, row, ?_⟩
    split at done
    · rename_i voided
      obtain ⟨voidedAt, stored, done⟩ := bind_eq_ok.mp done
      cases done
      exact ⟨voidedAt, loaded, decoded, .inl ⟨voided, demand_eq_ok.mp stored, rfl, rfl⟩⟩
    · cases done
    · rename_i prepared
      obtain ⟨_, _, written, wrote, done⟩ := bind₂_eq_ok.mp done
      have stored := persist_eq_ok.mp wrote
      obtain ⟨_, _, rfl, -, -⟩ := Store.writePreparations_ok stored
      cases done
      exact ⟨store.clock, loaded, decoded, .inr ⟨prepared, rfl, rfl, stored⟩⟩

def resolvedPreparation (row : Preparation) (outcome : MarketplaceResolutionOutcome)
    (now : OffsetDateTime) : Preparation :=
  { row with businessOutcome := some outcome, resolvedAt := some now }

/-- A committed call finds no such request, replays its outcome, or records it. -/
theorem resolve_ok {outcome : MarketplaceResolutionOutcome}
    {result : Option MarketplaceResolutionResult}
    (done : resolve crypto sdk store creator invoiceId outcome = .ok (result, store')) :
    (result = none ∧ store' = store) ∨
      ∃ owner row resolvedAt,
        loadLifecycleLocked crypto store creator invoiceId = some (owner, row) ∧
        decodeLifecycleEnvelope sdk row = .ok row.envelope ∧
        ((row.businessOutcome = some outcome ∧ row.resolvedAt = some resolvedAt ∧
            store' = store ∧ result = some ⟨row.id, outcome, resolvedAt, true⟩) ∨
          row.businessOutcome = none ∧ row.resolvedAt = none ∧ resolvedAt = store.clock ∧
            result = some ⟨row.id, outcome, resolvedAt, false⟩ ∧
            store.writePreparations .unavailable
              (updateWhere (fun stored => stored.id = row.id ∧ stored.businessOutcome = none ∧
                  stored.resolvedAt = none)
                (resolvedPreparation · outcome store.clock) store.preparations.rows) =
                  .ok store') := by
  unfold resolve at done
  split at done
  · cases done
    exact .inl ⟨rfl, rfl⟩
  · rename_i owner row loaded
    obtain ⟨envelope, decode, done⟩ := bind_eq_ok.mp done
    have decoded := persist_eq_ok.mp decode
    obtain rfl := decodeLifecycleEnvelope_ok decoded
    refine .inr ⟨owner, row, ?_⟩
    split at done
    · rename_i existing resolvedAt stored resolved
      obtain ⟨_, same, done⟩ := bind_eq_ok.mp done
      cases done
      obtain rfl := ensure_eq_ok.mp same
      exact ⟨resolvedAt, loaded, decoded, .inl ⟨stored, resolved, rfl, rfl⟩⟩
    · rename_i open_ unresolved
      obtain ⟨written, wrote, done⟩ := bind_eq_ok.mp done
      have stored := persist_eq_ok.mp wrote
      obtain ⟨_, _, rfl, -, -⟩ := Store.writePreparations_ok stored
      cases done
      exact ⟨store.clock, loaded, decoded, .inr ⟨open_, unresolved, rfl, rfl, stored⟩⟩
    · cases done

end Inversion

end MarketplacePreparations

end PaykitServer.Persistence
