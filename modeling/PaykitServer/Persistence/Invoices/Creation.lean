import PaykitServer.Persistence.Lifecycles

/-!
# Invoice creation

Both API versions create an invoice in one transaction that locks the creator's
row: it replays what the bundle already stores, or allocates the next child
index, and writes the reader assignment, the invoice and one proposal. A
provider-v2 invoice is bound to the hash of its whole request and to a deadline
its caller owns.
-/

namespace PaykitServer.Persistence.Invoices

open Domain Application Relational

structure AtomicInvoiceInput where
  creator : String
  reader : String
  bundleBinding : List UInt8
  lockResourceBinding : List UInt8
  paymentRequestBinding : List UInt8
  invoicePayloads : PayloadFactory
  proposalAcceptanceSeconds : Nat
  paymentWindowSeconds : Nat

structure AtomicInvoiceResult where
  invoiceId : Uuid
  paymentRequestOutboxId : Uuid
  readerAssignmentId : Uuid
  readerChildIndex : Int
  invoiceCreatedAt : OffsetDateTime
  paymentDeadline : OffsetDateTime
  replayed : Bool
deriving DecidableEq

structure ProviderV2AtomicInvoiceInput where
  creator : String
  reader : String
  bundleBinding : List UInt8
  lockResourceBinding : List UInt8
  requestHash : LookupHash
  deadline : OffsetDateTime
  minimumConfirmations : Nat
  invoicePayloads : PayloadFactory
  proposalAcceptanceSeconds : Nat

structure ProviderV2CreateResult where
  invoiceId : Uuid
  invoiceCreatedAt : OffsetDateTime
  proposalExpiresAt : OffsetDateTime
  deadline : OffsetDateTime
  replayed : Bool
deriving DecidableEq

inductive InvoicePreflight where
  | new
  | exactReplay
  | conflict
deriving DecidableEq, Repr

def invoiceByBundle (store : Store) (creatorId : Uuid) (bundleHash : LookupHash) :
    Option AdmissionRow :=
  lookup (fun row => some (row.creatorId, row.bundleLookupHash)) (creatorId, bundleHash)
    store.admissions.rows

def loadAssignment (store : Store) (creatorId : Uuid) (readerHash bundleHash : LookupHash) :
    Except PersistenceError (Option AssignmentRow) := do
  let row := lookup (fun row => some (row.creatorId, row.readerLookupHash, row.bundleLookupHash))
    (creatorId, readerHash, bundleHash) store.assignments.rows
  ensure (∀ assignment ∈ row, 0 ≤ assignment.childIndex) .corruptOrMissing
  return row

def invoiceProposal (store : Store) (invoiceId : Uuid) : Option OutboxRow :=
  store.outbox.rows.find? fun row =>
    row.invoiceId = some invoiceId && row.intentKind = .paymentRequestProposal

/-- An invoice's intent must be valid and name its reader. -/
def validateIntent (sdk : Sdk) (intent : DeliveryIntentV1) (reader : String) :
    Except PersistenceError Unit := do
  orFail .corruptOrMissing (intent.validate sdk)
  ensure (intent.readerPubky = reader) .corruptOrMissing

/-- The invoice of a creator's bundle, found without locks. -/
def storedInvoice (crypto : Crypto) (store : Store) (creator : String)
    (bundleBinding : List UInt8) : Option AdmissionRow :=
  (store.creatorByHash (textHash crypto creator)).bind fun row =>
    invoiceByBundle store row.id (crypto.lookupHash bundleBinding)

/-- Check durable idempotency before any external validation. -/
def preflight (crypto : Crypto) (store : Store) (creator : String)
    (bundleBinding paymentRequestBinding : List UInt8) : InvoicePreflight :=
  match storedInvoice crypto store creator bundleBinding with
  | none => .new
  | some existing =>
    if existing.providerV2 = none ∧
        existing.paymentRequestLookupHash = crypto.lookupHash paymentRequestBinding then
      .exactReplay
    else .conflict

def replayInvoice (crypto : Crypto) (sdk : Sdk) (store : Store) (creatorId : Uuid)
    (reader : String) (bundleHash paymentHash : LookupHash) (existing : AdmissionRow) :
    Except PersistenceError AtomicInvoiceResult := do
  ensure (existing.providerV2 = none ∧ existing.paymentRequestLookupHash = paymentHash) .conflict
  let intent ← decodeIntent sdk existing.intent
  validateIntent sdk intent reader
  let loaded ← loadAssignment store creatorId (textHash crypto reader) bundleHash
  let assignment ← demand .corruptOrMissing loaded
  let proposal ← demand .corruptOrMissing (invoiceProposal store existing.id)
  return ⟨existing.id, proposal.id, assignment.id, assignment.childIndex,
    existing.invoiceCreatedAt, existing.paymentDeadline, true⟩

/-- Load an exact replay without rebuilding the intent. -/
def exactReplay (crypto : Crypto) (sdk : Sdk) (store : Store) (creator reader : String)
    (bundleBinding paymentBinding : List UInt8) : Except PersistenceError AtomicInvoiceResult := do
  let row ← demand .corruptOrMissing (store.creatorByHash (textHash crypto creator))
  let bundleHash := crypto.lookupHash bundleBinding
  let existing ← demand .corruptOrMissing (invoiceByBundle store row.id bundleHash)
  replayInvoice crypto sdk store row.id reader bundleHash (crypto.lookupHash paymentBinding) existing

/-- Lock the generation of a lock resource, which its first invoice creates. -/
def lockGenerationForUpdate (store : Store) (creatorId : Uuid) (lockHash : LookupHash) :
    Except PersistenceError (LockGenerationRow × Store) := do
  let generations ← Table.write .unavailable
    (insertNew (fun row => row.creatorId = creatorId && row.lockResourceLookupHash = lockHash)
      ⟨creatorId, lockHash, 0, none, none⟩ store.lockGenerations.rows)
  let store := { store with lockGenerations := generations }
  let row ← demand .unavailable (store.lockGeneration creatorId lockHash)
  return (row, store)

structure NewInvoice where
  creator : CreatorRow
  readerHash : LookupHash
  bundleHash : LookupHash
  lockHash : LookupHash
  lockGeneration : Int
  paymentRequestHash : LookupHash
  intent : DeliveryIntentV1
  payment : InvoicePaymentRecordV1
  createdAt : OffsetDateTime
  proposalExpiresAt : OffsetDateTime
  paymentDeadline : OffsetDateTime
  bitcoinAccountGeneration : Option Int
  providerV2 : Option ProviderV2Binding

namespace NewInvoice

def newPayment (new : NewInvoice) : NewPayment :=
  ⟨new.creator.id, new.creator.creatorLookupHash, new.readerHash, new.payment.derivationIndex,
    new.payment.bitcoin, new.payment.usdt⟩

def assignmentRow (new : NewInvoice) (id : Uuid) : AssignmentRow :=
  ⟨id, new.creator.id, new.readerHash, new.bundleHash, new.creator.nextChildIndex⟩

def admissionRow (crypto : Crypto) (new : NewInvoice) (id : Uuid) : AdmissionRow where
  id := id
  creatorId := new.creator.id
  readerLookupHash := new.readerHash
  bundleLookupHash := new.bundleHash
  lockResourceLookupHash := new.lockHash
  lockResourceGeneration := new.lockGeneration
  paymentRequestLookupHash := new.paymentRequestHash
  intent := new.intent
  payment := new.payment
  bitcoinAddressLookupHash := new.newPayment.addressHash crypto
  derivationIndexLookupHash := crypto.bitcoinDerivationIndexLookupHash
    new.creator.creatorLookupHash new.creator.nextChildIndex
  invoiceCreatedAt := new.createdAt
  proposalExpiresAt := new.proposalExpiresAt
  paymentDeadline := new.paymentDeadline
  bitcoinAccountGeneration := new.bitcoinAccountGeneration
  providerV2 := new.providerV2

end NewInvoice

structure NewIds where
  assignment : Uuid
  invoice : Uuid
  outbox : Uuid
deriving DecidableEq

/-- The row of `invoices`, with the columns that observation works on. -/
def insertAdmission (crypto : Crypto) (store : Store) (new : NewInvoice) :
    Except PersistenceError (Uuid × Store) := do
  let (id, db) ← insertInvoice crypto store.db new.newPayment new.createdAt new.paymentDeadline
  let admissions ← Table.write .conflict (store.admissions.rows ++ [new.admissionRow crypto id])
  return (id, { store with db := db, admissions := admissions })

/-- The row of `invoice_provider_v2`, for a provider-v2 invoice. -/
def insertProviderV2 (db : Database) (id : Uuid) :
    Option ProviderV2Binding → Except PersistenceError Database
  | none => .ok db
  | some binding => do
    let providers ← Table.write .conflict
      (db.providerV2.rows ++ [⟨id, binding.deadline, binding.minimumConfirmations⟩])
    return { db with providerV2 := providers }

def insertNewInvoice (crypto : Crypto) (store : Store) (new : NewInvoice) :
    Except PersistenceError (NewIds × Store) := do
  let (assignmentId, store) := store.newUuid
  let assignments ← Table.write .conflict
    (store.assignments.rows ++ [new.assignmentRow assignmentId])
  let store ← MarketplacePreparations.advanceChildIndex
    { store with assignments := assignments } new.creator.id
  let terms ← orFail .corruptOrMissing new.intent.terms
  let (invoiceId, store) ← insertAdmission crypto store new
  let db ← insertProviderV2 store.db invoiceId new.providerV2
  let (outboxId, store) := { store with db := db }.newUuid
  let outbox ← Table.write .unavailable (store.outbox.rows ++
    [proposalOutboxRow outboxId new.creator.id (some invoiceId) none new.intent
      (crypto.paymentRequestProposalLookupHash terms.paymentReference) store.clock])
  return (⟨assignmentId, invoiceId, outboxId⟩, { store with outbox := outbox })

def newIntent (sdk : Sdk) (payloads : PayloadFactory) (childIndex : Int) (reader : String)
    (proposalExpiresAt paymentDeadline : OffsetDateTime) :
    Except PersistenceError (DeliveryIntentV1 × InvoicePaymentRecordV1) := do
  let payload ← payloads.forChildIndex childIndex
  let intent ← orFail .corruptOrMissing
    (payload.setDeadlines sdk proposalExpiresAt paymentDeadline)
  validateIntent sdk intent reader
  let payment ← fromIntent sdk childIndex intent
  return (intent, payment)

def admitInvoice (crypto : Crypto) (sdk : Sdk) (store : Store) (input : AtomicInvoiceInput)
    (creator : CreatorRow) (proposalExpiresAt paymentDeadline : OffsetDateTime) :
    Except PersistenceError (AtomicInvoiceResult × Store) := do
  let readerHash := textHash crypto input.reader
  let bundleHash := crypto.lookupHash input.bundleBinding
  let lockHash := crypto.lookupHash input.lockResourceBinding
  ensure (∀ expected ∈ input.invoicePayloads.expectedBitcoinAccountGeneration,
    expected = creator.bitcoinAccountGeneration) .conflict
  let (lock, store) ← lockGenerationForUpdate store creator.id lockHash
  ensure (0 ≤ lock.currentGeneration) .corruptOrMissing
  ensure (lock.activeDrainId = none) .conflict
  let assignment ← loadAssignment store creator.id readerHash bundleHash
  ensure (assignment = none) .corruptOrMissing
  let (intent, payment) ← newIntent sdk input.invoicePayloads creator.nextChildIndex input.reader
    proposalExpiresAt paymentDeadline
  let (ids, store) ← insertNewInvoice crypto store
    { creator, readerHash, bundleHash, lockHash
      lockGeneration := lock.currentGeneration
      paymentRequestHash := crypto.lookupHash input.paymentRequestBinding
      intent, payment
      createdAt := store.clock
      proposalExpiresAt, paymentDeadline
      bitcoinAccountGeneration := input.invoicePayloads.expectedBitcoinAccountGeneration.map
        fun _ => creator.bitcoinAccountGeneration
      providerV2 := none }
  return (⟨ids.invoice, ids.outbox, ids.assignment, creator.nextChildIndex, store.clock,
    paymentDeadline, false⟩, store)

def createAtomic (crypto : Crypto) (sdk : Sdk) (store : Store) (input : AtomicInvoiceInput) :
    Except PersistenceError (AtomicInvoiceResult × Store) := do
  ensure (input.proposalAcceptanceSeconds < 2 ^ 63 ∧ input.paymentWindowSeconds < 2 ^ 63 ∧
    input.proposalAcceptanceSeconds ≠ 0 ∧
    input.proposalAcceptanceSeconds < input.paymentWindowSeconds) .invalidInput
  let creator ← demand .corruptOrMissing (store.creatorByHash (textHash crypto input.creator))
  let proposalExpiresAt ← demand .invalidInput
    (OffsetDateTime.checkedAdd store.clock (seconds input.proposalAcceptanceSeconds))
  let paymentDeadline ← demand .invalidInput
    (OffsetDateTime.checkedAdd store.clock (seconds input.paymentWindowSeconds))
  let bundleHash := crypto.lookupHash input.bundleBinding
  match invoiceByBundle store creator.id bundleHash with
  | some existing => do
    let result ← replayInvoice crypto sdk store creator.id input.reader bundleHash
      (crypto.lookupHash input.paymentRequestBinding) existing
    return (result, store)
  | none => admitInvoice crypto sdk store input creator proposalExpiresAt paymentDeadline

def providerV2Preflight (crypto : Crypto) (store : Store) (creator : String)
    (bundleBinding : List UInt8) (requestHash : LookupHash) : InvoicePreflight :=
  match storedInvoice crypto store creator bundleBinding with
  | none => .new
  | some existing =>
    if existing.providerV2.map (·.requestHash) = some requestHash then .exactReplay
    else .conflict

def replayProviderV2 (requestHash : LookupHash) (existing : AdmissionRow) :
    Except PersistenceError ProviderV2CreateResult := do
  let binding ← demand .conflict existing.providerV2
  ensure (binding.requestHash = requestHash) .conflict
  return ⟨existing.id, existing.invoiceCreatedAt, binding.proposalExpiresAt, binding.deadline, true⟩

def providerV2ExactReplay (crypto : Crypto) (store : Store) (creator : String)
    (bundleBinding : List UInt8) (requestHash : LookupHash) :
    Except PersistenceError ProviderV2CreateResult := do
  let existing ← demand .conflict (storedInvoice crypto store creator bundleBinding)
  replayProviderV2 requestHash existing

/-- New external work may start only before the caller's deadline. -/
def providerV2DeadlineGate (crypto : Crypto) (store : Store) (creator : String)
    (deadline : OffsetDateTime) : Except PersistenceError Bool := do
  let _ ← demand .corruptOrMissing (store.creatorByHash (textHash crypto creator))
  return store.clock < deadline

/-- Admit a provider-v2 invoice for a bundle that has none: Bitcoin only, and its
proposal expires before the caller's deadline. -/
def admitProviderV2 (crypto : Crypto) (sdk : Sdk) (store : Store)
    (input : ProviderV2AtomicInvoiceInput) (creator : CreatorRow) :
    Except PersistenceError (ProviderV2CreateResult × Store) := do
  let readerHash := textHash crypto input.reader
  let bundleHash := crypto.lookupHash input.bundleBinding
  let lockHash := crypto.lookupHash input.lockResourceBinding
  ensure (store.clock < input.deadline) .deadlineElapsed
  let maxProposal ← demand .invalidInput (OffsetDateTime.checkedAdd input.deadline (-1))
  let configuredProposal ← demand .invalidInput
    (OffsetDateTime.checkedAdd store.clock (seconds input.proposalAcceptanceSeconds))
  let proposalExpiresAt := min configuredProposal maxProposal
  ensure (store.clock ≤ proposalExpiresAt) .deadlineElapsed
  ensure (∀ expected ∈ input.invoicePayloads.expectedBitcoinAccountGeneration,
    expected = creator.bitcoinAccountGeneration) .conflict
  let (lock, store) ← lockGenerationForUpdate store creator.id lockHash
  ensure (0 ≤ lock.currentGeneration ∧ lock.activeDrainId = none) .conflict
  let assignment ← loadAssignment store creator.id readerHash bundleHash
  ensure (assignment = none) .corruptOrMissing
  let (intent, payment) ← newIntent sdk input.invoicePayloads creator.nextChildIndex input.reader
    proposalExpiresAt input.deadline
  ensure (payment.bitcoin.isSome ∧ payment.usdt = none) .invalidInput
  let required ← requiredAmount payment .btc
  ensure (required ≠ 0) .invalidInput
  let (ids, store) ← insertNewInvoice crypto store
    { creator, readerHash, bundleHash, lockHash
      lockGeneration := lock.currentGeneration
      paymentRequestHash := input.requestHash
      intent, payment
      createdAt := store.clock
      proposalExpiresAt
      paymentDeadline := input.deadline
      bitcoinAccountGeneration := some creator.bitcoinAccountGeneration
      providerV2 := some ⟨input.requestHash, input.deadline, input.minimumConfirmations,
        proposalExpiresAt⟩ }
  return (⟨ids.invoice, store.clock, proposalExpiresAt, input.deadline, false⟩, store)

def createProviderV2Atomic (crypto : Crypto) (sdk : Sdk) (store : Store)
    (input : ProviderV2AtomicInvoiceInput) :
    Except PersistenceError (ProviderV2CreateResult × Store) := do
  ensure (input.minimumConfirmations ≤ 6 ∧ input.proposalAcceptanceSeconds ≠ 0 ∧
    input.proposalAcceptanceSeconds < 2 ^ 63) .invalidInput
  let creator ← demand .corruptOrMissing (store.creatorByHash (textHash crypto input.creator))
  match invoiceByBundle store creator.id (crypto.lookupHash input.bundleBinding) with
  | some existing => do
    let result ← replayProviderV2 input.requestHash existing
    return (result, store)
  | none => admitProviderV2 crypto sdk store input creator

section Inversion

variable {crypto : Crypto} {sdk : Sdk} {store store' : Store}

theorem lockGenerationForUpdate_ok {creatorId : Uuid} {lockHash : LookupHash}
    {lock : LockGenerationRow}
    (done : lockGenerationForUpdate store creatorId lockHash = .ok (lock, store')) :
    ∃ generations, store' = { store with lockGenerations := generations } ∧
      generations.rows = insertNew
        (fun row => row.creatorId = creatorId && row.lockResourceLookupHash = lockHash)
        ⟨creatorId, lockHash, 0, none, none⟩ store.lockGenerations.rows ∧
      store'.lockGeneration creatorId lockHash = some lock := by
  obtain ⟨generations, written, _, found, done⟩ := bind₂_eq_ok.mp done
  cases done
  exact ⟨generations, rfl, Table.write_eq_ok.mp written, demand_eq_ok.mp found⟩

theorem insertProviderV2_ok {db db' : Database} {id : Uuid} {binding : Option ProviderV2Binding}
    (done : insertProviderV2 db id binding = .ok db') :
    ∃ providers, db' = { db with providerV2 := providers } ∧
      providers.rows = db.providerV2.rows ++
        (binding.map fun b => (⟨id, b.deadline, b.minimumConfirmations⟩ : ProviderV2Row)).toList := by
  cases binding with
  | none =>
    cases done
    exact ⟨db.providerV2, rfl, by simp⟩
  | some binding =>
    obtain ⟨providers, written, done⟩ := bind_eq_ok.mp done
    cases done
    exact ⟨providers, rfl, Table.write_eq_ok.mp written⟩

theorem insertAdmission_ok {new : NewInvoice} {id : Uuid}
    (done : insertAdmission crypto store new = .ok (id, store')) :
    ∃ admissions invoices,
      store' = { store with
        admissions := admissions
        db := { store.db with invoices := invoices, nextUuid := store.db.nextUuid + 1 } } ∧
      id = store.db.nextUuid ∧
      admissions.rows = store.admissions.rows ++ [new.admissionRow crypto id] ∧
      invoices.rows = store.db.invoices.rows ++
        [new.newPayment.invoiceRow crypto id new.createdAt new.paymentDeadline] := by
  obtain ⟨⟨_, db⟩, insert, done⟩ := bind_eq_ok.mp done
  obtain ⟨admissions, admitted, done⟩ := bind_eq_ok.mp done
  cases done
  obtain ⟨_, _, invoices, rows, insert⟩ := bind₂_eq_ok.mp insert
  cases insert
  exact ⟨admissions, invoices, rfl, rfl, Table.write_eq_ok.mp admitted, Table.write_eq_ok.mp rows⟩

theorem insertNewInvoice_ok {new : NewInvoice} {ids : NewIds}
    (done : insertNewInvoice crypto store new = .ok (ids, store')) :
    ∃ reference assignments creators admissions outbox invoices providers,
      store' = { store with
        assignments := assignments
        creators := creators
        admissions := admissions
        outbox := outbox
        db := { store.db with
          invoices := invoices
          providerV2 := providers
          nextUuid := store.db.nextUuid + 3 } } ∧
      ids = ⟨store.db.nextUuid, store.db.nextUuid + 1, store.db.nextUuid + 2⟩ ∧
      assignments.rows = store.assignments.rows ++ [new.assignmentRow ids.assignment] ∧
      creators.rows = updateWhere (fun row => row.id = new.creator.id)
        (fun row => { row with nextChildIndex := row.nextChildIndex + 1 }) store.creators.rows ∧
      admissions.rows = store.admissions.rows ++ [new.admissionRow crypto ids.invoice] ∧
      outbox.rows = store.outbox.rows ++ [proposalOutboxRow ids.outbox new.creator.id
        (some ids.invoice) none new.intent (crypto.paymentRequestProposalLookupHash reference)
        store.clock] ∧
      invoices.rows = store.db.invoices.rows ++
        [new.newPayment.invoiceRow crypto ids.invoice new.createdAt new.paymentDeadline] ∧
      providers.rows = store.db.providerV2.rows ++ (new.providerV2.map fun b =>
        (⟨ids.invoice, b.deadline, b.minimumConfirmations⟩ : ProviderV2Row)).toList := by
  unfold insertNewInvoice at done
  obtain ⟨assignments, assigned, advanced, advance, terms, _, done⟩ := bind₃_eq_ok.mp done
  obtain ⟨creators, same, counted⟩ := MarketplacePreparations.advanceChildIndex_ok advance
  obtain ⟨⟨invoiceId, admitted⟩, admits, done⟩ := bind_eq_ok.mp done
  obtain ⟨db, provided, outbox, enqueued, done⟩ := bind₂_eq_ok.mp done
  obtain ⟨admissions, invoices, same', identity, columns, rows⟩ := insertAdmission_ok admits
  obtain ⟨providers, same'', bindings⟩ := insertProviderV2_ok provided
  subst same same' same'' identity
  cases done
  exact ⟨terms.paymentReference, assignments, creators, admissions, outbox, invoices, providers,
    rfl, rfl, Table.write_eq_ok.mp assigned, counted, columns, Table.write_eq_ok.mp enqueued, rows,
    bindings⟩

/-- What an admitted invoice was decided on. -/
structure Admissible (sdk : Sdk) (store locked : Store) (new : NewInvoice) : Prop where
  createdAt : new.createdAt = store.clock
  free : invoiceByBundle store new.creator.id new.bundleHash = none
  locked : ∃ lock,
    lockGenerationForUpdate store new.creator.id new.lockHash = .ok (lock, locked) ∧
      lock.currentGeneration = new.lockGeneration ∧ lock.activeDrainId = none
  unassigned : loadAssignment store new.creator.id new.readerHash new.bundleHash = .ok none
  intent : ∃ (reader : String) (payload : DeliveryIntentV1),
    validateIntent sdk new.intent reader = .ok () ∧
      payload.setDeadlines sdk new.proposalExpiresAt new.paymentDeadline = .ok new.intent
  payment : fromIntent sdk new.creator.nextChildIndex new.intent = .ok new.payment
  generation : ∀ generation ∈ new.bitcoinAccountGeneration,
    generation = new.creator.bitcoinAccountGeneration

structure DrawnFrom (sdk : Sdk) (payloads : PayloadFactory) (new : NewInvoice) : Prop where
  payload : ∃ payload, payloads.forChildIndex new.creator.nextChildIndex = .ok payload ∧
    fromIntent sdk new.creator.nextChildIndex payload = .ok new.payment
  fenced : ∀ expected ∈ payloads.expectedBitcoinAccountGeneration,
    expected = new.creator.bitcoinAccountGeneration
  recorded : payloads.expectedBitcoinAccountGeneration.isSome →
    new.bitcoinAccountGeneration = some new.creator.bitcoinAccountGeneration

variable {proposalExpiresAt paymentDeadline : OffsetDateTime} {result : ProviderV2CreateResult}
  {input : ProviderV2AtomicInvoiceInput}

theorem newIntent_ok {payloads : PayloadFactory} {childIndex : Int} {reader : String}
    {intent : DeliveryIntentV1} {payment : InvoicePaymentRecordV1}
    (done : newIntent sdk payloads childIndex reader proposalExpiresAt paymentDeadline =
      .ok (intent, payment)) :
    (∃ payload, payloads.forChildIndex childIndex = .ok payload ∧
        payload.setDeadlines sdk proposalExpiresAt paymentDeadline = .ok intent) ∧
      validateIntent sdk intent reader = .ok () ∧ fromIntent sdk childIndex intent = .ok payment := by
  obtain ⟨payload, drawn, _, fixed, _, valid, done⟩ := bind₃_eq_ok.mp done
  obtain ⟨_, offered, done⟩ := bind_eq_ok.mp done
  cases done
  exact ⟨⟨payload, drawn, orFail_eq_ok.mp fixed⟩, valid, offered⟩

theorem lockGenerationForUpdate_frame {creatorId : Uuid} {lockHash : LookupHash}
    {lock : LockGenerationRow} {locked : Store}
    (done : lockGenerationForUpdate store creatorId lockHash = .ok (lock, locked)) :
    locked.clock = store.clock ∧ locked.assignments = store.assignments := by
  obtain ⟨generations, rfl, -, -⟩ := lockGenerationForUpdate_ok done
  exact ⟨rfl, rfl⟩

theorem insertNewInvoice_clock {new : NewInvoice} {ids : NewIds}
    (done : insertNewInvoice crypto store new = .ok (ids, store')) : store'.clock = store.clock := by
  obtain ⟨_, _, _, _, _, _, _, rfl, -⟩ := insertNewInvoice_ok done
  rfl

theorem replayInvoice_ok {creatorId : Uuid} {reader : String} {bundleHash paymentHash : LookupHash}
    {existing : AdmissionRow} {result : AtomicInvoiceResult}
    (done : replayInvoice crypto sdk store creatorId reader bundleHash paymentHash existing =
      .ok result) :
    existing.providerV2 = none ∧ existing.paymentRequestLookupHash = paymentHash ∧
      ∃ assignment proposal,
        loadAssignment store creatorId (textHash crypto reader) bundleHash = .ok (some assignment) ∧
        invoiceProposal store existing.id = some proposal ∧
        result = ⟨existing.id, proposal.id, assignment.id, assignment.childIndex,
          existing.invoiceCreatedAt, existing.paymentDeadline, true⟩ := by
  obtain ⟨_, bound, _, _, _, _, done⟩ := bind₃_eq_ok.mp done
  obtain ⟨loaded, load, assignment, assigned, proposal, proposed, done⟩ := bind₃_eq_ok.mp done
  cases done
  obtain rfl := demand_eq_ok.mp assigned
  exact ⟨(ensure_eq_ok.mp bound).1, (ensure_eq_ok.mp bound).2, assignment, proposal, load,
    demand_eq_ok.mp proposed, rfl⟩

theorem replayProviderV2_ok {requestHash : LookupHash} {existing : AdmissionRow}
    (done : replayProviderV2 requestHash existing = .ok result) :
    ∃ binding, existing.providerV2 = some binding ∧ binding.requestHash = requestHash ∧
      result = ⟨existing.id, existing.invoiceCreatedAt, binding.proposalExpiresAt,
        binding.deadline, true⟩ := by
  obtain ⟨binding, bound, _, same, done⟩ := bind₂_eq_ok.mp done
  cases done
  exact ⟨binding, demand_eq_ok.mp bound, ensure_eq_ok.mp same, rfl⟩

theorem admitInvoice_ok {input : AtomicInvoiceInput} {creator : CreatorRow}
    {result : AtomicInvoiceResult}
    (free : invoiceByBundle store creator.id (crypto.lookupHash input.bundleBinding) = none)
    (done : admitInvoice crypto sdk store input creator proposalExpiresAt paymentDeadline =
      .ok (result, store')) :
    ∃ locked new ids, new.creator = creator ∧
      new.readerHash = textHash crypto input.reader ∧
      new.bundleHash = crypto.lookupHash input.bundleBinding ∧
      new.paymentRequestHash = crypto.lookupHash input.paymentRequestBinding ∧
      (new.paymentDeadline = paymentDeadline ∧ new.proposalExpiresAt = proposalExpiresAt) ∧
      new.providerV2 = none ∧
      (validateIntent sdk new.intent input.reader = .ok () ∧
        DrawnFrom sdk input.invoicePayloads new) ∧
      Admissible sdk store locked new ∧ insertNewInvoice crypto locked new = .ok (ids, store') ∧
      result = ⟨ids.invoice, ids.outbox, ids.assignment, creator.nextChildIndex, store.clock,
        paymentDeadline, false⟩ := by
  unfold admitInvoice at done
  obtain ⟨_, generation, ⟨lock, locked⟩, hlock, done⟩ := bind₂_eq_ok.mp done
  obtain ⟨_, _, _, undrained, assignment, unassigned, done⟩ := bind₃_eq_ok.mp done
  obtain ⟨_, none', ⟨intent, payment⟩, quoted, done⟩ := bind₂_eq_ok.mp done
  obtain ⟨⟨ids, after⟩, inserted, done⟩ := bind_eq_ok.mp done
  cases done
  obtain rfl := ensure_eq_ok.mp none'
  obtain ⟨⟨payload, drawn, fixed⟩, valid, offered⟩ := newIntent_ok quoted
  obtain ⟨clock, assignments⟩ := lockGenerationForUpdate_frame hlock
  have clock' := (insertNewInvoice_clock inserted).trans clock
  simp only [loadAssignment, assignments] at unassigned
  have origin := (fromIntent_setDeadlines fixed creator.nextChildIndex).symm.trans offered
  refine ⟨locked, _, ids, rfl, rfl, rfl, rfl, ⟨rfl, rfl⟩, rfl,
    ⟨valid, ⟨payload, drawn, origin⟩, ensure_eq_ok.mp generation, fun fenced => ?_⟩, ?_, inserted,
    by rw [clock']⟩
  · obtain ⟨expected, fenced⟩ := Option.isSome_iff_exists.mp fenced
    rw [fenced, Option.map_some]
  exact ⟨clock, free, ⟨lock, hlock, rfl, ensure_eq_ok.mp undrained⟩, unassigned,
    ⟨input.reader, payload, valid, fixed⟩, offered, by simp +contextual [Option.mem_def]⟩

theorem createAtomic_ok {input : AtomicInvoiceInput} {result : AtomicInvoiceResult}
    (done : createAtomic crypto sdk store input = .ok (result, store')) :
    ∃ creator, store.creatorByHash (textHash crypto input.creator) = some creator ∧
      ((∃ existing, invoiceByBundle store creator.id (crypto.lookupHash input.bundleBinding) =
          some existing ∧
          replayInvoice crypto sdk store creator.id input.reader
            (crypto.lookupHash input.bundleBinding) (crypto.lookupHash input.paymentRequestBinding)
            existing = .ok result ∧ store' = store) ∨
        ∃ proposalExpiresAt paymentDeadline,
          (OffsetDateTime.checkedAdd store.clock (seconds input.proposalAcceptanceSeconds) =
              some proposalExpiresAt ∧
            OffsetDateTime.checkedAdd store.clock (seconds input.paymentWindowSeconds) =
              some paymentDeadline ∧
            input.proposalAcceptanceSeconds ≠ 0 ∧
            input.proposalAcceptanceSeconds < input.paymentWindowSeconds) ∧
          invoiceByBundle store creator.id (crypto.lookupHash input.bundleBinding) = none ∧
          admitInvoice crypto sdk store input creator proposalExpiresAt paymentDeadline =
            .ok (result, store')) := by
  unfold createAtomic at done
  obtain ⟨_, asked, done⟩ := bind_eq_ok.mp done
  obtain ⟨-, -, acceptance⟩ := ensure_eq_ok.mp asked
  obtain ⟨creator, found, proposalExpiresAt, accepted, done⟩ := bind₂_eq_ok.mp done
  obtain ⟨paymentDeadline, window, done⟩ := bind_eq_ok.mp done
  refine ⟨creator, demand_eq_ok.mp found, ?_⟩
  dsimp only at done
  split at done
  · rename_i existing stored
    obtain ⟨_, replayed, done⟩ := bind_eq_ok.mp done
    cases done
    exact .inl ⟨existing, stored, replayed, rfl⟩
  · rename_i free
    exact .inr ⟨proposalExpiresAt, paymentDeadline,
      ⟨demand_eq_ok.mp accepted, demand_eq_ok.mp window, acceptance⟩, free, done⟩

theorem admitProviderV2_ok {creator : CreatorRow}
    (free : invoiceByBundle store creator.id (crypto.lookupHash input.bundleBinding) = none)
    (done : admitProviderV2 crypto sdk store input creator = .ok (result, store')) :
    ∃ locked new ids, new.creator = creator ∧
      new.readerHash = textHash crypto input.reader ∧
      new.bundleHash = crypto.lookupHash input.bundleBinding ∧
      new.paymentRequestHash = input.requestHash ∧
      (new.paymentDeadline = input.deadline ∧ store.clock < input.deadline ∧
        new.proposalExpiresAt =
          min (store.clock + seconds input.proposalAcceptanceSeconds) (input.deadline + -1)) ∧
      new.providerV2 = some ⟨input.requestHash, input.deadline, input.minimumConfirmations,
        new.proposalExpiresAt⟩ ∧
      (new.payment.bitcoin.isSome ∧ new.payment.usdt = none) ∧
      DrawnFrom sdk input.invoicePayloads new ∧ Admissible sdk store locked new ∧
      insertNewInvoice crypto locked new = .ok (ids, store') ∧
      result = ⟨ids.invoice, store.clock, new.proposalExpiresAt, input.deadline, false⟩ := by
  unfold admitProviderV2 at done
  obtain ⟨_, running, _, latest, _, configured, done⟩ := bind₃_eq_ok.mp done
  obtain ⟨_, _, _, generation, ⟨lock, locked⟩, hlock, done⟩ := bind₃_eq_ok.mp done
  obtain ⟨_, undrained, assignment, unassigned, _, none', done⟩ := bind₃_eq_ok.mp done
  obtain ⟨⟨intent, payment⟩, quoted, done⟩ := bind_eq_ok.mp done
  obtain ⟨_, rails, _, _, _, _, done⟩ := bind₃_eq_ok.mp done
  obtain ⟨⟨ids, after⟩, inserted, done⟩ := bind_eq_ok.mp done
  cases done
  obtain rfl := ensure_eq_ok.mp none'
  obtain ⟨⟨payload, drawn, fixed⟩, valid, offered⟩ := newIntent_ok quoted
  obtain ⟨clock, assignments⟩ := lockGenerationForUpdate_frame hlock
  have clock' := (insertNewInvoice_clock inserted).trans clock
  simp only [loadAssignment, assignments] at unassigned
  have proposal := congrArg₂ min
    (OffsetDateTime.checkedAdd_eq_some.mp (demand_eq_ok.mp configured)).2
    (OffsetDateTime.checkedAdd_eq_some.mp (demand_eq_ok.mp latest)).2
  have origin := (fromIntent_setDeadlines fixed creator.nextChildIndex).symm.trans offered
  refine ⟨locked, _, ids, rfl, rfl, rfl, rfl, ⟨rfl, ensure_eq_ok.mp running, proposal⟩, rfl,
    ensure_eq_ok.mp rails, ⟨⟨payload, drawn, origin⟩, ensure_eq_ok.mp generation, fun _ => rfl⟩, ?_,
    inserted, by rw [clock']⟩
  exact ⟨clock, free, ⟨lock, hlock, rfl, (ensure_eq_ok.mp undrained).2⟩, unassigned,
    ⟨input.reader, payload, valid, fixed⟩, offered, by simp⟩

theorem createProviderV2Atomic_checked
    (done : createProviderV2Atomic crypto sdk store input = .ok (result, store')) :
    input.proposalAcceptanceSeconds ≠ 0 := by
  obtain ⟨_, asked, -⟩ := bind_eq_ok.mp done
  exact (ensure_eq_ok.mp asked).2.1

theorem createProviderV2Atomic_ok
    (done : createProviderV2Atomic crypto sdk store input = .ok (result, store')) :
    ∃ creator, store.creatorByHash (textHash crypto input.creator) = some creator ∧
      ((∃ existing, invoiceByBundle store creator.id (crypto.lookupHash input.bundleBinding) =
          some existing ∧ replayProviderV2 input.requestHash existing = .ok result ∧
          store' = store) ∨
        invoiceByBundle store creator.id (crypto.lookupHash input.bundleBinding) = none ∧
          admitProviderV2 crypto sdk store input creator = .ok (result, store')) := by
  unfold createProviderV2Atomic at done
  obtain ⟨_, _, creator, found, done⟩ := bind₂_eq_ok.mp done
  refine ⟨creator, demand_eq_ok.mp found, ?_⟩
  split at done
  · rename_i existing stored
    obtain ⟨_, replayed, done⟩ := bind_eq_ok.mp done
    cases done
    exact .inl ⟨existing, stored, replayed, rfl⟩
  · rename_i free
    exact .inr ⟨free, done⟩

end Inversion

end PaykitServer.Persistence.Invoices
