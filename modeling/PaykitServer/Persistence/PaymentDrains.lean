import PaykitServer.Persistence.Creators
import PaykitServer.Persistence.Invoices.Creation

/-!
# Payment drains

A drain freezes one generation of a lock: it classifies every invoice of the
generation by its SDK attempts, enqueues a cancellation for every attempt that
is still proposed, and fences the generation against new invoices and handoffs.
A completed drain is cleaned up by deleting it, which starts the next generation.

An invoice that never got an attempt is classified by how its proposal ended.
-/

namespace PaykitServer.Persistence

open Domain Application Relational

structure PubkyLockResource where
  creator : String
  canonical : String
deriving DecidableEq

namespace PaymentDrains

structure PaymentDrainSnapshot where
  drainId : Uuid
  createdAt : OffsetDateTime
  acceptedCount : Nat
  terminalCount : Nat
  cancellationEnqueuedCount : Nat
  completed : Bool
  replayed : Bool
deriving DecidableEq

/-- An accepted request is settled once it is paid in time or has expired. -/
def settled (store : Store) (invoiceId : Uuid) : Bool :=
  (store.db.invoice invoiceId).any fun invoice =>
    invoice.paymentExpiredAt.isSome ||
      invoice.firstAmountMatchedObservedAt.any (· ≤ invoice.paymentDeadline) ||
      (store.db.evidence invoiceId).isSome

def DrainItem.isTerminal (store : Store) (item : DrainItem) : Bool :=
  match item.classification with
  | .rejected | .canceled | .proposalExpired => true
  | .accepted => settled store item.invoiceId
  | .cancellationEnqueued => false

def frozenCounts (store : Store) (items : List DrainItem) : Nat × Nat :=
  ((items.filter fun item =>
      item.classification = .accepted && !settled store item.invoiceId).length,
    (items.filter (DrainItem.isTerminal store)).length)

/-- The frozen sets must still be the stored ones: every cancellation is required
and every item belongs to the drained generation. -/
def validateFrozenSets (store : Store) (drain : DrainRow) : Except PersistenceError Unit := do
  ensure (∀ cancellation ∈ drain.cancellations,
    (store.outboxRow cancellation.cancellationOutboxId).any (·.cancellationDrainRequired) = true)
    .corruptOrMissing
  ensure (∀ item ∈ drain.items, (store.admission item.invoiceId).any (fun invoice =>
    invoice.creatorId = drain.creatorId &&
      invoice.lockResourceLookupHash = drain.lockResourceLookupHash &&
      invoice.lockResourceGeneration = drain.lockResourceGeneration) = true) .corruptOrMissing

def snapshot (drain : DrainRow) (replayed : Bool) : Except PersistenceError PaymentDrainSnapshot := do
  ensure (drain.completed = decide (drain.acceptedCount = 0)) .corruptOrMissing
  return ⟨drain.id, drain.createdAt, drain.acceptedCount, drain.terminalCount,
    drain.cancellations.length, drain.completed, replayed⟩

def drainByLock (store : Store) (creatorId : Uuid) (lockHash : LookupHash) : Option DrainRow :=
  lookup (fun row => some (row.creatorId, row.lockResourceLookupHash)) (creatorId, lockHash)
    store.drains.rows

/-- Advance a frozen drain: accepted requests may only become terminal. -/
def progress (store : Store) (drain : DrainRow) : Except PersistenceError (DrainRow × Store) := do
  let (accepted, terminal) := frozenCounts store drain.items
  ensure (accepted ≤ drain.acceptedCount ∧ drain.terminalCount ≤ terminal ∧
    terminal - drain.terminalCount = drain.acceptedCount - accepted) .corruptOrMissing
  let advance := fun row : DrainRow => { row with
    acceptedCount := accepted
    terminalCount := terminal
    completed := decide (accepted = 0) }
  let drains ← Table.write .unavailable
    (updateWhere (fun row => row.id = drain.id) advance store.drains.rows)
  return (advance drain, { store with drains := drains })

def exactReplay (crypto : Crypto) (store : Store) (lock : PubkyLockResource) :
    Except PersistenceError (Option PaymentDrainSnapshot × Store) :=
  let lockHash := textHash crypto lock.canonical
  let existing := (store.creatorByHash (textHash crypto lock.creator)).bind fun creator =>
    (drainByLock store creator.id lockHash).filter fun drain =>
      (store.lockGeneration creator.id lockHash).any fun generation =>
        generation.currentGeneration = drain.lockResourceGeneration &&
          generation.activeDrainId = some drain.id
  match existing with
  | none => .ok (none, store)
  | some drain => do
    ensure (drain.lockResource = lock.canonical) .conflict
    validateFrozenSets store drain
    let (drain, store) ← progress store drain
    let result ← snapshot drain true
    return (some result, store)

/-- The lock generation that is closed for the drain. -/
def isActive (drain : DrainRow) (row : LockGenerationRow) : Bool :=
  row.creatorId = drain.creatorId && row.lockResourceLookupHash = drain.lockResourceLookupHash &&
    row.activeDrainId = some drain.id

theorem isActive_iff {drain : DrainRow} {row : LockGenerationRow} :
    isActive drain row = true ↔ row.creatorId = drain.creatorId ∧
      row.lockResourceLookupHash = drain.lockResourceLookupHash ∧
      row.activeDrainId = some drain.id := by
  simp [isActive, and_assoc]

def nextGeneration (token : LookupHash) (row : LockGenerationRow) : LockGenerationRow :=
  { row with
    currentGeneration := row.currentGeneration + 1
    activeDrainId := none
    lastCleanupToken := some token }

def deleteDrain (store : Store) (drain : DrainRow) (cleanupToken : LookupHash) :
    Except PersistenceError Store := do
  ensure (drain.completed = true ∧ store.lockGenerations.rows.any (isActive drain) = true)
    .unavailable
  let generations ← Table.write .unavailable
    (updateWhere (isActive drain) (nextGeneration cleanupToken) store.lockGenerations.rows)
  let drains ← Table.write .unavailable
    (store.drains.rows.filter fun row => row.id ≠ drain.id)
  return { store with lockGenerations := generations, drains := drains }

def cleanupActive (crypto : Crypto) (store : Store) (lock : PubkyLockResource)
    (creatorId : Uuid) (generation : LockGenerationRow) (drainId : Uuid)
    (cleanupToken : LookupHash) : Except PersistenceError Store := do
  let drain ← demand .corruptOrMissing
    ((lookup (fun row : DrainRow => some row.id) drainId store.drains.rows).filter fun drain =>
      drain.creatorId = creatorId &&
        drain.lockResourceLookupHash = textHash crypto lock.canonical &&
        drain.lockResourceGeneration = generation.currentGeneration)
  ensure (crypto.paymentDrainCleanupToken drain.id = cleanupToken) .conflict
  ensure (drain.lockResource = lock.canonical) .corruptOrMissing
  validateFrozenSets store drain
  let (accepted, terminal) := frozenCounts store drain.items
  ensure (accepted = drain.acceptedCount ∧ terminal = drain.terminalCount ∧
    drain.completed = decide (accepted = 0)) .corruptOrMissing
  ensure (accepted = 0) .conflict
  deleteDrain store drain cleanupToken

/-- Remove a completed drain; repeating the cleanup needs its token. -/
def cleanupCompleted (crypto : Crypto) (store : Store) (lock : PubkyLockResource)
    (cleanupToken : LookupHash) : Except PersistenceError Store := do
  let creator ← demand .conflict (store.creatorByHash (textHash crypto lock.creator))
  let lockHash := textHash crypto lock.canonical
  match store.lockGeneration creator.id lockHash with
  | none =>
    if (drainByLock store creator.id lockHash).isSome ∨ store.admissions.rows.any (fun row =>
        row.creatorId = creator.id && row.lockResourceLookupHash = lockHash) = true then
      .error .corruptOrMissing
    else .error .conflict
  | some generation =>
    match generation.activeDrainId with
    | none => do
      ensure (drainByLock store creator.id lockHash = none) .corruptOrMissing
      let receipt ← demand .corruptOrMissing generation.lastCleanupToken
      ensure (receipt = cleanupToken) .conflict
      return store
    | some drainId =>
      cleanupActive crypto store lock creator.id generation drainId cleanupToken

def generationInvoices (store : Store) (creatorId : Uuid) (lockHash : LookupHash)
    (generation : Int) : List AdmissionRow :=
  (store.admissions.rows.filter fun row => row.creatorId = creatorId &&
    row.lockResourceLookupHash = lockHash && row.lockResourceGeneration = generation).insertionSort
      (·.id ≤ ·.id)

def invoiceAttempts (store : Store) (invoiceId : Uuid) : List LifecycleRow :=
  (store.lifecycles.rows.filter (·.invoiceId = some invoiceId)).insertionSort
    (·.sdkPaymentRequestId ≤ ·.sdkPaymentRequestId)

/-- Whether a drain has to receive from the counterparty of a proposal first. -/
def awaitsDrainReceive (store : Store) (invoiceId : Uuid) (proposal : OutboxRow) : Bool :=
  let attempts := invoiceAttempts store invoiceId
  proposal.invoiceId = some invoiceId && proposal.intentKind = .paymentRequestProposal &&
    ((proposal.status ≠ .permanentlyFailed && attempts.isEmpty) ||
      attempts.any fun attempt => attempt.requestState ≠ .proposalExpired &&
        attempt.requestState ≠ .rejected && attempt.requestState ≠ .canceled)

def requiredReceiveTargetsForLock (sdk : Sdk) (store : Store) (creatorId : Uuid)
    (lockHash : LookupHash) : Except PersistenceError (List String) :=
  let invoices := (store.lockGeneration creatorId lockHash).elim [] fun generation =>
    generationInvoices store creatorId lockHash generation.currentGeneration
  decodeRequiredReceiveTargets sdk
    (invoices.filterMap fun invoice => store.outbox.rows.find? (awaitsDrainReceive store invoice.id))

/-- How an invoice without an attempt ended. -/
def terminalFallback (store : Store) (invoiceId : Uuid) : Option PaymentRequestLifecycleState :=
  if store.rotationItems.any (fun item => item.invoiceId = some invoiceId &&
      item.classification = .proposalSuppressed) then
    some .canceled
  else if store.outbox.rows.any (fun proposal => proposal.invoiceId = some invoiceId &&
      proposal.intentKind = .paymentRequestProposal && proposal.status = .permanentlyFailed &&
      proposal.errorClass = some .proposalExpired) then
    some .proposalExpired
  else none

/-- An attempt as a drain reads it; the fallback has no request of its own. -/
structure ParsedAttempt where
  state : PaymentRequestLifecycleState
  paymentRequestId : Option String
  lastEventAt : Option OffsetDateTime
deriving DecidableEq

def parsedAttempts (store : Store) (invoiceId : Uuid) :
    Except PersistenceError (List ParsedAttempt) :=
  match invoiceAttempts store invoiceId with
  | [] => do
    let state ← demand .corruptOrMissing (terminalFallback store invoiceId)
    return [⟨state, none, none⟩]
  | attempts => .ok (attempts.map fun attempt =>
    ⟨attempt.requestState, some attempt.sdkPaymentRequestId, some attempt.lastEventAt⟩)

/-- The last attempt among those with the latest event. -/
def latestAttempt : List ParsedAttempt → Option ParsedAttempt
  | [] => none
  | first :: rest => some (rest.foldl
      (fun latest attempt =>
        if latest.lastEventAt.elim true fun at_ => attempt.lastEventAt.any (at_ ≤ ·) then attempt
        else latest)
      first)

/-- The classification of a request that nobody accepted and nobody still holds. -/
def terminalClassification : PaymentRequestLifecycleState →
    Except PersistenceError DrainClassification
  | .rejected => .ok .rejected
  | .canceled => .ok .canceled
  | .proposalExpired => .ok .proposalExpired
  | _ => .error .corruptOrMissing

def classify (attempts : List ParsedAttempt) : Except PersistenceError DrainClassification := do
  ensure (∀ attempt ∈ attempts, attempt.state ≠ .invalidConflict) .conflict
  ensure (∀ attempt ∈ attempts, attempt.state ≠ .recoveryRequired) .unavailable
  if attempts.any (·.state.isAccepted) then return .accepted
  else if attempts.any (·.state = .proposed) then return .cancellationEnqueued
  else do
    let latest ← demand .corruptOrMissing (latestAttempt attempts)
    terminalClassification latest.state

def invoiceProposalIntent (sdk : Sdk) (store : Store) (creatorId invoiceId : Uuid) :
    Except PersistenceError DeliveryIntentV1 := do
  let intents ← (store.outbox.rows.filter fun row => row.creatorId = creatorId &&
    row.invoiceId = some invoiceId).mapM fun row => decodeIntent sdk row.intent
  match intents.filter (·.isProposal) with
  | [proposal] => return proposal
  | _ => .error .corruptOrMissing

/-- A cancellation that a drain requires: a new one, or one that a rotation owns. -/
structure PreparedCancellation where
  invoiceId : Uuid
  paymentRequestId : String
  outboxId : Uuid
  intent : DeliveryIntentV1
  insert : Bool
deriving DecidableEq

def rotationOwned (store : Store) (invoiceId : Uuid) (paymentRequestId : String)
    (cancellationId : Uuid) : Bool :=
  store.rotationItems.any fun item => item.invoiceId = some invoiceId &&
    item.sdkPaymentRequestId = some paymentRequestId &&
    item.classification = .cancellationPending && item.cancellationOutboxId = some cancellationId

def prepareCancellation (sdk : Sdk) (store : Store) (creatorId invoiceId : Uuid)
    (proposal : DeliveryIntentV1) (paymentRequestId : String) :
    Except PersistenceError (PreparedCancellation × Store) := do
  let intent ← orFail .corruptOrMissing (proposal.paymentRequestCancellation sdk paymentRequestId)
  match Creators.existingCancellation store creatorId (.invoice invoiceId) paymentRequestId with
  | some row => do
    ensure (rotationOwned store invoiceId paymentRequestId row.id = true ∧
      row.status ≠ .permanentlyFailed) .conflict
    let existing ← decodeIntent sdk row.intent
    ensure (existing = intent) .conflict
    return (⟨invoiceId, paymentRequestId, row.id, intent, false⟩, store)
  | none =>
    let (id, store) := store.newUuid
    return (⟨invoiceId, paymentRequestId, id, intent, true⟩, store)

def prepareCancellations (sdk : Sdk) (creatorId invoiceId : Uuid) (proposal : DeliveryIntentV1) :
    Store → List ParsedAttempt → Except PersistenceError (List PreparedCancellation × Store)
  | store, [] => .ok ([], store)
  | store, attempt :: rest => do
    let paymentRequestId ← demand .corruptOrMissing attempt.paymentRequestId
    let (first, store) ←
      prepareCancellation sdk store creatorId invoiceId proposal paymentRequestId
    let (others, store) ← prepareCancellations sdk creatorId invoiceId proposal store rest
    return (first :: others, store)

def drainInvoice (sdk : Sdk) (store : Store) (creatorId : Uuid) (invoice : AdmissionRow) :
    Except PersistenceError ((DrainItem × List PreparedCancellation) × Store) := do
  let attempts ← parsedAttempts store invoice.id
  let classification ← classify attempts
  let proposed := attempts.filter (·.state = .proposed)
  if proposed = [] then return ((⟨invoice.id, classification⟩, []), store)
  else do
    let proposal ← invoiceProposalIntent sdk store creatorId invoice.id
    let (cancellations, store) ←
      prepareCancellations sdk creatorId invoice.id proposal store proposed
    return ((⟨invoice.id, classification⟩, cancellations), store)

def drainInvoices (sdk : Sdk) (creatorId : Uuid) : Store → List AdmissionRow →
    Except PersistenceError (List (DrainItem × List PreparedCancellation) × Store)
  | store, [] => .ok ([], store)
  | store, invoice :: rest => do
    let (first, store) ← drainInvoice sdk store creatorId invoice
    let (others, store) ← drainInvoices sdk creatorId store rest
    return (first :: others, store)

/-- Enqueue a cancellation, or require the one that a rotation enqueued. -/
def requireCancellation (creatorId : Uuid) (store : Store) (cancellation : PreparedCancellation) :
    Except PersistenceError Store :=
  if cancellation.insert then do
    let outbox ← Table.write .unavailable (store.outbox.rows ++
      [Creators.cancellationOutboxRow cancellation.outboxId creatorId
        (.invoice cancellation.invoiceId) cancellation.intent cancellation.paymentRequestId true
        store.clock])
    return { store with outbox := outbox }
  else do
    let isTarget := fun row : OutboxRow => row.id = cancellation.outboxId &&
      row.creatorId = creatorId && row.ownedBy (.invoice cancellation.invoiceId) &&
      row.intentKind = .paymentRequestCancellation &&
      row.cancellationTarget = some cancellation.paymentRequestId &&
      row.status ≠ .permanentlyFailed
    ensure (store.outbox.rows.any isTarget = true) .conflict
    let outbox ← Table.write .unavailable
      (updateWhere isTarget (fun row => { row with cancellationDrainRequired := true })
        store.outbox.rows)
    return { store with outbox := outbox }

def insertDrain (store : Store) (lock : PubkyLockResource) (generation : LockGenerationRow)
    (drainId : Uuid) (found : List (DrainItem × List PreparedCancellation)) :
    Except PersistenceError (PaymentDrainSnapshot × Store) := do
  let items := found.map (·.1)
  let cancellations := found.flatMap (·.2)
  let acceptedCount := (items.filter (·.classification = .accepted)).length
  let terminalCount := (items.filter fun item => item.classification ≠ .accepted &&
    item.classification ≠ .cancellationEnqueued).length
  let drain : DrainRow := {
    id := drainId
    creatorId := generation.creatorId
    lockResourceLookupHash := generation.lockResourceLookupHash
    lockResourceGeneration := generation.currentGeneration
    lockResource := lock.canonical
    acceptedCount, terminalCount
    completed := decide (acceptedCount = 0)
    createdAt := store.clock
    items
    cancellations := cancellations.map fun c => ⟨c.invoiceId, c.paymentRequestId, c.outboxId⟩ }
  let drains ← Table.write .unavailable (store.drains.rows ++ [drain])
  let generations ← Table.write .unavailable
    (updateWhere
      (fun row => row.creatorId = generation.creatorId &&
        row.lockResourceLookupHash = generation.lockResourceLookupHash)
      (fun row => { row with activeDrainId := some drainId })
      store.lockGenerations.rows)
  let store ← cancellations.foldlM (requireCancellation generation.creatorId)
    { store with drains := drains, lockGenerations := generations }
  return (⟨drainId, store.clock, acceptedCount, terminalCount, cancellations.length,
    decide (acceptedCount = 0), false⟩, store)

/-- Evidence of receiving must cover what the drain has to receive first; a drain
without evidence does not look. -/
def checkReceiveEvidence (sdk : Sdk) (store : Store) (creatorId : Uuid) (lockHash : LookupHash) :
    Option (List String) → Except PersistenceError Unit
  | none => .ok ()
  | some evidence => do
    let current ← requiredReceiveTargetsForLock sdk store creatorId lockHash
    ensure (receiveEvidenceCovers current evidence = true) .unavailable

def createDrain (crypto : Crypto) (sdk : Sdk) (store : Store) (lock : PubkyLockResource)
    (creator : CreatorRow) (receiveEvidence : Option (List String)) :
    Except PersistenceError (PaymentDrainSnapshot × Store) := do
  let lockHash := textHash crypto lock.canonical
  let (generation, store) ← Invoices.lockGenerationForUpdate store creator.id lockHash
  ensure (0 ≤ generation.currentGeneration ∧ generation.activeDrainId = none) .corruptOrMissing
  checkReceiveEvidence sdk store creator.id lockHash receiveEvidence
  let (drainId, store) := store.newUuid
  let (found, store) ← drainInvoices sdk creator.id store
    (generationInvoices store creator.id lockHash generation.currentGeneration)
  insertDrain store lock generation drainId found

def createInner (crypto : Crypto) (sdk : Sdk) (store : Store) (lock : PubkyLockResource)
    (receiveEvidence : Option (List String)) :
    Except PersistenceError (PaymentDrainSnapshot × Store) := do
  let creator ← demand .corruptOrMissing (store.creatorByHash (textHash crypto lock.creator))
  match drainByLock store creator.id (textHash crypto lock.canonical) with
  | some existing => do
    ensure (existing.lockResource = lock.canonical) .conflict
    let (replay, store) ← exactReplay crypto store lock
    let result ← demand .corruptOrMissing replay
    return (result, store)
  | none => createDrain crypto sdk store lock creator receiveEvidence

section Inversion

variable {crypto : Crypto} {sdk : Sdk} {store store' : Store} {lock : PubkyLockResource}

def activeDrain (crypto : Crypto) (store : Store) (lock : PubkyLockResource) : Option DrainRow :=
  let lockHash := textHash crypto lock.canonical
  (store.creatorByHash (textHash crypto lock.creator)).bind fun creator =>
    (drainByLock store creator.id lockHash).filter fun drain =>
      (store.lockGeneration creator.id lockHash).any fun generation =>
        generation.currentGeneration = drain.lockResourceGeneration &&
          generation.activeDrainId = some drain.id

def refreshed (store : Store) (items : List DrainItem) (row : DrainRow) : DrainRow :=
  { row with
    acceptedCount := (frozenCounts store items).1
    terminalCount := (frozenCounts store items).2
    completed := decide ((frozenCounts store items).1 = 0) }

def report (drain : DrainRow) (replayed : Bool) : PaymentDrainSnapshot :=
  ⟨drain.id, drain.createdAt, drain.acceptedCount, drain.terminalCount,
    drain.cancellations.length, drain.completed, replayed⟩

def Falls (store : Store) (drain : DrainRow) : Prop :=
  (frozenCounts store drain.items).1 ≤ drain.acceptedCount ∧
    drain.terminalCount ≤ (frozenCounts store drain.items).2 ∧
    (frozenCounts store drain.items).2 - drain.terminalCount =
      drain.acceptedCount - (frozenCounts store drain.items).1

theorem exactReplay_of_none (inactive : activeDrain crypto store lock = none) :
    exactReplay crypto store lock = .ok (none, store) := by
  unfold exactReplay
  dsimp only [activeDrain] at inactive ⊢
  rw [inactive]

theorem exactReplay_of_some {drain : DrainRow} (active : activeDrain crypto store lock = some drain) :
    exactReplay crypto store lock = do
      ensure (drain.lockResource = lock.canonical) .conflict
      validateFrozenSets store drain
      let (drain, store) ← progress store drain
      let result ← snapshot drain true
      return (some result, store) := by
  unfold exactReplay
  dsimp only [activeDrain] at active ⊢
  rw [active]

theorem exactReplay_ok {result : Option PaymentDrainSnapshot}
    (done : exactReplay crypto store lock = .ok (result, store')) :
    (activeDrain crypto store lock = none ∧ result = none ∧ store' = store) ∨
      ∃ drain drains, activeDrain crypto store lock = some drain ∧
        drain.lockResource = lock.canonical ∧ Falls store drain ∧
        result = some (report (refreshed store drain.items drain) true) ∧
        store' = { store with drains := drains } ∧
        drains.rows = updateWhere (fun row => row.id = drain.id) (refreshed store drain.items)
          store.drains.rows := by
  cases active : activeDrain crypto store lock with
  | none =>
    rw [exactReplay_of_none active] at done
    cases done
    exact .inl ⟨rfl, rfl, rfl⟩
  | some drain =>
    rw [exactReplay_of_some active] at done
    obtain ⟨_, same, _, _, ⟨advanced, mid⟩, progressed, done⟩ := bind₃_eq_ok.mp done
    obtain ⟨result, reported, done⟩ := bind_eq_ok.mp done
    cases done
    obtain ⟨_, falls, drains, written, progressed⟩ := bind₂_eq_ok.mp progressed
    cases progressed
    obtain ⟨_, _, reported⟩ := bind_eq_ok.mp reported
    cases reported
    have falls := ensure_eq_ok.mp falls
    exact .inr ⟨drain, drains, rfl, ensure_eq_ok.mp same, falls, rfl, rfl,
      Table.write_eq_ok.mp written⟩

/-- What a cleanup checked before it removed a drain. -/
structure Cleans (crypto : Crypto) (store : Store) (lock : PubkyLockResource)
    (token : LookupHash) (creator : CreatorRow) (generation : LockGenerationRow)
    (drain : DrainRow) : Prop where
  found : store.creatorByHash (textHash crypto lock.creator) = some creator
  current : store.lockGeneration creator.id (textHash crypto lock.canonical) = some generation
  active : generation.activeDrainId = some drain.id
  stored : drain ∈ store.drains.rows
  own : drain.creatorId = creator.id ∧
    drain.lockResourceLookupHash = textHash crypto lock.canonical ∧
    drain.lockResourceGeneration = generation.currentGeneration
  token : crypto.paymentDrainCleanupToken drain.id = token
  settled : (frozenCounts store drain.items).1 = 0

theorem cleanupCompleted_ok {token : LookupHash}
    (done : cleanupCompleted crypto store lock token = .ok store') :
    store' = store ∨ ∃ (creator : CreatorRow) (generation : LockGenerationRow) (drain : DrainRow)
        (generations : Table LockGenerationRow _) (drains : Table DrainRow _),
      Cleans crypto store lock token creator generation drain ∧
      store' = { store with lockGenerations := generations, drains := drains } ∧
      generations.rows =
        updateWhere (isActive drain) (nextGeneration token) store.lockGenerations.rows ∧
      drains.rows = store.drains.rows.filter fun row => row.id ≠ drain.id := by
  obtain ⟨creator, found, done⟩ := bind_eq_ok.mp done
  dsimp only at done
  split at done
  · split at done
    · cases done
    · cases done
  · rename_i generation current
    split at done
    · obtain ⟨_, _, _, _, _, _, done⟩ := bind₃_eq_ok.mp done
      cases done
      exact .inl rfl
    · rename_i drainId active
      obtain ⟨drain, stored, _, owned, _, _, done⟩ := bind₃_eq_ok.mp done
      obtain ⟨_, _, _, _, _, settled, done⟩ := bind₃_eq_ok.mp done
      obtain ⟨_, _, generations, ended, drains, deleted, done⟩ := bind₃_eq_ok.mp done
      cases done
      obtain ⟨stored, own⟩ := Option.filter_eq_some_iff.mp (demand_eq_ok.mp stored)
      simp only [Bool.and_eq_true, decide_eq_true_eq] at own
      have key := lookup_key stored
      obtain rfl := Option.some.inj key
      exact .inr ⟨creator, generation, drain, generations, drains,
        ⟨demand_eq_ok.mp found, current, active, lookup_mem stored, ⟨own.1.1, own.1.2, own.2⟩,
          ensure_eq_ok.mp owned, ensure_eq_ok.mp settled⟩, rfl, Table.write_eq_ok.mp ended,
        Table.write_eq_ok.mp deleted⟩


inductive Requires : OutboxRow → OutboxRow → Prop where
  | same (row : OutboxRow) : Requires row row
  | required (row : OutboxRow) (cancellation : row.intentKind = .paymentRequestCancellation)
      (open_ : row.status ≠ .permanentlyFailed) :
      Requires row { row with cancellationDrainRequired := true }

theorem Requires.trans {a b c : OutboxRow} (first : Requires a b) (second : Requires b c) :
    Requires a c := by
  cases first with
  | same => exact second
  | required cancellation open_ => cases second <;> exact .required a cancellation open_

def IsRequired (row : OutboxRow) : Prop :=
  ∃ id creatorId invoiceId intent target now, row =
    Creators.cancellationOutboxRow id creatorId (.invoice invoiceId) intent target true now

theorem IsRequired.kept {row row' : OutboxRow} (added : IsRequired row)
    (keeps : Requires row row') : IsRequired row' := by
  cases keeps with
  | same => exact added
  | required =>
    obtain ⟨id, creatorId, invoiceId, intent, target, now, rfl⟩ := added
    exact ⟨id, creatorId, invoiceId, intent, target, now, rfl⟩

variable {creatorId : Uuid} {cancellation : PreparedCancellation} {proposal : DeliveryIntentV1}
  {found : DrainItem × List PreparedCancellation} {invoices : List AdmissionRow}

theorem requireCancellation_ok
    (done : requireCancellation creatorId store cancellation = .ok store') :
    ∃ outbox, store' = { store with outbox := outbox } ∧
      Grows Requires IsRequired store.outbox.rows outbox.rows := by
  unfold requireCancellation at done
  split at done
  · obtain ⟨outbox, written, done⟩ := bind_eq_ok.mp done
    cases done
    refine ⟨outbox, rfl, ?_⟩
    rw [Table.write_eq_ok.mp written]
    exact .concat (fun row _ => .same row) ⟨_, _, _, _, _, _, rfl⟩
  · obtain ⟨_, _, outbox, written, done⟩ := bind₂_eq_ok.mp done
    cases done
    refine ⟨outbox, rfl, ?_⟩
    rw [Table.write_eq_ok.mp written]
    refine .updateWhere (fun row _ _ => .same row) fun row _ met => ?_
    simp only [Bool.and_eq_true, decide_eq_true_eq] at met
    exact .required row met.1.1.2 met.2

structure Carries (cancellation : PreparedCancellation) (row : OutboxRow) : Prop where
  id : row.id = cancellation.outboxId
  request : row.invoiceCancellation = some (cancellation.invoiceId, cancellation.paymentRequestId)
  required : row.cancellationDrainRequired = true

theorem Carries.kept {row row' : OutboxRow}
    (carries : Carries cancellation row) (keeps : Requires row row') :
    Carries cancellation row' := by
  cases keeps with
  | same => exact carries
  | required => exact ⟨carries.id, carries.request, rfl⟩

theorem requireCancellation_required
    (done : requireCancellation creatorId store cancellation = .ok store') :
    ∃ row ∈ store'.outbox.rows, Carries cancellation row := by
  unfold requireCancellation at done
  split at done
  · obtain ⟨outbox, written, done⟩ := bind_eq_ok.mp done
    cases done
    refine ⟨Creators.cancellationOutboxRow cancellation.outboxId creatorId
      (.invoice cancellation.invoiceId) cancellation.intent cancellation.paymentRequestId true
      store.clock, ?_, rfl, rfl, rfl⟩
    rw [Table.write_eq_ok.mp written]
    exact List.mem_append_right _ (List.mem_singleton_self _)
  · obtain ⟨_, target, outbox, written, done⟩ := bind₂_eq_ok.mp done
    cases done
    obtain ⟨row, stored, met⟩ := List.any_eq_true.mp (ensure_eq_ok.mp target)
    have carried : Carries cancellation { row with cancellationDrainRequired := true } := by
      simp only [OutboxRow.ownedBy, LifecycleOwner.invoiceId, Bool.and_eq_true,
        decide_eq_true_eq] at met
      obtain ⟨⟨⟨⟨⟨id, -⟩, owner, -⟩, kind⟩, target⟩, -⟩ := met
      refine ⟨id, ?_, rfl⟩
      dsimp only [OutboxRow.invoiceCancellation]
      rw [if_pos kind, of_decide_eq_true owner, target]
      rfl
    refine ⟨{ row with cancellationDrainRequired := true }, ?_, carried⟩
    rw [Table.write_eq_ok.mp written]
    exact mem_updateWhere.mpr (.inr ⟨row, stored, met, rfl⟩)

theorem requireCancellations_ok {cancellations : List PreparedCancellation}
    (done : cancellations.foldlM (requireCancellation creatorId) store = .ok store') :
    ∃ outbox, store' = { store with outbox := outbox } ∧
      Grows Requires IsRequired store.outbox.rows outbox.rows ∧
      ∀ cancellation ∈ cancellations, ∃ row ∈ outbox.rows, Carries cancellation row := by
  induction cancellations generalizing store with
  | nil =>
    cases done
    exact ⟨store'.outbox, rfl, .refl fun row _ => .same row, fun _ member => by cases member⟩
  | cons cancellation cancellations ih =>
    rw [List.foldlM_cons] at done
    obtain ⟨mid, first, rest⟩ := bind_eq_ok.mp done
    obtain ⟨row, stored, carries⟩ := requireCancellation_required first
    obtain ⟨outbox, rfl, grows⟩ := requireCancellation_ok first
    obtain ⟨outbox', rfl, grows', all⟩ := ih rest
    refine ⟨outbox', rfl,
      grows.trans grows' (fun _ _ _ => .trans) (fun _ _ => .kept) fun _ => id, ?_⟩
    rintro other (_ | ⟨_, member⟩)
    · obtain ⟨row', stored', keeps⟩ := grows'.mem stored
      exact ⟨row', stored', carries.kept keeps⟩
    · exact all other member

/-- What is found out about invoices only draws identities. -/
def DrawsIdentities (store store' : Store) : Prop :=
  ∃ next, store' = { store with db := { store.db with nextUuid := next } } ∧
    store.db.nextUuid ≤ next

theorem DrawsIdentities.refl (store : Store) : DrawsIdentities store store :=
  ⟨store.db.nextUuid, rfl, le_rfl⟩

theorem DrawsIdentities.trans {first second third : Store} (early : DrawsIdentities first second)
    (late : DrawsIdentities second third) : DrawsIdentities first third := by
  obtain ⟨next, rfl, order⟩ := early
  obtain ⟨next', rfl, order'⟩ := late
  exact ⟨next', rfl, le_trans order order'⟩

theorem prepareCancellation_ok {invoiceId : Uuid}
    {target : String} {prepared : PreparedCancellation}
    (done : prepareCancellation sdk store creatorId invoiceId proposal target =
      .ok (prepared, store')) :
    DrawsIdentities store store' ∧ prepared.invoiceId = invoiceId ∧
      prepared.paymentRequestId = target := by
  obtain ⟨_, _, done⟩ := bind_eq_ok.mp done
  split at done
  · obtain ⟨_, _, _, _, _, _, done⟩ := bind₃_eq_ok.mp done
    cases done
    exact ⟨.refl _, rfl, rfl⟩
  · cases done
    exact ⟨⟨store.db.nextUuid + 1, rfl, Nat.le_succ _⟩, rfl, rfl⟩

theorem prepareCancellations_ok {invoiceId : Uuid}
    {attempts : List ParsedAttempt} {prepared : List PreparedCancellation}
    (done : prepareCancellations sdk creatorId invoiceId proposal store attempts =
      .ok (prepared, store')) :
    DrawsIdentities store store' ∧
      prepared.map (fun cancellation =>
          (cancellation.invoiceId, some cancellation.paymentRequestId)) =
        attempts.map fun attempt => (invoiceId, attempt.paymentRequestId) := by
  induction attempts generalizing store prepared with
  | nil =>
    cases done
    exact ⟨.refl _, rfl⟩
  | cons attempt attempts ih =>
    obtain ⟨_, identity, ⟨_, mid⟩, first, done⟩ := bind₂_eq_ok.mp done
    obtain ⟨⟨_, last⟩, rest, done⟩ := bind_eq_ok.mp done
    cases done
    obtain ⟨draws, owner, target⟩ := prepareCancellation_ok first
    obtain ⟨draws', requests⟩ := ih rest
    refine ⟨draws.trans draws', ?_⟩
    rw [List.map_cons, List.map_cons, requests, owner, target, demand_eq_ok.mp identity]

/-- What a drain finds out about one invoice: its classification, and a cancellation for
every attempt that is still proposed. -/
structure Drained (store : Store) (invoice : AdmissionRow)
    (found : DrainItem × List PreparedCancellation) : Prop where
  item : found.1.invoiceId = invoice.id
  classified : parsedAttempts store invoice.id >>= classify = .ok found.1.classification
  cancellations : ∃ attempts, parsedAttempts store invoice.id = .ok attempts ∧
    found.2.map (fun cancellation =>
        (cancellation.invoiceId, some cancellation.paymentRequestId)) =
      (attempts.filter (·.state = .proposed)).map fun attempt =>
        (invoice.id, attempt.paymentRequestId)

theorem drainInvoice_ok {invoice : AdmissionRow}
    (done : drainInvoice sdk store creatorId invoice = .ok (found, store')) :
    DrawsIdentities store store' ∧ Drained store invoice found := by
  obtain ⟨attempts, parsed, classification, classified, done⟩ := bind₂_eq_ok.mp done
  have classified : parsedAttempts store invoice.id >>= classify = .ok classification :=
    bind_eq_ok.mpr ⟨attempts, parsed, classified⟩
  dsimp only at done
  split at done
  · rename_i none
    cases done
    exact ⟨.refl _, rfl, classified, attempts, parsed, by rw [none]; rfl⟩
  · obtain ⟨_, _, ⟨_, _⟩, prepared, done⟩ := bind₂_eq_ok.mp done
    cases done
    obtain ⟨draws, requests⟩ := prepareCancellations_ok prepared
    exact ⟨draws, rfl, classified, attempts, parsed, requests⟩

theorem DrawsIdentities.drained {mid : Store} {invoice : AdmissionRow}
    (draws : DrawsIdentities store mid)
    (drained : Drained mid invoice found) : Drained store invoice found := by
  obtain ⟨next, rfl, -⟩ := draws
  exact ⟨drained.item, drained.classified, drained.cancellations⟩

theorem drainInvoices_ok {found : List (DrainItem × List PreparedCancellation)}
    (done : drainInvoices sdk creatorId store invoices = .ok (found, store')) :
    DrawsIdentities store store' ∧ List.Forall₂ (Drained store) invoices found := by
  induction invoices generalizing store found with
  | nil =>
    cases done
    exact ⟨.refl _, .nil⟩
  | cons invoice invoices ih =>
    obtain ⟨⟨_, mid⟩, first, done⟩ := bind_eq_ok.mp done
    obtain ⟨⟨_, last⟩, rest, done⟩ := bind_eq_ok.mp done
    cases done
    obtain ⟨draws, drained⟩ := drainInvoice_ok first
    obtain ⟨draws', others⟩ := ih rest
    exact ⟨draws.trans draws', .cons drained (others.imp fun _ _ => draws.drained)⟩

theorem drained_items {found : List (DrainItem × List PreparedCancellation)}
    (drained : List.Forall₂ (Drained store) invoices found) :
    found.map (·.1.invoiceId) = invoices.map (·.id) := by
  induction drained with
  | nil => rfl
  | cons first _ ih => rw [List.map_cons, List.map_cons, first.item, ih]

/-- What a new drain freezes: every invoice of its generation, counted by how its
request stands, and the cancellations it requires. -/
structure Freezes (store : Store) (outbox : List OutboxRow) (lock : PubkyLockResource)
    (generation : LockGenerationRow) (drain : DrainRow) : Prop where
  creatorId : drain.creatorId = generation.creatorId
  lockHash : drain.lockResourceLookupHash = generation.lockResourceLookupHash
  current : drain.lockResourceGeneration = generation.currentGeneration
  lockResource : drain.lockResource = lock.canonical
  accepted : drain.acceptedCount = (drain.items.filter (·.classification = .accepted)).length
  terminal : drain.terminalCount = (drain.items.filter fun item =>
    item.classification ≠ .accepted && item.classification ≠ .cancellationEnqueued).length
  completed : drain.completed = decide (drain.acceptedCount = 0)
  items : drain.items.map (·.invoiceId) = (generationInvoices store generation.creatorId
    generation.lockResourceLookupHash generation.currentGeneration).map (·.id)
  cancellations : ∀ cancellation ∈ drain.cancellations, ∃ row ∈ outbox,
    row.id = cancellation.cancellationOutboxId ∧ row.cancellationDrainRequired = true

structure WrittenFrom (store : Store) (outbox : List OutboxRow) (generation : LockGenerationRow)
    (drain : DrainRow) (found : List (DrainItem × List PreparedCancellation)) : Prop where
  drained : List.Forall₂ (Drained store) (generationInvoices store generation.creatorId
    generation.lockResourceLookupHash generation.currentGeneration) found
  items : drain.items = found.map (·.1)
  cancellations : drain.cancellations = (found.flatMap (·.2)).map fun cancellation =>
    ⟨cancellation.invoiceId, cancellation.paymentRequestId, cancellation.outboxId⟩
  carried : ∀ cancellation ∈ found.flatMap (·.2), ∃ row ∈ outbox, Carries cancellation row

/-- Everything a drain call wrote: a replay touches its drain only, and a new drain
fences its lock and requires its cancellations. -/
theorem createInner_ok {evidence : Option (List String)} {result : PaymentDrainSnapshot}
    (done : createInner crypto sdk store lock evidence = .ok (result, store')) :
    exactReplay crypto store lock = .ok (some result, store') ∨
      ∃ (creator : CreatorRow) (drain : DrainRow) (generation : LockGenerationRow)
          (generations : Table LockGenerationRow _) (drains : Table DrainRow _)
          (outbox : Table OutboxRow _) (next : Uuid),
        store' = { store with
          lockGenerations := generations
          drains := drains
          outbox := outbox
          db := { store.db with nextUuid := next } } ∧
        store.creatorByHash (textHash crypto lock.creator) = some creator ∧
        generation.activeDrainId = none ∧ drain.id < next ∧ store.db.nextUuid ≤ drain.id ∧
        drains.rows = store.drains.rows ++ [drain] ∧
        generations.rows = updateWhere
          (fun row => row.creatorId = generation.creatorId &&
            row.lockResourceLookupHash = generation.lockResourceLookupHash)
          (fun row => { row with activeDrainId := some drain.id })
          (insertNew (fun row => row.creatorId = creator.id &&
              row.lockResourceLookupHash = textHash crypto lock.canonical)
            ⟨creator.id, textHash crypto lock.canonical, 0, none, none⟩
            store.lockGenerations.rows) ∧
        lookup (fun row => some (row.creatorId, row.lockResourceLookupHash))
          (creator.id, textHash crypto lock.canonical)
          (insertNew (fun row => row.creatorId = creator.id &&
              row.lockResourceLookupHash = textHash crypto lock.canonical)
            ⟨creator.id, textHash crypto lock.canonical, 0, none, none⟩
            store.lockGenerations.rows) = some generation ∧
        Grows Requires IsRequired store.outbox.rows outbox.rows ∧
        Freezes store outbox.rows lock generation drain ∧ result = report drain false ∧
        ∃ found, WrittenFrom store outbox.rows generation drain found := by
  obtain ⟨creator, found, done⟩ := bind_eq_ok.mp done
  split at done
  · obtain ⟨_, _, ⟨replay, replayed⟩, again, done⟩ := bind₂_eq_ok.mp done
    obtain ⟨_, reported, done⟩ := bind_eq_ok.mp done
    cases done
    rw [demand_eq_ok.mp reported] at again
    exact .inl again
  · obtain ⟨⟨generation, locked⟩, hlock, done⟩ := bind_eq_ok.mp done
    obtain ⟨_, free, _, _, ⟨items, drawn⟩, invoices, done⟩ := bind₃_eq_ok.mp done
    obtain ⟨drains, inserted, fenced, fence, required, requires, done⟩ := bind₃_eq_ok.mp done
    cases done
    obtain ⟨generations, same, opened, current⟩ := Invoices.lockGenerationForUpdate_ok hlock
    obtain ⟨⟨next, same', order⟩, drained⟩ := drainInvoices_ok invoices
    have listed := drained_items drained
    obtain ⟨outbox, same'', grows, all⟩ := requireCancellations_ok requires
    subst same same' same''
    have key := lookup_key current
    obtain ⟨own, lockHash⟩ := Prod.mk.inj (Option.some.inj key)
    refine .inr ⟨creator, _, generation, fenced, drains, outbox, next, rfl,
      demand_eq_ok.mp found, (ensure_eq_ok.mp free).2, ?_, ?_,
      Table.write_eq_ok.mp inserted, ?_, ?_, grows,
      ⟨rfl, rfl, rfl, rfl, rfl, rfl, rfl, ?_, ?_⟩, ?_, items, ?_, rfl, rfl, all⟩
    · exact order
    · exact le_refl store.db.nextUuid
    · rw [Table.write_eq_ok.mp fence, opened]
    · rw [← opened]
      exact current
    · rw [own, lockHash, List.map_map]
      exact listed
    · intro cancellation member
      obtain ⟨prepared, listed, rfl⟩ := List.mem_map.mp member
      obtain ⟨row, stored, carries⟩ := all prepared listed
      exact ⟨row, stored, carries.id, carries.required⟩
    · simp [report]
    · rw [own, lockHash]
      exact drained.imp fun _ _ drained =>
        ⟨drained.item, drained.classified, drained.cancellations⟩

end Inversion

end PaymentDrains

end PaykitServer.Persistence
