import PaykitServer.Persistence.Lifecycles
import PaykitServer.Relational.Growth

/-!
# Creators and their Bitcoin accounts

A creator's credentials are created once and replaced when the creator
reconnects. A replacement that keeps the Bitcoin account is a plain update; one
that changes it is a rotation, which in the same transaction starts a new account
generation and retires what was issued under the old one: prepared Marketplace
requests are voided, proposals that were never handed off are suppressed, and
proposed requests get a cancellation. Accepted requests stay.
-/

namespace PaykitServer.Persistence

open Domain Application Relational

namespace CreatorCredentials

/-- Reject account removal, a changed USDT address, key rollback, and a different
key within a generation. -/
def validateReauthentication (existing replacement : CreatorCredentials) :
    Except PersistenceError Unit :=
  let current := existing.paykitIdentitySecret
  let next := replacement.paykitIdentitySecret
  ensure (existing.creator = replacement.creator ∧
    ¬(existing.bitcoinAccount.isSome ∧ replacement.bitcoinAccount = none) ∧
    ¬(existing.usdtAddress.isSome ∧ existing.usdtAddress ≠ replacement.usdtAddress) ∧
    current.keyGeneration ≤ next.keyGeneration ∧
    ¬(next.keyGeneration = current.keyGeneration ∧ next ≠ current)) .reauthenticationMismatch

def bitcoinAccountChanged (existing replacement : CreatorCredentials) : Bool :=
  existing.bitcoinAccount ≠ replacement.bitcoinAccount

end CreatorCredentials

/-- Attempts that the counterparty has agreed to. -/
def PaymentRequestLifecycleState.isAccepted (state : PaymentRequestLifecycleState) : Bool :=
  state = .accepted || state = .proofSubmitted || state = .activeRecurring

namespace Creators

def decryptCredentials (crypto : Crypto) (row : CreatorRow) :
    Except PersistenceError CreatorCredentials := do
  ensure (textHash crypto row.credentials.creator = row.creatorLookupHash) .corruptOrMissing
  return row.credentials

def create (crypto : Crypto) (store : Store) (credentials : CreatorCredentials) :
    Except PersistenceError (Uuid × Store) := do
  let (id, store) := store.newUuid
  let creators ← Table.write .unavailable
    (store.creators.rows ++ [⟨id, textHash crypto credentials.creator, credentials, 0, 0⟩])
  return (id, { store with creators := creators })

def updateCreator (store : Store) (creatorId : Uuid) (update : CreatorRow → CreatorRow) :
    Except PersistenceError Store := do
  let creators ← Table.write .unavailable
    (updateWhere (fun row => row.id = creatorId) update store.creators.rows)
  return { store with creators := creators }

def reauthenticate (crypto : Crypto) (store : Store) (replacement : CreatorCredentials) :
    Except PersistenceError Store := do
  let row ← demand .corruptOrMissing
    (store.creatorByHash (textHash crypto replacement.creator))
  let existing ← decryptCredentials crypto row
  existing.validateReauthentication replacement
  ensure (existing.bitcoinAccountChanged replacement = false) .reauthenticationMismatch
  updateCreator store row.id fun row => { row with credentials := replacement }

structure BitcoinAccountRotation where
  generation : Int
  cancellationPendingCount : Nat
  voidedPreparationCount : Nat
deriving DecidableEq

def rotationItem (rotationId : Uuid) (owner : LifecycleOwner)
    (classification : RotationClassification) : RotationItem :=
  ⟨rotationId, owner.invoiceId, owner.marketplacePreparationId, none, classification, none⟩

def issuedPreparations (store : Store) (creatorId : Uuid) (generation : Int) :
    List Preparation :=
  store.preparations.rows.filter fun row =>
    row.creatorId = creatorId && row.bitcoinAccountGeneration = some generation

def voidPreparations (store : Store) (creatorId : Uuid) (generation : Int) (rotationId : Uuid) :
    Except PersistenceError (Nat × Store) := do
  let voided := (issuedPreparations store creatorId generation).filter (·.state = .prepared)
  let store ← store.writePreparations .unavailable
    (updateWhere
      (fun row => row.creatorId = creatorId && row.bitcoinAccountGeneration = some generation &&
        row.state = .prepared)
      (fun row => { row with state := .voided, voidedAt := some store.clock })
      store.preparations.rows)
  let items := voided.map fun row =>
    rotationItem rotationId (.marketplace row.id) .preparationVoided
  return (voided.length, { store with rotationItems := store.rotationItems ++ items })

/-- Retire a proposal that was never handed off. -/
def suppressProposal (store : Store) (proposal : Uuid) : Except PersistenceError Store := do
  let outbox ← Table.write .unavailable
    (updateWhere
      (fun row => row.id = proposal &&
        (row.status = .queued || row.status = .retryable || row.status = .leased))
      (fun row => { row with
        status := .permanentlyFailed
        errorClass := some .bitcoinAccountRotated
        leaseOwner := none
        claimToken := none
        leaseExpiresAt := none })
      store.outbox.rows)
  return { store with outbox := outbox }

def cancellationOutboxRow (id creatorId : Uuid) (owner : LifecycleOwner)
    (intent : DeliveryIntentV1) (paymentRequestId : String) (drainRequired : Bool)
    (now : OffsetDateTime) : OutboxRow where
  id := id
  creatorId := creatorId
  invoiceId := owner.invoiceId
  marketplacePreparationId := owner.marketplacePreparationId
  intent := intent
  intentKind := .paymentRequestCancellation
  cancellationTarget := some paymentRequestId
  cancellationDrainRequired := drainRequired
  proposalLookupHash := none
  status := .queued
  leaseOwner := none
  claimToken := none
  leaseExpiresAt := none
  attemptCount := 0
  failureCount := 0
  nextAttemptAt := now
  errorClass := none
  sdkOutboundMessageId := none
  sdkEventId := none
  sdkPaymentRequestId := none

def existingCancellation (store : Store) (creatorId : Uuid) (owner : LifecycleOwner)
    (paymentRequestId : String) : Option OutboxRow :=
  store.outbox.rows.find? fun row => row.creatorId = creatorId && row.ownedBy owner &&
    row.intentKind = .paymentRequestCancellation && row.cancellationTarget = some paymentRequestId

def enqueueCancellation (sdk : Sdk) (store : Store) (creatorId : Uuid) (owner : LifecycleOwner)
    (proposal : DeliveryIntentV1) (paymentRequestId : String) :
    Except PersistenceError (Uuid × Store) :=
  match existingCancellation store creatorId owner paymentRequestId with
  | some row => .ok (row.id, store)
  | none => do
    let intent ← orFail .corruptOrMissing
      (proposal.paymentRequestCancellation sdk paymentRequestId)
    let (id, store) := store.newUuid
    let outbox ← Table.write .unavailable (store.outbox.rows ++
      [cancellationOutboxRow id creatorId owner intent paymentRequestId false store.clock])
    return (id, { store with outbox := outbox })

def cancelProposed (sdk : Sdk) (store : Store) (creatorId rotationId : Uuid)
    (owner : LifecycleOwner) (proposal : DeliveryIntentV1) (paymentRequestId : String) :
    Except PersistenceError Store := do
  let (cancellationId, store) ←
    enqueueCancellation sdk store creatorId owner proposal paymentRequestId
  let item : RotationItem := ⟨rotationId, owner.invoiceId, owner.marketplacePreparationId,
    some paymentRequestId, .cancellationPending, some cancellationId⟩
  return { store with rotationItems := store.rotationItems ++ [item] }

/-- Classify a request without a proposed attempt: a proposal that was never handed
off is suppressed, everything else is terminal already. -/
def rotateUnproposed (store : Store) (rotationId : Uuid) (owner : LifecycleOwner)
    (proposal : OutboxRow) (attempts : List LifecycleRow) : Except PersistenceError Store := do
  ensure (¬(attempts = [] ∧ (proposal.sdkPaymentRequestId.isSome ∨ proposal.status = .handedOff ∨
    proposal.status = .delivered))) .unavailable
  if attempts = [] ∧ (proposal.status = .queued ∨ proposal.status = .retryable ∨
      proposal.status = .leased) then do
    let store ← suppressProposal store proposal.id
    return { store with rotationItems := store.rotationItems ++
      [rotationItem rotationId owner .proposalSuppressed] }
  else
    return { store with rotationItems := store.rotationItems ++
      [rotationItem rotationId owner .terminal] }

/-- Retire one request of the old account; the count is of its cancellations. -/
def rotateOwner (sdk : Sdk) (store : Store) (creatorId rotationId : Uuid)
    (owner : LifecycleOwner) : Except PersistenceError (Nat × Store) := do
  let proposal ← demand .unavailable (store.proposalOf creatorId owner)
  let intent ← decodeProposal sdk proposal
  let attempts := store.lifecyclesOf owner
  ensure (∀ attempt ∈ attempts, attempt.requestState ≠ .invalidConflict) .conflict
  ensure (∀ attempt ∈ attempts, attempt.requestState ≠ .recoveryRequired) .unavailable
  let accepted := attempts.any (·.requestState.isAccepted)
  let proposed := (attempts.filter (·.requestState = .proposed)).map (·.sdkPaymentRequestId)
  let store := if accepted then
      { store with rotationItems := store.rotationItems ++
          [rotationItem rotationId owner .accepted] }
    else store
  if proposed = [] then
    if accepted then return (0, store)
    else do
      let store ← rotateUnproposed store rotationId owner proposal attempts
      return (0, store)
  else do
    let store ← proposed.foldlM
      (fun store paymentRequestId =>
        cancelProposed sdk store creatorId rotationId owner intent paymentRequestId) store
    return (proposed.length, store)

/-- The requests a rotation retires: invoices with an address, then Marketplace
requests that are active. -/
def rotationOwners (store : Store) (creatorId : Uuid) (generation : Int) : List LifecycleOwner :=
  ((store.admissions.rows.filter fun row => row.creatorId = creatorId &&
      row.bitcoinAddressLookupHash.isSome && row.bitcoinAccountGeneration = some generation).map
    fun row => .invoice row.id) ++
  ((issuedPreparations store creatorId generation).filter (·.state = .active)).map
    fun row => .marketplace row.id

/-- Retire what the current account issued, then install the replacement under the
next account generation. -/
def retireBitcoinAccount (sdk : Sdk) (store : Store) (row : CreatorRow)
    (replacement : CreatorCredentials) (receiveEvidence : List String) :
    Except PersistenceError (BitcoinAccountRotation × Store) := do
  let currentGeneration := row.bitcoinAccountGeneration
  let nextGeneration := currentGeneration + 1
  ensure (nextGeneration < 2 ^ 63) .corruptOrMissing
  let (currentTargets, store) ← requiredReceiveTargetsForCreatorRotation sdk store row.id
  ensure (receiveEvidenceCovers currentTargets receiveEvidence = true) .unavailable
  let owners := rotationOwners store row.id currentGeneration
  let (rotationId, store) := store.newUuid
  let rotations ← Table.write .unavailable (store.rotations.rows ++
    [⟨rotationId, row.id, currentGeneration, nextGeneration, 0, 0⟩])
  let store := { store with rotations := rotations }
  let (voidedCount, store) ← voidPreparations store row.id currentGeneration rotationId
  let (pendingCount, store) ← owners.foldlM
    (fun (pending, store) owner => do
      let (cancellations, store) ← rotateOwner sdk store row.id rotationId owner
      return (pending + cancellations, store))
    (0, store)
  let store ← updateCreator store row.id fun row => { row with
    credentials := replacement
    bitcoinAccountGeneration := nextGeneration }
  let rotations ← Table.write .unavailable
    (updateWhere (fun rotation => rotation.id = rotationId)
      (fun rotation => { rotation with
        cancellationCount := pendingCount
        voidedPreparationCount := voidedCount })
      store.rotations.rows)
  return (⟨nextGeneration, pendingCount, voidedCount⟩, { store with rotations := rotations })

/-- Install a changed Bitcoin account; both credentials must have one. -/
def rotateBitcoinAccountAfterReceive (crypto : Crypto) (sdk : Sdk) (store : Store)
    (replacement : CreatorCredentials) (receiveEvidence : List String) :
    Except PersistenceError (BitcoinAccountRotation × Store) := do
  let row ← demand .corruptOrMissing
    (store.creatorByHash (textHash crypto replacement.creator))
  let existing ← decryptCredentials crypto row
  existing.validateReauthentication replacement
  ensure (existing.bitcoinAccountChanged replacement = true ∧ existing.bitcoinAccount.isSome ∧
    replacement.bitcoinAccount.isSome) .reauthenticationMismatch
  retireBitcoinAccount sdk store row replacement receiveEvidence

section Inversion

variable {crypto : Crypto} {sdk : Sdk} {store store' : Store}

variable {row : CreatorRow} {attempts : List LifecycleRow} {creatorId rotationId : Uuid}
  {owner : LifecycleOwner} {count : Nat} {replacement : CreatorCredentials}
  {rotation : BitcoinAccountRotation}

theorem decryptCredentials_ok {credentials : CreatorCredentials}
    (done : decryptCredentials crypto row = .ok credentials) : row.credentials = credentials := by
  obtain ⟨_, _, done⟩ := bind_eq_ok.mp done
  cases done
  rfl

/-- A proposal as a rotation leaves it when it was never handed off. -/
def suppress (row : OutboxRow) : OutboxRow :=
  { row with
    status := .permanentlyFailed
    errorClass := some .bitcoinAccountRotated
    leaseOwner := none
    claimToken := none
    leaseExpiresAt := none }

/-- What retiring requests does to one outbox row: nothing, or the suppression of a
proposal that was never handed off and is not among the attempts. -/
inductive Suppresses (attempts : List LifecycleRow) : OutboxRow → OutboxRow → Prop where
  | same (row : OutboxRow) : Suppresses attempts row row
  | suppressed (row : OutboxRow) (owner : LifecycleOwner)
      (proposal : row.intentKind = .paymentRequestProposal)
      (waiting : row.status = .queued ∨ row.status = .retryable ∨ row.status = .leased)
      (owned : row.ownedBy owner = true) (unattempted : attempts.filter (·.ownedBy owner) = []) :
      Suppresses attempts row (suppress row)

theorem Suppresses.trans {a b c : OutboxRow}
    (first : Suppresses attempts a b) (second : Suppresses attempts b c) :
    Suppresses attempts a c := by
  cases first with
  | same => exact second
  | suppressed owner proposal waiting owned unattempted =>
    cases second with
    | same => exact .suppressed _ owner proposal waiting owned unattempted
    | suppressed _ _ again => simp [suppress] at again

def IsCancellation (row : OutboxRow) : Prop :=
  ∃ id creatorId owner intent target now,
    row = cancellationOutboxRow id creatorId owner intent target false now

theorem IsCancellation.kept {row row' : OutboxRow}
    (added : IsCancellation row) (keeps : Suppresses attempts row row') : IsCancellation row' := by
  cases keeps with
  | same => exact added
  | suppressed _ proposal =>
    obtain ⟨_, _, _, _, _, _, rfl⟩ := added
    simp [cancellationOutboxRow] at proposal

def Retires (store store' : Store) : Prop :=
  ∃ outbox items next,
    store' = { store with
      outbox := outbox
      rotationItems := items
      db := { store.db with nextUuid := next } } ∧
    store.db.nextUuid ≤ next ∧
    Grows (Suppresses store.lifecycles.rows) IsCancellation store.outbox.rows outbox.rows

theorem Retires.items (store : Store) (items : List RotationItem) :
    Retires store { store with rotationItems := items } :=
  ⟨store.outbox, items, store.db.nextUuid, rfl, le_rfl, .refl fun row _ => .same row⟩

theorem Retires.trans {first second third : Store} (early : Retires first second)
    (late : Retires second third) : Retires first third := by
  obtain ⟨outbox, items, next, rfl, order, grows⟩ := early
  obtain ⟨outbox', items', next', rfl, order', grows'⟩ := late
  exact ⟨outbox', items', next', rfl, order.trans order',
    grows.trans grows' (fun _ _ _ => .trans) (fun _ _ => .kept) fun _ => id⟩

theorem proposalOf_some {row : OutboxRow} (found : store.proposalOf creatorId owner = some row) :
    row ∈ store.outbox.rows ∧ row.creatorId = creatorId ∧ row.ownedBy owner = true ∧
      row.intentKind = .paymentRequestProposal := by
  refine ⟨List.mem_of_find?_eq_some found, ?_⟩
  simpa [and_assoc] using List.find?_some found

theorem suppressProposal_retires {proposal : OutboxRow} (stored : proposal ∈ store.outbox.rows)
    (kind : proposal.intentKind = .paymentRequestProposal) (owned : proposal.ownedBy owner = true)
    (unattempted : store.lifecyclesOf owner = [])
    (done : suppressProposal store proposal.id = .ok store') : Retires store store' := by
  obtain ⟨outbox, written, done⟩ := bind_eq_ok.mp done
  cases done
  refine ⟨outbox, store.rotationItems, store.db.nextUuid, rfl, le_rfl, ?_⟩
  rw [Table.write_eq_ok.mp written]
  refine .updateWhere (fun row _ _ => .same row) fun row member met => ?_
  simp only [Bool.and_eq_true, Bool.or_eq_true, decide_eq_true_eq, or_assoc] at met
  obtain rfl := store.outbox.valid.1.eq_of_key member stored (congrArg some met.1) rfl
  exact .suppressed row owner kind met.2 owned unattempted

theorem rotateUnproposed_retires {proposal : OutboxRow} (stored : proposal ∈ store.outbox.rows)
    (kind : proposal.intentKind = .paymentRequestProposal) (owned : proposal.ownedBy owner = true)
    (done : rotateUnproposed store rotationId owner proposal (store.lifecyclesOf owner) =
      .ok store') : Retires store store' := by
  obtain ⟨_, _, done⟩ := bind_eq_ok.mp done
  split at done
  · rename_i waiting
    obtain ⟨mid, suppressed, done⟩ := bind_eq_ok.mp done
    cases done
    exact (suppressProposal_retires stored kind owned waiting.1 suppressed).trans (.items _ _)
  · cases done
    exact .items _ _

theorem enqueueCancellation_retires {id : Uuid} {proposal : DeliveryIntentV1} {target : String}
    (done : enqueueCancellation sdk store creatorId owner proposal target = .ok (id, store')) :
    Retires store store' := by
  unfold enqueueCancellation at done
  split at done
  · cases done
    exact .items _ _
  · obtain ⟨intent, _, outbox, written, done⟩ := bind₂_eq_ok.mp done
    cases done
    refine ⟨outbox, _, _, rfl, Nat.le_succ _, ?_⟩
    rw [Table.write_eq_ok.mp written]
    exact .concat (fun row _ => .same row) ⟨_, _, _, _, _, _, rfl⟩

theorem cancelProposed_retires {proposal : DeliveryIntentV1} {target : String}
    (done : cancelProposed sdk store creatorId rotationId owner proposal target = .ok store') :
    Retires store store' := by
  obtain ⟨⟨id, mid⟩, enqueued, done⟩ := bind_eq_ok.mp done
  cases done
  exact (enqueueCancellation_retires enqueued).trans (.items _ _)

theorem foldlM_retires {α : Type} {step : Store → α → Except PersistenceError Store}
    (steps : ∀ store a store', step store a = .ok store' → Retires store store')
    {work : List α} (done : work.foldlM step store = .ok store') : Retires store store' :=
  foldlM_invariant (fun _ _ _ retired next => retired.trans (steps _ _ _ next)) (.items _ _) done

def proposedRequests (attempts : List LifecycleRow) : List String :=
  (attempts.filter (·.requestState = .proposed)).map (·.sdkPaymentRequestId)

/-- How one request is retired, by what became of its attempts. The count is of its
cancellations. -/
inductive RetiresOwner (sdk : Sdk) (store : Store) (creatorId rotationId : Uuid)
    (owner : LifecycleOwner) (proposal : OutboxRow) : Nat → Store → Prop where
  | accepted (accepted : (store.lifecyclesOf owner).any (·.requestState.isAccepted) = true)
      (settled : proposedRequests (store.lifecyclesOf owner) = []) :
      RetiresOwner sdk store creatorId rotationId owner proposal 0 { store with
        rotationItems := store.rotationItems ++ [rotationItem rotationId owner .accepted] }
  | unproposed (store' : Store)
      (unaccepted : (store.lifecyclesOf owner).any (·.requestState.isAccepted) = false)
      (settled : proposedRequests (store.lifecyclesOf owner) = [])
      (classified : rotateUnproposed store rotationId owner proposal (store.lifecyclesOf owner) =
        .ok store') :
      RetiresOwner sdk store creatorId rotationId owner proposal 0 store'
  | canceled (store' : Store) (intent : DeliveryIntentV1) (noted : List RotationItem)
      (accepted : noted = [] ∨ noted = [rotationItem rotationId owner .accepted])
      (pending : proposedRequests (store.lifecyclesOf owner) ≠ [])
      (canceled : (proposedRequests (store.lifecyclesOf owner)).foldlM
        (fun store paymentRequestId =>
          cancelProposed sdk store creatorId rotationId owner intent paymentRequestId)
        { store with rotationItems := store.rotationItems ++ noted } = .ok store') :
      RetiresOwner sdk store creatorId rotationId owner proposal
        (proposedRequests (store.lifecyclesOf owner)).length store'

theorem rotateOwner_ok
    (done : rotateOwner sdk store creatorId rotationId owner = .ok (count, store')) :
    ∃ proposal, store.proposalOf creatorId owner = some proposal ∧
      (∀ attempt ∈ store.lifecyclesOf owner, attempt.requestState ≠ .invalidConflict) ∧
      (∀ attempt ∈ store.lifecyclesOf owner, attempt.requestState ≠ .recoveryRequired) ∧
      RetiresOwner sdk store creatorId rotationId owner proposal count store' := by
  unfold rotateOwner at done
  obtain ⟨proposal, found, intent, _, _, unambiguous, done⟩ := bind₃_eq_ok.mp done
  obtain ⟨_, recovered, done⟩ := bind_eq_ok.mp done
  refine ⟨proposal, demand_eq_ok.mp found, ensure_eq_ok.mp unambiguous,
    ensure_eq_ok.mp recovered, ?_⟩
  dsimp only at done
  cases accepted : (store.lifecyclesOf owner).any (·.requestState.isAccepted) with
  | false =>
    simp only [accepted, Bool.false_eq_true, if_false] at done
    split at done
    · rename_i settled
      obtain ⟨after, classified, done⟩ := bind_eq_ok.mp done
      cases done
      exact .unproposed _ accepted settled classified
    · rename_i pending
      obtain ⟨after, canceled, done⟩ := bind_eq_ok.mp done
      cases done
      refine .canceled _ intent [] (.inl rfl) pending ?_
      rw [List.append_nil]
      exact canceled
  | true =>
    simp only [accepted, if_true] at done
    split at done
    · rename_i settled
      cases done
      exact .accepted accepted settled
    · rename_i pending
      obtain ⟨after, canceled, done⟩ := bind_eq_ok.mp done
      cases done
      exact .canceled _ intent _ (.inr rfl) pending canceled

theorem rotateOwner_retires
    (done : rotateOwner sdk store creatorId rotationId owner = .ok (count, store')) :
    Retires store store' := by
  obtain ⟨proposal, found, -, -, retires⟩ := rotateOwner_ok done
  cases retires with
  | accepted => exact .items _ _
  | unproposed _ _ _ classified =>
    obtain ⟨stored, -, owned, kind⟩ := proposalOf_some found
    exact rotateUnproposed_retires stored kind owned classified
  | canceled _ _ noted _ _ canceled =>
    exact (Retires.items store _).trans
      (foldlM_retires (fun _ _ _ => cancelProposed_retires) canceled)

/-- The loop over the retired requests retires, whatever it counts. -/
theorem countedRetires {owners : List LifecycleOwner} {pending : Nat} (done : owners.foldlM
      (fun (pending, store) owner => do
        let (cancellations, store) ← rotateOwner sdk store creatorId rotationId owner
        return (pending + cancellations, store))
      (pending, store) = .ok (count, store')) : Retires store store' := by
  induction owners generalizing pending store with
  | nil =>
    cases done
    exact .items _ _
  | cons owner owners ih =>
    rw [List.foldlM_cons] at done
    obtain ⟨⟨pending', mid⟩, first, rest⟩ := bind_eq_ok.mp done
    obtain ⟨⟨cancellations, _⟩, retired, first⟩ := bind_eq_ok.mp first
    cases first
    exact (rotateOwner_retires retired).trans (ih rest)

/-- What finding the receive targets does to one preparation: it completes a legacy
generation. -/
def Completes (row row' : Preparation) : Prop :=
  ∃ generation, (row.bitcoinAccountGeneration.isSome → generation = row.bitcoinAccountGeneration) ∧
    row' = { row with bitcoinAccountGeneration := generation }

/-- What a rotation does to one preparation: it may complete a legacy generation,
and it voids what is still prepared. -/
def Voids (now : OffsetDateTime) (row row' : Preparation) : Prop :=
  ∃ generation, (row.bitcoinAccountGeneration.isSome → generation = row.bitcoinAccountGeneration) ∧
    (row' = { row with bitcoinAccountGeneration := generation } ∨
      row.state = .prepared ∧ row' = { row with
        bitcoinAccountGeneration := generation
        state := .voided
        voidedAt := some now })

/-- The legacy rows that finding the receive targets completes. -/
def isLegacy (creatorId : Uuid) (row : Preparation) : Bool :=
  row.creatorId = creatorId && row.bitcoinAccountGeneration.isNone && row.envelope.hasBitcoin

theorem requiredReceiveTargets_rows {targets : List String}
    (done : requiredReceiveTargetsForCreatorRotation sdk store creatorId = .ok (targets, store')) :
    ∃ creator preparations columns,
      store.creatorById creatorId = some creator ∧
      store' = { store with
        preparations := preparations
        db := { store.db with preparations := columns } } ∧
      columns.rows = preparations.rows.map Preparation.columns ∧
      preparations.rows = updateWhere (isLegacy creatorId)
        (fun row => { row with bitcoinAccountGeneration := some creator.bitcoinAccountGeneration })
        store.preparations.rows := by
  obtain ⟨mid, backfilled, _, _, _, _, done⟩ := bind₃_eq_ok.mp done
  cases done
  obtain ⟨creator, found, _, _, backfilled⟩ := bind₂_eq_ok.mp backfilled
  obtain ⟨preparations, columns, rfl, rows, projected⟩ := Store.writePreparations_ok backfilled
  exact ⟨creator, preparations, columns, demand_eq_ok.mp found, rfl, projected, rows⟩

theorem requiredReceiveTargets_ok {targets : List String}
    (done : requiredReceiveTargetsForCreatorRotation sdk store creatorId = .ok (targets, store')) :
    ∃ preparations columns,
      store' = { store with
        preparations := preparations
        db := { store.db with preparations := columns } } ∧
      columns.rows = preparations.rows.map Preparation.columns ∧
      Grows Completes (fun _ => False) store.preparations.rows preparations.rows := by
  obtain ⟨creator, preparations, columns, _, rfl, projected, rows⟩ :=
    requiredReceiveTargets_rows done
  refine ⟨preparations, columns, rfl, projected, ?_⟩
  rw [rows]
  refine .updateWhere (fun row _ _ => ⟨_, fun _ => rfl, rfl⟩) fun row _ met => ⟨_, ?_, rfl⟩
  intro present
  simp only [isLegacy, Bool.and_eq_true, Option.isNone_iff_eq_none] at met
  simp [met.1.2] at present

def isVoidable (creatorId : Uuid) (generation : Int) (row : Preparation) : Bool :=
  row.creatorId = creatorId && row.bitcoinAccountGeneration = some generation &&
    row.state = .prepared

theorem voidPreparations_rows {generation : Int}
    (done : voidPreparations store creatorId generation rotationId = .ok (count, store')) :
    ∃ preparations columns,
      store' = { store with
        preparations := preparations
        rotationItems := store.rotationItems ++
          (store.preparations.rows.filter (isVoidable creatorId generation)).map fun row =>
            rotationItem rotationId (.marketplace row.id) .preparationVoided
        db := { store.db with preparations := columns } } ∧
      columns.rows = preparations.rows.map Preparation.columns ∧
      preparations.rows = updateWhere (isVoidable creatorId generation)
        (fun row => { row with state := .voided, voidedAt := some store.clock })
        store.preparations.rows ∧
      count = (store.preparations.rows.filter (isVoidable creatorId generation)).length := by
  have same : (issuedPreparations store creatorId generation).filter (·.state = .prepared) =
      store.preparations.rows.filter (isVoidable creatorId generation) := by
    simp only [issuedPreparations, List.filter_filter]
    exact List.filter_congr fun row _ => Bool.and_comm _ _
  unfold voidPreparations at done
  simp only [same] at done
  obtain ⟨mid, written, done⟩ := bind_eq_ok.mp done
  cases done
  obtain ⟨preparations, columns, rfl, rows, projected⟩ := Store.writePreparations_ok written
  exact ⟨preparations, columns, rfl, projected, rows, rfl⟩

theorem voidPreparations_ok {generation : Int}
    (done : voidPreparations store creatorId generation rotationId = .ok (count, store')) :
    ∃ preparations columns items,
      store' = { store with
        preparations := preparations
        rotationItems := items
        db := { store.db with preparations := columns } } ∧
      columns.rows = preparations.rows.map Preparation.columns ∧
      Grows (Voids store.clock) (fun _ => False) store.preparations.rows preparations.rows := by
  obtain ⟨preparations, columns, rfl, projected, rows, -⟩ := voidPreparations_rows done
  refine ⟨preparations, columns, _, rfl, projected, ?_⟩
  rw [rows]
  refine .updateWhere (fun row _ _ => ⟨_, fun _ => rfl, .inl rfl⟩) fun row _ met => ?_
  simp only [isVoidable, Bool.and_eq_true, decide_eq_true_eq] at met
  exact ⟨_, fun _ => rfl, .inr ⟨met.2, rfl⟩⟩

theorem Voids.after_backfill {now : OffsetDateTime} {a b c : Preparation}
    (first : Completes a b) (second : Voids now b c) : Voids now a c := by
  obtain ⟨generation, kept, rfl⟩ := first
  obtain ⟨generation', kept', change⟩ := second
  refine ⟨generation', fun present => ?_, change⟩
  have same := kept present
  rw [kept' (by simpa [same] using present)]
  exact same

theorem retireBitcoinAccount_stages {evidence : List String}
    (done : retireBitcoinAccount sdk store row replacement evidence = .ok (rotation, store')) :
    ∃ targets found rotations voided retired creators counted,
      requiredReceiveTargetsForCreatorRotation sdk store row.id = .ok (targets, found) ∧
      rotations.rows = found.rotations.rows ++ [⟨found.db.nextUuid, row.id,
        row.bitcoinAccountGeneration, row.bitcoinAccountGeneration + 1, 0, 0⟩] ∧
      voidPreparations { found.newUuid.2 with rotations := rotations } row.id
        row.bitcoinAccountGeneration found.db.nextUuid =
          .ok (rotation.voidedPreparationCount, voided) ∧
      (rotationOwners found row.id row.bitcoinAccountGeneration).foldlM
        (fun (pending, store) owner => do
          let (cancellations, store) ← rotateOwner sdk store row.id found.db.nextUuid owner
          return (pending + cancellations, store))
        (0, voided) = .ok (rotation.cancellationPendingCount, retired) ∧
      creators.rows = updateWhere (fun stored => stored.id = row.id)
        (fun stored => { stored with
          credentials := replacement
          bitcoinAccountGeneration := row.bitcoinAccountGeneration + 1 }) retired.creators.rows ∧
      counted.rows = updateWhere (fun stored => stored.id = found.db.nextUuid)
        (fun stored => { stored with
          cancellationCount := rotation.cancellationPendingCount
          voidedPreparationCount := rotation.voidedPreparationCount }) retired.rotations.rows ∧
      store' = { retired with creators := creators, rotations := counted } := by
  unfold retireBitcoinAccount at done
  obtain ⟨_, _, ⟨targets, found⟩, required, done⟩ := bind₂_eq_ok.mp done
  obtain ⟨_, _, rotations, started, ⟨voidedCount, voided⟩, voids, done⟩ := bind₃_eq_ok.mp done
  obtain ⟨⟨pending, retired⟩, retires, done⟩ := bind_eq_ok.mp done
  obtain ⟨installed, updated, counted, counts, done⟩ := bind₂_eq_ok.mp done
  obtain ⟨creators, written, updated⟩ := bind_eq_ok.mp updated
  cases updated
  cases done
  exact ⟨targets, found, rotations, voided, retired, creators, counted, required,
    Table.write_eq_ok.mp started, voids, retires, Table.write_eq_ok.mp written,
    Table.write_eq_ok.mp counts, rfl⟩

theorem retireBitcoinAccount_ok {evidence : List String}
    (done : retireBitcoinAccount sdk store row replacement evidence = .ok (rotation, store')) :
    ∃ creators preparations columns outbox rotations items next,
      store' = { store with
        creators := creators
        preparations := preparations
        outbox := outbox
        rotations := rotations
        rotationItems := items
        db := { store.db with preparations := columns, nextUuid := next } } ∧
      store.db.nextUuid ≤ next ∧
      creators.rows = updateWhere (fun stored => stored.id = row.id)
        (fun stored => { stored with
          credentials := replacement
          bitcoinAccountGeneration := row.bitcoinAccountGeneration + 1 }) store.creators.rows ∧
      columns.rows = preparations.rows.map Preparation.columns ∧
      Grows (Voids store.clock) (fun _ => False) store.preparations.rows preparations.rows ∧
      Grows (Suppresses store.lifecycles.rows) IsCancellation store.outbox.rows outbox.rows := by
  obtain ⟨_, found, rotations, voided, retired, creators, counted, required, -, voids, retires,
    installed, -, rfl⟩ := retireBitcoinAccount_stages done
  obtain ⟨backfilled, _, rfl, -, completes⟩ := requiredReceiveTargets_ok required
  obtain ⟨preparations, columns, _, rfl, projected, voiding⟩ := voidPreparations_ok voids
  obtain ⟨outbox, items, next, rfl, order, grows⟩ := countedRetires retires
  exact ⟨creators, preparations, columns, outbox, counted, items, next, rfl,
    Nat.le_of_succ_le order, installed, projected,
    completes.trans voiding (fun _ _ _ => Voids.after_backfill) (fun _ _ => False.elim)
      fun _ => id, grows⟩

end Inversion

end Creators

end PaykitServer.Persistence
