import PaykitServer.Persistence.MarketplaceLifecycle
import PaykitServer.Relational.Growth

/-!
# Projected SDK lifecycles

The SDK reports what became of each proposed payment request. A report is stored
only when it can be attributed to one invoice or one active Marketplace request,
and a stored attempt never moves back behind its source cursors.

Rotation and draining read these rows together with the proposal they belong to,
and first ask which counterparties still have to be received from.
-/

namespace PaykitServer.Persistence

open Domain Application Relational

namespace PaymentRequestLifecycleState

def asStr : PaymentRequestLifecycleState → String
  | .proposed => "proposed"
  | .proposalExpired => "proposal_expired"
  | .accepted => "accepted"
  | .rejected => "rejected"
  | .canceled => "canceled"
  | .proofSubmitted => "proof_submitted"
  | .activeRecurring => "active_recurring"
  | .recoveryRequired => "recovery_required"
  | .invalidConflict => "invalid_conflict"

/-- Which of several attempts a status read reports. -/
def rank : PaymentRequestLifecycleState → Nat
  | .invalidConflict => 9
  | .recoveryRequired => 8
  | .proofSubmitted => 7
  | .activeRecurring => 6
  | .accepted => 5
  | .proposed => 4
  | .proposalExpired | .rejected | .canceled => 0

end PaymentRequestLifecycleState

/-- The reading order of attempts: rank, latest event, text of the state. -/
def LifecycleRow.precedes (attempt other : LifecycleRow) : Bool :=
  let rank := attempt.requestState.rank
  let otherRank := other.requestState.rank
  otherRank < rank || (rank = otherRank && (other.lastEventAt < attempt.lastEventAt ||
    (attempt.lastEventAt = other.lastEventAt &&
      other.requestState.asStr < attempt.requestState.asStr)))

def leadingAttempt : List LifecycleRow → Option LifecycleRow
  | [] => none
  | first :: rest => some (rest.foldl
      (fun leading attempt => if attempt.precedes leading then attempt else leading) first)

/-- The request an outbox row or a lifecycle attempt belongs to. -/
inductive LifecycleOwner where
  | invoice (id : Uuid)
  | marketplace (id : Uuid)
deriving DecidableEq, Repr

namespace LifecycleOwner

def invoiceId : LifecycleOwner → Option Uuid
  | .invoice id => some id
  | .marketplace _ => none

def marketplacePreparationId : LifecycleOwner → Option Uuid
  | .invoice _ => none
  | .marketplace id => some id

/-- Exactly one of the two owner columns is set. -/
def ofColumns : Option Uuid → Option Uuid → Except PersistenceError LifecycleOwner
  | some id, none => .ok (.invoice id)
  | none, some id => .ok (.marketplace id)
  | _, _ => .error .corruptOrMissing

end LifecycleOwner

def OutboxRow.ownedBy (row : OutboxRow) (owner : LifecycleOwner) : Bool :=
  row.invoiceId = owner.invoiceId && row.marketplacePreparationId = owner.marketplacePreparationId

def LifecycleRow.ownedBy (row : LifecycleRow) (owner : LifecycleOwner) : Bool :=
  row.invoiceId = owner.invoiceId && row.marketplacePreparationId = owner.marketplacePreparationId

def decodeIntent (sdk : Sdk) (intent : DeliveryIntentV1) :
    Except PersistenceError DeliveryIntentV1 := do
  orFail .corruptOrMissing (intent.validate sdk)
  return intent

def decodeProposal (sdk : Sdk) (row : OutboxRow) : Except PersistenceError DeliveryIntentV1 := do
  let intent ← decodeIntent sdk row.intent
  ensure (intent.isProposal = true) .corruptOrMissing
  return intent

def PreparationEnvelope.hasBitcoin (envelope : PreparationEnvelope) : Bool :=
  envelope.terms.acceptedAssets.contains .btc

namespace Store

def creatorById (store : Store) (id : Uuid) : Option CreatorRow :=
  lookup (fun row => some row.id) id store.creators.rows

def proposalOf (store : Store) (creatorId : Uuid) (owner : LifecycleOwner) : Option OutboxRow :=
  store.outbox.rows.find? fun row => row.creatorId = creatorId && row.ownedBy owner &&
    row.intentKind = .paymentRequestProposal

def lifecyclesOf (store : Store) (owner : LifecycleOwner) : List LifecycleRow :=
  store.lifecycles.rows.filter (·.ownedBy owner)

def attemptsOf (store : Store) (row : OutboxRow) : List LifecycleRow :=
  store.lifecycles.rows.filter fun attempt =>
    (attempt.invoiceId.isSome && attempt.invoiceId = row.invoiceId) ||
      (attempt.marketplacePreparationId.isSome &&
        attempt.marketplacePreparationId = row.marketplacePreparationId)

def issuedUnder (store : Store) (row : OutboxRow) (generation : Int) : Bool :=
  (row.invoiceId.bind store.admission).any (·.bitcoinAccountGeneration = some generation) ||
    (row.marketplacePreparationId.bind store.preparation).any
      (·.bitcoinAccountGeneration = some generation)

end Store

def backfillLegacyMarketplaceBitcoinGeneration (store : Store) (creatorId : Uuid) :
    Except PersistenceError Store := do
  let creator ← demand .corruptOrMissing (store.creatorById creatorId)
  ensure (∀ row ∈ store.preparations.rows, row.creatorId = creatorId →
    row.bitcoinAccountGeneration = none → row.envelope.version = 1 ∨ row.envelope.version = 2)
    .corruptOrMissing
  store.writePreparations .unavailable
    (updateWhere
      (fun row => row.creatorId = creatorId && row.bitcoinAccountGeneration.isNone &&
        row.envelope.hasBitcoin)
      (fun row => { row with
        bitcoinAccountGeneration := some creator.bitcoinAccountGeneration })
      store.preparations.rows)

/-- The counterparties of the given proposals, each once. -/
def decodeRequiredReceiveTargets (sdk : Sdk) (rows : List OutboxRow) :
    Except PersistenceError (List String) := do
  let intents ← rows.mapM (decodeProposal sdk)
  return (intents.map (·.readerPubky)).eraseDups

/-- Whether a rotation has to receive from the counterparty of a proposal first. -/
def awaitsRotationReceive (store : Store) (creator : CreatorRow) (row : OutboxRow) : Bool :=
  row.creatorId = creator.id && row.intentKind = .paymentRequestProposal &&
    store.issuedUnder row creator.bitcoinAccountGeneration &&
    (((row.status = .handedOff || row.status = .delivered) && (store.attemptsOf row).isEmpty) ||
      (store.attemptsOf row).any (·.requestState = .proposed))

/-- Counterparties whose Bitcoin-bearing requests a rotation may affect. Finding
them completes legacy rows. -/
def requiredReceiveTargetsForCreatorRotation (sdk : Sdk) (store : Store) (creatorId : Uuid) :
    Except PersistenceError (List String × Store) := do
  let store ← backfillLegacyMarketplaceBitcoinGeneration store creatorId
  let creator ← demand .corruptOrMissing (store.creatorById creatorId)
  let targets ← decodeRequiredReceiveTargets sdk
    (store.outbox.rows.filter (awaitsRotationReceive store creator))
  return (targets, store)

def receiveEvidenceCovers (current evidence : List String) : Bool :=
  current.all evidence.contains

/-- One canonical report of the SDK with its source cursors. -/
structure PaymentRequestLifecycleProjection where
  paymentRequestId : String
  readerPubky : String
  proposalAppId : String
  terms : PaymentTermsV1
  requestState : PaymentRequestLifecycleState
  stateEventId : Option String
  lastStreamItemId : Option Nat
  lastOutboundMessageId : Option Nat
  lastEventAt : OffsetDateTime

inductive PaymentRequestLifecycleApply where
  | applied
  | exactReplay
  | notAttributable
deriving DecidableEq, Repr

/-- Changes of state that need no progress of a source cursor. -/
def cursorStableTransitionAllowed (existing incoming : PaymentRequestLifecycleState) : Bool :=
  (existing = .proposed && incoming = .proposalExpired) ||
    (existing ≠ .invalidConflict && incoming ≠ .invalidConflict &&
      (existing = .recoveryRequired || incoming = .recoveryRequired))

def cursorRegressed : Option Nat → Option Nat → Bool
  | none, some _ => true
  | some incoming, some existing => incoming < existing
  | _, none => false

def matchesProposal (intent : DeliveryIntentV1) (projection : PaymentRequestLifecycleProjection) :
    Bool :=
  intent.readerPubky = projection.readerPubky && intent.appId = projection.proposalAppId &&
    intent.operation = .paymentRequestProposal projection.terms

def PaymentRequestLifecycleProjection.row (projection : PaymentRequestLifecycleProjection)
    (owner : LifecycleOwner) : LifecycleRow where
  sdkPaymentRequestId := projection.paymentRequestId
  invoiceId := owner.invoiceId
  marketplacePreparationId := owner.marketplacePreparationId
  requestState := projection.requestState
  stateEventId := projection.stateEventId
  lastStreamItemId := projection.lastStreamItemId
  lastOutboundMessageId := projection.lastOutboundMessageId
  lastEventAt := projection.lastEventAt

/-- The one owner a report can be attributed to: by the request identity stored at
handoff, by the terms of a stored proposal, or by both when they agree. -/
def attributedOwner (crypto : Crypto) (sdk : Sdk) (store : Store) (creatorId : Uuid)
    (projection : PaymentRequestLifecycleProjection) :
    Except PersistenceError (Option LifecycleOwner) := do
  let direct ← (store.outbox.rows.filter fun row => row.creatorId = creatorId &&
      row.sdkPaymentRequestId = some projection.paymentRequestId &&
      (row.invoiceId.isSome != row.marketplacePreparationId.isSome)).mapM fun row =>
    LifecycleOwner.ofColumns row.invoiceId row.marketplacePreparationId
  let direct := direct.eraseDups
  ensure (direct.length ≤ 1) .corruptOrMissing
  let candidates ← (store.outbox.rows.filter fun row => row.creatorId = creatorId &&
      row.proposalLookupHash =
        some (crypto.paymentRequestProposalLookupHash projection.terms.paymentReference)).mapM
    fun row => do
      let intent ← decodeIntent sdk row.intent
      if matchesProposal intent projection then
        some <$> LifecycleOwner.ofColumns row.invoiceId row.marketplacePreparationId
      else return none
  match candidates.reduceOption.eraseDups, direct with
  | [], [] => return none
  | [owner], direct => do
    ensure (direct = [] ∨ direct = [owner]) .corruptOrMissing
    return some owner
  | _, _ => .error .corruptOrMissing

def lockOwner (store : Store) (creatorId : Uuid) : LifecycleOwner → Except PersistenceError Unit
  | .invoice id =>
    ensure ((store.admission id).any (·.creatorId = creatorId)) .corruptOrMissing
  | .marketplace id =>
    ensure ((MarketplacePreparations.settlement store.db id).any fun settlement =>
      settlement.creatorId = creatorId &&
        (MarketplacePreparations.joinActive store.db settlement).isSome) .corruptOrMissing

/-- Whether a first attempt may still be stored for an owner. -/
def admitsAttempt (store : Store) : LifecycleOwner → Bool
  | .invoice id =>
    (store.admission id).any fun invoice =>
      (store.lockGeneration invoice.creatorId invoice.lockResourceLookupHash).any fun lock =>
        lock.currentGeneration = invoice.lockResourceGeneration && lock.activeDrainId.isNone
  | .marketplace id =>
    (MarketplacePreparations.settlement store.db id).any fun settlement =>
      (MarketplacePreparations.joinActive store.db settlement).isSome

/-- A report that may not replace the stored attempt. -/
def rejectsUpdate (existing : LifecycleRow) (owner : LifecycleOwner)
    (projection : PaymentRequestLifecycleProjection) : Bool :=
  let sourceCursorsEqual := projection.lastStreamItemId = existing.lastStreamItemId &&
    projection.lastOutboundMessageId = existing.lastOutboundMessageId
  let equalCursorUpdateAllowed := existing.stateEventId = projection.stateEventId &&
    (existing.requestState = projection.requestState ||
      cursorStableTransitionAllowed existing.requestState projection.requestState)
  !existing.ownedBy owner ||
    (existing.requestState = .proposalExpired && projection.requestState = .proposed) ||
    cursorRegressed projection.lastStreamItemId existing.lastStreamItemId ||
    cursorRegressed projection.lastOutboundMessageId existing.lastOutboundMessageId ||
    projection.lastEventAt < existing.lastEventAt ||
    (sourceCursorsEqual && !equalCursorUpdateAllowed)

def applyLifecycle (crypto : Crypto) (sdk : Sdk) (store : Store) (creatorId : Uuid)
    (projection : PaymentRequestLifecycleProjection) :
    Except PersistenceError (PaymentRequestLifecycleApply × Store) := do
  ensure (projection.paymentRequestId ≠ "" ∧ projection.stateEventId ≠ some "" ∧
    (projection.lastStreamItemId.isSome ∨ projection.lastOutboundMessageId.isSome) ∧
    (∀ cursor ∈ projection.lastStreamItemId, cursor < 2 ^ 63) ∧
    ∀ cursor ∈ projection.lastOutboundMessageId, cursor < 2 ^ 63) .invalidInput
  match ← attributedOwner crypto sdk store creatorId projection with
  | none => return (.notAttributable, store)
  | some owner => do
    lockOwner store creatorId owner
    match lookup (fun row : LifecycleRow => some row.sdkPaymentRequestId)
        projection.paymentRequestId store.lifecycles.rows with
    | some existing =>
      -- The owner columns are not part of an exact replay.
      if { existing with invoiceId := owner.invoiceId,
                         marketplacePreparationId := owner.marketplacePreparationId } =
          projection.row owner then
        return (.exactReplay, store)
      else do
        ensure (rejectsUpdate existing owner projection = false) .conflict
        let lifecycles ← Table.write .unavailable
          (updateWhere (fun row => row.sdkPaymentRequestId = projection.paymentRequestId)
            (fun row => { projection.row owner with
              invoiceId := row.invoiceId
              marketplacePreparationId := row.marketplacePreparationId })
            store.lifecycles.rows)
        return (.applied, { store with lifecycles := lifecycles })
    | none => do
      ensure (admitsAttempt store owner = true) .conflict
      let lifecycles ← Table.write .unavailable
        (store.lifecycles.rows ++ [projection.row owner])
      return (.applied, { store with lifecycles := lifecycles })

/-- The columns of an attempt that no report changes. -/
structure SameAttempt (row row' : LifecycleRow) : Prop where
  sdkPaymentRequestId : row'.sdkPaymentRequestId = row.sdkPaymentRequestId
  invoiceId : row'.invoiceId = row.invoiceId
  marketplacePreparationId : row'.marketplacePreparationId = row.marketplacePreparationId

def Store.attempt (store : Store) (paymentRequestId : String) : Option LifecycleRow :=
  lookup (fun row => some row.sdkPaymentRequestId) paymentRequestId store.lifecycles.rows

/-- A stored attempt after a report replaced everything but its owner. -/
def replaceAttempt (projection : PaymentRequestLifecycleProjection) (row : LifecycleRow) :
    LifecycleRow :=
  { row with
    sdkPaymentRequestId := projection.paymentRequestId
    requestState := projection.requestState
    stateEventId := projection.stateEventId
    lastStreamItemId := projection.lastStreamItemId
    lastOutboundMessageId := projection.lastOutboundMessageId
    lastEventAt := projection.lastEventAt }

/-- A report that can be stored at all. -/
def PaymentRequestLifecycleProjection.Valid (projection : PaymentRequestLifecycleProjection) :
    Prop :=
  projection.paymentRequestId ≠ "" ∧ projection.stateEventId ≠ some "" ∧
    (projection.lastStreamItemId.isSome ∨ projection.lastOutboundMessageId.isSome) ∧
    (∀ cursor ∈ projection.lastStreamItemId, cursor < 2 ^ 63) ∧
    ∀ cursor ∈ projection.lastOutboundMessageId, cursor < 2 ^ 63

section Reports

variable {crypto : Crypto} {sdk : Sdk} {store store' : Store} {creatorId : Uuid}
  {projection : PaymentRequestLifecycleProjection} {result : PaymentRequestLifecycleApply}

/-- What a report needs before it looks at the stored attempts. -/
structure Attributed (crypto : Crypto) (sdk : Sdk) (store : Store) (creatorId : Uuid)
    (projection : PaymentRequestLifecycleProjection) (owner : LifecycleOwner) : Prop where
  valid : projection.Valid
  found : attributedOwner crypto sdk store creatorId projection = .ok (some owner)
  locked : lockOwner store creatorId owner = .ok ()

inductive Reports (crypto : Crypto) (sdk : Sdk) (store : Store) (creatorId : Uuid)
    (projection : PaymentRequestLifecycleProjection) :
    PaymentRequestLifecycleApply → List LifecycleRow → Prop where
  | notAttributable : Reports crypto sdk store creatorId projection .notAttributable
      store.lifecycles.rows
  | exactReplay (existing : LifecycleRow)
      (found : store.attempt projection.paymentRequestId = some existing)
      (shown : replaceAttempt projection existing = existing) :
      Reports crypto sdk store creatorId projection .exactReplay store.lifecycles.rows
  | updated (owner : LifecycleOwner) (existing : LifecycleRow)
      (attributed : Attributed crypto sdk store creatorId projection owner)
      (found : store.attempt projection.paymentRequestId = some existing)
      (changed : replaceAttempt projection existing ≠ existing)
      (accepted : rejectsUpdate existing owner projection = false) :
      Reports crypto sdk store creatorId projection .applied
        (updateWhere (fun row => row.sdkPaymentRequestId = projection.paymentRequestId)
          (replaceAttempt projection) store.lifecycles.rows)
  | inserted (owner : LifecycleOwner)
      (attributed : Attributed crypto sdk store creatorId projection owner)
      (absent : store.attempt projection.paymentRequestId = none)
      (admits : admitsAttempt store owner = true) :
      Reports crypto sdk store creatorId projection .applied
        (store.lifecycles.rows ++ [projection.row owner])

theorem replays_iff {owner : LifecycleOwner} {existing : LifecycleRow} :
    { existing with
      invoiceId := owner.invoiceId
      marketplacePreparationId := owner.marketplacePreparationId } = projection.row owner ↔
      replaceAttempt projection existing = existing := by
  cases existing
  simp only [PaymentRequestLifecycleProjection.row, replaceAttempt, LifecycleRow.mk.injEq]
  grind

theorem applyLifecycle_reports
    (done : applyLifecycle crypto sdk store creatorId projection = .ok (result, store')) :
    ∃ lifecycles, store' = { store with lifecycles := lifecycles } ∧
      Reports crypto sdk store creatorId projection result lifecycles.rows := by
  obtain ⟨_, valid, attributed, found, done⟩ := bind₂_eq_ok.mp done
  cases attributed with
  | none =>
    cases done
    exact ⟨store.lifecycles, rfl, .notAttributable⟩
  | some owner =>
    obtain ⟨_, locked, done⟩ := bind_eq_ok.mp done
    have valid := ensure_eq_ok.mp valid
    have attributed : Attributed crypto sdk store creatorId projection owner :=
      ⟨valid, found, locked⟩
    split at done
    · rename_i existing stored
      split at done
      · rename_i same
        cases done
        exact ⟨store.lifecycles, rfl, .exactReplay existing stored (replays_iff.mp same)⟩
      · rename_i differs
        obtain ⟨_, accepted, lifecycles, written, done⟩ := bind₂_eq_ok.mp done
        cases done
        refine ⟨lifecycles, rfl, ?_⟩
        rw [Table.write_eq_ok.mp written]
        exact .updated owner existing attributed stored
          (fun same => differs (replays_iff.mpr same)) (ensure_eq_ok.mp accepted)
    · rename_i absent
      obtain ⟨_, admits, lifecycles, written, done⟩ := bind₂_eq_ok.mp done
      cases done
      refine ⟨lifecycles, rfl, ?_⟩
      rw [Table.write_eq_ok.mp written]
      exact .inserted owner attributed absent (ensure_eq_ok.mp admits)

/-- What an applied report wrote: nothing, the state of a stored attempt, or a first
attempt of the owner it is attributed to. -/
theorem applyLifecycle_ok
    (done : applyLifecycle crypto sdk store creatorId projection = .ok (result, store')) :
    ∃ lifecycles, store' = { store with lifecycles := lifecycles } ∧
      Grows SameAttempt
        (fun row => ∃ owner, attributedOwner crypto sdk store creatorId projection = .ok (some owner) ∧
          lockOwner store creatorId owner = .ok () ∧ admitsAttempt store owner = true ∧
          row = projection.row owner)
        store.lifecycles.rows lifecycles.rows := by
  obtain ⟨lifecycles, same, reports⟩ := applyLifecycle_reports done
  refine ⟨lifecycles, same, ?_⟩
  generalize lifecycles.rows = rows at reports
  cases reports with
  | notAttributable | exactReplay => exact .refl fun _ _ => ⟨rfl, rfl, rfl⟩
  | updated =>
    refine .updateWhere (fun _ _ _ => ⟨rfl, rfl, rfl⟩) fun row _ met => ⟨?_, rfl, rfl⟩
    exact (of_decide_eq_true met).symm
  | inserted owner attributed absent admits =>
    exact .concat (fun _ _ => ⟨rfl, rfl, rfl⟩)
      ⟨owner, attributed.found, attributed.locked, admits, rfl⟩

section Succeeds

variable {owner : LifecycleOwner} {existing : LifecycleRow}
  (attributed : Attributed crypto sdk store creatorId projection owner)

include attributed

theorem applyLifecycle_replays (found : store.attempt projection.paymentRequestId = some existing)
    (shown : replaceAttempt projection existing = existing) :
    applyLifecycle crypto sdk store creatorId projection = .ok (.exactReplay, store) := by
  refine bind_eq_ok.mpr ⟨(), ensure_eq_ok.mpr attributed.valid, ?_⟩
  refine bind_eq_ok.mpr ⟨some owner, attributed.found, ?_⟩
  refine bind_eq_ok.mpr ⟨(), attributed.locked, ?_⟩
  unfold Store.attempt at found
  simp only [found, if_pos (replays_iff.mpr shown)]
  rfl

theorem applyLifecycle_rejects (found : store.attempt projection.paymentRequestId = some existing)
    (changed : replaceAttempt projection existing ≠ existing)
    (rejected : rejectsUpdate existing owner projection = true) :
    applyLifecycle crypto sdk store creatorId projection = .error .conflict := by
  refine bind_eq_error.mpr (.inr ⟨(), ensure_eq_ok.mpr attributed.valid, ?_⟩)
  refine bind_eq_error.mpr (.inr ⟨some owner, attributed.found, ?_⟩)
  refine bind_eq_error.mpr (.inr ⟨(), attributed.locked, ?_⟩)
  unfold Store.attempt at found
  simp only [found, if_neg (fun same => changed (replays_iff.mp same))]
  exact bind_eq_error.mpr (.inl (ensure_eq_error.mpr ⟨by simp [rejected], rfl⟩))

theorem applyLifecycle_updates (found : store.attempt projection.paymentRequestId = some existing)
    (changed : replaceAttempt projection existing ≠ existing)
    (accepted : rejectsUpdate existing owner projection = false) :
    ∃ lifecycles, applyLifecycle crypto sdk store creatorId projection =
        .ok (.applied, { store with lifecycles := lifecycles }) ∧
      lifecycles.rows = updateWhere (fun row =>
        row.sdkPaymentRequestId = projection.paymentRequestId) (replaceAttempt projection)
        store.lifecycles.rows := by
  have constraints : LifecycleConstraints (updateWhere (fun row =>
      row.sdkPaymentRequestId = projection.paymentRequestId) (replaceAttempt projection)
      store.lifecycles.rows) := by
    constructor
    · refine (uniqueIndex_updateWhere fun row _ met => ?_).mpr store.lifecycles.valid.1
      exact congrArg some (of_decide_eq_true met).symm
    · intro row member
      rcases mem_updateWhere.mp member with ⟨stored, -⟩ | ⟨old, stored, -, rfl⟩
      · exact store.lifecycles.valid.2 row stored
      · exact ⟨attributed.valid.1, attributed.valid.2.1, attributed.valid.2.2.1,
          (store.lifecycles.valid.2 old stored).2.2.2⟩
  refine ⟨⟨_, constraints⟩, ?_, rfl⟩
  refine bind_eq_ok.mpr ⟨(), ensure_eq_ok.mpr attributed.valid, ?_⟩
  refine bind_eq_ok.mpr ⟨some owner, attributed.found, ?_⟩
  refine bind_eq_ok.mpr ⟨(), attributed.locked, ?_⟩
  unfold Store.attempt at found
  simp only [found, if_neg (fun same => changed (replays_iff.mp same))]
  refine bind_eq_ok.mpr ⟨(), ensure_eq_ok.mpr accepted, ?_⟩
  exact bind_eq_ok.mpr ⟨⟨_, constraints⟩, Table.write_eq_ok.mpr rfl, rfl⟩

theorem applyLifecycle_inserts (absent : store.attempt projection.paymentRequestId = none)
    (admits : admitsAttempt store owner = true) :
    ∃ lifecycles, applyLifecycle crypto sdk store creatorId projection =
        .ok (.applied, { store with lifecycles := lifecycles }) ∧
      lifecycles.rows = store.lifecycles.rows ++ [projection.row owner] := by
  have constraints : LifecycleConstraints (store.lifecycles.rows ++ [projection.row owner]) := by
    constructor
    · exact store.lifecycles.valid.1.append_new (lookup_eq_none_iff.mp absent) rfl
    · intro row member
      rcases List.mem_append.mp member with stored | new
      · exact store.lifecycles.valid.2 row stored
      · obtain rfl := List.mem_singleton.mp new
        refine ⟨attributed.valid.1, attributed.valid.2.1, attributed.valid.2.2.1, ?_⟩
        cases owner <;> simp [PaymentRequestLifecycleProjection.row, LifecycleOwner.invoiceId,
          LifecycleOwner.marketplacePreparationId]
  refine ⟨⟨_, constraints⟩, ?_, rfl⟩
  refine bind_eq_ok.mpr ⟨(), ensure_eq_ok.mpr attributed.valid, ?_⟩
  refine bind_eq_ok.mpr ⟨some owner, attributed.found, ?_⟩
  refine bind_eq_ok.mpr ⟨(), attributed.locked, ?_⟩
  unfold Store.attempt at absent
  simp only [absent]
  refine bind_eq_ok.mpr ⟨(), ensure_eq_ok.mpr admits, ?_⟩
  exact bind_eq_ok.mpr ⟨⟨_, constraints⟩, Table.write_eq_ok.mpr rfl, rfl⟩

end Succeeds

end Reports

end PaykitServer.Persistence
