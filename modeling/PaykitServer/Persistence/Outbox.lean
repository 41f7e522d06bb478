import Mathlib.Data.List.Sort
import PaykitServer.Persistence.Lifecycles
import PaykitServer.Relational.Growth

/-!
# Fenced outbox claims and transitions

A worker leases a due row under a fresh claim token. Every later statement of
the worker names that token and takes effect only while the lease is live, so a
worker that lost its lease changes nothing. Handed-off rows are claimed again,
under another token, to reconcile what the SDK did with them.

Which rows are locked by other transactions when a claim selects its candidates
is an argument of the claim.
-/

namespace PaykitServer.Persistence

open Domain Application Relational

/-- The SDK identifiers returned after one durable local enqueue. -/
inductive HandoffResult where
  | endpointPublication (outboundMessageId : Nat)
  | paymentRequestProposal (outboundMessageId : Nat) (eventId paymentRequestId : String)
  | paymentRequestCancellation (outboundMessageId : Nat) (eventId paymentRequestId : String)
deriving DecidableEq, Repr

namespace HandoffResult

def outboundMessageId : HandoffResult → Nat
  | .endpointPublication outboundMessageId => outboundMessageId
  | .paymentRequestProposal outboundMessageId _ _ => outboundMessageId
  | .paymentRequestCancellation outboundMessageId _ _ => outboundMessageId

def eventId : HandoffResult → Option String
  | .endpointPublication _ => none
  | .paymentRequestProposal _ eventId _ => some eventId
  | .paymentRequestCancellation _ eventId _ => some eventId

def paymentRequestId : HandoffResult → Option String
  | .endpointPublication _ => none
  | .paymentRequestProposal _ _ paymentRequestId => some paymentRequestId
  | .paymentRequestCancellation _ _ paymentRequestId => some paymentRequestId

end HandoffResult

/-- A claim over a row that is to be handed off. -/
structure ClaimedOutbox where
  id : Uuid
  creatorId : Uuid
  invoiceId : Option Uuid
  attemptCount : Nat
  failureCount : Nat
  claimToken : Uuid
  intent : DeliveryIntentV1
deriving DecidableEq

/-- A separately fenced claim over a handed-off row. -/
structure ClaimedHandoff where
  id : Uuid
  creatorId : Uuid
  attemptCount : Nat
  claimToken : Uuid
  sdkOutboundMessageId : Nat
  intentKind : IntentKind
  intent : DeliveryIntentV1
deriving DecidableEq

namespace Outbox

def generationCurrent (store : Store) (invoiceId : Uuid) : Bool :=
  (store.admission invoiceId).any fun invoice =>
    (store.lockGeneration invoice.creatorId invoice.lockResourceLookupHash).any fun generation =>
      generation.currentGeneration = invoice.lockResourceGeneration &&
        generation.activeDrainId.isNone

def preparationActive (store : Store) (id : Uuid) : Bool :=
  (store.preparation id).any (·.state = .active)

/-- The request of a proposal may still be proposed. -/
def requestOpen (store : Store) (row : OutboxRow) : Bool :=
  row.invoiceId.any (generationCurrent store) ||
    row.marketplacePreparationId.any (preparationActive store)

/-- Only proposals depend on the state of their request. -/
def handoffPermitted (store : Store) (row : OutboxRow) : Bool :=
  row.intentKind ≠ .paymentRequestProposal ||
    (row.proposalLookupHash.isSome && requestOpen store row)

/-- A row waits for its time or for the end of an abandoned lease. -/
def due (now : OffsetDateTime) (row : OutboxRow) : Bool :=
  match row.status with
  | .queued | .retryable => row.nextAttemptAt ≤ now
  | .leased => row.leaseExpiresAt.any (· ≤ now)
  | .handedOff | .delivered | .permanentlyFailed => false

/-- The first unlocked rows, by the time of their next attempt. -/
def candidates (selects : OutboxRow → Bool) (locked : Uuid → Bool) (limit : Nat)
    (rows : List OutboxRow) : List OutboxRow :=
  ((rows.filter fun row => selects row && !locked row.id).insertionSort fun a b =>
    a.nextAttemptAt < b.nextAttemptAt ∨ a.nextAttemptAt = b.nextAttemptAt ∧ a.id ≤ b.id).take limit

def lease (owner token : Uuid) (expiresAt : OffsetDateTime) (status : OutboxStatus)
    (row : OutboxRow) : OutboxRow :=
  { row with
    status := status
    leaseOwner := some owner
    claimToken := some token
    leaseExpiresAt := some expiresAt
    attemptCount := row.attemptCount + 1 }

def leaseRow (store : Store) (owner : Uuid) (leaseSeconds : Nat) (status : OutboxStatus)
    (row : OutboxRow) : Except PersistenceError (OutboxRow × Store) := do
  let (token, store) := store.newUuid
  let claim := lease owner token (store.clock + seconds leaseSeconds) status
  let outbox ← Table.write .unavailable
    (updateWhere (fun stored => stored.id = row.id) claim store.outbox.rows)
  return (claim row, { store with outbox := outbox })

def leaseRows (owner : Uuid) (leaseSeconds : Nat) (status : OutboxStatus) :
    Store → List OutboxRow → Except PersistenceError (List OutboxRow × Store)
  | store, [] => .ok ([], store)
  | store, row :: rest => do
    let (leased, store) ← leaseRow store owner leaseSeconds status row
    let (others, store) ← leaseRows owner leaseSeconds status store rest
    return (leased :: others, store)

def claimedOutbox (row : OutboxRow) (token : Uuid) : ClaimedOutbox :=
  ⟨row.id, row.creatorId, row.invoiceId, row.attemptCount, row.failureCount, token, row.intent⟩

def claimedHandoff (row : OutboxRow) (token : Uuid) (outbound : Nat) : ClaimedHandoff :=
  ⟨row.id, row.creatorId, row.attemptCount, token, outbound, row.intentKind, row.intent⟩

def claimMatching (store : Store) (owner : Uuid) (limit leaseSeconds : Nat)
    (creatorId : Option Uuid) (locked : Uuid → Bool) :
    Except PersistenceError (List ClaimedOutbox × Store) := do
  ensure (leaseSeconds < 2 ^ 63) .unavailable
  let rows := candidates
    (fun row => due store.clock row && creatorId.all (row.creatorId = ·) &&
      handoffPermitted store row)
    locked limit store.outbox.rows
  let (leased, store) ← leaseRows owner leaseSeconds .leased store rows
  return (leased.filterMap fun row => row.claimToken.map (claimedOutbox row), store)

def held (now : OffsetDateTime) (status : OutboxStatus) (token : Uuid) (row : OutboxRow) : Bool :=
  row.status = status && row.claimToken = some token && row.leaseExpiresAt.any (now < ·)

/-- Change one row if it meets the condition, and report whether it did. -/
def fencedUpdate (store : Store) (id : Uuid) (condition : OutboxRow → Bool)
    (update : OutboxRow → OutboxRow) : Except PersistenceError (Bool × Store) := do
  let outbox ← Table.write .unavailable
    (updateWhere (fun row => row.id = id && condition row) update store.outbox.rows)
  return (store.outbox.rows.any fun row => row.id = id && condition row,
    { store with outbox := outbox })

def renew (expiresAt : OffsetDateTime) (row : OutboxRow) : OutboxRow :=
  { row with leaseExpiresAt := some expiresAt }

/-- Extend a live claim whose proposal may still be handed off. -/
def renewClaim (store : Store) (claim : ClaimedOutbox) (leaseSeconds : Nat) :
    Except PersistenceError (Bool × Store) := do
  ensure (leaseSeconds < 2 ^ 63 ∨ store.outboxRow claim.id = none) .unavailable
  fencedUpdate store claim.id
    (fun row => held store.clock .leased claim.claimToken row && handoffPermitted store row)
    (renew (store.clock + seconds leaseSeconds))

def claimReconciliationForCreators (store : Store) (owner : Uuid) (limit leaseSeconds : Nat)
    (creators : Option (List Uuid)) (locked : Uuid → Bool) :
    Except PersistenceError (List ClaimedHandoff × Store) := do
  ensure (leaseSeconds < 2 ^ 63) .unavailable
  let rows := candidates
    (fun row => row.status = .handedOff && creators.all (·.contains row.creatorId) &&
      row.sdkOutboundMessageId.isSome && row.nextAttemptAt ≤ store.clock &&
      (row.claimToken.isNone || row.leaseExpiresAt.any (· ≤ store.clock)))
    locked limit store.outbox.rows
  let (leased, store) ← leaseRows owner leaseSeconds .handedOff store rows
  return (leased.filterMap fun row => row.claimToken.bind fun token =>
    row.sdkOutboundMessageId.map (claimedHandoff row token), store)

def release (row : OutboxRow) : OutboxRow :=
  { row with leaseOwner := none, claimToken := none, leaseExpiresAt := none }

/-- A row with the SDK identifiers of its enqueued intent. -/
def handOff (result : HandoffResult) (row : OutboxRow) : OutboxRow :=
  release { row with
    status := .handedOff
    sdkOutboundMessageId := some result.outboundMessageId
    sdkEventId := result.eventId
    sdkPaymentRequestId := result.paymentRequestId
    errorClass := none
    failureCount := 0 }

/-- Record the SDK identifiers of an enqueued intent. -/
def markHandedOff (store : Store) (claim : ClaimedOutbox) (result : HandoffResult) :
    Except PersistenceError (Bool × Store) :=
  fencedUpdate store claim.id (held store.clock .leased claim.claimToken) (handOff result)

/-- A claimed row that was not handed off. -/
def giveUp (now : OffsetDateTime) (status : OutboxStatus) (errorClass : ErrorClass)
    (delayMilliseconds : Option Nat) (row : OutboxRow) : OutboxRow :=
  release { row with
    status := status
    errorClass := some errorClass
    failureCount :=
      if errorClass = .retry .linkPending then 0
      else if status = .retryable then min (row.failureCount + 1) 2147483647
      else row.failureCount
    nextAttemptAt := delayMilliseconds.elim row.nextAttemptAt fun delay => now + delay * 1000 }

/-- Where a claimed row goes when it is not handed off. -/
def transition (store : Store) (claim : ClaimedOutbox) (status : OutboxStatus)
    (errorClass : ErrorClass) (delayMilliseconds : Option Nat) :
    Except PersistenceError (Bool × Store) :=
  fencedUpdate store claim.id (held store.clock .leased claim.claimToken)
    (giveUp store.clock status errorClass delayMilliseconds)

def markPermanentlyFailed (store : Store) (claim : ClaimedOutbox) :
    Except PersistenceError (Bool × Store) :=
  transition store claim .permanentlyFailed .permanent none

def markProposalExpired (store : Store) (claim : ClaimedOutbox) :
    Except PersistenceError (Bool × Store) :=
  transition store claim .permanentlyFailed .proposalExpired none

def markRetryable (store : Store) (claim : ClaimedOutbox) (delayMilliseconds : Nat)
    (stage : OutboxRetryClass) : Except PersistenceError (Bool × Store) := do
  ensure (delayMilliseconds < 2 ^ 63) .unavailable
  transition store claim .retryable (.retry stage) (some delayMilliseconds)

/-- A cancellation that is no longer needed. -/
def retire (row : OutboxRow) : OutboxRow :=
  release { row with status := .permanentlyFailed, errorClass := some .cancellationObsolete }

/-- Retire a rotation-only cancellation whose target was accepted. -/
def markCancellationObsolete (store : Store) (claim : ClaimedOutbox) :
    Except PersistenceError (Bool × Store) :=
  fencedUpdate store claim.id
    (fun row => held store.clock .leased claim.claimToken row && !row.cancellationDrainRequired)
    retire

/-- A handed-off row after reconciliation. -/
def reconcile (now : OffsetDateTime) (status : OutboxStatus) (errorClass : Option ErrorClass)
    (delaySeconds : Option Nat) (row : OutboxRow) : OutboxRow :=
  release { row with
    status := status
    errorClass := errorClass
    nextAttemptAt := delaySeconds.elim row.nextAttemptAt fun delay => now + seconds delay }

def reconciliationTransition (store : Store) (claim : ClaimedHandoff) (status : OutboxStatus)
    (errorClass : Option ErrorClass) (delaySeconds : Option Nat) :
    Except PersistenceError (Bool × Store) :=
  fencedUpdate store claim.id
    (fun row => held store.clock .handedOff claim.claimToken row &&
      row.sdkOutboundMessageId = some claim.sdkOutboundMessageId)
    (reconcile store.clock status errorClass delaySeconds)

def markDelivered (store : Store) (claim : ClaimedHandoff) :
    Except PersistenceError (Bool × Store) :=
  reconciliationTransition store claim .delivered none none

def markReconciliationPermanentlyFailed (store : Store) (claim : ClaimedHandoff) :
    Except PersistenceError (Bool × Store) :=
  reconciliationTransition store claim .permanentlyFailed (some .permanentSdkReconciliation) none

def retryReconciliation (store : Store) (claim : ClaimedHandoff) (delaySeconds : Nat)
    (stage : OutboxRetryClass) : Except PersistenceError (Bool × Store) := do
  ensure (delaySeconds < 2 ^ 63) .unavailable
  reconciliationTransition store claim .handedOff (some (.retry stage)) (some delaySeconds)

section Inversion

variable {store store' : Store}

theorem fencedUpdate_ok {id : Uuid} {condition : OutboxRow → Bool}
    {update : OutboxRow → OutboxRow} {changed : Bool}
    (done : fencedUpdate store id condition update = .ok (changed, store')) :
    ∃ outbox, store' = { store with outbox := outbox } ∧
      outbox.rows = updateWhere (fun row => row.id = id && condition row) update
        store.outbox.rows ∧
      (changed = true ↔ ∃ row ∈ store.outbox.rows, row.id = id ∧ condition row = true) := by
  obtain ⟨outbox, written, done⟩ := bind_eq_ok.mp done
  cases done
  refine ⟨outbox, rfl, Table.write_eq_ok.mp written, ?_⟩
  simp [List.any_eq_true]

variable {selects : OutboxRow → Bool} {rows : List OutboxRow}

theorem mem_candidates {locked : Uuid → Bool} {limit : Nat} {row : OutboxRow}
    (chosen : row ∈ candidates selects locked limit rows) : row ∈ rows ∧ selects row = true := by
  have sorted := List.mem_of_mem_take chosen
  rw [List.mem_insertionSort] at sorted
  obtain ⟨stored, met⟩ := List.mem_filter.mp sorted
  exact ⟨stored, (Bool.and_eq_true_iff.mp met).1⟩

theorem candidates_nodup {locked : Uuid → Bool} {limit : Nat}
    (unique : UniqueIndex (fun row : OutboxRow => some row.id) rows) :
    ((candidates selects locked limit rows).map (·.id)).Nodup := by
  have ids : (rows.map (·.id)).Nodup := by
    simpa only [UniqueIndex, List.filterMap_eq_map'] using unique
  have filtered : ((rows.filter fun row => selects row && !locked row.id).map (·.id)).Nodup :=
    ids.sublist (List.filter_sublist.map _)
  have sorted := ((List.perm_insertionSort (fun a b : OutboxRow =>
    a.nextAttemptAt < b.nextAttemptAt ∨ a.nextAttemptAt = b.nextAttemptAt ∧ a.id ≤ b.id)
    (rows.filter fun row => selects row && !locked row.id)).map (·.id)).nodup_iff.mpr filtered
  exact sorted.sublist ((List.take_sublist _ _).map _)

theorem leaseRow_ok {owner : Uuid} {leaseSeconds : Nat} {status : OutboxStatus}
    {row leased : OutboxRow} (done : leaseRow store owner leaseSeconds status row =
      .ok (leased, store')) :
    ∃ outbox, store' = { store with
        outbox := outbox
        db := { store.db with nextUuid := store.db.nextUuid + 1 } } ∧
      outbox.rows = updateWhere (fun stored => stored.id = row.id)
        (lease owner store.db.nextUuid (store.clock + seconds leaseSeconds) status)
        store.outbox.rows ∧
      leased = lease owner store.db.nextUuid (store.clock + seconds leaseSeconds) status row := by
  obtain ⟨outbox, written, done⟩ := bind_eq_ok.mp done
  cases done
  exact ⟨outbox, rfl, Table.write_eq_ok.mp written, rfl⟩

/-- What leasing rows does to a stored row: a chosen row gets a claim under a token
of its own, every other row stays. -/
def Leases (owner : Uuid) (expiresAt : OffsetDateTime) (status : OutboxStatus) (ids : List Uuid)
    (first next : Uuid) (row row' : OutboxRow) : Prop :=
  (row.id ∉ ids ∧ row' = row) ∨
    row.id ∈ ids ∧ ∃ token, first ≤ token ∧ token < next ∧
      row' = lease owner token expiresAt status row

theorem leaseRows_ok {owner : Uuid} {leaseSeconds : Nat} {status : OutboxStatus}
    {leased : List OutboxRow} (distinct : (rows.map (·.id)).Nodup)
    (done : leaseRows owner leaseSeconds status store rows = .ok (leased, store')) :
    ∃ outbox next, store' = { store with
        outbox := outbox
        db := { store.db with nextUuid := next } } ∧
      store.db.nextUuid ≤ next ∧
      Grows (Leases owner (store.clock + seconds leaseSeconds) status (rows.map (·.id))
        store.db.nextUuid next) (fun _ => False) store.outbox.rows outbox.rows ∧
      ∀ claimed ∈ leased, ∃ row ∈ rows, ∃ token, store.db.nextUuid ≤ token ∧ token < next ∧
        claimed = lease owner token (store.clock + seconds leaseSeconds) status row := by
  induction rows generalizing store leased with
  | nil =>
    cases done
    exact ⟨store'.outbox, store'.db.nextUuid, rfl, le_rfl,
      .refl fun row _ => .inl ⟨by simp, rfl⟩, by simp⟩
  | cons row rows ih =>
    obtain ⟨⟨claim, mid⟩, first, done⟩ := bind_eq_ok.mp done
    obtain ⟨⟨others, last⟩, rest, done⟩ := bind_eq_ok.mp done
    cases done
    obtain ⟨outbox, rfl, updated, claimed⟩ := leaseRow_ok first
    rw [List.map_cons, List.nodup_cons] at distinct
    obtain ⟨outbox', next, same, order, grows, leased⟩ := ih distinct.2 rest
    subst same
    dsimp only at order grows leased
    have here : Grows (Leases owner (store.clock + seconds leaseSeconds) status [row.id]
        store.db.nextUuid (store.db.nextUuid + 1)) (fun _ => False) store.outbox.rows
        outbox.rows := by
      rw [updated]
      refine .updateWhere (fun stored _ other => .inl ⟨?_, rfl⟩) fun stored _ met => .inr ⟨?_, ?_⟩
      · simpa using other
      · simpa using met
      · exact ⟨_, le_rfl, Nat.lt_succ_self _, rfl⟩
    refine ⟨outbox', next, rfl, Nat.le_of_succ_le order, ?_, ?_⟩
    · refine here.trans grows ?_ (fun _ _ => False.elim) fun _ => id
      -- the row leased here is not among the rest, so it is leased once
      rintro a b c (⟨other, rfl⟩ | ⟨chosen, token, low, high, rfl⟩) later
      · rcases later with ⟨unchosen, rfl⟩ | ⟨chosen, token, low, high, rfl⟩
        · exact .inl ⟨by simpa using ⟨by simpa using other, by simpa using unchosen⟩, rfl⟩
        · exact .inr ⟨List.mem_cons_of_mem _ chosen, token, Nat.le_of_succ_le low, high, rfl⟩
      · have same : a.id = row.id := by simpa using chosen
        rcases later with ⟨-, rfl⟩ | ⟨again, -⟩
        · exact .inr ⟨by simp [same], token, low, Nat.lt_of_lt_of_le high order, rfl⟩
        · exact absurd (same ▸ again) distinct.1
    · intro claimed' member
      rcases List.mem_cons.mp member with rfl | later
      · exact ⟨row, .head _, _, le_rfl, order, claimed⟩
      · obtain ⟨stored, member, token, low, high, same⟩ := leased claimed' later
        exact ⟨stored, .tail _ member, token, Nat.le_of_succ_le low, high, same⟩

end Inversion

end Outbox

end PaykitServer.Persistence
