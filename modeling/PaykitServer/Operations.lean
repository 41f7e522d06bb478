import PaykitServer.Persistence.MarketplaceStatus
import PaykitServer.Persistence.Outbox
import PaykitServer.Persistence.PaymentDrains
import PaykitServer.Server
import PaykitServer.Usdt.Candidates

/-!
# Everything that happens to the store

Requests, workers, drains, rotations and payment observation all act on one
store, in any order and interleaving. Each operation below is one transaction; it
reads the database clock of the store, which only `tick` advances. A run of
operations is therefore one interleaving of any number of concurrent calls and
workers under a clock that never goes back.

Claims that a worker presents are arguments, so that a run covers workers that
lost their lease long ago as well as workers that never had one.
-/

namespace PaykitServer

open Domain Bitcoin Persistence Application
open Workers MarketplacePreparations Relational

structure Deployment extends Environment where
  sdk : Sdk

/-- A transfer as the verifier returns it: one log of one transaction. -/
structure VerifiedLog where
  transactionHash : Usdt.B256
  logIndex : Nat
  amount : Nat
  timestamp : OffsetDateTime
  confirmations : Nat
  finalized : Bool
  sender : BitVec 160

def VerifiedLog.transfer (log : VerifiedLog) : VerifiedTransfer where
  identity := Usdt.logIdentity log.transactionHash log.logIndex
  amount := log.amount
  timestamp := log.timestamp
  confirmations := log.confirmations
  finalized := log.finalized
  sender := log.sender

/-- Payment observation as the server asks for it; the database supplies the time.
The process clock is an argument where the source reads it. -/
inductive Observation where
  | observationTargets
  | observeOnce (targets : List ObservationTarget) (outputs : List ObservedOutput)
  | marketplaceTargets
  | observeMarketplaceOnce (targets : List ObservationTarget) (outputs : List ObservedOutput)
  | reserveUsdt (owner : ReceiptOwner) (transferHash : LookupHash) (force : Bool)
  | applyUsdt (invoice : Uuid) (log : VerifiedLog) (now : OffsetDateTime)
  | clearUsdt (invoice : Uuid) (transferHash : LookupHash) (now : OffsetDateTime)
  | applyMarketplaceUsdt (preparation : Uuid) (log : VerifiedLog)
  | clearMarketplaceUsdt (preparation : Uuid) (transferHash : LookupHash)

namespace Observation

def request (dbNow : OffsetDateTime) : Observation → Request
  | .observationTargets => .observationTargets dbNow
  | .observeOnce targets outputs => .observeOnce targets outputs dbNow
  | .marketplaceTargets => .marketplaceTargets dbNow
  | .observeMarketplaceOnce targets outputs => .observeMarketplaceOnce targets outputs dbNow
  | .reserveUsdt owner transferHash force => .reserveUsdt owner transferHash force dbNow
  | .applyUsdt invoice log now => .applyUsdt invoice log.transfer dbNow now
  | .clearUsdt invoice transferHash now => .clearUsdt invoice transferHash dbNow now
  | .applyMarketplaceUsdt preparation log => .applyMarketplaceUsdt preparation log.transfer dbNow
  | .clearMarketplaceUsdt preparation transferHash =>
    .clearMarketplaceUsdt preparation transferHash dbNow

/-- A USDT pass over a Marketplace request goes on only when it accepts USDT. -/
def goesOn (db : Database) : Observation → Bool
  | .applyMarketplaceUsdt preparation _ | .clearMarketplaceUsdt preparation _ =>
    (settlement db preparation).any (·.payment.usdt.isSome)
  | _ => true

/-- The changes an observation makes to the observation state. -/
def actions (env : Environment) (store : Store) (observation : Observation) : List Action :=
  if observation.goesOn store.db then requestActions env (observation.request store.clock) else []

end Observation

/-- A statement of an outbox worker about a claim it presents. -/
inductive WorkerStep where
  | renewClaim (claim : ClaimedOutbox) (leaseSeconds : Nat)
  | markHandedOff (claim : ClaimedOutbox) (result : HandoffResult)
  | markPermanentlyFailed (claim : ClaimedOutbox)
  | markProposalExpired (claim : ClaimedOutbox)
  | markRetryable (claim : ClaimedOutbox) (delayMilliseconds : Nat) (stage : OutboxRetryClass)
  | markCancellationObsolete (claim : ClaimedOutbox)
  | markDelivered (claim : ClaimedHandoff)
  | markReconciliationPermanentlyFailed (claim : ClaimedHandoff)
  | retryReconciliation (claim : ClaimedHandoff) (delaySeconds : Nat) (stage : OutboxRetryClass)

/-- Perform a worker's statement; the flag says whether it took effect. -/
def WorkerStep.perform (store : Store) : WorkerStep → Except PersistenceError (Bool × Store)
  | .renewClaim claim leaseSeconds => Outbox.renewClaim store claim leaseSeconds
  | .markHandedOff claim result => Outbox.markHandedOff store claim result
  | .markPermanentlyFailed claim => Outbox.markPermanentlyFailed store claim
  | .markProposalExpired claim => Outbox.markProposalExpired store claim
  | .markRetryable claim delay stage => Outbox.markRetryable store claim delay stage
  | .markCancellationObsolete claim => Outbox.markCancellationObsolete store claim
  | .markDelivered claim => Outbox.markDelivered store claim
  | .markReconciliationPermanentlyFailed claim =>
    Outbox.markReconciliationPermanentlyFailed store claim
  | .retryReconciliation claim delay stage => Outbox.retryReconciliation store claim delay stage

inductive Operation where
  | tick (elapsed : Nat)
  | createCreator (credentials : CreatorCredentials)
  | reauthenticate (replacement : CreatorCredentials)
  | rotationReceiveTargets (creatorId : Uuid)
  | rotateBitcoinAccount (replacement : CreatorCredentials) (receiveEvidence : List String)
  | createInvoice (input : Invoices.AtomicInvoiceInput)
  | createProviderV2 (input : Invoices.ProviderV2AtomicInvoiceInput)
  /-- The quote was accepted the given time ago; a replay has no quote of its own. -/
  | prepare (input : MarketplacePreparationInput) (acceptedAgo : Option Nat)
  | activate (input : MarketplaceActivationInput)
  | void (creator : String) (invoiceId : Uuid)
  | resolve (creator : String) (invoiceId : Uuid) (outcome : MarketplaceResolutionOutcome)
  | claim (owner : Uuid) (limit leaseSeconds : Nat) (creatorId : Option Uuid)
      (locked : Uuid → Bool)
  | claimReconciliation (owner : Uuid) (limit leaseSeconds : Nat) (creators : Option (List Uuid))
      (locked : Uuid → Bool)
  | work (step : WorkerStep)
  | applyLifecycle (creatorId : Uuid) (projection : PaymentRequestLifecycleProjection)
  | createDrain (lock : PubkyLockResource) (receiveEvidence : Option (List String))
  | replayDrain (lock : PubkyLockResource)
  | cleanupDrain (lock : PubkyLockResource) (cleanupToken : LookupHash)
  | observe (observation : Observation)

/-- Prepare under a quote: its life is fixed on the database clock when it is
accepted, and a wait for the creator's row only uses it up. -/
def prepareQuoted (crypto : Crypto) (sdk : Sdk) (store : Store)
    (input : MarketplacePreparationInput) (acceptedAgo : Option Nat) :
    Except PersistenceError (MarketplacePreparationResult × Store) :=
  match acceptedAgo with
  | none => prepare crypto sdk store { input with prepareDeadline := none }
  | some waited => do
    let deadline ← demand .unavailable
      (OffsetDateTime.checkedAdd (store.clock - waited) (seconds input.prepareTtlSeconds))
    prepare crypto sdk store { input with prepareDeadline := some deadline }

def observe (env : Environment) (store : Store) (observation : Observation) :
    Except PersistenceError Store := do
  let db ← execute (perform env) store.db (observation.actions env store)
  return { store with db := db }

def operate (d : Deployment) (store : Store) : Operation → Except LifecycleError Store
  | .tick elapsed => .ok { store with clock := store.clock + elapsed }
  | .createCreator credentials => persist (Prod.snd <$> Creators.create d.crypto store credentials)
  | .reauthenticate replacement => persist (Creators.reauthenticate d.crypto store replacement)
  | .rotationReceiveTargets creatorId =>
    persist (Prod.snd <$> requiredReceiveTargetsForCreatorRotation d.sdk store creatorId)
  | .rotateBitcoinAccount replacement evidence => persist (Prod.snd <$>
      Creators.rotateBitcoinAccountAfterReceive d.crypto d.sdk store replacement evidence)
  | .createInvoice input => persist (Prod.snd <$> Invoices.createAtomic d.crypto d.sdk store input)
  | .createProviderV2 input =>
    persist (Prod.snd <$> Invoices.createProviderV2Atomic d.crypto d.sdk store input)
  | .prepare input acceptedAgo =>
    persist (Prod.snd <$> prepareQuoted d.crypto d.sdk store input acceptedAgo)
  | .activate input => Prod.snd <$> activate d.crypto d.sdk store input
  | .void creator invoiceId => Prod.snd <$> void d.crypto d.sdk store creator invoiceId
  | .resolve creator invoiceId outcome =>
    Prod.snd <$> resolve d.crypto d.sdk store creator invoiceId outcome
  | .claim owner limit leaseSeconds creatorId locked =>
    persist (Prod.snd <$> Outbox.claimMatching store owner limit leaseSeconds creatorId locked)
  | .claimReconciliation owner limit leaseSeconds creators locked => persist (Prod.snd <$>
      Outbox.claimReconciliationForCreators store owner limit leaseSeconds creators locked)
  | .work step => persist (Prod.snd <$> step.perform store)
  | .applyLifecycle creatorId projection =>
    persist (Prod.snd <$> applyLifecycle d.crypto d.sdk store creatorId projection)
  | .createDrain lock evidence =>
    persist (Prod.snd <$> PaymentDrains.createInner d.crypto d.sdk store lock evidence)
  | .replayDrain lock => persist (Prod.snd <$> PaymentDrains.exactReplay d.crypto store lock)
  | .cleanupDrain lock cleanupToken =>
    persist (PaymentDrains.cleanupCompleted d.crypto store lock cleanupToken)
  | .observe observation => persist (observe d.toEnvironment store observation)

/-- The store as a transaction system. -/
def ledger (d : Deployment) : System Store Operation LifecycleError Operation where
  perform := operate d
  actions operation := [operation]

/-- The store after a run of operations on a freshly migrated one. -/
def storeAfter (d : Deployment) (start : OffsetDateTime) (operations : List Operation) : Store :=
  (ledger d).run (Store.empty start) operations

/-- The operations that committed in that run, each with the stores around it. -/
def committedOperations (d : Deployment) (start : OffsetDateTime) (operations : List Operation) :
    List (Transition Store Operation) :=
  (ledger d).history (Store.empty start) operations

section Runs

variable {d : Deployment} {start : OffsetDateTime} {operations : List Operation}

variable {store : Store} {operation : Operation}

theorem commit_of_operate {store' : Store} (done : operate d store operation = .ok store') :
    (ledger d).commit store operation = store' :=
  System.commit_of_ok (execute_singleton.trans done)

theorem commit_of_failed {e : LifecycleError} (failed : operate d store operation = .error e) :
    (ledger d).commit store operation = store :=
  System.commit_of_error (execute_singleton.trans failed)

theorem ledger_commit :
    (∃ store', operate d store operation = .ok store' ∧
      (ledger d).commit store operation = store') ∨
    (∃ e, operate d store operation = .error e) ∧ (ledger d).commit store operation = store := by
  cases done : operate d store operation with
  | ok store' => exact .inl ⟨store', rfl, commit_of_operate done⟩
  | error e => exact .inr ⟨⟨e, rfl⟩, commit_of_failed done⟩

theorem mem_committed {transition : Transition Store Operation}
    (member : transition ∈ (ledger d).committed store operation) :
    transition.before = store ∧ transition.action = operation ∧
      operate d store operation = .ok transition.after := by
  have expanded : execute (ledger d).perform store ((ledger d).actions operation) =
      operate d store operation >>= fun store' => .ok store' := rfl
  cases done : operate d store operation with
  | ok store' =>
    rw [done] at expanded
    simp only [System.committed, expanded] at member
    simp only [ledger, transitions, done] at member
    obtain rfl := List.mem_singleton.mp member
    exact ⟨rfl, rfl, rfl⟩
  | error e =>
    rw [done] at expanded
    simp only [System.committed, expanded] at member
    cases member

theorem ledger_invariant {P : Store → Prop}
    (step : ∀ store operation store', P store → operate d store operation = .ok store' →
      P store') (init : P store) : P ((ledger d).run store operations) :=
  System.run_invariant step init

theorem storeAfter_invariant {P : Store → Prop} (init : P (Store.empty start))
    (step : ∀ store operation store', P store → operate d store operation = .ok store' →
      P store') : P (storeAfter d start operations) :=
  ledger_invariant step init

theorem storeAfter_append {first rest : List Operation} :
    storeAfter d start (first ++ rest) = (ledger d).run (storeAfter d start first) rest :=
  System.run_append

theorem storeAfter_concat :
    storeAfter d start (operations ++ [operation]) =
      (ledger d).commit (storeAfter d start operations) operation :=
  storeAfter_append

end Runs

namespace Sample

/-- A deployment for concrete runs. -/
def deployment : Deployment where
  toEnvironment := environment
  sdk := sdk

/-- A creator's credentials, with a Bitcoin account under the given key. -/
def credentials (xpub : String) : CreatorCredentials :=
  ⟨"creator", "session", ⟨0, 0⟩, some ⟨xpub, 0⟩, none⟩

/-- Terms of 10 sats to the sample address. -/
def terms (proposalExpiresAt paymentDeadline : Option OffsetDateTime) : PaymentTermsV1 :=
  ⟨.btc, 10, [], "reference", proposalExpiresAt, paymentDeadline, [⟨.btc, "a"⟩]⟩

def intent (terms : PaymentTermsV1) : DeliveryIntentV1 :=
  ⟨2, "reader", paykitAppId, .paymentRequestProposal terms⟩

def payloads : PayloadFactory :=
  ⟨some 0, fun _ => .ok (intent (terms none none))⟩

def bundle : Invoices.AtomicInvoiceInput :=
  ⟨"creator", "reader", utf8 "bundle", utf8 "lock", utf8 "request", payloads, 60, 100⟩

def lock : PubkyLockResource := ⟨"creator", "lock"⟩

/-- The terms of the bundle's proposal when it is admitted at time zero. -/
def issuedTerms : PaymentTermsV1 := terms (some (seconds 60)) (some (seconds 100))

/-- Claim what is due and hand a row off, then claim it again and see it delivered. -/
def deliver (row token : Uuid) (result : HandoffResult) : List Operation :=
  [.claim 0 10 60 none fun _ => false,
    .work (.markHandedOff ⟨row, 0, none, 1, 0, token, intent issuedTerms⟩ result),
    .claimReconciliation 0 10 60 none fun _ => false,
    .work (.markDelivered ⟨row, 0, 1, token + 1, result.outboundMessageId, .paymentRequestProposal,
      intent issuedTerms⟩)]

def report (state : PaymentRequestLifecycleState) : Operation :=
  .applyLifecycle 0 ⟨"request", "reader", paykitAppId, issuedTerms, state, none, some 1, none, 0⟩

end Sample

end PaykitServer
