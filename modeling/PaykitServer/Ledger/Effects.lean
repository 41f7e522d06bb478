import PaykitServer.Operations

/-!
# What one operation does to the store

`operate` runs requests, workers, drains, rotations and observation. `Effect` says
once what a committed operation can have written, table by table and with the
guards it passed; everything proved about runs of operations starts from here.
-/

namespace PaykitServer

open Domain Bitcoin Persistence Application
open MarketplacePreparations Relational

namespace WorkerStep

def rowId : WorkerStep → Uuid
  | .renewClaim claim _ => claim.id
  | .markHandedOff claim _ => claim.id
  | .markPermanentlyFailed claim => claim.id
  | .markProposalExpired claim => claim.id
  | .markRetryable claim _ _ => claim.id
  | .markCancellationObsolete claim => claim.id
  | .markDelivered claim => claim.id
  | .markReconciliationPermanentlyFailed claim => claim.id
  | .retryReconciliation claim _ _ => claim.id

def claimToken : WorkerStep → Uuid
  | .renewClaim claim _ => claim.claimToken
  | .markHandedOff claim _ => claim.claimToken
  | .markPermanentlyFailed claim => claim.claimToken
  | .markProposalExpired claim => claim.claimToken
  | .markRetryable claim _ _ => claim.claimToken
  | .markCancellationObsolete claim => claim.claimToken
  | .markDelivered claim => claim.claimToken
  | .markReconciliationPermanentlyFailed claim => claim.claimToken
  | .retryReconciliation claim _ _ => claim.claimToken

def claimedAs : WorkerStep → OutboxStatus
  | .markDelivered _ | .markReconciliationPermanentlyFailed _ | .retryReconciliation .. =>
    .handedOff
  | _ => .leased

/-- What a worker's statement makes of the row. -/
def update (now : OffsetDateTime) : WorkerStep → OutboxRow → OutboxRow
  | .renewClaim _ leaseSeconds => Outbox.renew (now + seconds leaseSeconds)
  | .markHandedOff _ result => Outbox.handOff result
  | .markPermanentlyFailed _ => Outbox.giveUp now .permanentlyFailed .permanent none
  | .markProposalExpired _ => Outbox.giveUp now .permanentlyFailed .proposalExpired none
  | .markRetryable _ delay stage => Outbox.giveUp now .retryable (.retry stage) (some delay)
  | .markCancellationObsolete _ => Outbox.retire
  | .markDelivered _ => Outbox.reconcile now .delivered none none
  | .markReconciliationPermanentlyFailed _ =>
    Outbox.reconcile now .permanentlyFailed (some .permanentSdkReconciliation) none
  | .retryReconciliation _ delay stage =>
    Outbox.reconcile now .handedOff (some (.retry stage)) (some delay)

/-- The fences of a worker's statement besides its claim. -/
def Permitted (store : Store) (row : OutboxRow) : WorkerStep → Prop
  | .renewClaim .. => Outbox.handoffPermitted store row = true
  | .markCancellationObsolete _ => row.cancellationDrainRequired = false
  | .markDelivered claim | .markReconciliationPermanentlyFailed claim
  | .retryReconciliation claim _ _ => row.sdkOutboundMessageId = some claim.sdkOutboundMessageId
  | _ => True

theorem perform_ok {store store' : Store} {step : WorkerStep} {changed : Bool}
    (done : step.perform store = .ok (changed, store')) :
    ∃ (outbox : Table OutboxRow OutboxConstraints) (condition : OutboxRow → Bool),
      store' = { store with outbox := outbox } ∧
      outbox.rows = updateWhere (fun row => row.id = step.rowId && condition row)
        (step.update store.clock) store.outbox.rows ∧
      (changed = true ↔ ∃ row ∈ store.outbox.rows,
        row.id = step.rowId ∧ condition row = true) ∧
      ∀ row, condition row = true ↔
        Outbox.held store.clock step.claimedAs step.claimToken row = true ∧
          step.Permitted store row := by
  cases step with
  | renewClaim | markRetryable | retryReconciliation =>
    obtain ⟨_, _, done⟩ := bind_eq_ok.mp done
    obtain ⟨outbox, same, rows, effect⟩ := Outbox.fencedUpdate_ok done
    exact ⟨outbox, _, same, rows, effect, fun row => by simp [Permitted, claimedAs, claimToken]⟩
  | markHandedOff | markPermanentlyFailed | markProposalExpired | markCancellationObsolete
  | markDelivered | markReconciliationPermanentlyFailed =>
    obtain ⟨outbox, same, rows, effect⟩ := Outbox.fencedUpdate_ok done
    exact ⟨outbox, _, same, rows, effect, fun row => by simp [Permitted, claimedAs, claimToken]⟩

end WorkerStep

def Operation.isAdmission : Operation → Bool
  | .createInvoice _ | .createProviderV2 _ => true
  | _ => false

def Operation.isDrain : Operation → Bool
  | .createDrain .. | .replayDrain _ => true
  | _ => false

/-- What a committed operation wrote. An operation that replays what is stored, or
finds nothing to do, leaves the store `unchanged`. -/
inductive Effect (d : Deployment) (store : Store) : Operation → Store → Prop where
  | unchanged (operation : Operation) : Effect d store operation store
  | ticked (elapsed : Nat) :
      Effect d store (.tick elapsed) { store with clock := store.clock + elapsed }
  | created (credentials : CreatorCredentials) (creators : Table CreatorRow CreatorConstraints)
      (rows : creators.rows = store.creators.rows ++
        [⟨store.db.nextUuid, textHash d.crypto credentials.creator, credentials, 0, 0⟩]) :
      Effect d store (.createCreator credentials) { store with
        creators := creators
        db := { store.db with nextUuid := store.db.nextUuid + 1 } }
  | reauthenticated (replacement : CreatorCredentials) (row : CreatorRow)
      (creators : Table CreatorRow CreatorConstraints)
      (found : store.creatorByHash (textHash d.crypto replacement.creator) = some row)
      (rows : creators.rows = updateWhere (fun stored => stored.id = row.id)
        (fun stored => { stored with credentials := replacement }) store.creators.rows)
      (valid : row.credentials.validateReauthentication replacement = .ok ())
      (unchanged : row.credentials.bitcoinAccountChanged replacement = false) :
      Effect d store (.reauthenticate replacement) { store with creators := creators }
  | completed (creatorId : Uuid) (preparations : Table Preparation PreparationTableConstraints)
      (columns : Table PreparationRow PreparationConstraints)
      (projected : columns.rows = preparations.rows.map Preparation.columns)
      (grows : Grows Creators.Completes (fun _ => False) store.preparations.rows
        preparations.rows) :
      Effect d store (.rotationReceiveTargets creatorId) { store with
        preparations := preparations
        db := { store.db with preparations := columns } }
  | rotated (replacement : CreatorCredentials) (evidence : List String) (row : CreatorRow)
      (creators : Table CreatorRow CreatorConstraints)
      (preparations : Table Preparation PreparationTableConstraints)
      (columns : Table PreparationRow PreparationConstraints)
      (outbox : Table OutboxRow OutboxConstraints)
      (rotations : Table RotationRow RotationConstraints) (items : List RotationItem) (next : Uuid)
      (order : store.db.nextUuid ≤ next)
      (found : store.creatorByHash (textHash d.crypto replacement.creator) = some row)
      (rows : creators.rows = updateWhere (fun stored => stored.id = row.id)
        (fun stored => { stored with
          credentials := replacement
          bitcoinAccountGeneration := row.bitcoinAccountGeneration + 1 }) store.creators.rows)
      (projected : columns.rows = preparations.rows.map Preparation.columns)
      (voids : Grows (Creators.Voids store.clock) (fun _ => False) store.preparations.rows
        preparations.rows)
      (suppresses : Grows (Creators.Suppresses store.lifecycles.rows) Creators.IsCancellation
        store.outbox.rows outbox.rows)
      (valid : row.credentials.validateReauthentication replacement = .ok ())
      (changed : row.credentials.bitcoinAccountChanged replacement = true ∧
        row.credentials.bitcoinAccount.isSome ∧ replacement.bitcoinAccount.isSome) :
      Effect d store (.rotateBitcoinAccount replacement evidence) { store with
        creators := creators
        preparations := preparations
        outbox := outbox
        rotations := rotations
        rotationItems := items
        db := { store.db with preparations := columns, nextUuid := next } }
  | admitted (operation : Operation) (isAdmission : operation.isAdmission = true)
      (new : Invoices.NewInvoice) (locked : Store) (reference : String)
      (generations : Table LockGenerationRow LockGenerationConstraints)
      (assignments : Table AssignmentRow AssignmentConstraints)
      (creators : Table CreatorRow CreatorConstraints)
      (admissions : Table AdmissionRow AdmissionConstraints)
      (outbox : Table OutboxRow OutboxConstraints)
      (invoices : Table InvoiceRow InvoiceConstraints)
      (providers : Table ProviderV2Row ProviderV2Constraints)
      (found : new.creator ∈ store.creators.rows)
      (admissible : Invoices.Admissible d.sdk store locked new)
      (fenced : generations.rows = insertNew
        (fun row => row.creatorId = new.creator.id && row.lockResourceLookupHash = new.lockHash)
        ⟨new.creator.id, new.lockHash, 0, none, none⟩ store.lockGenerations.rows)
      (assigned : assignments.rows = store.assignments.rows ++
        [new.assignmentRow store.db.nextUuid])
      (advanced : creators.rows = updateWhere (fun row => row.id = new.creator.id)
        (fun row => { row with nextChildIndex := row.nextChildIndex + 1 }) store.creators.rows)
      (rows : admissions.rows = store.admissions.rows ++
        [new.admissionRow d.crypto (store.db.nextUuid + 1)])
      (enqueued : outbox.rows = store.outbox.rows ++ [proposalOutboxRow (store.db.nextUuid + 2)
        new.creator.id (some (store.db.nextUuid + 1)) none new.intent
        (d.crypto.paymentRequestProposalLookupHash reference) store.clock])
      (observed : invoices.rows = store.db.invoices.rows ++
        [new.newPayment.invoiceRow d.crypto (store.db.nextUuid + 1) new.createdAt
          new.paymentDeadline])
      (bound : providers.rows = store.db.providerV2.rows ++ (new.providerV2.map fun b =>
        (⟨store.db.nextUuid + 1, b.deadline, b.minimumConfirmations⟩ : ProviderV2Row)).toList)
      (terms : new.createdAt < new.paymentDeadline ∧
        ∀ b ∈ new.providerV2, new.payment.usdt = none ∧ new.paymentDeadline = b.deadline) :
      Effect d store operation { store with
        lockGenerations := generations
        assignments := assignments
        creators := creators
        admissions := admissions
        outbox := outbox
        db := { store.db with
          invoices := invoices
          providerV2 := providers
          nextUuid := store.db.nextUuid + 3 } }
  | quoted (input : MarketplacePreparationInput) (acceptedAgo : Option Nat)
      (creator : CreatorRow) (intent : DeliveryIntentV1) (result : MarketplacePreparationResult)
      (waited : Nat) (deadline : OffsetDateTime)
      (preparations : Table Preparation PreparationTableConstraints)
      (columns : Table PreparationRow PreparationConstraints)
      (creators : Table CreatorRow CreatorConstraints)
      (accepted : acceptedAgo = some waited)
      (fixed : OffsetDateTime.checkedAdd (store.clock - waited) (seconds input.prepareTtlSeconds) =
        some deadline)
      (found : creator ∈ store.creators.rows)
      (free : preparationByOperation store creator.id (textHash d.crypto input.operationId) = none)
      (quote : Quoted d.sdk store { input with prepareDeadline := some deadline } creator intent
        result)
      (rows : preparations.rows = store.preparations.rows ++
        [quotedPreparation d.crypto { input with prepareDeadline := some deadline } creator intent
          result])
      (projected : columns.rows = preparations.rows.map Preparation.columns)
      (advanced : creators.rows = updateWhere (fun row => row.id = creator.id)
        (fun row => { row with nextChildIndex := row.nextChildIndex + 1 }) store.creators.rows) :
      Effect d store (.prepare input acceptedAgo) { store with
        preparations := preparations
        creators := creators
        db := { store.db with preparations := columns, nextUuid := store.db.nextUuid + 1 } }
  | activated (input : MarketplaceActivationInput) (creator : CreatorRow) (row : Preparation)
      (intent : DeliveryIntentV1) (payment : InvoicePaymentRecordV1) (reference : String)
      (proposalExpiresAt paymentDeadline : OffsetDateTime)
      (preparations : Table Preparation PreparationTableConstraints)
      (columns : Table PreparationRow PreparationConstraints)
      (settlements : Table SettlementRow SettlementConstraints)
      (outbox : Table OutboxRow OutboxConstraints)
      (found : creator ∈ store.creators.rows) (stored : store.preparation input.invoiceId = some row)
      (owned : row.creatorId = creator.id) (prepared : row.state = .prepared)
      (fixed : Activated d.sdk store input row intent payment proposalExpiresAt paymentDeadline)
      (rows : preparations.rows = updateWhere (fun stored => stored.id = row.id)
        (activatedPreparation · store.clock paymentDeadline) store.preparations.rows)
      (projected : columns.rows = preparations.rows.map Preparation.columns)
      (settled : settlements.rows = store.db.settlements.rows ++
        [(newSettlement creator row payment).settlementRow d.crypto row.id])
      (enqueued : outbox.rows = store.outbox.rows ++ [proposalOutboxRow store.db.nextUuid
        creator.id none (some row.id) intent (d.crypto.paymentRequestProposalLookupHash reference)
        store.clock])
      (acceptance : input.proposalAcceptanceSeconds ≠ 0)
      (decoded : decodeLifecycleEnvelope d.sdk row = .ok row.envelope) :
      Effect d store (.activate input) { store with
        preparations := preparations
        outbox := outbox
        db := { store.db with
          preparations := columns
          settlements := settlements
          nextUuid := store.db.nextUuid + 1 } }
  | voided (creator : String) (invoiceId : Uuid) (row : Preparation)
      (preparations : Table Preparation PreparationTableConstraints)
      (columns : Table PreparationRow PreparationConstraints)
      (stored : store.preparation invoiceId = some row) (prepared : row.state = .prepared)
      (rows : preparations.rows = updateWhere (fun stored => stored.id = row.id)
        (voidedPreparation · store.clock) store.preparations.rows)
      (projected : columns.rows = preparations.rows.map Preparation.columns) :
      Effect d store (.void creator invoiceId) { store with
        preparations := preparations
        db := { store.db with preparations := columns } }
  | resolved (creator : String) (invoiceId : Uuid) (outcome : MarketplaceResolutionOutcome)
      (row : Preparation) (preparations : Table Preparation PreparationTableConstraints)
      (columns : Table PreparationRow PreparationConstraints)
      (stored : store.preparation invoiceId = some row) (unresolved : row.businessOutcome = none)
      (rows : preparations.rows = updateWhere
        (fun stored => stored.id = row.id ∧ stored.businessOutcome = none ∧
          stored.resolvedAt = none)
        (resolvedPreparation · outcome store.clock) store.preparations.rows)
      (projected : columns.rows = preparations.rows.map Preparation.columns) :
      Effect d store (.resolve creator invoiceId outcome) { store with
        preparations := preparations
        db := { store.db with preparations := columns } }
  | claimed (owner : Uuid) (limit leaseSeconds : Nat) (creatorId : Option Uuid)
      (locked : Uuid → Bool) (chosen : List OutboxRow)
      (outbox : Table OutboxRow OutboxConstraints) (next : Uuid) (order : store.db.nextUuid ≤ next)
      (due : ∀ row ∈ chosen, row ∈ store.outbox.rows ∧ Outbox.due store.clock row = true ∧
        Outbox.handoffPermitted store row = true)
      (grows : Grows (Outbox.Leases owner (store.clock + seconds leaseSeconds) .leased
        (chosen.map (·.id)) store.db.nextUuid next) (fun _ => False) store.outbox.rows
        outbox.rows) :
      Effect d store (.claim owner limit leaseSeconds creatorId locked) { store with
        outbox := outbox
        db := { store.db with nextUuid := next } }
  | reclaimed (owner : Uuid) (limit leaseSeconds : Nat) (creators : Option (List Uuid))
      (locked : Uuid → Bool) (chosen : List OutboxRow)
      (outbox : Table OutboxRow OutboxConstraints) (next : Uuid) (order : store.db.nextUuid ≤ next)
      (due : ∀ row ∈ chosen, row ∈ store.outbox.rows ∧ row.status = .handedOff ∧
        (row.claimToken = none ∨ ∃ expiry ∈ row.leaseExpiresAt, expiry ≤ store.clock))
      (grows : Grows (Outbox.Leases owner (store.clock + seconds leaseSeconds) .handedOff
        (chosen.map (·.id)) store.db.nextUuid next) (fun _ => False) store.outbox.rows
        outbox.rows) :
      Effect d store (.claimReconciliation owner limit leaseSeconds creators locked) { store with
        outbox := outbox
        db := { store.db with nextUuid := next } }
  | worked (step : WorkerStep) (outbox : Table OutboxRow OutboxConstraints)
      (condition : OutboxRow → Bool)
      (rows : outbox.rows = updateWhere (fun row => row.id = step.rowId && condition row)
        (step.update store.clock) store.outbox.rows)
      (fenced : ∀ row, condition row = true ↔
        Outbox.held store.clock step.claimedAs step.claimToken row = true ∧
          step.Permitted store row) :
      Effect d store (.work step) { store with outbox := outbox }
  | reported (creatorId : Uuid) (projection : PaymentRequestLifecycleProjection)
      (lifecycles : Table LifecycleRow LifecycleConstraints)
      (grows : Grows SameAttempt
        (fun row => ∃ owner,
          attributedOwner d.crypto d.sdk store creatorId projection = .ok (some owner) ∧
          lockOwner store creatorId owner = .ok () ∧ admitsAttempt store owner = true ∧
          row = projection.row owner)
        store.lifecycles.rows lifecycles.rows) :
      Effect d store (.applyLifecycle creatorId projection) { store with lifecycles := lifecycles }
  | drained (lock : PubkyLockResource) (evidence : Option (List String)) (creator : CreatorRow)
      (drain : DrainRow) (generation : LockGenerationRow)
      (generations : Table LockGenerationRow LockGenerationConstraints)
      (drains : Table DrainRow DrainConstraints) (outbox : Table OutboxRow OutboxConstraints)
      (next : Uuid) (found : store.creatorByHash (textHash d.crypto lock.creator) = some creator)
      (free : generation.activeDrainId = none) (low : store.db.nextUuid ≤ drain.id)
      (high : drain.id < next) (inserted : drains.rows = store.drains.rows ++ [drain])
      (fenced : generations.rows = updateWhere
        (fun row => row.creatorId = generation.creatorId &&
          row.lockResourceLookupHash = generation.lockResourceLookupHash)
        (fun row => { row with activeDrainId := some drain.id })
        (insertNew (fun row => row.creatorId = creator.id &&
            row.lockResourceLookupHash = textHash d.crypto lock.canonical)
          ⟨creator.id, textHash d.crypto lock.canonical, 0, none, none⟩
          store.lockGenerations.rows))
      (current : lookup (fun row => some (row.creatorId, row.lockResourceLookupHash))
        (creator.id, textHash d.crypto lock.canonical)
        (insertNew (fun row => row.creatorId = creator.id &&
            row.lockResourceLookupHash = textHash d.crypto lock.canonical)
          ⟨creator.id, textHash d.crypto lock.canonical, 0, none, none⟩
          store.lockGenerations.rows) = some generation)
      (requires : Grows PaymentDrains.Requires PaymentDrains.IsRequired store.outbox.rows
        outbox.rows)
      (freezes : PaymentDrains.Freezes store outbox.rows lock generation drain) :
      Effect d store (.createDrain lock evidence) { store with
        lockGenerations := generations
        drains := drains
        outbox := outbox
        db := { store.db with nextUuid := next } }
  | drainRead (operation : Operation) (isDrain : operation.isDrain = true)
      (lock : PubkyLockResource) (drain : DrainRow) (drains : Table DrainRow DrainConstraints)
      (active : PaymentDrains.activeDrain d.crypto store lock = some drain)
      (falls : PaymentDrains.Falls store drain)
      (rows : drains.rows = updateWhere (fun row => row.id = drain.id)
        (PaymentDrains.refreshed store drain.items) store.drains.rows) :
      Effect d store operation { store with drains := drains }
  | cleaned (lock : PubkyLockResource) (token : LookupHash) (creator : CreatorRow)
      (generation : LockGenerationRow) (drain : DrainRow)
      (generations : Table LockGenerationRow LockGenerationConstraints)
      (drains : Table DrainRow DrainConstraints)
      (cleans : PaymentDrains.Cleans d.crypto store lock token creator generation drain)
      (ended : generations.rows = updateWhere (PaymentDrains.isActive drain)
        (PaymentDrains.nextGeneration token) store.lockGenerations.rows)
      (deleted : drains.rows = store.drains.rows.filter fun row => row.id ≠ drain.id) :
      Effect d store (.cleanupDrain lock token) { store with
        lockGenerations := generations
        drains := drains }
  | observed (observation : Observation) (db : Database)
      (done : execute (perform d.toEnvironment) store.db
        (observation.actions d.toEnvironment store) = .ok db) :
      Effect d store (.observe observation) { store with db := db }

section Operate

variable {d : Deployment} {store store' : Store}

variable {operation : Operation}

theorem admission_effect {new : Invoices.NewInvoice} {locked : Store}
    {ids : Invoices.NewIds} (isAdmission : operation.isAdmission = true)
    (found : new.creator ∈ store.creators.rows)
    (admissible : Invoices.Admissible d.sdk store locked new)
    (terms : new.createdAt < new.paymentDeadline ∧
      ∀ b ∈ new.providerV2, new.payment.usdt = none ∧ new.paymentDeadline = b.deadline)
    (inserted : Invoices.insertNewInvoice d.crypto locked new = .ok (ids, store')) :
    Effect d store operation store' := by
  obtain ⟨lock, hlock, -, -⟩ := admissible.locked
  obtain ⟨generations, same, fenced, -⟩ := Invoices.lockGenerationForUpdate_ok hlock
  obtain ⟨reference, assignments, creators, admissions, outbox, invoices, providers, same', drawn,
    assigned, advanced, rows, enqueued, observed, bound⟩ := Invoices.insertNewInvoice_ok inserted
  subst drawn same'
  rw [same] at assigned advanced rows enqueued observed bound
  subst same
  exact .admitted operation isAdmission new _ reference generations assignments creators
    admissions outbox invoices providers found admissible fenced assigned advanced rows enqueued
    observed bound terms

theorem prepare_effect {input : MarketplacePreparationInput} {acceptedAgo : Option Nat}
    {result : MarketplacePreparationResult}
    (done : prepareQuoted d.crypto d.sdk store input acceptedAgo = .ok (result, store')) :
    Effect d store (.prepare input acceptedAgo) store' := by
  cases acceptedAgo with
  | none =>
    obtain ⟨creator, found, ⟨row, -, -, rfl⟩ | ⟨-, inserted⟩⟩ := prepare_ok done
    · exact .unchanged _
    · obtain ⟨_, _, _, _, -, -, -, -, quote⟩ := insertPreparation_ok inserted
      cases quote.deadline
  | some waited =>
    obtain ⟨deadline, fixed, done⟩ := bind_eq_ok.mp done
    obtain ⟨creator, found, ⟨row, -, -, rfl⟩ | ⟨free, inserted⟩⟩ := prepare_ok done
    · exact .unchanged _
    · obtain ⟨intent, preparations, columns, creators, rfl, rows, projected, advanced, quote⟩ :=
        insertPreparation_ok inserted
      exact .quoted input _ creator intent result waited deadline preparations columns creators
        rfl (demand_eq_ok.mp fixed) (lookup_mem found) free quote rows projected advanced

theorem activate_effect {input : MarketplaceActivationInput}
    {result : Option MarketplaceActivationResult}
    (done : activate d.crypto d.sdk store input = .ok (result, store')) :
    Effect d store (.activate input) store' := by
  obtain ⟨-, rfl⟩ | ⟨creator, row, answer, loaded, -, -, acceptance, decoded, change⟩ :=
    activate_ok done
  · exact .unchanged _
  obtain ⟨-, rfl, -⟩ | ⟨prepared, activated⟩ := change
  · exact .unchanged _
  obtain ⟨found, stored, owned⟩ := loadLifecycleLocked_some loaded
  obtain ⟨intent, payment, reference, proposalExpiresAt, preparations, columns, settlements,
    outbox, rfl, rows, projected, settled, enqueued, -, -, -, -, -, fixed⟩ :=
    activatePrepared_ok activated
  exact .activated input creator row intent payment reference proposalExpiresAt _ preparations
    columns settlements outbox (lookup_mem found) stored owned prepared fixed rows projected
    settled enqueued acceptance decoded

theorem void_effect {creator : String} {invoiceId : Uuid} {result : Option MarketplaceVoidResult}
    (done : void d.crypto d.sdk store creator invoiceId = .ok (result, store')) :
    Effect d store (.void creator invoiceId) store' := by
  obtain ⟨-, rfl⟩ | ⟨owner, row, voidedAt, loaded, -, change⟩ := void_ok done
  · exact .unchanged _
  obtain ⟨-, -, rfl, -⟩ | ⟨prepared, -, -, written⟩ := change
  · exact .unchanged _
  obtain ⟨preparations, columns, rfl, rows, projected⟩ := Store.writePreparations_ok written
  exact .voided creator invoiceId row preparations columns (loadLifecycleLocked_some loaded).2.1
    prepared rows projected

theorem resolve_effect {creator : String} {invoiceId : Uuid}
    {outcome : MarketplaceResolutionOutcome} {result : Option MarketplaceResolutionResult}
    (done : resolve d.crypto d.sdk store creator invoiceId outcome = .ok (result, store')) :
    Effect d store (.resolve creator invoiceId outcome) store' := by
  obtain ⟨-, rfl⟩ | ⟨owner, row, resolvedAt, loaded, -, change⟩ := resolve_ok done
  · exact .unchanged _
  obtain ⟨-, -, rfl, -⟩ | ⟨unresolved, -, -, -, written⟩ := change
  · exact .unchanged _
  obtain ⟨preparations, columns, rfl, rows, projected⟩ := Store.writePreparations_ok written
  exact .resolved creator invoiceId outcome row preparations columns
    (loadLifecycleLocked_some loaded).2.1 unresolved rows projected

theorem claim_effect {owner : Uuid} {limit leaseSeconds : Nat} {creatorId : Option Uuid}
    {locked : Uuid → Bool} {claims : List ClaimedOutbox}
    (done : Outbox.claimMatching store owner limit leaseSeconds creatorId locked =
      .ok (claims, store')) :
    Effect d store (.claim owner limit leaseSeconds creatorId locked) store' := by
  obtain ⟨_, _, ⟨leased, _⟩, leases, done⟩ := bind₂_eq_ok.mp done
  cases done
  obtain ⟨outbox, next, rfl, order, grows, -⟩ :=
    Outbox.leaseRows_ok (Outbox.candidates_nodup store.outbox.valid.1) leases
  refine .claimed owner limit leaseSeconds creatorId locked _ outbox next order ?_ grows
  intro row chosen
  obtain ⟨stored, selected⟩ := Outbox.mem_candidates chosen
  simp only [Bool.and_eq_true] at selected
  exact ⟨stored, selected.1.1, selected.2⟩

theorem claimReconciliation_effect {owner : Uuid} {limit leaseSeconds : Nat}
    {creators : Option (List Uuid)} {locked : Uuid → Bool} {claims : List ClaimedHandoff}
    (done : Outbox.claimReconciliationForCreators store owner limit leaseSeconds creators locked =
      .ok (claims, store')) :
    Effect d store (.claimReconciliation owner limit leaseSeconds creators locked) store' := by
  obtain ⟨_, _, ⟨leased, _⟩, leases, done⟩ := bind₂_eq_ok.mp done
  cases done
  obtain ⟨outbox, next, rfl, order, grows, -⟩ :=
    Outbox.leaseRows_ok (Outbox.candidates_nodup store.outbox.valid.1) leases
  refine .reclaimed owner limit leaseSeconds creators locked _ outbox next order ?_ grows
  intro row chosen
  obtain ⟨stored, selected⟩ := Outbox.mem_candidates chosen
  simp only [Bool.and_eq_true, Bool.or_eq_true, decide_eq_true_eq, Option.isNone_iff_eq_none,
    Option.any_eq_true] at selected
  exact ⟨stored, selected.1.1.1.1, selected.2⟩

theorem replay_effect (isDrain : operation.isDrain = true)
    {lock : PubkyLockResource} {result : Option PaymentDrains.PaymentDrainSnapshot}
    (done : PaymentDrains.exactReplay d.crypto store lock = .ok (result, store')) :
    Effect d store operation store' := by
  obtain ⟨-, -, rfl⟩ | ⟨drain, drains, active, -, falls, -, rfl, rows⟩ :=
    PaymentDrains.exactReplay_ok done
  · exact .unchanged _
  · exact .drainRead operation isDrain lock drain drains active falls rows

theorem createDrain_effect {lock : PubkyLockResource} {evidence : Option (List String)}
    {result : PaymentDrains.PaymentDrainSnapshot}
    (done : PaymentDrains.createInner d.crypto d.sdk store lock evidence = .ok (result, store')) :
    Effect d store (.createDrain lock evidence) store' := by
  obtain replayed | ⟨creator, drain, generation, generations, drains, outbox, next, rfl, found,
    free, high, low, inserted, fenced, current, requires, freezes, -⟩ :=
    PaymentDrains.createInner_ok done
  · exact replay_effect rfl replayed
  · exact .drained lock evidence creator drain generation generations drains outbox next found
      free low high inserted fenced current requires freezes

theorem reauthenticate_effect {replacement : CreatorCredentials}
    (done : operate d store (.reauthenticate replacement) = .ok store') :
    Effect d store (.reauthenticate replacement) store' := by
  obtain ⟨row, found, done⟩ := bind_eq_ok.mp (persist_eq_ok.mp done)
  obtain ⟨existing, opened, _, valid, _, unchanged, done⟩ := bind₃_eq_ok.mp done
  obtain ⟨creators, written, done⟩ := bind_eq_ok.mp done
  cases done
  obtain rfl := Creators.decryptCredentials_ok opened
  exact .reauthenticated replacement row creators (demand_eq_ok.mp found)
    (Table.write_eq_ok.mp written) valid (ensure_eq_ok.mp unchanged)

theorem rotate_effect {replacement : CreatorCredentials} {evidence : List String}
    (done : operate d store (.rotateBitcoinAccount replacement evidence) = .ok store') :
    Effect d store (.rotateBitcoinAccount replacement evidence) store' := by
  obtain ⟨rotation, rotated⟩ := snd_eq_ok.mp (persist_eq_ok.mp done)
  obtain ⟨row, found, existing, opened, rotated⟩ := bind₂_eq_ok.mp rotated
  obtain rfl := Creators.decryptCredentials_ok opened
  obtain ⟨_, valid, _, changed, rotated⟩ := bind₂_eq_ok.mp rotated
  obtain ⟨creators, preparations, columns, outbox, rotations, items, next, rfl, order, rows,
    projected, voids, suppresses⟩ := Creators.retireBitcoinAccount_ok rotated
  exact .rotated replacement evidence row creators preparations columns outbox rotations items
    next order (demand_eq_ok.mp found) rows projected voids suppresses valid
    (ensure_eq_ok.mp changed)

theorem createInvoice_effect {input : Invoices.AtomicInvoiceInput}
    (done : operate d store (.createInvoice input) = .ok store') :
    Effect d store (.createInvoice input) store' := by
  obtain ⟨result, created⟩ := snd_eq_ok.mp (persist_eq_ok.mp done)
  obtain ⟨creator, found, ⟨_, -, -, rfl⟩ |
      ⟨_, _, ⟨-, window, acceptance, order⟩, free, admitted⟩⟩ :=
    Invoices.createAtomic_ok created
  · exact .unchanged _
  · obtain ⟨locked, new, ids, rfl, -, -, -, ⟨due, -⟩, v1, -, admissible, inserted, -⟩ :=
      Invoices.admitInvoice_ok free admitted
    refine admission_effect rfl (lookup_mem found) admissible ⟨?_, ?_⟩ inserted
    · rw [admissible.createdAt, due, (OffsetDateTime.checkedAdd_eq_some.mp window).2]
      have positive := seconds_pos (Nat.ne_of_gt (Nat.lt_of_le_of_lt (Nat.zero_le _) order))
      exact Int.lt_add_of_pos_right _ (by omega)
    · rw [v1]
      exact fun _ none => by cases none

theorem createProviderV2_effect {input : Invoices.ProviderV2AtomicInvoiceInput}
    (done : operate d store (.createProviderV2 input) = .ok store') :
    Effect d store (.createProviderV2 input) store' := by
  obtain ⟨result, created⟩ := snd_eq_ok.mp (persist_eq_ok.mp done)
  obtain ⟨creator, found, ⟨_, -, -, rfl⟩ | ⟨free, admitted⟩⟩ :=
    Invoices.createProviderV2Atomic_ok created
  · exact .unchanged _
  · obtain ⟨locked, new, ids, rfl, -, -, -, ⟨due, early, -⟩, v2, ⟨-, direct⟩, -, admissible,
      inserted, -⟩ := Invoices.admitProviderV2_ok free admitted
    refine admission_effect rfl (lookup_mem found) admissible ⟨?_, ?_⟩ inserted
    · rw [admissible.createdAt, due]
      exact early
    · rw [v2]
      rintro _ ⟨⟩
      exact ⟨direct, due⟩

theorem operate_effect (done : operate d store operation = .ok store') :
    Effect d store operation store' := by
  cases operation with
  | tick elapsed =>
    cases done
    exact .ticked elapsed
  | createCreator credentials =>
    obtain ⟨id, created⟩ := snd_eq_ok.mp (persist_eq_ok.mp done)
    obtain ⟨creators, written, created⟩ := bind_eq_ok.mp created
    cases created
    exact .created credentials creators (Table.write_eq_ok.mp written)
  | reauthenticate => exact reauthenticate_effect done
  | rotationReceiveTargets creatorId =>
    obtain ⟨targets, required⟩ := snd_eq_ok.mp (persist_eq_ok.mp done)
    obtain ⟨preparations, columns, rfl, projected, grows⟩ :=
      Creators.requiredReceiveTargets_ok required
    exact .completed creatorId preparations columns projected grows
  | rotateBitcoinAccount => exact rotate_effect done
  | createInvoice => exact createInvoice_effect done
  | createProviderV2 => exact createProviderV2_effect done
  | prepare input acceptedAgo =>
    obtain ⟨result, prepared⟩ := snd_eq_ok.mp (persist_eq_ok.mp done)
    exact prepare_effect prepared
  | activate input =>
    obtain ⟨result, activated⟩ := snd_eq_ok.mp done
    exact activate_effect activated
  | void creator invoiceId =>
    obtain ⟨result, voided⟩ := snd_eq_ok.mp done
    exact void_effect voided
  | resolve creator invoiceId outcome =>
    obtain ⟨result, resolved⟩ := snd_eq_ok.mp done
    exact resolve_effect resolved
  | claim owner limit leaseSeconds creatorId locked =>
    obtain ⟨claims, claimed⟩ := snd_eq_ok.mp (persist_eq_ok.mp done)
    exact claim_effect claimed
  | claimReconciliation owner limit leaseSeconds creators locked =>
    obtain ⟨claims, claimed⟩ := snd_eq_ok.mp (persist_eq_ok.mp done)
    exact claimReconciliation_effect claimed
  | work step =>
    obtain ⟨changed, worked⟩ := snd_eq_ok.mp (persist_eq_ok.mp done)
    obtain ⟨outbox, condition, rfl, rows, -, fenced⟩ := WorkerStep.perform_ok worked
    exact .worked step outbox condition rows fenced
  | applyLifecycle creatorId projection =>
    obtain ⟨result, applied⟩ := snd_eq_ok.mp (persist_eq_ok.mp done)
    obtain ⟨lifecycles, rfl, grows⟩ := applyLifecycle_ok applied
    exact .reported creatorId projection lifecycles grows
  | createDrain lock evidence =>
    obtain ⟨result, created⟩ := snd_eq_ok.mp (persist_eq_ok.mp done)
    exact createDrain_effect created
  | replayDrain lock =>
    obtain ⟨result, replayed⟩ := snd_eq_ok.mp (persist_eq_ok.mp done)
    exact replay_effect rfl replayed
  | cleanupDrain lock token =>
    obtain rfl | ⟨creator, generation, drain, generations, drains, cleans, rfl, ended, deleted⟩ :=
      PaymentDrains.cleanupCompleted_ok (persist_eq_ok.mp done)
    · exact .unchanged _
    · exact .cleaned lock token creator generation drain generations drains cleans ended deleted
  | observe observation =>
    obtain ⟨db, executed, done⟩ := bind_eq_ok.mp (persist_eq_ok.mp done)
    cases done
    exact .observed observation db executed

end Operate

end PaykitServer
