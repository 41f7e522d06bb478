import PaykitServer.Operations

/-!
# What operations read of the projected attempts

Creators, invoices, observation and the life of a drain take no notice of the projected
attempts: replaced by others, they are carried along unread. Only a new drain looks at
them, and then only at those of the generation it freezes. Each lemma below says so for
one function: it answers the same and writes the same, around whatever attempts there are.
-/

namespace PaykitServer

open Domain Persistence Application
open MarketplacePreparations PaymentDrains Relational

abbrev Attempts := Table LifecycleRow LifecycleConstraints

def Persistence.Store.withAttempts (store : Store) (attempts : Attempts) : Store :=
  { store with lifecycles := attempts }

def reattempted {α : Type} (attempts : Attempts) (answer : α × Store) : α × Store :=
  (answer.1, answer.2.withAttempts attempts)

section Creation

variable {crypto : Crypto} {sdk : Sdk} {store : Store} {attempts : Attempts}

theorem create_withAttempts {credentials : CreatorCredentials} :
    Creators.create crypto (store.withAttempts attempts) credentials =
      reattempted attempts <$> Creators.create crypto store credentials :=
  bind_through_last fun _ _ => rfl

theorem lockGenerationForUpdate_withAttempts {creatorId : Uuid} {lockHash : LookupHash} :
    Invoices.lockGenerationForUpdate (store.withAttempts attempts) creatorId lockHash =
      reattempted attempts <$> Invoices.lockGenerationForUpdate store creatorId lockHash :=
  bind_through_last fun _ _ => bind_through_last fun _ _ => rfl

theorem insertAdmission_withAttempts {new : Invoices.NewInvoice} :
    Invoices.insertAdmission crypto (store.withAttempts attempts) new =
      reattempted attempts <$> Invoices.insertAdmission crypto store new :=
  bind_through_last fun _ _ => bind_through_last fun _ _ => rfl

theorem advanceChildIndex_withAttempts (store : Store) {creatorId : Uuid} :
    advanceChildIndex (store.withAttempts attempts) creatorId =
      (·.withAttempts attempts) <$> advanceChildIndex store creatorId :=
  bind_through_last fun _ _ => rfl

theorem insertNewInvoice_withAttempts {new : Invoices.NewInvoice} :
    Invoices.insertNewInvoice crypto (store.withAttempts attempts) new =
      reattempted attempts <$> Invoices.insertNewInvoice crypto store new := by
  refine bind_through_last fun assignments _ => ?_
  refine bind_through (advanceChildIndex_withAttempts
    { store.newUuid.2 with assignments := assignments }) fun mid _ => ?_
  refine bind_through_last fun terms _ => ?_
  refine bind_through insertAdmission_withAttempts fun ⟨id, mid⟩ _ => ?_
  exact bind_through_last fun _ _ => bind_through_last fun _ _ => rfl

variable {input : Invoices.AtomicInvoiceInput}

theorem admitInvoice_withAttempts {creator : CreatorRow}
    {proposalExpiresAt paymentDeadline : OffsetDateTime} :
    Invoices.admitInvoice crypto sdk (store.withAttempts attempts) input creator proposalExpiresAt
        paymentDeadline =
      reattempted attempts <$> Invoices.admitInvoice crypto sdk store input creator
        proposalExpiresAt paymentDeadline := by
  refine bind_through_last fun _ _ => ?_
  refine bind_through lockGenerationForUpdate_withAttempts fun ⟨lock, mid⟩ _ => ?_
  refine bind_through_last fun _ _ => bind_through_last fun _ _ => ?_
  refine bind_through_last fun _ _ => bind_through_last fun _ _ => ?_
  refine bind_through_last fun ⟨intent, payment⟩ _ => ?_
  exact bind_through insertNewInvoice_withAttempts fun _ _ => rfl

theorem createAtomic_withAttempts :
    Invoices.createAtomic crypto sdk (store.withAttempts attempts) input =
      reattempted attempts <$> Invoices.createAtomic crypto sdk store input := by
  refine bind_through_last fun _ _ => bind_through_last fun creator _ => ?_
  refine bind_through_last fun _ _ => bind_through_last fun _ _ => ?_
  have same : Invoices.invoiceByBundle (store.withAttempts attempts) =
      Invoices.invoiceByBundle store := rfl
  dsimp only
  rw [same]
  cases Invoices.invoiceByBundle store creator.id (crypto.lookupHash input.bundleBinding) with
  | some existing => exact bind_through_last fun _ _ => rfl
  | none => exact admitInvoice_withAttempts

theorem admitProviderV2_withAttempts {input : Invoices.ProviderV2AtomicInvoiceInput}
    {creator : CreatorRow} :
    Invoices.admitProviderV2 crypto sdk (store.withAttempts attempts) input creator =
      reattempted attempts <$> Invoices.admitProviderV2 crypto sdk store input creator := by
  refine bind_through_last fun _ _ => bind_through_last fun _ _ => bind_through_last fun _ _ => ?_
  refine bind_through_last fun _ _ => bind_through_last fun _ _ => ?_
  refine bind_through lockGenerationForUpdate_withAttempts fun ⟨lock, mid⟩ _ => ?_
  refine bind_through_last fun _ _ => bind_through_last fun _ _ => bind_through_last fun _ _ => ?_
  refine bind_through_last fun ⟨intent, payment⟩ _ => ?_
  refine bind_through_last fun _ _ => bind_through_last fun _ _ => bind_through_last fun _ _ => ?_
  exact bind_through insertNewInvoice_withAttempts fun _ _ => rfl

theorem createProviderV2Atomic_withAttempts {input : Invoices.ProviderV2AtomicInvoiceInput} :
    Invoices.createProviderV2Atomic crypto sdk (store.withAttempts attempts) input =
      reattempted attempts <$> Invoices.createProviderV2Atomic crypto sdk store input := by
  refine bind_through_last fun _ _ => bind_through_last fun creator _ => ?_
  have same : Invoices.invoiceByBundle (store.withAttempts attempts) =
      Invoices.invoiceByBundle store := rfl
  rw [same]
  cases Invoices.invoiceByBundle store creator.id (crypto.lookupHash input.bundleBinding) with
  | some existing => exact bind_through_last fun _ _ => rfl
  | none => exact admitProviderV2_withAttempts

end Creation

section Drains

variable {crypto : Crypto} {sdk : Sdk} {store : Store} {attempts : Attempts}
variable {lock : PubkyLockResource}

theorem progress_withAttempts {drain : DrainRow} :
    progress (store.withAttempts attempts) drain =
      reattempted attempts <$> progress store drain :=
  bind_through_last fun _ _ => bind_through_last fun _ _ => rfl

theorem exactReplay_withAttempts :
    exactReplay crypto (store.withAttempts attempts) lock =
      reattempted attempts <$> exactReplay crypto store lock := by
  have same : activeDrain crypto (store.withAttempts attempts) lock =
      activeDrain crypto store lock := rfl
  cases active : activeDrain crypto store lock with
  | none => rw [exactReplay_of_none active, exactReplay_of_none (same.trans active)]; rfl
  | some drain =>
    rw [exactReplay_of_some active, exactReplay_of_some (same.trans active)]
    refine bind_through_last fun _ _ => bind_through_last fun _ _ => ?_
    refine bind_through progress_withAttempts fun ⟨drain, mid⟩ _ => ?_
    exact bind_through_last fun _ _ => rfl

variable {creatorId : Uuid} {generation : LockGenerationRow} {invoice : AdmissionRow}
  {proposal : DeliveryIntentV1} {evidence : Option (List String)}

theorem cleanupActive_withAttempts {drainId : Uuid} {token : LookupHash} :
    cleanupActive crypto (store.withAttempts attempts) lock creatorId generation drainId token =
      (·.withAttempts attempts) <$>
        cleanupActive crypto store lock creatorId generation drainId token := by
  refine bind_through_last fun drain _ => bind_through_last fun _ _ => bind_through_last fun _ _ => ?_
  refine bind_through_last fun _ _ => bind_through_last fun _ _ => bind_through_last fun _ _ => ?_
  exact bind_through_last fun _ _ => bind_through_last fun _ _ => bind_through_last fun _ _ => rfl

theorem cleanupCompleted_withAttempts {token : LookupHash} :
    cleanupCompleted crypto (store.withAttempts attempts) lock token =
      (·.withAttempts attempts) <$> cleanupCompleted crypto store lock token := by
  refine bind_through_last fun creator _ => ?_
  have same : (store.withAttempts attempts).lockGeneration = store.lockGeneration := rfl
  dsimp only
  rw [same]
  cases store.lockGeneration creator.id (textHash crypto lock.canonical) with
  | none =>
    dsimp only
    rw [apply_ite (fun answer : Except PersistenceError Store =>
      (·.withAttempts attempts) <$> answer)]
    rfl
  | some generation =>
    dsimp only
    cases generation.activeDrainId with
    | none => exact bind_through_last fun _ _ => bind_through_last fun _ _ => bind_through_last fun _ _ => rfl
    | some drainId => exact cleanupActive_withAttempts

theorem requireCancellation_withAttempts (store : Store) {cancellation : PreparedCancellation} :
    requireCancellation creatorId (store.withAttempts attempts) cancellation =
      (·.withAttempts attempts) <$> requireCancellation creatorId store cancellation := by
  unfold requireCancellation
  cases cancellation.insert with
  | true => exact bind_through_last fun _ _ => rfl
  | false => exact bind_through_last fun _ _ => bind_through_last fun _ _ => rfl

theorem insertDrain_withAttempts {drainId : Uuid}
    {found : List (DrainItem × List PreparedCancellation)} :
    insertDrain (store.withAttempts attempts) lock generation drainId found =
      reattempted attempts <$> insertDrain store lock generation drainId found := by
  refine bind_through_last fun drains _ => bind_through_last fun generations _ => ?_
  refine bind_through (foldlM_through
    (fun mid _ => requireCancellation_withAttempts mid) _
    { store with drains := drains, lockGenerations := generations }) fun _ _ => rfl

def SameAttempts (store : Store) (attempts : Attempts) (invoice : AdmissionRow) : Prop :=
  invoiceAttempts (store.withAttempts attempts) invoice.id = invoiceAttempts store invoice.id

theorem sameAttempts_drawn {mid : Store}
    (draws : DrawsIdentities store mid) (same : SameAttempts store attempts invoice) :
    SameAttempts mid attempts invoice := by
  obtain ⟨next, rfl, -⟩ := draws
  exact same

theorem prepareCancellation_withAttempts {invoiceId : Uuid} {target : String} :
    prepareCancellation sdk (store.withAttempts attempts) creatorId invoiceId proposal target =
      reattempted attempts <$>
        prepareCancellation sdk store creatorId invoiceId proposal target := by
  refine bind_through_last fun intent _ => ?_
  have same : Creators.existingCancellation (store.withAttempts attempts) =
      Creators.existingCancellation store := rfl
  rw [same]
  cases Creators.existingCancellation store creatorId (.invoice invoiceId) target with
  | none => rfl
  | some row =>
    exact bind_through_last fun _ _ => bind_through_last fun _ _ =>
      bind_through_last fun _ _ => rfl

theorem prepareCancellations_withAttempts {invoiceId : Uuid} {parsed : List ParsedAttempt} :
    prepareCancellations sdk creatorId invoiceId proposal (store.withAttempts attempts) parsed =
      reattempted attempts <$>
        prepareCancellations sdk creatorId invoiceId proposal store parsed := by
  induction parsed generalizing store with
  | nil => rfl
  | cons attempt parsed ih =>
    refine bind_through_last fun _ _ => ?_
    refine bind_through prepareCancellation_withAttempts fun ⟨first, mid⟩ _ => ?_
    exact bind_through ih fun _ _ => rfl

theorem parsedAttempts_withAttempts (same : SameAttempts store attempts invoice) :
    parsedAttempts (store.withAttempts attempts) invoice.id = parsedAttempts store invoice.id := by
  unfold parsedAttempts
  rw [same]
  rfl

theorem drainInvoice_withAttempts (same : SameAttempts store attempts invoice) :
    drainInvoice sdk (store.withAttempts attempts) creatorId invoice =
      reattempted attempts <$> drainInvoice sdk store creatorId invoice := by
  unfold drainInvoice
  rw [parsedAttempts_withAttempts same]
  refine bind_through_last fun parsed _ => bind_through_last fun classification _ => ?_
  dsimp only
  split
  · rfl
  · refine bind_through_last fun proposal _ => ?_
    exact bind_through prepareCancellations_withAttempts fun _ _ => rfl

theorem drainInvoices_withAttempts {invoices : List AdmissionRow}
    (same : ∀ invoice ∈ invoices, SameAttempts store attempts invoice) :
    drainInvoices sdk creatorId (store.withAttempts attempts) invoices =
      reattempted attempts <$> drainInvoices sdk creatorId store invoices := by
  induction invoices generalizing store with
  | nil => rfl
  | cons invoice invoices ih =>
    refine bind_through (drainInvoice_withAttempts (same invoice (.head _)))
      fun ⟨first, mid⟩ done => ?_
    have draws := (drainInvoice_ok done).1
    refine bind_through (ih fun other member => ?_) fun _ _ => rfl
    exact sameAttempts_drawn draws (same other (.tail _ member))

theorem awaitsDrainReceive_withAttempts (same : SameAttempts store attempts invoice) :
    awaitsDrainReceive (store.withAttempts attempts) invoice.id =
      awaitsDrainReceive store invoice.id := by
  unfold awaitsDrainReceive
  rw [same]

theorem requiredReceiveTargetsForLock_withAttempts {lockHash : LookupHash}
    (same : ∀ generation, store.lockGeneration creatorId lockHash = some generation →
      ∀ invoice ∈ generationInvoices store creatorId lockHash generation.currentGeneration,
        SameAttempts store attempts invoice) :
    requiredReceiveTargetsForLock sdk (store.withAttempts attempts) creatorId lockHash =
      requiredReceiveTargetsForLock sdk store creatorId lockHash := by
  have current : (store.withAttempts attempts).lockGeneration = store.lockGeneration := rfl
  unfold requiredReceiveTargetsForLock
  dsimp only
  rw [current]
  cases found : store.lockGeneration creatorId lockHash with
  | none => rfl
  | some generation =>
    refine congrArg (decodeRequiredReceiveTargets sdk) (List.filterMap_congr fun invoice member => ?_)
    rw [awaitsDrainReceive_withAttempts (same generation found invoice member)]
    rfl

theorem createDrain_withAttempts {creator : CreatorRow}
    (same : ∀ generation mid, Invoices.lockGenerationForUpdate store creator.id
        (textHash crypto lock.canonical) = .ok (generation, mid) →
      generation.activeDrainId = none → ∀ invoice ∈ generationInvoices store creator.id
        (textHash crypto lock.canonical) generation.currentGeneration,
        SameAttempts store attempts invoice) :
    createDrain crypto sdk (store.withAttempts attempts) lock creator evidence =
      reattempted attempts <$> createDrain crypto sdk store lock creator evidence := by
  refine bind_through lockGenerationForUpdate_withAttempts fun ⟨generation, mid⟩ locked => ?_
  refine bind_through_last fun _ free => ?_
  have same := same generation mid locked (ensure_eq_ok.mp free).2
  obtain ⟨generations, rfl, -, current⟩ := Invoices.lockGenerationForUpdate_ok locked
  have evidenced : checkReceiveEvidence sdk (({ store with
        lockGenerations := generations } : Store).withAttempts attempts) creator.id
        (textHash crypto lock.canonical) evidence =
      checkReceiveEvidence sdk { store with lockGenerations := generations } creator.id
        (textHash crypto lock.canonical) evidence := by
    cases evidence with
    | none => rfl
    | some evidence =>
      unfold checkReceiveEvidence
      rw [requiredReceiveTargetsForLock_withAttempts]
      intro stored found
      cases current.symm.trans found
      exact same
  dsimp only [reattempted]
  rw [evidenced]
  refine bind_through_last fun _ _ => ?_
  refine bind_through (@drainInvoices_withAttempts sdk
    ({ store with lockGenerations := generations } : Store).newUuid.2 attempts _ _ same)
    fun _ _ => ?_
  exact insertDrain_withAttempts

theorem createInner_withAttempts (same : ∀ creator generation mid,
      store.creatorByHash (textHash crypto lock.creator) = some creator →
      Invoices.lockGenerationForUpdate store creator.id (textHash crypto lock.canonical) =
        .ok (generation, mid) →
      generation.activeDrainId = none → ∀ invoice ∈ generationInvoices store creator.id
        (textHash crypto lock.canonical) generation.currentGeneration,
        SameAttempts store attempts invoice) :
    createInner crypto sdk (store.withAttempts attempts) lock evidence =
      reattempted attempts <$> createInner crypto sdk store lock evidence := by
  refine bind_through_last fun creator found => ?_
  have stored : drainByLock (store.withAttempts attempts) = drainByLock store := rfl
  rw [stored]
  cases drainByLock store creator.id (textHash crypto lock.canonical) with
  | none =>
    exact createDrain_withAttempts fun generation mid =>
      same creator generation mid (demand_eq_ok.mp found)
  | some existing =>
    refine bind_through_last fun _ _ => ?_
    refine bind_through exactReplay_withAttempts fun _ _ => ?_
    exact bind_through_last fun _ _ => rfl

end Drains

def Operation.ignoresAttempts : Operation → Bool
  | .tick _ | .createCreator _ | .createInvoice _ | .createProviderV2 _ | .replayDrain _
  | .cleanupDrain .. | .observe _ => true
  | _ => false

section Operate

variable {d : Deployment} {store : Store} {attempts : Attempts} {operation : Operation}

theorem persist_snd_through {α : Type} {answer : Except PersistenceError (α × Store)} :
    persist (Prod.snd <$> reattempted attempts <$> answer) =
      (·.withAttempts attempts) <$> persist (Prod.snd <$> answer) := by
  cases answer <;> rfl

theorem persist_through {answer : Except PersistenceError Store} :
    persist ((·.withAttempts attempts) <$> answer) = (·.withAttempts attempts) <$> persist answer := by
  cases answer <;> rfl

theorem operate_withAttempts (ignores : operation.ignoresAttempts = true) :
    operate d (store.withAttempts attempts) operation =
      (·.withAttempts attempts) <$> operate d store operation := by
  cases operation with
  | tick elapsed => rfl
  | createCreator credentials =>
    exact (congrArg _ (congrArg _ create_withAttempts)).trans persist_snd_through
  | createInvoice input =>
    exact (congrArg _ (congrArg _ createAtomic_withAttempts)).trans persist_snd_through
  | createProviderV2 input =>
    exact (congrArg _ (congrArg _ createProviderV2Atomic_withAttempts)).trans persist_snd_through
  | replayDrain lock =>
    exact (congrArg _ (congrArg _ exactReplay_withAttempts)).trans persist_snd_through
  | cleanupDrain lock token =>
    exact (congrArg _ cleanupCompleted_withAttempts).trans persist_through
  | observe observation =>
    have observed : observe d.toEnvironment (store.withAttempts attempts) observation =
        (·.withAttempts attempts) <$> observe d.toEnvironment store observation :=
      bind_through_last fun _ _ => rfl
    exact (congrArg _ observed).trans persist_through
  | _ => cases ignores

end Operate

end PaykitServer
