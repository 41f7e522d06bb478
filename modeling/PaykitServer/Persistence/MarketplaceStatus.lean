import Mathlib.Data.List.Induction
import PaykitServer.Persistence.Lifecycles

/-!
# The status of a Marketplace request

A status read takes one snapshot and rebuilds everything it reports: the payment
record from the sealed intent, the Bitcoin rail from the active observation, and
the USDT rail from the present receipts. The columns that observation projects
are not reported; they are compared with the rebuilt ones, and a read that finds
any difference fails.
-/

namespace PaykitServer.Persistence.MarketplacePreparations

open Domain Application Relational

structure MarketplaceBitcoinStatus where
  outpoint : BitcoinOutpoint
  observedSats : Nat
  firstObservedAt : OffsetDateTime
  confirmations : Nat
  present : Bool
  amountMatched : Bool
  paidOnTime : Bool
deriving DecidableEq

/-- The receipt that best settles the request. -/
structure MarketplaceUsdtStatus where
  txHash : String
  observedAmount : Nat
  observedAt : OffsetDateTime
  confirmations : Nat
  amountMatched : Bool
  paidOnTime : Bool
  finalized : Bool
deriving DecidableEq

inductive PublicationState where
  | unpublished
  | pending
  | delivered
  | failed
deriving DecidableEq, Repr

inductive MarketplacePaymentState where
  | undetected
  | detected
  | confirmed
  | expired
deriving DecidableEq, Repr

structure MarketplaceInvoiceStatus where
  invoiceId : Uuid
  state : PreparationState
  proposalDeliveryState : PublicationState
  requestState : Option PaymentRequestLifecycleState
  paymentState : Option MarketplacePaymentState
  activatedAt : Option OffsetDateTime
  paymentDeadline : Option OffsetDateTime
  acceptedAssets : List AcceptedAsset
  paymentAmounts : List (AcceptedAsset × Nat)
  bitcoin : Option MarketplaceBitcoinStatus
  usdtArbitrum : Option MarketplaceUsdtStatus
  paidAsset : Option AcceptedAsset
  outcome : Option MarketplaceResolutionOutcome
  resolvedAt : Option OffsetDateTime
deriving DecidableEq

def publicationState : OutboxStatus → PublicationState
  | .queued | .leased | .retryable | .handedOff => .pending
  | .delivered => .delivered
  | .permanentlyFailed => .failed

/-- The proposals of a preparation, whoever sends them. -/
def proposals (store : Store) (preparation : Uuid) : List OutboxRow :=
  store.outbox.rows.filter fun row => row.marketplaceProposal = some preparation

def attempts (store : Store) (preparation : Uuid) : List LifecycleRow :=
  store.lifecycles.rows.filter fun row => row.marketplacePreparationId = some preparation

def statusBitcoin (crypto : Crypto) (db : Database) (preparation : Uuid) (requiredSats : Nat)
    (activatedAt : OffsetDateTime) : Except PersistenceError (Option MarketplaceBitcoinStatus) :=
  match activeObservation db preparation with
  | none => .ok none
  | some row => do
    let observation ← decryptMarketplaceObservation row
    ensure (row.outpointLookupHash =
        crypto.bitcoinOutpointLookupHash observation.outpoint.canonicalText ∧
      0 ≤ row.confirmations ∧ (row.present = false → row.confirmations = 0) ∧
      activatedAt ≤ row.firstObservedAt) .corruptOrMissing
    let amountMatched := row.present && decide (requiredSats ≤ observation.observedSats)
    return some {
      outpoint := observation.outpoint
      observedSats := observation.observedSats
      firstObservedAt := row.firstObservedAt
      confirmations := if row.present then row.confirmations.toNat else 0
      present := row.present
      amountMatched
      paidOnTime := amountMatched &&
        db.marketplaceTimely.contains (preparation, row.outpointLookupHash) }

def statusBitcoinRail (crypto : Crypto) (db : Database) (preparation : Uuid)
    (payment : InvoicePaymentRecordV1) (activatedAt : OffsetDateTime) :
    Except PersistenceError (Option MarketplaceBitcoinStatus) :=
  if payment.bitcoin.isSome then do
    let required ← bitcoinRequiredAmount payment
    statusBitcoin crypto db preparation required activatedAt
  else do
    ensure (activeObservation db preparation = none) .corruptOrMissing
    return none

/-- The columns that observation should have projected from this rail. -/
def projectedStatus (bitcoin : Option MarketplaceBitcoinStatus) : PaymentStatus :=
  match bitcoin with
  | none => .undetected
  | some status =>
    if status.present = false then .undetected
    else if status.confirmations = 0 then .detected
    else .confirmed

def projectedConfirmations (bitcoin : Option MarketplaceBitcoinStatus) : Nat :=
  match bitcoin with
  | none => 0
  | some status =>
    if status.amountMatched then min status.confirmations 6 else status.confirmations

def projectedAmountMatched (bitcoin : Option MarketplaceBitcoinStatus) : Bool :=
  bitcoin.any fun status => status.present && status.amountMatched

def usdtChainId : String := "42161"

def transferIdentity (transactionHash : String) (logIndex : Nat) : String :=
  usdtChainId ++ ":" ++ transactionHash ++ ":" ++ toString logIndex

/-- A transaction hash is `0x` and 64 lowercase hexadecimal characters. -/
def isTransactionHash (hash : List Char) : Bool :=
  hash.length == 66 && hash.take 2 == ['0', 'x'] &&
    (hash.drop 2).all fun c => c.isDigit || ('a' ≤ c && c ≤ 'f')

def transactionHash (identity : String) : Except PersistenceError String :=
  match identity.toList.splitOn ':' with
  | [chain, hash, _] =>
    if chain = usdtChainId.toList ∧ isTransactionHash hash then .ok (String.ofList hash)
    else .error .corruptOrMissing
  | _ => .error .corruptOrMissing

def usdtFacts (crypto : Crypto) (row : UsdtObservationRow) :
    Except PersistenceError TransferFacts := do
  ensure (row.transferLookupHash = crypto.usdtTransferLookupHash row.facts.identity ∧
    0 ≤ row.confirmations) .corruptOrMissing
  return row.facts

def usdtRequiredAmount (payment : InvoicePaymentRecordV1) : Except PersistenceError Nat := do
  ensure (payment.version = 1) .corruptOrMissing
  let destination ← demand .invalidInput payment.usdt
  return destination.requiredAmount

/-- What one receipt shows: chain time has whole seconds, so the window opens at
the second of activation. -/
def receiptStatus (crypto : Crypto) (required : Nat) (activatedAt deadline : OffsetDateTime)
    (row : UsdtObservationRow) : Except PersistenceError MarketplaceUsdtStatus := do
  let facts ← usdtFacts crypto row
  let txHash ← transactionHash facts.identity
  let amountMatched := decide (required ≤ facts.amount)
  return {
    txHash
    observedAmount := facts.amount
    observedAt := facts.timestamp
    confirmations := row.confirmations.toNat
    amountMatched
    paidOnTime := amountMatched &&
      decide (OffsetDateTime.replaceNanosecondZero activatedAt ≤ facts.timestamp) &&
      decide (facts.timestamp ≤ deadline)
    finalized := row.finalized }

/-- A receipt outranks another by timeliness, finality, amount and depth. -/
def MarketplaceUsdtStatus.outranks (status other : MarketplaceUsdtStatus) : Bool :=
  let first := fun (a b : Bool) (rest : Bool) => (a && !b) || (a == b && rest)
  first status.paidOnTime other.paidOnTime (first status.finalized other.finalized
    (first status.amountMatched other.amountMatched
      (decide (other.confirmations < status.confirmations))))

/-- The receipt to display, which is the first of the highest rank. -/
def selectedReceipt (receipts : List MarketplaceUsdtStatus) : Option MarketplaceUsdtStatus :=
  receipts.foldl
    (fun selected status =>
      if selected.all (status.outranks ·) then some status else selected) none

def firstQualifyingAt (receipts : List MarketplaceUsdtStatus) : Option OffsetDateTime :=
  ((receipts.filter (·.paidOnTime)).map (·.observedAt)).min?

def statusUsdt (crypto : Crypto) (db : Database) (preparation : Uuid)
    (payment : InvoicePaymentRecordV1) (activatedAt deadline : OffsetDateTime) :
    Except PersistenceError (Option MarketplaceUsdtStatus × Option OffsetDateTime) := do
  let rows := db.usdtObservations.rows.filter fun row =>
    row.marketplacePreparationId = some preparation && row.present
  if payment.usdt.isSome then do
    let required ← usdtRequiredAmount payment
    let receipts ← rows.mapM (receiptStatus crypto required activatedAt deadline)
    return (selectedReceipt receipts, firstQualifyingAt receipts)
  else do
    ensure (rows = []) .corruptOrMissing
    return (none, none)

/-- The asset whose receipt qualified first; Bitcoin wins a tie. -/
def paidAsset (bitcoin : Option MarketplaceBitcoinStatus) (usdtAt : Option OffsetDateTime) :
    Option AcceptedAsset :=
  match (bitcoin.filter (·.paidOnTime)).map (·.firstObservedAt), usdtAt with
  | none, none => none
  | some _, none => some .btc
  | none, some _ => some .usdt
  | some bitcoinAt, some usdtAt => if bitcoinAt ≤ usdtAt then some .btc else some .usdt

def marketplacePaymentState (now deadline : OffsetDateTime) (status : PaymentStatus)
    (bitcoin : Option MarketplaceBitcoinStatus) (usdt : Option MarketplaceUsdtStatus)
    (paid : Option AcceptedAsset) : MarketplacePaymentState :=
  let deadlinePassed := decide (deadline < now) || bitcoin.any (deadline < ·.firstObservedAt) ||
    usdt.any (deadline < ·.observedAt)
  if deadlinePassed && paid.isNone then .expired
  else if status = .confirmed || usdt.any (0 < ·.confirmations) then .confirmed
  else if status = .detected || usdt.isSome then .detected
  else .undetected

def inactiveStatus (store : Store) (row : Preparation) (quote : MarketplaceQuote) :
    Except PersistenceError MarketplaceInvoiceStatus := do
  ensure (settlement store.db row.id = none ∧ proposals store row.id = [] ∧
    attempts store row.id = [] ∧ activeObservation store.db row.id = none ∧
    row.activatedAt = none ∧ row.paymentDeadline = none ∧
    (row.voidedAt.isSome ↔ row.state = .voided) ∧
    ∀ resolvedAt ∈ row.resolvedAt, row.preparedAt ≤ resolvedAt) .corruptOrMissing
  return {
    invoiceId := row.id
    state := row.state
    proposalDeliveryState := .unpublished
    requestState := none
    paymentState := none
    activatedAt := none
    paymentDeadline := none
    acceptedAssets := row.envelope.terms.acceptedAssets
    paymentAmounts := quote.paymentAmounts
    bitcoin := none
    usdtArbitrum := none
    paidAsset := none
    outcome := row.businessOutcome
    resolvedAt := row.resolvedAt }

/-- The stored columns of a settlement must be the ones its rails project. -/
def checkProjection (stored : SettlementRow) (bitcoin : Option MarketplaceBitcoinStatus) :
    Except PersistenceError Unit :=
  ensure (stored.paymentStatus = projectedStatus bitcoin ∧
    projectedConfirmations bitcoin < 2 ^ 31 ∧
    stored.confirmationCount = projectedConfirmations bitcoin ∧
    stored.amountMatched = projectedAmountMatched bitcoin) .corruptOrMissing

def activeStatus (crypto : Crypto) (sdk : Sdk) (store : Store) (creator : CreatorRow)
    (row : Preparation) (quote : MarketplaceQuote) :
    Except PersistenceError MarketplaceInvoiceStatus := do
  let activatedAt ← demand .corruptOrMissing row.activatedAt
  let paymentDeadline ← demand .corruptOrMissing row.paymentDeadline
  let stored ← demand .corruptOrMissing
    ((settlement store.db row.id).filter (·.creatorId = row.creatorId))
  ensure ((proposals store row.id).length = 1 ∧ (attempts store row.id).length ≤ 1 ∧
    activatedAt < paymentDeadline ∧ row.voidedAt = none ∧ row.preparedAt ≤ activatedAt ∧
    ∀ resolvedAt ∈ row.resolvedAt, activatedAt ≤ resolvedAt) .corruptOrMissing
  let payment := stored.payment
  let expected ← orFail .corruptOrMissing
    (fromIntent sdk row.envelope.childIndex row.envelope.paymentRequestIntent)
  ensure (payment = expected ∧
    stored.bitcoinAddressLookupHash = settlementAddressHash crypto payment ∧
    stored.derivationIndexLookupHash = crypto.bitcoinDerivationIndexLookupHash
      creator.creatorLookupHash payment.derivationIndex) .corruptOrMissing
  let proposal ← demand .corruptOrMissing (proposals store row.id).head?
  let bitcoin ← statusBitcoinRail crypto store.db row.id payment activatedAt
  checkProjection stored bitcoin
  let (usdt, firstUsdtQualifyingAt) ←
    statusUsdt crypto store.db row.id payment activatedAt paymentDeadline
  let paid := paidAsset bitcoin firstUsdtQualifyingAt
  return {
    invoiceId := row.id
    state := .active
    proposalDeliveryState := publicationState proposal.status
    requestState := (leadingAttempt (attempts store row.id)).map (·.requestState)
    paymentState := some (marketplacePaymentState store.clock paymentDeadline
      (projectedStatus bitcoin) bitcoin usdt paid)
    activatedAt := some activatedAt
    paymentDeadline := some paymentDeadline
    acceptedAssets := row.envelope.terms.acceptedAssets
    paymentAmounts := quote.paymentAmounts
    bitcoin
    usdtArbitrum := usdt
    paidAsset := paid
    outcome := row.businessOutcome
    resolvedAt := row.resolvedAt }

/-- Read the status of a creator's request; a request of another creator is not
found. -/
def statusSnapshot (crypto : Crypto) (sdk : Sdk) (store : Store) (creator : String)
    (invoiceId : Uuid) : Except PersistenceError (Option MarketplaceInvoiceStatus) :=
  match loadLifecycleLocked crypto store creator invoiceId with
  | none => .ok none
  | some (creator, row) => do
    let envelope ← decodeLifecycleEnvelope sdk row
    let quote ← envelopeQuote sdk envelope
    ensure (row.businessOutcome.isSome = row.resolvedAt.isSome ∧
      row.preparedAt < row.prepareExpiresAt) .corruptOrMissing
    match row.state with
    | .prepared | .voided => do
      let status ← inactiveStatus store row quote
      return some status
    | .active => do
      let status ← activeStatus crypto sdk store creator row quote
      return some status

section UsdtRail

variable {crypto : Crypto} {db : Database} {preparation : Uuid} {payment : InvoicePaymentRecordV1}
  {activatedAt deadline : OffsetDateTime}

def presentReceipts (db : Database) (preparation : Uuid) : List UsdtObservationRow :=
  db.usdtObservations.rows.filter fun row =>
    row.marketplacePreparationId = some preparation && row.present

theorem firstQualifyingAt_eq_some {receipts : List MarketplaceUsdtStatus} {time : OffsetDateTime} :
    firstQualifyingAt receipts = some time ↔
      (∃ status ∈ receipts, status.paidOnTime = true ∧ status.observedAt = time) ∧
        ∀ status ∈ receipts, status.paidOnTime = true → time ≤ status.observedAt := by
  simp only [firstQualifyingAt, List.min?_eq_some_iff, List.mem_map, List.mem_filter, and_assoc]
  refine and_congr_right fun _ => ⟨fun least status member paid => ?_, fun least => ?_⟩
  · exact least _ ⟨status, member, paid, rfl⟩
  · rintro _ ⟨status, member, paid, rfl⟩
    exact least status member paid

theorem selectedReceipt_mem {receipts : List MarketplaceUsdtStatus} {status : MarketplaceUsdtStatus}
    (selected : selectedReceipt receipts = some status) : status ∈ receipts := by
  induction receipts using List.reverseRecOn with
  | nil => cases selected
  | append_singleton receipts last ih =>
    simp only [selectedReceipt, List.foldl_append, List.foldl_cons, List.foldl_nil] at selected
    split at selected
    · cases selected
      exact List.mem_append_right _ List.mem_cons_self
    · exact List.mem_append_left _ (ih selected)

theorem receiptStatus_ok {required : Nat} {row : UsdtObservationRow} {status : MarketplaceUsdtStatus}
    (read : receiptStatus crypto required activatedAt deadline row = .ok status) :
    transactionHash row.facts.identity = .ok status.txHash ∧
      status.observedAmount = row.facts.amount ∧ status.observedAt = row.facts.timestamp ∧
      (status.paidOnTime = true ↔ required ≤ row.facts.amount ∧
        OffsetDateTime.replaceNanosecondZero activatedAt ≤ row.facts.timestamp ∧
        row.facts.timestamp ≤ deadline) := by
  obtain ⟨facts, opened, read⟩ := bind_eq_ok.mp read
  obtain ⟨_, _, opened⟩ := bind_eq_ok.mp opened
  cases opened
  obtain ⟨_, hashed, read⟩ := bind_eq_ok.mp read
  cases read
  exact ⟨hashed, rfl, rfl, by simp [and_assoc]⟩

theorem statusUsdt_ok {usdt : Option MarketplaceUsdtStatus} {first : Option OffsetDateTime}
    (read : statusUsdt crypto db preparation payment activatedAt deadline = .ok (usdt, first)) :
    (∃ destination receipts, payment.usdt = some destination ∧
      List.Forall₂ (fun row status =>
        receiptStatus crypto destination.requiredAmount activatedAt deadline row = .ok status)
        (presentReceipts db preparation) receipts ∧
      usdt = selectedReceipt receipts ∧ first = firstQualifyingAt receipts) ∨
      payment.usdt = none ∧ presentReceipts db preparation = [] ∧ usdt = none ∧ first = none := by
  unfold statusUsdt at read
  dsimp only at read
  split at read
  · obtain ⟨required, amount, read⟩ := bind_eq_ok.mp read
    obtain ⟨_, _, destination, offered, amount⟩ := bind₂_eq_ok.mp amount
    cases amount
    obtain ⟨receipts, shown, read⟩ := bind_eq_ok.mp read
    cases read
    exact .inl ⟨destination, receipts, demand_eq_ok.mp offered, mapM_eq_ok.mp shown, rfl, rfl⟩
  · rename_i unoffered
    obtain ⟨_, none, read⟩ := bind_eq_ok.mp read
    cases read
    exact .inr ⟨by simpa using unoffered, ensure_eq_ok.mp none, rfl, rfl⟩

/-- A receipt counts toward the request that it is recorded for and to no other. -/
theorem statusUsdt_mem {usdt : Option MarketplaceUsdtStatus} {first : Option OffsetDateTime}
    (read : statusUsdt crypto db preparation payment activatedAt deadline = .ok (usdt, first)) :
    (∀ status ∈ usdt, ∃ receipt ∈ db.usdtObservations.rows,
      receipt.marketplacePreparationId = some preparation ∧ receipt.present = true ∧
      transactionHash receipt.facts.identity = .ok status.txHash ∧
      receipt.facts.amount = status.observedAmount) ∧
    ∀ time ∈ first, ∃ receipt ∈ db.usdtObservations.rows,
      receipt.marketplacePreparationId = some preparation ∧ receipt.present = true ∧
      receipt.facts.timestamp = time := by
  obtain ⟨destination, receipts, -, shown, rfl, rfl⟩ | ⟨-, -, rfl, rfl⟩ := statusUsdt_ok read
  · have recorded : ∀ status ∈ receipts, ∃ receipt ∈ db.usdtObservations.rows,
        receipt.marketplacePreparationId = some preparation ∧ receipt.present = true ∧
        receiptStatus crypto destination.requiredAmount activatedAt deadline receipt =
          .ok status := by
      intro status member
      obtain ⟨receipt, listed, status⟩ := forall₂_mem_right shown member
      obtain ⟨stored, own⟩ := List.mem_filter.mp listed
      simp only [Bool.and_eq_true, decide_eq_true_eq] at own
      exact ⟨receipt, stored, own.1, own.2, status⟩
    constructor
    · intro status selected
      obtain ⟨receipt, stored, owner, present, shown⟩ :=
        recorded status (selectedReceipt_mem selected)
      obtain ⟨hashed, amount, -, -⟩ := receiptStatus_ok shown
      exact ⟨receipt, stored, owner, present, hashed, amount.symm⟩
    · intro time earliest
      obtain ⟨⟨status, member, -, rfl⟩, -⟩ := firstQualifyingAt_eq_some.mp earliest
      obtain ⟨receipt, stored, owner, present, shown⟩ := recorded status member
      obtain ⟨-, -, observed, -⟩ := receiptStatus_ok shown
      exact ⟨receipt, stored, owner, present, observed.symm⟩
  · constructor <;> rintro _ ⟨⟩

end UsdtRail

theorem transactionHash_transferIdentity {hash : String} (logIndex : Nat)
    (valid : isTransactionHash hash.toList = true) :
    transactionHash (transferIdentity hash logIndex) = .ok hash := by
  have noColon : ∀ c ∈ hash.toList, (c == ':') = false := by
    simp only [isTransactionHash, Bool.and_eq_true, beq_iff_eq, List.all_eq_true] at valid
    obtain ⟨⟨-, front⟩, digits⟩ := valid
    intro c member
    rw [← List.take_append_drop 2 hash.toList, List.mem_append, front] at member
    obtain first | rest := member
    · simp only [List.mem_cons, List.not_mem_nil, or_false] at first
      obtain rfl | rfl := first <;> decide
    · have digit := digits c rest
      refine beq_eq_false_iff_ne.mpr ?_
      rintro rfl
      revert digit
      decide
  have noColon' : ∀ c ∈ (toString logIndex).toList, (c == ':') = false := by
    intro c member
    have digit : c.isDigit = true := Nat.isDigit_of_mem_toDigits (by decide) (by decide)
      (show c ∈ Nat.toDigits 10 logIndex by simpa using member)
    refine beq_eq_false_iff_ne.mpr ?_
    rintro rfl
    revert digit
    decide
  have split : (transferIdentity hash logIndex).toList.splitOn ':' =
      [usdtChainId.toList, hash.toList, (toString logIndex).toList] := by
    have spelled : (transferIdentity hash logIndex).toList =
        usdtChainId.toList ++ ':' :: (hash.toList ++ ':' :: (toString logIndex).toList) := by
      simp [transferIdentity]
    rw [spelled, List.splitOn_eq_splitOnP,
      List.splitOnP_append_cons_of_forall_mem (by simp [usdtChainId]) _ rfl,
      List.splitOnP_append_cons_of_forall_mem noColon _ rfl, List.splitOnP_eq_singleton noColon']
  rw [transactionHash, split]
  simp [valid]

end PaykitServer.Persistence.MarketplacePreparations
