import PaykitServer.Persistence.Database

/-!
# Delivery intents and the payments they offer

A delivery intent is what the server asks the Paykit SDK to send: a payment
request with its terms, or the cancellation of one. The intent is sealed with
the request it belongs to and decoded again by every later operation.

Texts that the SDK parses are represented by the values they spell: deadlines
by instants, an endpoint's identifier and payload by its asset and address. What
the SDK and the pricing code decide about such values are parameters.
-/

namespace PaykitServer.Application

open Persistence Relational

/-- The denomination a request is priced in. -/
inductive CriterionAsset where
  | btc
  | usd
  | usdt
deriving DecidableEq, Repr

/-- An asset a payer can pay with. -/
inductive AcceptedAsset where
  | btc
  | usdt
deriving DecidableEq, Repr

def AcceptedAsset.criterionAsset : AcceptedAsset → CriterionAsset
  | .btc => .btc
  | .usdt => .usdt

structure ConversionRate where
  asset : CriterionAsset
  value : String
deriving DecidableEq

structure PaymentEndpoint where
  asset : AcceptedAsset
  address : String
deriving DecidableEq

/-- The terms of a payment request; the amount is in base units of the asset. -/
structure PaymentTermsV1 where
  asset : CriterionAsset
  amount : Nat
  rates : List ConversionRate
  paymentReference : String
  proposalExpiresAt : Option OffsetDateTime
  paymentDeadline : Option OffsetDateTime
  paymentEndpoints : List PaymentEndpoint
deriving DecidableEq

inductive DeliveryOperationV1 where
  | paymentRequestProposal (terms : PaymentTermsV1)
  | paymentRequestCancellation (paymentRequestId : String)
deriving DecidableEq

structure DeliveryIntentV1 where
  version : Nat
  readerPubky : String
  appId : String
  operation : DeliveryOperationV1
deriving DecidableEq

inductive DeliveryIntentError where
  | invalid
deriving DecidableEq, Repr

/-- What the Paykit SDK and the pricing code decide about intents. -/
structure Sdk where
  parsesReader : String → Bool
  acceptsRequestId : String → Bool
  acceptsTerms : PaymentTermsV1 → Bool
  /-- The instant the SDK reports for a payment deadline. -/
  deadlineAt : OffsetDateTime → Option OffsetDateTime
  paymentUnits : Nat → CriterionAsset → CriterionAsset → List ConversionRate → Option Nat

def paykitAppId : String := "paykit-server"

def validateTerms (sdk : Sdk) (terms : PaymentTermsV1) : Except DeliveryIntentError Unit := do
  ensure (sdk.acceptsTerms terms = true ∧ terms.paymentEndpoints ≠ []) .invalid
  match terms.proposalExpiresAt, terms.paymentDeadline with
  | none, none => return
  | some proposal, some payment => ensure (proposal < payment) .invalid
  | _, _ => .error .invalid

namespace DeliveryIntentV1

def validate (sdk : Sdk) (intent : DeliveryIntentV1) : Except DeliveryIntentError Unit := do
  ensure (intent.version = 2 ∧ sdk.parsesReader intent.readerPubky = true ∧
    intent.appId = paykitAppId) .invalid
  match intent.operation with
  | .paymentRequestProposal terms => validateTerms sdk terms
  | .paymentRequestCancellation paymentRequestId =>
    ensure (sdk.acceptsRequestId paymentRequestId = true) .invalid

def terms (intent : DeliveryIntentV1) : Except DeliveryIntentError PaymentTermsV1 :=
  match intent.operation with
  | .paymentRequestProposal terms => .ok terms
  | .paymentRequestCancellation _ => .error .invalid

def isProposal (intent : DeliveryIntentV1) : Bool :=
  match intent.operation with
  | .paymentRequestProposal _ => true
  | .paymentRequestCancellation _ => false

def proposalExpiresAt (intent : DeliveryIntentV1) : Option OffsetDateTime :=
  match intent.operation with
  | .paymentRequestProposal terms => terms.proposalExpiresAt
  | .paymentRequestCancellation _ => none

def setDeadlines (sdk : Sdk) (intent : DeliveryIntentV1)
    (proposalExpiresAt paymentDeadline : OffsetDateTime) :
    Except DeliveryIntentError DeliveryIntentV1 := do
  let reported ← demand .invalid (sdk.deadlineAt paymentDeadline)
  ensure (proposalExpiresAt < paymentDeadline) .invalid
  match intent.operation with
  | .paymentRequestProposal terms =>
    let intent := { intent with operation := .paymentRequestProposal { terms with
      proposalExpiresAt := some proposalExpiresAt
      paymentDeadline := some reported } }
    intent.validate sdk
    return intent
  | .paymentRequestCancellation _ => .error .invalid

def paymentRequestCancellation (sdk : Sdk) (proposal : DeliveryIntentV1)
    (paymentRequestId : String) : Except DeliveryIntentError DeliveryIntentV1 := do
  ensure (proposal.isProposal = true ∧ sdk.acceptsRequestId paymentRequestId = true) .invalid
  let intent : DeliveryIntentV1 :=
    ⟨2, proposal.readerPubky, proposal.appId, .paymentRequestCancellation paymentRequestId⟩
  intent.validate sdk
  return intent

end DeliveryIntentV1

/-- Read a failed intent as a stored or an offered one. -/
def orFail {ε α : Type} (e : PersistenceError) : Except ε α → Except PersistenceError α
  | .ok a => .ok a
  | .error _ => .error e

@[simp] theorem orFail_eq_ok {ε α : Type} {e : PersistenceError} {x : Except ε α} {a : α} :
    orFail e x = .ok a ↔ x = .ok a := by
  cases x <;> simp [orFail]

def recordEndpoint (sdk : Sdk) (terms : PaymentTermsV1) (record : InvoicePaymentRecordV1)
    (endpoint : PaymentEndpoint) : Except PersistenceError InvoicePaymentRecordV1 := do
  ensure (endpoint.address ≠ "") .invalidInput
  let units ← demand .invalidInput
    (sdk.paymentUnits terms.amount terms.asset endpoint.asset.criterionAsset terms.rates)
  match endpoint.asset with
  | .btc => do
    ensure (record.bitcoin = none) .invalidInput
    return { record with bitcoin := some ⟨endpoint.address, units⟩ }
  | .usdt => do
    ensure (record.usdt = none) .invalidInput
    return { record with usdt := some ⟨endpoint.address, units⟩ }

def fromIntent (sdk : Sdk) (index : Int) (intent : DeliveryIntentV1) :
    Except PersistenceError InvoicePaymentRecordV1 := do
  let terms ← orFail .corruptOrMissing intent.terms
  terms.paymentEndpoints.foldlM (recordEndpoint sdk terms) ⟨1, index, none, none⟩

/-- Denomination, exact amount and accepted assets of a Marketplace request. -/
structure MarketplaceTerms where
  amount : Nat
  asset : CriterionAsset
  acceptedAssets : List AcceptedAsset
deriving DecidableEq

/-- Exact payable amount per accepted asset and the rates they were quoted at. -/
structure MarketplaceQuote where
  paymentAmounts : List (AcceptedAsset × Nat)
  rates : List (AcceptedAsset × String)
deriving DecidableEq

def offeredAssets (record : InvoicePaymentRecordV1) : List AcceptedAsset :=
  (if record.bitcoin.isSome then [.btc] else []) ++ if record.usdt.isSome then [.usdt] else []

def MarketplaceTerms.fromIntent (sdk : Sdk) (intent : DeliveryIntentV1) (amount : Nat)
    (asset : CriterionAsset) : Except PersistenceError MarketplaceTerms := do
  let record ← Application.fromIntent sdk 0 intent
  ensure (amount ≠ 0 ∧ offeredAssets record ≠ []) .invalidInput
  return ⟨amount, asset, offeredAssets record⟩

def requiredAmount (record : InvoicePaymentRecordV1) (asset : AcceptedAsset) :
    Except PersistenceError Nat := do
  ensure (record.version = 1) .corruptOrMissing
  let destination ← demand .invalidInput
    (match asset with | .btc => record.bitcoin | .usdt => record.usdt)
  return destination.requiredAmount

/-- The rate of one accepted asset: exactly one when it differs from the
denomination, and none otherwise. -/
def quotedRate (terms : MarketplaceTerms) (rates : List ConversionRate) (asset : AcceptedAsset) :
    Except PersistenceError (Option (AcceptedAsset × String)) := do
  let quoted := rates.filter (·.asset = asset.criterionAsset)
  ensure (quoted.length ≤ 1 ∧ (quoted ≠ [] ↔ asset.criterionAsset ≠ terms.asset)) .invalidInput
  return quoted.head?.map fun rate => (asset, rate.value)

/-- The quote of a stored intent: it names exactly the accepted assets and exactly
the rates they need. -/
def MarketplaceQuote.fromIntent (sdk : Sdk) (intent : DeliveryIntentV1)
    (terms : MarketplaceTerms) : Except PersistenceError MarketplaceQuote := do
  let offered ← orFail .invalidInput intent.terms
  ensure (offered.asset = terms.asset ∧ offered.amount = terms.amount) .invalidInput
  let record ← Application.fromIntent sdk 0 intent
  ensure ((record.bitcoin.isSome ↔ .btc ∈ terms.acceptedAssets) ∧
    (record.usdt.isSome ↔ .usdt ∈ terms.acceptedAssets)) .invalidInput
  let amounts ← terms.acceptedAssets.mapM fun asset => do
    return (asset, ← requiredAmount record asset)
  let rates ← terms.acceptedAssets.mapM (quotedRate terms offered.rates)
  ensure (offered.rates.length = rates.reduceOption.length) .invalidInput
  return ⟨amounts, rates.reduceOption⟩

/-- An intent must be valid, name its reader and its reference, and offer the
terms; the result is its quote. -/
def validateIntent (sdk : Sdk) (intent : DeliveryIntentV1) (reader reference : String)
    (terms : MarketplaceTerms) : Except PersistenceError MarketplaceQuote := do
  orFail .invalidInput (intent.validate sdk)
  ensure (intent.readerPubky = reader) .invalidInput
  let offered ← orFail .invalidInput intent.terms
  ensure (offered.paymentReference = reference) .invalidInput
  MarketplaceQuote.fromIntent sdk intent terms

section Inversion

variable {sdk : Sdk} {intent intent' : DeliveryIntentV1}

variable {proposalExpiresAt paymentDeadline : OffsetDateTime} {record : InvoicePaymentRecordV1}

theorem setDeadlines_ok
    (done : intent.setDeadlines sdk proposalExpiresAt paymentDeadline = .ok intent') :
    proposalExpiresAt < paymentDeadline ∧
      ∃ terms reported, intent.operation = .paymentRequestProposal terms ∧
        intent' = { intent with operation := .paymentRequestProposal { terms with
          proposalExpiresAt := some proposalExpiresAt
          paymentDeadline := some reported } } ∧
        intent'.validate sdk = .ok () := by
  obtain ⟨reported, _, _, ordered, done⟩ := bind₂_eq_ok.mp done
  refine ⟨ensure_eq_ok.mp ordered, ?_⟩
  split at done
  · rename_i terms proposal
    obtain ⟨_, valid, done⟩ := bind_eq_ok.mp done
    cases done
    exact ⟨terms, reported, proposal, rfl, valid⟩
  · cases done

theorem fromIntent_setDeadlines
    (done : intent.setDeadlines sdk proposalExpiresAt paymentDeadline = .ok intent') (index : Int) :
    fromIntent sdk index intent' = fromIntent sdk index intent := by
  obtain ⟨-, terms, reported, proposal, rfl, -⟩ := setDeadlines_ok done
  simp only [fromIntent, DeliveryIntentV1.terms, proposal]
  rfl

theorem quote_setDeadlines
    (done : intent.setDeadlines sdk proposalExpiresAt paymentDeadline = .ok intent')
    (terms : MarketplaceTerms) :
    MarketplaceQuote.fromIntent sdk intent' terms = MarketplaceQuote.fromIntent sdk intent terms := by
  have offer := fromIntent_setDeadlines done 0
  obtain ⟨-, offered, reported, proposal, rfl, -⟩ := setDeadlines_ok done
  unfold MarketplaceQuote.fromIntent
  rw [offer]
  simp only [DeliveryIntentV1.terms, proposal]
  rfl

private theorem recordEndpoint_ok {terms : PaymentTermsV1}
    {record' : InvoicePaymentRecordV1} {endpoint : PaymentEndpoint}
    (done : recordEndpoint sdk terms record endpoint = .ok record') :
    record'.version = record.version ∧ record'.derivationIndex = record.derivationIndex ∧
      ∀ destination, record'.bitcoin = some destination → record.bitcoin = some destination ∨
        endpoint = ⟨.btc, destination.address⟩ := by
  unfold recordEndpoint at done
  obtain ⟨_, _, units, _, done⟩ := bind₂_eq_ok.mp done
  cases endpoint with
  | mk asset address =>
    cases asset with
    | btc =>
      obtain ⟨_, _, done⟩ := bind_eq_ok.mp done
      cases done
      refine ⟨rfl, rfl, fun destination offered => .inr ?_⟩
      cases offered
      rfl
    | usdt =>
      obtain ⟨_, _, done⟩ := bind_eq_ok.mp done
      cases done
      exact ⟨rfl, rfl, fun _ => .inl⟩

private theorem recordEndpoints_ok {terms : PaymentTermsV1} {endpoints : List PaymentEndpoint}
    {start : InvoicePaymentRecordV1}
    (done : endpoints.foldlM (recordEndpoint sdk terms) start = .ok record) :
    record.version = start.version ∧ record.derivationIndex = start.derivationIndex ∧
      ∀ destination, record.bitcoin = some destination → start.bitcoin = some destination ∨
        ⟨.btc, destination.address⟩ ∈ endpoints := by
  induction endpoints generalizing start with
  | nil =>
    cases done
    exact ⟨rfl, rfl, fun _ => .inl⟩
  | cons endpoint endpoints ih =>
    rw [List.foldlM_cons] at done
    obtain ⟨next, first, rest⟩ := bind_eq_ok.mp done
    obtain ⟨version, index, here⟩ := recordEndpoint_ok first
    obtain ⟨version', index', later⟩ := ih rest
    refine ⟨version'.trans version, index'.trans index, fun destination offered => ?_⟩
    rcases later destination offered with recorded | member
    · rcases here destination recorded with recorded | rfl
      · exact .inl recorded
      · exact .inr (.head _)
    · exact .inr (.tail _ member)

theorem fromIntent_ok {index : Int} (done : fromIntent sdk index intent = .ok record) :
    record.version = 1 ∧ record.derivationIndex = index := by
  obtain ⟨terms, _, done⟩ := bind_eq_ok.mp done
  obtain ⟨version, indexed, -⟩ := recordEndpoints_ok done
  exact ⟨version, indexed⟩

theorem fromIntent_bitcoin {index : Int}
    {destination : PaymentDestination} (done : fromIntent sdk index intent = .ok record)
    (recorded : record.bitcoin = some destination) :
    ∃ terms, intent.terms = .ok terms ∧ ⟨.btc, destination.address⟩ ∈ terms.paymentEndpoints := by
  obtain ⟨terms, read, done⟩ := bind_eq_ok.mp done
  obtain ⟨-, -, offered⟩ := recordEndpoints_ok done
  refine ⟨terms, orFail_eq_ok.mp read, (offered destination recorded).resolve_left ?_⟩
  intro absent
  cases absent

theorem validateIntent_ok {reader reference : String} {terms : MarketplaceTerms}
    {quote : MarketplaceQuote} (done : validateIntent sdk intent reader reference terms = .ok quote) :
    sdk.parsesReader reader = true ∧ MarketplaceQuote.fromIntent sdk intent terms = .ok quote := by
  obtain ⟨_, valid, _, named, _, _, done⟩ := bind₃_eq_ok.mp done
  obtain ⟨_, _, done⟩ := bind_eq_ok.mp done
  refine ⟨?_, done⟩
  obtain ⟨_, checked, -⟩ := bind_eq_ok.mp (orFail_eq_ok.mp valid)
  rw [← ensure_eq_ok.mp named]
  exact (ensure_eq_ok.mp checked).2.1

end Inversion

end PaykitServer.Application
