import PaykitServer.Application.Receiving
import PaykitServer.Encoding.CanonicalJson
import PaykitServer.Relational.Process

/-!
# The services that issue payment requests

Each service looks for a replay first, then validates against the outside world, reads
the creator's receiving details, and commits in one transaction. Nothing is locked
between these steps: any other transaction can commit between two of them.

A question stands for what the service is told from outside: the session, the lock, the
reader's registry and authorization, the exchange rate, a fresh reference. Before each
database step the request can be interrupted, by its deadline or by the database.
-/

namespace PaykitServer.Application

open Domain Bitcoin Persistence MarketplacePreparations
open Relational Encoding

inductive ProviderV2Error where
  | invalidRequest
  | conflict
  | deadlineElapsed
  | creatorSessionInvalid
  | creatorSessionUnavailable
  | readerSetupPending
  | readerNotPayable
  | readerRegistryUnavailable
  | readerRegistryMalformed
  | unavailable
deriving DecidableEq, Repr

inductive MissingSellerRails where
  | bitcoin
  | usdt
  | bitcoinAndUsdt
deriving DecidableEq, Repr

inductive PrepareMarketplaceError where
  | invalidRequest
  | conflict
  | creatorSessionInvalid
  | creatorSessionUnavailable
  | readerSetupPending
  | readerNotPayable
  | readerRegistryUnavailable
  | readerRegistryMalformed
  | sellerSetupPending (missing : MissingSellerRails)
  | assetUnsupported
  | paymentWindowExceedsCap
  | deadlineExceeded
  | unavailable
deriving DecidableEq, Repr

inductive SessionValidationError where
  | invalid
  | unavailable
deriving DecidableEq, Repr

inductive LockFetchError where
  | notFound
  | unavailable
  | invalid
deriving DecidableEq, Repr

inductive RegistryDiscoveryError where
  | invalidRequest
  | unavailable
  | malformed
deriving DecidableEq, Repr

inductive ReaderAuthorization where
  | verified
  | missing
  | invalid
deriving DecidableEq, Repr

/-- Why a request stops before a database step. -/
inductive Interruption where
  | deadline
  | unavailable
deriving DecidableEq, Repr

/-- The payment criterion of a lock, with the texts that parse. -/
structure PaykitPaymentCriterion where
  paymentIn : Nat
  asset : Option CriterionAsset
  amount : Option Nat

/-- A fetched lock; the criterion is there when the v1 payment policy is valid. -/
structure ContentLock where
  creator : String
  criterion : Option PaykitPaymentCriterion

inductive Question where
  | proceed
  | session (creator : String)
  | lock (resource : PubkyLockResource)
  | registry (reader : String)
  | authorization (reader : String)
  | usdPerBtc
  | reference

/-- What is answered; a registry says whether the reader is capable. -/
def Question.Reply : Question → Type
  | .proceed => Option Interruption
  | .session _ => Except SessionValidationError Unit
  | .lock _ => Except LockFetchError ContentLock
  | .registry _ => Except RegistryDiscoveryError (Option Bool)
  | .authorization _ => Except RegistryDiscoveryError ReaderAuthorization
  | .usdPerBtc => Option String
  | .reference => String

/-- `serde_json_canonicalizer::to_vec`, which only fails on values that are not built here. -/
def toVec (value : Json) : Option (List UInt8) := some (utf8 (String.ofList value.write))

/-- A deployment of the services; the request hash and the pricing code are given. -/
structure Services extends Issuer where
  blake3 : List UInt8 → LookupHash
  acceptsReference : String → Bool
  conversionRates : CriterionAsset → Bool → Bool → Option String → Option (List ConversionRate)
  exchangeRates : Bool
  usdtEnabled : Bool
  proposalAcceptanceWindow : Nat
  paymentWindow : Nat
  conversionPaymentWindow : Nat
  paymentWindowCap : Nat
  prepareTtl : Nat

/-- A request in progress. -/
abbrev Call (ε : Type) : Type → Type :=
  ExceptT ε (Process Store Operation Question Question.Reply)

/-- How a service names the failures that all services have. -/
structure Failures (ε : Type) where
  interrupted : Interruption → ε
  session : SessionValidationError → ε
  registry : RegistryDiscoveryError → ε
  readerSetupPending : ε
  readerNotPayable : ε
  store : PersistenceError → ε

section Steps

variable {ε α : Type} (failures : Failures ε)

def consult (question : Question) : Call ε question.Reply :=
  ExceptT.lift (Process.consult question)

/-- Go on unless the request is interrupted. -/
def proceed : Call ε Unit := do
  match ← consult .proceed with
  | none => return ()
  | some reason => throw (failures.interrupted reason)

def fetch (view : Store → Except PersistenceError α) : Call ε α := do
  proceed failures
  ExceptT.mk (Process.query fun store => (view store).mapError failures.store)

/-- Run one transaction; its acknowledgement can be lost. -/
def transact (request : Store → Operation) (result : Store → Except PersistenceError α) :
    Call ε α := do
  let answer ← ExceptT.mk
    (Process.submit request fun store => (result store).mapError failures.store)
  proceed failures
  return answer

def validateSession (creator : String) : Call ε Unit := do
  proceed failures
  match ← consult (.session creator) with
  | .ok () => return ()
  | .error error => throw (failures.session error)

/-- Read the reader's registry, again while it is not found. -/
def discover (reader : String) : Nat → Call ε Bool
  | 0 => throw failures.readerSetupPending
  | attempts + 1 => do
    proceed failures
    match ← consult (.registry reader) with
    | .ok (some capable) => return capable
    | .ok none => discover reader attempts
    | .error error => throw (failures.registry error)

/-- The reader must be capable and have a verified authorization. -/
def admitReader (reader : String) (attempts : Nat) : Call ε Unit := do
  let capable ← discover failures reader attempts
  if capable then return () else throw failures.readerNotPayable

def authorizeReader (reader : String) : Call ε Unit := do
  proceed failures
  match ← consult (.authorization reader) with
  | .ok .verified => return ()
  | .ok .missing => throw failures.readerSetupPending
  | .ok .invalid => throw failures.readerNotPayable
  | .error error => throw (failures.registry error)

end Steps

def registryReadAttempts : Nat := 3

def quotedPrice {ε : Type} (services : Services) (failures : Failures ε) (unavailable : ε)
    (crosses : Bool) : Call ε (Option String) := do
  if crosses then
    if services.exchangeRates then
      proceed failures
      match ← consult .usdPerBtc with
      | some price => return some price
      | none => throw unavailable
    else throw unavailable
  else return none

namespace CreateInvoice

structure CreateInvoiceRequest where
  bundleId : String
  lockResource : PubkyLockResource
  reader : String
  paymentIn : Nat
deriving DecidableEq

def mapStore : PersistenceError → CreateInvoiceError
  | .conflict => .conflict
  | _ => .unavailable

def failures : Failures CreateInvoiceError where
  interrupted
    | .deadline => .deadlineExceeded
    | .unavailable => .unavailable
  session
    | .invalid => .creatorSessionInvalid
    | .unavailable => .creatorSessionUnavailable
  registry
    | .invalidRequest => .invalidRequest
    | .unavailable => .readerRegistryUnavailable
    | .malformed => .readerRegistryMalformed
  readerSetupPending := .readerSetupPending
  readerNotPayable := .readerNotPayable
  store := mapStore

/-- The canonical form of everything a v1 request is bound to. -/
def requestBinding (request : CreateInvoiceRequest) :
    Except CreateInvoiceError (List UInt8) :=
  demand .invalidRequest (toVec (.object
    [("bundle_id", .text request.bundleId), ("lock_resource", .text request.lockResource.canonical),
      ("reader", .text request.reader), ("payment_in", .number request.paymentIn)]))

/-- The lock must be the creator's and carry the payment the request names. -/
def validateLock (request : CreateInvoiceRequest) (lock : ContentLock) :
    Except CreateInvoiceError (CriterionAsset × Nat) := do
  ensure (lock.creator = request.lockResource.creator) .invalidRequest
  let criterion ← demand .invalidRequest lock.criterion
  ensure (criterion.paymentIn = request.paymentIn) .invalidRequest
  let asset ← demand .invalidRequest criterion.asset
  let amount ← demand .invalidRequest criterion.amount
  return (asset, amount)

def fetchLock (request : CreateInvoiceRequest) : Call CreateInvoiceError (CriterionAsset × Nat) := do
  proceed failures
  match ← consult (.lock request.lockResource) with
  | .ok lock => validateLock request lock
  | .error .notFound => throw .lockNotFound
  | .error .unavailable => throw .lockUnavailable
  | .error .invalid => throw .invalidRequest

/-- An offer in one asset that can be paid in another needs the rate. -/
def crossesBitcoin (asset : CriterionAsset) (receiving : ReceivingDetails) : Bool :=
  if asset = .btc then receiving.usdt.isSome else receiving.bitcoin.isSome

/-- What is committed for a request whose validation succeeded. -/
def atomicInput (services : Services) (request : CreateInvoiceRequest) (binding : List UInt8)
    (receiving : ReceivingDetails) (offer : Offer) (crosses : Bool) :
    Invoices.AtomicInvoiceInput :=
  let paymentWindow := if crosses
    then min services.paymentWindow services.conversionPaymentWindow else services.paymentWindow
  let acceptanceWindow := if crosses
    then min services.proposalAcceptanceWindow (paymentWindow / 2)
    else services.proposalAcceptanceWindow
  ⟨request.lockResource.creator, request.reader, utf8 request.bundleId,
    utf8 request.lockResource.canonical, binding,
    derivedInvoicePayloads services.toIssuer receiving offer, acceptanceWindow, paymentWindow⟩

def quote (services : Services) (request : CreateInvoiceRequest) (asset : CriterionAsset)
    (amount : Nat) (receiving : ReceivingDetails) : Call CreateInvoiceError Offer := do
  let price ← quotedPrice services failures .unavailable (crossesBitcoin asset receiving)
  let rates ← demand CreateInvoiceError.unavailable
    (services.conversionRates asset receiving.bitcoin.isSome receiving.usdt.isSome price)
  let reference ← consult .reference
  return ⟨request.reader, asset, amount, rates, reference⟩

def createNew (services : Services) (request : CreateInvoiceRequest) (binding : List UInt8) :
    Call CreateInvoiceError Invoices.AtomicInvoiceResult := do
  let creator := request.lockResource.creator
  validateSession failures creator
  let (asset, amount) ← fetchLock request
  admitReader failures request.reader registryReadAttempts
  authorizeReader failures request.reader
  ensure (asset = .usdt → services.usdtEnabled = true) CreateInvoiceError.invalidRequest
  let receiving ← fetch failures fun store => receiving services.crypto store creator
  let receiving := { receiving with usdt := receiving.usdt.filter fun _ => services.usdtEnabled }
  ensure (receiving.bitcoin.isSome ∨ receiving.usdt.isSome) CreateInvoiceError.invalidRequest
  let offer ← quote services request asset amount receiving
  proceed failures
  let input := atomicInput services request binding receiving offer (crossesBitcoin asset receiving)
  transact failures (fun _ => .createInvoice input) fun store =>
    Prod.fst <$> Invoices.createAtomic services.crypto services.sdk store input

def create (services : Services) (request : CreateInvoiceRequest) :
    Call CreateInvoiceError Invoices.AtomicInvoiceResult := do
  let creator := request.lockResource.creator
  let bundleBinding := utf8 request.bundleId
  let binding ← requestBinding request
  match ← fetch failures fun store =>
      .ok (Invoices.preflight services.crypto store creator bundleBinding binding) with
  | .exactReplay =>
    fetch failures fun store => Invoices.exactReplay services.crypto services.sdk store creator
      request.reader bundleBinding binding
  | .conflict => throw .conflict
  | .new => createNew services request binding

end CreateInvoice

namespace ProviderV2

structure ProviderV2CreateRequest where
  bundleId : String
  lockResource : PubkyLockResource
  reader : String
  amountLexeme : String
  amountSats : Nat
  minimumConfirmations : Nat
  deadline : OffsetDateTime
  deadlineText : String
deriving DecidableEq

def mapStore : PersistenceError → ProviderV2Error
  | .conflict => .conflict
  | .deadlineElapsed => .deadlineElapsed
  | .invalidInput => .invalidRequest
  | _ => .unavailable

def failures : Failures ProviderV2Error where
  interrupted _ := .unavailable
  session
    | .invalid => .creatorSessionInvalid
    | .unavailable => .creatorSessionUnavailable
  registry
    | .invalidRequest => .invalidRequest
    | .unavailable => .readerRegistryUnavailable
    | .malformed => .readerRegistryMalformed
  readerSetupPending := .readerSetupPending
  readerNotPayable := .readerNotPayable
  store := mapStore

/-- The canonical form of everything a provider-v2 request is bound to. -/
def canonicalBinding (request : ProviderV2CreateRequest) :
    Except ProviderV2Error (List UInt8) :=
  demand .invalidRequest (toVec (.object
    [("bundle_id", .text request.bundleId), ("lock_resource", .text request.lockResource.canonical),
      ("reader", .text request.reader),
      ("payment", .object [("recipient_pubky", .text request.lockResource.creator),
        ("amount", .text request.amountLexeme), ("asset", .text "BTC"),
        ("minimum_confirmations", .number request.minimumConfirmations)]),
      ("deadline", .text request.deadlineText)]))

/-- New external work starts only before the caller's deadline. -/
def gate (services : Services) (request : ProviderV2CreateRequest) : Call ProviderV2Error Unit := do
  let allowed ← fetch failures fun store =>
    Invoices.providerV2DeadlineGate services.crypto store request.lockResource.creator
      request.deadline
  if allowed then return () else throw .deadlineElapsed

/-- What is committed for a request whose validation succeeded. -/
def atomicInput (services : Services) (request : ProviderV2CreateRequest) (hash : LookupHash)
    (account : BitcoinAccount) (generation : Int) (reference : String) :
    Invoices.ProviderV2AtomicInvoiceInput :=
  ⟨request.lockResource.creator, request.reader, utf8 request.bundleId,
    utf8 request.lockResource.canonical, hash, request.deadline, request.minimumConfirmations,
    providerPayloadFactory services.toIssuer account generation
      ⟨request.reader, .btc, request.amountSats, [], reference⟩,
    services.proposalAcceptanceWindow⟩

def createNew (services : Services) (request : ProviderV2CreateRequest) (hash : LookupHash) :
    Call ProviderV2Error Invoices.ProviderV2CreateResult := do
  let creator := request.lockResource.creator
  gate services request
  validateSession failures creator
  gate services request
  admitReader failures request.reader 1
  gate services request
  authorizeReader failures request.reader
  gate services request
  let receiving ← fetch failures fun store => receiving services.crypto store creator
  let account ← demand ProviderV2Error.unavailable receiving.bitcoin
  let reference ← consult .reference
  let input := atomicInput services request hash account receiving.bitcoinAccountGeneration
    reference
  transact failures (fun _ => .createProviderV2 input) fun store =>
    Prod.fst <$> Invoices.createProviderV2Atomic services.crypto services.sdk store input

def create (services : Services) (request : ProviderV2CreateRequest) :
    Call ProviderV2Error Invoices.ProviderV2CreateResult := do
  let creator := request.lockResource.creator
  let bundleBinding := utf8 request.bundleId
  let binding ← canonicalBinding request
  let hash := services.blake3 binding
  match ← fetch failures fun store =>
      .ok (Invoices.providerV2Preflight services.crypto store creator bundleBinding hash) with
  | .exactReplay =>
    fetch failures fun store =>
      Invoices.providerV2ExactReplay services.crypto store creator bundleBinding hash
  | .conflict => throw .conflict
  | .new => createNew services request hash

end ProviderV2

namespace Marketplace

structure PrepareMarketplaceRequest where
  creator : String
  reader : String
  reference : String
  amount : Nat
  asset : CriterionAsset
  acceptedAssets : Option (List AcceptedAsset)
  operationId : String
  paymentWindowSeconds : Nat
  description : Option String
deriving DecidableEq

def mapStore : PersistenceError → PrepareMarketplaceError
  | .conflict => .conflict
  | .deadlineElapsed => .deadlineExceeded
  | .invalidInput => .invalidRequest
  | .deploymentMismatch | .corruptOrMissing | .reauthenticationMismatch | .unavailable =>
    .unavailable

def failures : Failures PrepareMarketplaceError where
  interrupted
    | .deadline => .deadlineExceeded
    | .unavailable => .unavailable
  session
    | .invalid => .creatorSessionInvalid
    | .unavailable => .creatorSessionUnavailable
  registry
    | .invalidRequest => .invalidRequest
    | .unavailable => .readerRegistryUnavailable
    | .malformed => .readerRegistryMalformed
  readerSetupPending := .readerSetupPending
  readerNotPayable := .readerNotPayable
  store := mapStore

/-- A present filter must be non-empty and unique; it is kept in canonical order. -/
def normalizedFilter : Option (List AcceptedAsset) →
    Except PrepareMarketplaceError (Option (List AcceptedAsset))
  | none => .ok none
  | some filter => do
    ensure (filter ≠ [] ∧ filter.Nodup) .invalidRequest
    return some ([.btc, .usdt].filter fun asset => asset ∈ filter)

def AcceptedAsset.asStr : AcceptedAsset → String
  | .btc => "BTC"
  | .usdt => "USDT"

def CriterionAsset.asStr : CriterionAsset → String
  | .btc => "BTC"
  | .usd => "USD"
  | .usdt => "USDT"

def bindingFields (request : PrepareMarketplaceRequest) (filter : Option (List AcceptedAsset)) :
    List (String × Json) :=
  [("amount", .text (toString request.amount)),
    ("asset", .text (CriterionAsset.asStr request.asset)), ("creator", .text request.creator),
    ("operation_id", .text request.operationId),
    ("payment_window_seconds", .number request.paymentWindowSeconds),
    ("reader", .text request.reader), ("reference", .text request.reference)] ++
  (filter.map fun assets => ("accepted_assets",
    .array (assets.map fun asset => .text (AcceptedAsset.asStr asset)))).toList ++
  (request.description.map fun description => ("description", .text description)).toList

/-- The canonical form of everything a preparation is bound to. -/
def requestBinding (request : PrepareMarketplaceRequest)
    (filter : Option (List AcceptedAsset)) : Except PrepareMarketplaceError (List UInt8) :=
  demand .invalidRequest (toVec (.object (bindingFields request filter)))

def isCanonicalUuid (text : String) : Bool :=
  let digits := text.toList
  digits.length = 36 && digits.zipIdx.all fun (digit, position) =>
    if position ∈ [8, 13, 18, 23] then digit = '-'
    else if position = 14 then digit = '4'
    else if position = 19 then digit ∈ ['8', '9', 'a', 'b']
    else digit.isDigit || ('a' ≤ digit && digit ≤ 'f')

/-- A character of Unicode's `White_Space`. -/
def isWhitespace (character : Char) : Bool :=
  let code := character.toNat
  (9 ≤ code && code ≤ 13) || code ∈ [32, 133, 160, 5760, 8232, 8233, 8239, 8287, 12288] ||
    (8192 ≤ code && code ≤ 8202)

def isControl (character : Char) : Bool :=
  let code := character.toNat
  code ≤ 31 || (127 ≤ code && code ≤ 159)

def isDirectionControl (character : Char) : Bool :=
  let code := character.toNat
  code ∈ [0x61c, 0x200e, 0x200f] || (0x2028 ≤ code && code ≤ 0x202e) ||
    (0x2066 ≤ code && code ≤ 0x2069)

def acceptsDescription (description : String) : Bool :=
  let characters := description.toList
  !(characters.all isWhitespace || 140 < characters.length ||
    characters.any fun character => isControl character || isDirectionControl character)

/-- Pure checks that need no seller, reader or feed read. -/
def validateRequest (services : Services) (request : PrepareMarketplaceRequest) :
    Except PrepareMarketplaceError Unit := do
  ensure (isCanonicalUuid request.reference = true ∧ request.operationId ≠ "" ∧
    request.paymentWindowSeconds ≠ 0) .invalidRequest
  ensure (∀ description ∈ request.description, acceptsDescription description = true)
    .invalidRequest
  ensure (services.acceptsReference request.reference = true) .invalidRequest
  ensure (request.paymentWindowSeconds ≤ services.paymentWindowCap) .paymentWindowExceedsCap

/-- Why nothing could be offered. -/
def refusalWithoutRails (filter : Option (List AcceptedAsset)) (usdtEnabled : Bool) :
    PrepareMarketplaceError :=
  match filter with
  | none => .sellerSetupPending .bitcoin
  | some assets =>
    if assets = [.usdt] ∧ usdtEnabled = false then .assetUnsupported
    else .sellerSetupPending
      (match decide (.btc ∈ assets), decide (.usdt ∈ assets) && usdtEnabled with
        | true, true => .bitcoinAndUsdt
        | false, true => .usdt
        | _, false => .bitcoin)

/-- The rails a request may use, of those the seller has. -/
def narrowed (services : Services) (filter : Option (List AcceptedAsset))
    (receiving : ReceivingDetails) : ReceivingDetails :=
  let allowed := fun asset => ∀ assets ∈ filter, asset ∈ assets
  { receiving with
    bitcoin := receiving.bitcoin.filter fun _ => allowed .btc
    usdt := receiving.usdt.filter fun _ => services.usdtEnabled && allowed .usdt }

/-- What is committed for a request whose validation succeeded. -/
def preparationInput (services : Services) (request : PrepareMarketplaceRequest)
    (binding : List UInt8) (payloads : PayloadFactory) : MarketplacePreparationInput :=
  ⟨request.creator, request.reader, request.reference, request.operationId, binding,
    request.amount, request.asset, request.paymentWindowSeconds, services.prepareTtl, none, payloads⟩

/-- Fix what a request offers, within the cap that applies to it. -/
def quote (services : Services) (request : PrepareMarketplaceRequest)
    (filter : Option (List AcceptedAsset)) (receiving : ReceivingDetails) :
    Call PrepareMarketplaceError Offer := do
  ensure (receiving.bitcoin.isSome ∨ receiving.usdt.isSome)
    (refusalWithoutRails filter services.usdtEnabled)
  let crosses := CreateInvoice.crossesBitcoin request.asset receiving
  let cap := if crosses
    then min services.paymentWindowCap services.conversionPaymentWindow
    else services.paymentWindowCap
  ensure (request.paymentWindowSeconds ≤ cap) PrepareMarketplaceError.paymentWindowExceedsCap
  let price ← quotedPrice services failures .unavailable crosses
  let rates ← demand PrepareMarketplaceError.unavailable
    (services.conversionRates request.asset receiving.bitcoin.isSome receiving.usdt.isSome price)
  return ⟨request.reader, request.asset, request.amount, rates, request.reference⟩

/-- Validate a new request and commit its preparation. Its life is fixed on the
database clock when the quote is accepted. -/
def prepareNew (services : Services) (request : PrepareMarketplaceRequest)
    (filter : Option (List AcceptedAsset)) (binding : List UInt8) :
    Call PrepareMarketplaceError MarketplacePreparationResult := do
  validateRequest services request
  validateSession failures request.creator
  admitReader failures request.reader registryReadAttempts
  authorizeReader failures request.reader
  let receiving ← fetch failures fun store => receiving services.crypto store request.creator
  let receiving := narrowed services filter receiving
  let offer ← quote services request filter receiving
  let payloads := marketplacePayloads services.toIssuer receiving.bitcoin
    (receiving.bitcoin.map fun _ => receiving.bitcoinAccountGeneration) receiving.usdt offer
  let acceptedAt ← fetch failures fun store => .ok store.clock
  let _ ← demand PrepareMarketplaceError.unavailable
    (OffsetDateTime.checkedAdd acceptedAt (seconds services.prepareTtl))
  proceed failures
  let input := preparationInput services request binding payloads
  transact failures (fun store => .prepare input (some (store.clock - acceptedAt).toNat))
    fun store => Prod.fst <$> prepareQuoted services.crypto services.sdk store input
      (some (store.clock - acceptedAt).toNat)

def prepare (services : Services) (request : PrepareMarketplaceRequest) :
    Call PrepareMarketplaceError MarketplacePreparationResult := do
  let filter ← normalizedFilter request.acceptedAssets
  ensure (request.amount ≠ 0) PrepareMarketplaceError.invalidRequest
  let binding ← requestBinding request filter
  match ← fetch failures fun store =>
      preflight services.crypto store request.creator request.operationId binding with
  | .exactReplay =>
    proceed failures
    let input := preparationInput services request binding replayOnlyPayloads
    transact failures (fun _ => .prepare input none) fun store =>
      Prod.fst <$> prepareQuoted services.crypto services.sdk store input none
  | .conflict => throw .conflict
  | .new => prepareNew services request filter binding

end Marketplace

section Reads

variable {ε α β : Type} {d : Deployment} {failures : Failures ε} {E : ε → Prop}

/-- A call that only reads and asks: whatever happens around it, it changes nothing, a
success is what `Q` says of the state it ends in, and a failure is in `E`. -/
def Call.Reads (d : Deployment) (Q : Store → α → Prop) (E : ε → Prop) (call : Call ε α) : Prop :=
  ∀ (may : List (Step Store Operation Question Question.Reply) → Store → Operation → Prop)
    (post : List (Step Store Operation Question Question.Reply) → Store → Except ε α → Prop)
    (past : List (Step Store Operation Question Question.Reply)) (store : Store),
    (∀ past' later a, (ledger d).Reaches store later → Q later a → post past' later (.ok a)) →
    (∀ past' later e, (ledger d).Reaches store later → E e → post past' later (.error e)) →
    call.run.wp (ledger d) may (fun _ _ => True) post past store

/-- The common failures of a service, all in a set. -/
structure Failures.Within (failures : Failures ε) (E : ε → Prop) : Prop where
  interrupted : ∀ reason, E (failures.interrupted reason)
  session : ∀ error, E (failures.session error)
  registry : ∀ error, E (failures.registry error)
  readerSetupPending : E failures.readerSetupPending
  readerNotPayable : E failures.readerNotPayable

namespace Call.Reads

variable {Q : Store → α → Prop} {call : Call ε α}

theorem ret (a : α) : (pure a : Call ε α).Reads d (fun _ b => b = a) E :=
  fun _ _ past store holds _ => holds past store a (.refl _) rfl

theorem fail {e : ε} (within : E e) : (throw e : Call ε α).Reads d Q E :=
  fun _ _ past store _ fails => fails past store e (.refl _) within

theorem mono {Q' : Store → α → Prop} (reads : call.Reads d Q E)
    (weaker : ∀ store a, Q store a → Q' store a) : call.Reads d Q' E :=
  fun may post past store holds fails => reads may post past store
    (fun past' later a reached success => holds past' later a reached (weaker later a success)) fails

theorem lift {result : Except ε α} (within : ∀ e, result = .error e → E e) :
    (liftM result : Call ε α).Reads d (fun _ a => result = .ok a) E := by
  intro may post past store holds fails
  cases result with
  | ok a => exact holds past store a (.refl _) rfl
  | error e => exact fails past store e (.refl _) (within e rfl)

theorem consult (question : Question) :
    (consult question : Call ε question.Reply).Reads d (fun _ _ => True) E :=
  fun _ _ _ store holds _ => ⟨trivial, fun reply => holds _ store reply (.refl _) trivial⟩

theorem bind_wp {next : α → Call ε β}
    {may : List (Step Store Operation Question Question.Reply) → Store → Operation → Prop}
    {post : List (Step Store Operation Question Question.Reply) → Store → Except ε β → Prop}
    {past : List (Step Store Operation Question Question.Reply)} {store : Store}
    (reads : call.Reads d Q E)
    (holds : ∀ past' later a, (ledger d).Reaches store later → Q later a →
      (next a).run.wp (ledger d) may (fun _ _ => True) post past' later)
    (fails : ∀ past' later e, (ledger d).Reaches store later → E e → post past' later (.error e)) :
    (call >>= next).run.wp (ledger d) may (fun _ _ => True) post past store :=
  Process.wp_run_bind.mpr (reads may _ past store holds fails)

theorem bind {Q' : Store → β → Prop} {next : α → Call ε β} (reads : call.Reads d Q E)
    (continues : ∀ a, (next a).Reads d Q' E) : (call >>= next).Reads d Q' E := by
  intro may post past store holds fails
  refine reads.bind_wp (fun past' later a reached _ => ?_) fails
  exact continues a may post past' later
    (fun past'' last b reached' => holds past'' last b (reached.trans reached'))
    (fun past'' last e reached' => fails past'' last e (reached.trans reached'))

theorem proceed (within : failures.Within E) : (proceed failures).Reads d (fun _ _ => True) E := by
  refine (consult _).bind fun reply => ?_
  cases reply with
  | none => exact (ret ()).mono fun _ _ _ => trivial
  | some reason => exact fail (within.interrupted reason)

theorem fetch {view : Store → Except PersistenceError α} (within : failures.Within E)
    (errors : ∀ store e, view store = .error e → E (failures.store e)) :
    (fetch failures view).Reads d (fun store a => view store = .ok a) E := by
  refine (proceed within).bind fun _ may post past store holds fails later reached => ?_
  show post _ later ((view later).mapError failures.store)
  cases result : view later with
  | ok a => exact holds _ later a reached result
  | error e => exact fails _ later _ reached (errors later e result)

theorem validateSession (within : failures.Within E) (creator : String) :
    (validateSession failures creator).Reads d (fun _ _ => True) E := by
  refine (proceed within).bind fun _ => (consult _).bind fun reply => ?_
  cases reply with
  | ok => exact (ret ()).mono fun _ _ _ => trivial
  | error error => exact fail (within.session error)

theorem discover (within : failures.Within E) (reader : String) (attempts : Nat) :
    (discover failures reader attempts).Reads d (fun _ _ => True) E := by
  induction attempts with
  | zero => exact fail within.readerSetupPending
  | succ attempts ih =>
    refine (proceed within).bind fun _ => (consult _).bind fun reply => ?_
    cases reply with
    | error error => exact fail (within.registry error)
    | ok found =>
      cases found with
      | none => exact ih
      | some capable => exact (ret capable).mono fun _ _ _ => trivial

theorem admitReader (within : failures.Within E) (reader : String) (attempts : Nat) :
    (admitReader failures reader attempts).Reads d (fun _ _ => True) E := by
  refine (discover within reader attempts).bind fun capable => ?_
  cases capable with
  | true => exact (ret ()).mono fun _ _ _ => trivial
  | false => exact fail within.readerNotPayable

theorem authorizeReader (within : failures.Within E) (reader : String) :
    (authorizeReader failures reader).Reads d (fun _ _ => True) E := by
  refine (proceed within).bind fun _ => (consult _).bind fun reply => ?_
  cases reply with
  | error error => exact fail (within.registry error)
  | ok state =>
    cases state with
    | verified => exact (ret ()).mono fun _ _ _ => trivial
    | missing => exact fail within.readerSetupPending
    | invalid => exact fail within.readerNotPayable

theorem quotedPrice {services : Services} {unavailable : ε} (within : failures.Within E)
    (missing : E unavailable) (crosses : Bool) :
    (quotedPrice services failures unavailable crosses).Reads d (fun _ _ => True) E := by
  unfold Application.quotedPrice
  cases crosses with
  | false => exact (ret none).mono fun _ _ _ => trivial
  | true =>
    cases services.exchangeRates with
    | false => exact fail missing
    | true =>
      refine (proceed within).bind fun _ => (consult _).bind fun reply => ?_
      cases reply with
      | none => exact fail missing
      | some price => exact (ret (some price)).mono fun _ _ _ => trivial

end Call.Reads

end Reads

end PaykitServer.Application
