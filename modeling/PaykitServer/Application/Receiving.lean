import PaykitServer.Operations

/-!
# Receiving details and the payloads derived from them

A creator's Bitcoin account and the generation it was installed at are read together.
A payload factory keeps both until the committing transaction tells it the child index:
it derives the address there, and names the generation so that the transaction can
refuse an account that was replaced in between.
-/

namespace PaykitServer.Application

open Domain Bitcoin Persistence Relational

inductive CreateInvoiceError where
  | invalidRequest
  | creatorSessionInvalid
  | creatorSessionUnavailable
  | lockNotFound
  | lockUnavailable
  | conflict
  | readerSetupPending
  | readerNotPayable
  | readerRegistryUnavailable
  | readerRegistryMalformed
  | deadlineExceeded
  | unavailable
deriving DecidableEq, Repr

inductive ChildNumber where
  | normal (index : Nat)
  | hardened (index : Nat)
deriving DecidableEq, Repr

/-- What an extended public key says about itself. -/
structure Xpub where
  mainnet : Bool
  depth : Nat
  childNumber : ChildNumber
deriving DecidableEq

/-- The Bitcoin library: reading a serialized key, and the P2WPKH address of its
external-chain child. -/
structure KeyDerivation where
  parseXpub : String → Option Xpub
  externalAddress : BitcoinNetwork → String → Nat → Option String

/-- The account xpub's BIP84 external-chain `0/index` P2WPKH address. The key must be
the account level and agree with the persisted account index. -/
def deriveBip84P2wpkhAddress (keys : KeyDerivation) (network : BitcoinNetwork)
    (account : BitcoinAccount) (childIndex : Int) : Except CreateInvoiceError String := do
  ensure (0 ≤ childIndex ∧ childIndex < 2 ^ 32) .unavailable
  let xpub ← demand .unavailable (keys.parseXpub account.xpub)
  ensure ((xpub.mainnet = true ↔ network = .mainnet) ∧ xpub.depth = 3 ∧
    account.accountIndex < 2 ^ 31 ∧ xpub.childNumber = .hardened account.accountIndex) .unavailable
  ensure (childIndex < 2 ^ 31) .unavailable
  demand .unavailable (keys.externalAddress network account.xpub childIndex.toNat)

structure ReceivingDetails where
  bitcoin : Option BitcoinAccount
  usdt : Option String
  bitcoinAccountGeneration : Int
deriving DecidableEq

def receiving (crypto : Crypto) (store : Store) (creator : String) :
    Except PersistenceError ReceivingDetails := do
  let row ← demand .corruptOrMissing (store.creatorByHash (textHash crypto creator))
  ensure (0 ≤ row.bitcoinAccountGeneration) .corruptOrMissing
  let credentials ← Creators.decryptCredentials crypto row
  return ⟨credentials.bitcoinAccount, credentials.usdtAddress, row.bitcoinAccountGeneration⟩

structure Issuer extends Deployment where
  keys : KeyDerivation

/-- The terms a service offers, without deadlines. -/
structure Offer where
  reader : String
  asset : CriterionAsset
  amount : Nat
  rates : List ConversionRate
  paymentReference : String

def paymentRequest (sdk : Sdk) (offer : Offer) (bitcoin usdt : Option String) :
    Except DeliveryIntentError DeliveryIntentV1 := do
  let intent : DeliveryIntentV1 := ⟨2, offer.reader, paykitAppId, .paymentRequestProposal
    ⟨offer.asset, offer.amount, offer.rates, offer.paymentReference, none, none,
      (bitcoin.map (⟨.btc, ·⟩)).toList ++ (usdt.map (⟨.usdt, ·⟩)).toList⟩⟩
  intent.validate sdk
  return intent

/-- The addresses of an offer at one child index, and the request that names them. -/
def offerAt (issuer : Issuer) (offer : Offer) (bitcoin : Option BitcoinAccount)
    (usdt : Option String) (derivation terms : PersistenceError) (childIndex : Int) :
    Except PersistenceError DeliveryIntentV1 := do
  let address ← bitcoin.mapM fun account =>
    orFail derivation (deriveBip84P2wpkhAddress issuer.keys issuer.network account childIndex)
  orFail terms (paymentRequest issuer.sdk offer address usdt)

def derivedInvoicePayloads (issuer : Issuer) (receiving : ReceivingDetails) (offer : Offer) :
    PayloadFactory where
  expectedBitcoinAccountGeneration := receiving.bitcoin.map fun _ =>
    receiving.bitcoinAccountGeneration
  forChildIndex := offerAt issuer offer receiving.bitcoin receiving.usdt
    .corruptOrMissing .corruptOrMissing

def providerPayloadFactory (issuer : Issuer) (account : BitcoinAccount) (generation : Int)
    (offer : Offer) : PayloadFactory where
  expectedBitcoinAccountGeneration := some generation
  forChildIndex := offerAt issuer offer (some account) none .corruptOrMissing .invalidInput

/-- The largest deadlines that an activation can choose. -/
def maxPaymentDeadline : OffsetDateTime := 253402300799999999

/-- The payloads of a Marketplace preparation. The request must still be valid with the
largest deadlines an activation can give it. -/
def marketplacePayloads (issuer : Issuer) (bitcoin : Option BitcoinAccount)
    (generation : Option Int) (usdt : Option String) (offer : Offer) : PayloadFactory where
  expectedBitcoinAccountGeneration := generation
  forChildIndex childIndex := do
    let intent ← offerAt issuer offer bitcoin usdt .invalidInput .invalidInput childIndex
    let _ ← orFail .invalidInput
      (intent.setDeadlines issuer.sdk (maxPaymentDeadline - 1) maxPaymentDeadline)
    return intent

/-- The payloads of a Marketplace replay, which builds nothing. -/
def replayOnlyPayloads : PayloadFactory where
  expectedBitcoinAccountGeneration := none
  forChildIndex _ := .error .corruptOrMissing

section Quotes

variable {issuer : Issuer} {offer : Offer}

/-- Payloads quote Bitcoin only at addresses of one account, and then name the
generation it was read at. -/
def PayloadsOf (issuer : Issuer) (bitcoin : Option BitcoinAccount) (generation : Int)
    (payloads : PayloadFactory) : Prop :=
  ∀ index payload record destination, payloads.forChildIndex index = .ok payload →
    fromIntent issuer.sdk index payload = .ok record → record.bitcoin = some destination →
      payloads.expectedBitcoinAccountGeneration = some generation ∧
      ∃ account, bitcoin = some account ∧
        deriveBip84P2wpkhAddress issuer.keys issuer.network account index =
          .ok destination.address

theorem offerAt_bitcoin {bitcoin : Option BitcoinAccount} {usdt : Option String}
    {derivation terms : PersistenceError} {index : Int} {payload : DeliveryIntentV1}
    {record : InvoicePaymentRecordV1} {destination : PaymentDestination}
    (offered : offerAt issuer offer bitcoin usdt derivation terms index = .ok payload)
    (recorded : fromIntent issuer.sdk index payload = .ok record)
    (accepts : record.bitcoin = some destination) :
    ∃ account, bitcoin = some account ∧
      deriveBip84P2wpkhAddress issuer.keys issuer.network account index =
        .ok destination.address := by
  obtain ⟨address, derived, offered⟩ := bind_eq_ok.mp offered
  obtain ⟨_, _, built⟩ := bind_eq_ok.mp (orFail_eq_ok.mp offered)
  cases built
  obtain ⟨_, read, member⟩ := fromIntent_bitcoin recorded accepts
  cases read
  cases bitcoin with
  | none =>
    cases derived
    simp at member
  | some account =>
    obtain ⟨found, found', rfl⟩ := map_eq_ok.mp derived
    refine ⟨account, rfl, ?_⟩
    have same : destination.address = found := by simpa using member
    rw [same]
    exact orFail_eq_ok.mp found'

theorem derivedInvoicePayloads_of (receiving : ReceivingDetails) :
    PayloadsOf issuer receiving.bitcoin receiving.bitcoinAccountGeneration
      (derivedInvoicePayloads issuer receiving offer) := by
  intro index payload record destination offered recorded accepts
  obtain ⟨account, present, derived⟩ := offerAt_bitcoin offered recorded accepts
  exact ⟨congrArg (Option.map _) present, account, present, derived⟩

theorem providerPayloadFactory_of (account : BitcoinAccount) (generation : Int) :
    PayloadsOf issuer (some account) generation
      (providerPayloadFactory issuer account generation offer) :=
  fun _ _ _ _ offered recorded accepts => ⟨rfl, offerAt_bitcoin offered recorded accepts⟩

theorem marketplacePayloads_of (bitcoin : Option BitcoinAccount) (usdt : Option String)
    (generation : Int) :
    PayloadsOf issuer bitcoin generation
      (marketplacePayloads issuer bitcoin (bitcoin.map fun _ => generation) usdt offer) := by
  intro index payload record destination offered recorded accepts
  obtain ⟨intent, offered, fixed⟩ := bind_eq_ok.mp offered
  obtain ⟨_, _, same⟩ := bind_eq_ok.mp fixed
  cases same
  obtain ⟨account, present, derived⟩ := offerAt_bitcoin offered recorded accepts
  exact ⟨congrArg (Option.map _) present, account, present, derived⟩

theorem replayOnlyPayloads_of (bitcoin : Option BitcoinAccount) (generation : Int) :
    PayloadsOf issuer bitcoin generation replayOnlyPayloads := by
  intro _ _ _ _ offered
  cases offered

end Quotes

end PaykitServer.Application
