import PaykitServer.Collections.Encoding
import PaykitServer.Crypto
import PaykitServer.Relational.Statement

/-!
# Encrypted records and domain-separated lookups

Persisted state is sealed under associated data that names the record it belongs to. The
fields of a context are written behind their lengths, so that two contexts never share
their associated data, and an envelope opens only where it was sealed. A keyed lookup
hashes its domain and its value with a zero byte between them; no domain contains one.
-/

namespace PaykitServer

open Collections Relational

/-- The supported kinds of encrypted persisted state. -/
inductive EnvelopeType where
  | creatorCredentials | readerAssignment | invoice | invoicePaymentRecord | bitcoinObservation
  | marketplaceBitcoinObservation | usdtObservation | marketplaceUsdtObservation
  | outboxSemanticIntent | paymentDrain | marketplacePreparation
  | marketplaceSettlementPaymentRecord
deriving DecidableEq

def EnvelopeType.text : EnvelopeType → String
  | .creatorCredentials => "creator-credentials"
  | .readerAssignment => "reader-assignment"
  | .invoice => "invoice"
  | .invoicePaymentRecord => "invoice-payment-record"
  | .bitcoinObservation => "bitcoin-observation"
  | .marketplaceBitcoinObservation => "marketplace-bitcoin-observation"
  | .usdtObservation => "usdt-observation"
  | .marketplaceUsdtObservation => "marketplace-usdt-observation"
  | .outboxSemanticIntent => "outbox-semantic-intent"
  | .paymentDrain => "payment-drain"
  | .marketplacePreparation => "marketplace-preparation"
  | .marketplaceSettlementPaymentRecord => "marketplace-settlement-payment-record"

def EnvelopeType.asBytes (type : EnvelopeType) : List UInt8 := utf8 type.text

/-- The record an envelope belongs to. Row identities are 16 bytes. -/
structure EnvelopeContext where
  envelopeType : EnvelopeType
  creatorLookupHash : LookupHash
  rowId : BitVec 128
  parentRowId : Option (BitVec 128)
deriving DecidableEq

/-- Bytes as they fit into memory. -/
abbrev Bytes := { bytes : List UInt8 // bytes.length < 2 ^ 64 }

/-- A text as it fits into memory. -/
abbrev Text := { text : String // (utf8 text).length < 2 ^ 64 }

/-- A value behind its length in `width` bytes. -/
def lengthPrefixed (width : Nat) (value : List UInt8) : List UInt8 :=
  bigEndian width value.length ++ value

def wordBytes (width : Nat) (word : BitVec (8 * width)) : List UInt8 := bigEndian width word.toNat

section Bytes

variable {α : Type} {width : Nat}

theorem lengthPrefixed_delimited {f : α → List UInt8} (injective : Function.Injective f)
    (short : ∀ a, (f a).length < 256 ^ width) : Delimited fun a => lengthPrefixed width (f a) :=
  .counted injective (by simp) fun a b => (bigEndian_inj (short a) (short b)).mp

theorem wordBytes_injective : Function.Injective (wordBytes width) := by
  intro word word' same
  have bound : ∀ word : BitVec (8 * width), word.toNat < 256 ^ width := by
    intro word
    have := word.isLt
    rwa [Nat.pow_mul] at this
  exact BitVec.eq_of_toNat_eq ((bigEndian_inj (bound word) (bound word')).mp same)

theorem wordBytes_delimited : Delimited (wordBytes width) :=
  .of_length wordBytes_injective (by simp [wordBytes])

end Bytes

def envelopeVersion : UInt8 := 1

namespace EnvelopeContext

/-- The bytes an envelope is authenticated with besides its content. -/
def associatedData (context : EnvelopeContext) : List UInt8 :=
  lengthPrefixed 4 (utf8 "paykit-server") ++ lengthPrefixed 4 [envelopeVersion] ++
    lengthPrefixed 4 context.envelopeType.asBytes ++
    lengthPrefixed 4 (wordBytes 32 context.creatorLookupHash) ++
    lengthPrefixed 4 (wordBytes 16 context.rowId) ++
    context.parentRowId.elim [] fun parent => lengthPrefixed 4 (wordBytes 16 parent)

theorem asBytes_delimited : Delimited fun type : EnvelopeType => lengthPrefixed 4 type.asBytes := by
  apply lengthPrefixed_delimited
  · intro type type' same
    have texts := utf8_injective same
    cases type <;> cases type' <;> first | rfl | simp [EnvelopeType.text] at texts
  · intro type
    cases type <;> decide +kernel

theorem word_delimited {width : Nat} (short : width < 256 ^ 4) :
    Delimited fun word => lengthPrefixed 4 (wordBytes width word) :=
  lengthPrefixed_delimited wordBytes_injective (by simpa [wordBytes] using short)

theorem associatedData_injective : Function.Injective associatedData := by
  rintro ⟨type, hash, row, parent⟩ ⟨type', hash', row', parent'⟩ same
  have fields := asBytes_delimited.append ((word_delimited (show 32 < 256 ^ 4 by decide)).append
    (word_delimited (show 16 < 256 ^ 4 by decide)))
  simp only [associatedData, List.append_assoc, List.append_cancel_left_eq] at same
  obtain ⟨named, rest⟩ := fields (type, hash, row) (type', hash', row') _ _
    (by simpa only [List.append_assoc] using same)
  obtain ⟨rfl, rfl, rfl⟩ : type = type' ∧ hash = hash' ∧ row = row' := by simpa using named
  obtain rfl : parent = parent' := by
    cases parent with
    | none =>
      cases parent' with
      | none => rfl
      | some row' => simp [lengthPrefixed, bigEndian] at rest
    | some row =>
      cases parent' with
      | none => simp [lengthPrefixed, bigEndian] at rest
      | some row' => rw [(word_delimited (by decide)).injective rest]
  rfl

end EnvelopeContext

inductive CryptoError where
  | invalidEnvelope | authenticationFailed
deriving DecidableEq

/-- The authenticated cipher under the configured key. Sealing can be refused. -/
structure Aead where
  encrypt : (nonce aad plaintext : List UInt8) → Option (List UInt8)
  decrypt : (nonce aad ciphertext : List UInt8) → Option (List UInt8)

def nonceLength : Nat := 24
def tagLength : Nat := 16

/-- What is sealed so is tagged, and opens under other associated data only if that is the
same, as what was sealed. An ideal cipher has this for every pair; a real one has it
unless a forgery is at hand. -/
def Aead.Authentic (aead : Aead) (nonce aad plaintext aad' : List UInt8) : Prop :=
  ∀ ciphertext, aead.encrypt nonce aad plaintext = some ciphertext →
    tagLength ≤ ciphertext.length ∧ ∀ opened,
      aead.decrypt nonce aad' ciphertext = some opened ↔ aad' = aad ∧ opened = plaintext

/-- Seal a content for a record. The nonce is freshly generated. -/
def encrypt (aead : Aead) (nonce : BitVec (8 * nonceLength)) (context : EnvelopeContext)
    (plaintext : List UInt8) : Except CryptoError (List UInt8) := do
  let nonce := wordBytes nonceLength nonce
  let ciphertext ← demand .authenticationFailed
    (aead.encrypt nonce context.associatedData plaintext)
  return envelopeVersion :: (nonce ++ ciphertext)

/-- Open a stored envelope of the supported layout. -/
def decrypt (aead : Aead) (context : EnvelopeContext) (stored : List UInt8) :
    Except CryptoError (List UInt8) := do
  ensure (1 + nonceLength + tagLength ≤ stored.length ∧ stored.head? = some envelopeVersion)
    .invalidEnvelope
  demand .authenticationFailed (aead.decrypt ((stored.drop 1).take nonceLength)
    context.associatedData (stored.drop (1 + nonceLength)))

section Envelopes

variable {aead : Aead} {context : EnvelopeContext} {plaintext stored : List UInt8}

theorem decrypt_eq_ok {nonce ciphertext opened : List UInt8} (long : nonce.length = nonceLength)
    (tagged : tagLength ≤ ciphertext.length) :
    decrypt aead context (envelopeVersion :: (nonce ++ ciphertext)) = .ok opened ↔
      aead.decrypt nonce context.associatedData ciphertext = some opened := by
  have layout : 1 + nonceLength + tagLength ≤
      (envelopeVersion :: (nonce ++ ciphertext)).length := by
    rw [List.length_cons, List.length_append, long]
    omega
  rw [decrypt, List.drop_one, List.tail_cons, List.take_left' long, Nat.add_comm 1 nonceLength,
    List.drop_succ_cons, List.drop_left' long, Nat.add_comm nonceLength, bind_eq_ok]
  exact ⟨fun ⟨_, _, opened⟩ => demand_eq_ok.mp opened,
    fun opened => ⟨(), ensure_eq_ok.mpr ⟨layout, rfl⟩, demand_eq_ok.mpr opened⟩⟩

theorem decrypt_encrypt {nonce : BitVec (8 * nonceLength)}
    (sealed : encrypt aead nonce context plaintext = .ok stored) {context' : EnvelopeContext}
    (authentic : aead.Authentic (wordBytes nonceLength nonce) context.associatedData plaintext
      context'.associatedData) (opened : List UInt8) :
    decrypt aead context' stored = .ok opened ↔ context' = context ∧ opened = plaintext := by
  obtain ⟨ciphertext, written, done⟩ := bind_eq_ok.mp sealed
  cases done
  obtain ⟨tagged, opens⟩ := authentic _ (demand_eq_ok.mp written)
  have long : (wordBytes nonceLength nonce).length = nonceLength := length_bigEndian _ _
  rw [decrypt_eq_ok long tagged, opens]
  exact ⟨fun ⟨same, content⟩ => ⟨EnvelopeContext.associatedData_injective same, content⟩,
    fun ⟨same, content⟩ => ⟨by rw [same], content⟩⟩

end Envelopes

/-- The domain-separated lookups with the values they hash. -/
inductive Lookup where
  | bitcoinAddress (address : List UInt8)
  | paymentRequestProposal (paymentReference : List UInt8)
  | bitcoinDerivationIndex (creatorHash : LookupHash) (derivationIndex : BitVec 64)
  | bitcoinOutpoint (outpoint : List UInt8)
  | paymentDrainCleanup (drainId : BitVec 128)
  | usdtTransfer (identity : List UInt8)
deriving DecidableEq

namespace Lookup

def domain : Lookup → String
  | .bitcoinAddress _ => "paykit-server:bitcoin-address:v1"
  | .paymentRequestProposal _ => "paykit-server:payment-request-proposal:v1"
  | .bitcoinDerivationIndex _ _ => "paykit-server:bitcoin-derivation-index:v1"
  | .bitcoinOutpoint _ => "paykit-server:bitcoin-outpoint:v1"
  | .paymentDrainCleanup _ => "paykit-server:payment-drain-cleanup:v1"
  | .usdtTransfer _ => "paykit-server:usdt-transfer"

def logicalBytes : Lookup → List UInt8
  | .bitcoinAddress value | .paymentRequestProposal value | .bitcoinOutpoint value
  | .usdtTransfer value => value
  | .bitcoinDerivationIndex creatorHash index => wordBytes 32 creatorHash ++ wordBytes 8 index
  | .paymentDrainCleanup drainId => wordBytes 16 drainId

def input (lookup : Lookup) : List UInt8 := utf8 lookup.domain ++ 0 :: lookup.logicalBytes

def hash (crypto : Crypto) (lookup : Lookup) : LookupHash :=
  crypto.domainSeparatedLookupHash (utf8 lookup.domain) lookup.logicalBytes

theorem hash_eq (crypto : Crypto) (text : String) (creatorHash : LookupHash) (index : Int)
    (drainId : Uuid) :
    crypto.bitcoinAddressLookupHash text = hash crypto (.bitcoinAddress (utf8 text)) ∧
    crypto.paymentRequestProposalLookupHash text =
      hash crypto (.paymentRequestProposal (utf8 text)) ∧
    crypto.bitcoinDerivationIndexLookupHash creatorHash index =
      hash crypto (.bitcoinDerivationIndex creatorHash (BitVec.ofInt 64 index)) ∧
    crypto.bitcoinOutpointLookupHash text = hash crypto (.bitcoinOutpoint (utf8 text)) ∧
    (drainId < 2 ^ 128 → crypto.paymentDrainCleanupToken drainId =
      hash crypto (.paymentDrainCleanup (BitVec.ofNat 128 drainId))) ∧
    crypto.usdtTransferLookupHash text = hash crypto (.usdtTransfer (utf8 text)) := by
  refine ⟨rfl, rfl, ?_, rfl, fun small => ?_, rfl⟩
  · simp [Crypto.bitcoinDerivationIndexLookupHash, hash, domain, logicalBytes, wordBytes,
      BitVec.toNat_ofInt]
  · have word : (BitVec.ofNat 128 drainId).toNat = drainId := Nat.mod_eq_of_lt small
    rw [hash, logicalBytes, wordBytes, word]
    rfl

theorem zero_notMem_domain (lookup : Lookup) : 0 ∉ utf8 lookup.domain := by
  cases lookup <;> rw [domain] <;> decide +kernel

/-- Two lookups that differ in domain or value are hashed from different bytes. -/
theorem input_injective : Function.Injective input := by
  intro lookup lookup' same
  obtain ⟨domains, values⟩ :=
    append_separator_inj lookup.zero_notMem_domain lookup'.zero_notMem_domain same
  have domains := utf8_injective domains
  cases lookup with
  | bitcoinDerivationIndex creatorHash index =>
    cases lookup' with
    | bitcoinDerivationIndex creatorHash' index' =>
      have fields := (@wordBytes_delimited 32).append (@wordBytes_delimited 8)
      have same := fields (creatorHash, index) (creatorHash', index') [] []
        (by simpa [logicalBytes] using values)
      simpa using same
    | _ => simp [domain] at domains
  | paymentDrainCleanup drainId =>
    cases lookup' with
    | paymentDrainCleanup drainId' => rw [wordBytes_injective values]
    | _ => simp [domain] at domains
  | bitcoinAddress | paymentRequestProposal | bitcoinOutpoint | usdtTransfer =>
    cases lookup' <;> simp [domain] at domains
    exact congrArg _ values

end Lookup

/-- Encrypted records cannot be swapped: no two contexts share their associated data, and
where the cipher is authentic an envelope opens only under the context it was sealed for.
Lookups that differ in domain or value are hashed from different bytes, so that under a
keyed hash without a collision between them their lookup values differ; the lookups of the
persistence layer are these. -/
theorem records_not_swapped :
    Function.Injective EnvelopeContext.associatedData ∧
    (∀ (aead : Aead) nonce context plaintext stored,
      encrypt aead nonce context plaintext = .ok stored → ∀ context' opened,
        aead.Authentic (wordBytes nonceLength nonce) context.associatedData plaintext
          context'.associatedData →
        (decrypt aead context' stored = .ok opened ↔ context' = context ∧ opened = plaintext)) ∧
    Function.Injective Lookup.input ∧
    (∀ (crypto : Crypto) (lookup lookup' : Lookup),
      (crypto.hmac lookup.input = crypto.hmac lookup'.input → lookup.input = lookup'.input) →
        (lookup.hash crypto = lookup'.hash crypto ↔ lookup = lookup')) ∧
    ∀ (crypto : Crypto) text creatorHash index drainId,
      crypto.bitcoinAddressLookupHash text = Lookup.hash crypto (.bitcoinAddress (utf8 text)) ∧
      crypto.paymentRequestProposalLookupHash text =
        Lookup.hash crypto (.paymentRequestProposal (utf8 text)) ∧
      crypto.bitcoinDerivationIndexLookupHash creatorHash index =
        Lookup.hash crypto (.bitcoinDerivationIndex creatorHash (BitVec.ofInt 64 index)) ∧
      crypto.bitcoinOutpointLookupHash text = Lookup.hash crypto (.bitcoinOutpoint (utf8 text)) ∧
      (drainId < 2 ^ 128 → crypto.paymentDrainCleanupToken drainId =
        Lookup.hash crypto (.paymentDrainCleanup (BitVec.ofNat 128 drainId))) ∧
      crypto.usdtTransferLookupHash text = Lookup.hash crypto (.usdtTransfer (utf8 text)) := by
  refine ⟨EnvelopeContext.associatedData_injective,
    fun aead nonce context plaintext stored sealed context' opened authentic =>
      decrypt_encrypt sealed authentic opened,
    Lookup.input_injective, fun crypto lookup lookup' separate => ?_, Lookup.hash_eq⟩
  exact ⟨fun same => Lookup.input_injective (separate same), fun same => by rw [same]⟩

end PaykitServer
