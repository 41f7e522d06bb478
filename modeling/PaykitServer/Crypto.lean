import Mathlib.Algebra.Group.Int.Defs
import Mathlib.Algebra.Group.Nat.Defs
import Mathlib.Tactic.Ring
import PaykitServer.Domain.Payment

/-!
# Keyed lookup hashes

Lookup columns hold HMAC-SHA256 values under the deployment's lookup key. The
keyed hash itself is third-party code and stays a parameter; domain separation
is the server's own and is written out. Nothing below assumes the hash to be
injective: the persistence layer compares the authenticated plaintext whenever
a lookup finds a row.
-/

namespace PaykitServer

/-- A raw 32-byte keyed lookup value. -/
abbrev LookupHash := BitVec 256

def utf8 (text : String) : List UInt8 := text.toList.flatMap String.utf8EncodeChar

/-- The `width` low bytes of a number, most significant first. -/
def bigEndian (width value : Nat) : List UInt8 :=
  (List.range width).reverse.map fun i => (value / 256 ^ i).toUInt8

/-- The number that a row of bytes spells, most significant first. -/
def fromBigEndian (bytes : List UInt8) : Nat := bytes.foldl (fun n byte => 256 * n + byte.toNat) 0

@[simp] theorem length_bigEndian (width value : Nat) : (bigEndian width value).length = width := by
  simp [bigEndian]

theorem fromBigEndian_bigEndian (width value : Nat) :
    fromBigEndian (bigEndian width value) = value % 256 ^ width := by
  have spelled : ∀ start, (bigEndian width value).foldl (fun n byte => 256 * n + byte.toNat) start =
      256 ^ width * start + value % 256 ^ width := by
    induction width with
    | zero => simp [bigEndian, Nat.mod_one]
    | succ width ih =>
      intro start
      have first : bigEndian (width + 1) value =
          (value / 256 ^ width).toUInt8 :: bigEndian width value := by
        simp [bigEndian, List.range_succ]
      rw [first, List.foldl_cons, ih, Nat.pow_succ, Nat.mod_mul]
      simp
      ring
  simpa [fromBigEndian] using spelled 0

theorem bigEndian_inj {width value value' : Nat} (small : value < 256 ^ width)
    (small' : value' < 256 ^ width) :
    bigEndian width value = bigEndian width value' ↔ value = value' := by
  refine ⟨fun same => ?_, fun same => by rw [same]⟩
  have read := congrArg fromBigEndian same
  rwa [fromBigEndian_bigEndian, fromBigEndian_bigEndian, Nat.mod_eq_of_lt small,
    Nat.mod_eq_of_lt small'] at read

theorem utf8_injective : Function.Injective utf8 := by
  intro text text' same
  apply String.toByteArray_inj.mp
  rw [← String.utf8Encode_toList, ← String.utf8Encode_toList]
  exact congrArg List.toByteArray same

/-- The keyed hash under the configured lookup key. -/
structure Crypto where
  hmac : List UInt8 → LookupHash

namespace Crypto

/-- The keyed hash of a creator, reader, bundle, operation or request binding. -/
def lookupHash (crypto : Crypto) (logicalBytes : List UInt8) : LookupHash := crypto.hmac logicalBytes

def domainSeparatedLookupHash (crypto : Crypto) (domain logicalBytes : List UInt8) : LookupHash :=
  crypto.hmac (domain ++ 0 :: logicalBytes)

def bitcoinAddressLookupHash (crypto : Crypto) (address : String) : LookupHash :=
  crypto.domainSeparatedLookupHash (utf8 "paykit-server:bitcoin-address:v1") (utf8 address)

/-- The creator's hash followed by the index in two's complement, both big-endian. -/
def bitcoinDerivationIndexLookupHash (crypto : Crypto) (creatorHash : LookupHash)
    (derivationIndex : Int) : LookupHash :=
  crypto.domainSeparatedLookupHash (utf8 "paykit-server:bitcoin-derivation-index:v1")
    (bigEndian 32 creatorHash.toNat ++ bigEndian 8 (derivationIndex % 2 ^ 64).toNat)

def bitcoinOutpointLookupHash (crypto : Crypto) (outpoint : String) : LookupHash :=
  crypto.domainSeparatedLookupHash (utf8 "paykit-server:bitcoin-outpoint:v1") (utf8 outpoint)

def paymentRequestProposalLookupHash (crypto : Crypto) (paymentReference : String) : LookupHash :=
  crypto.domainSeparatedLookupHash (utf8 "paykit-server:payment-request-proposal:v1")
    (utf8 paymentReference)

/-- The token a caller presents to clean up a completed drain. -/
def paymentDrainCleanupToken (crypto : Crypto) (drainId : Uuid) : LookupHash :=
  crypto.domainSeparatedLookupHash (utf8 "paykit-server:payment-drain-cleanup:v1")
    (bigEndian 16 drainId)

def usdtTransferLookupHash (crypto : Crypto) (identity : String) : LookupHash :=
  crypto.domainSeparatedLookupHash (utf8 "paykit-server:usdt-transfer") (utf8 identity)

end Crypto

end PaykitServer
