import PaykitServer.Domain.Receiving
import PaykitServer.Numeric.Hex
import PaykitServer.Persistence.MarketplaceStatus
import PaykitServer.Usdt.Json

/-!
# Payment candidates

A candidate is a log of a transaction with every account that attested, in a payment
proof of a request, that the log pays it.
-/

namespace PaykitServer.Usdt

open Relational Numeric Domain
open Persistence.MarketplacePreparations (usdtChainId transferIdentity transactionHash
  isTransactionHash transactionHash_transferIdentity)

/-- A transaction or block hash, a topic or a word of log data. -/
abbrev B256 := BitVec (4 * 64)

abbrev Address := BitVec (4 * 40)

/-- An account as a topic has it: left-padded to a word. -/
def Address.intoWord (address : Address) : B256 := address.setWidth (4 * 64)

/-- Nanoseconds of the monotonic clock. -/
abbrev Instant := Nat

/-- Context resolved from the authenticated request and persisted invoice. -/
structure PaymentContext where
  payer : String
  payee : String
  requestId : String
  reference : String
  recipient : UsdtAddress
deriving DecidableEq

inductive VerificationError where
  | invalidProof
  | unavailable
deriving DecidableEq

/-- `canonical_hex`: a text with only these characters has as many bytes as characters. -/
def canonicalHex (value : String) (bytes : Nat) : Except VerificationError String := do
  ensure (value.length = 2 + bytes * 2 ∧ value.toList.take 2 = ['0', 'x'] ∧
    (value.toList.drop 2).all Hex.isLower = true) .invalidProof
  return value

def logIdentity (hash : B256) (index : Nat) : String :=
  transferIdentity (String.ofList (Hex.encode hash)) index

theorem transactionHash_logIdentity (hash : B256) (index : Nat) :
    transactionHash (logIdentity hash index) = .ok (String.ofList (Hex.encode hash)) := by
  refine transactionHash_transferIdentity index ?_
  have digits : (Hex.row 64 hash.toNat).all Hex.isLower = true := Hex.isLower_row 64 hash.toNat
  simp only [isTransactionHash, String.toList_ofList, Hex.encode, List.length_cons,
    Hex.length_row, List.take_succ_cons, List.take_zero, List.drop_succ_cons, List.drop_zero]
  exact Bool.and_eq_true_iff.mpr ⟨rfl, digits⟩

/-- One log with the accounts that attested it. No two accounts have the same word,
so the order of the accounts is of no effect. -/
structure PaymentCandidate where
  identity : String
  hash : B256
  index : Nat
  senders : List Address
deriving DecidableEq

end PaykitServer.Usdt
