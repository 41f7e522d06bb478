import PaykitServer.Domain.Payment

/-!
# Provider-v2 observation samples

A sample is a closed value: its constructor admits only the shapes the provider
contract knows. An undetected sample names no output, a detected one has no
confirmations, and a confirmed one has between one and six.
-/

namespace PaykitServer.Domain

inductive ProviderV2ValueError where
  | invalidPayment
  | invalidSample
deriving DecidableEq, Repr

/-- The admissible combinations of a sample's fields. -/
def sampleShape (status : PaymentStatus) (outpoint : Option BitcoinOutpoint)
    (confirmations : Nat) (amountMatched : Bool) : Bool :=
  decide (confirmations ≤ 6) &&
    match status with
    | .undetected => outpoint.isNone && confirmations == 0 && !amountMatched
    | .detected => outpoint.isSome && confirmations == 0
    | .confirmed => outpoint.isSome && decide (0 < confirmations)

structure ProviderV2Sample where
  observedAt : OffsetDateTime
  status : PaymentStatus
  outpoint : Option BitcoinOutpoint
  confirmations : Nat
  amountMatched : Bool
  valid : sampleShape status outpoint confirmations amountMatched = true
deriving DecidableEq

namespace ProviderV2Sample

def new (observedAt : OffsetDateTime) (status : PaymentStatus) (outpoint : Option BitcoinOutpoint)
    (confirmations : Nat) (amountMatched : Bool) : Except ProviderV2ValueError ProviderV2Sample :=
  if valid : sampleShape status outpoint confirmations amountMatched = true then
    .ok ⟨observedAt, status, outpoint, confirmations, amountMatched, valid⟩
  else .error .invalidSample

end ProviderV2Sample

end PaykitServer.Domain
