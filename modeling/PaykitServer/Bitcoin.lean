import PaykitServer.Domain.Payment

/-!
# Direct Bitcoin observation

The values exchanged with the Electrum boundary, and the decision that binds
one output to an invoice address. Amounts and confirmation counts are naturals;
the one place where the machine width matters is the conversion to the stored
32-bit count, which the persistence layer checks.
-/

namespace PaykitServer.Bitcoin

open Domain

inductive BitcoinNetwork where
  | mainnet
  | testnet
  | signet
  | regtest
deriving DecidableEq, Repr

/-- The currently bound pre-final output, needed to notice its disappearance. -/
structure TrackedOutput where
  outpoint : BitcoinOutpoint
  sats : Nat
deriving DecidableEq

/-- One invoice address whose direct outputs should be observed. -/
structure ObservationTarget where
  address : String
  current : Option TrackedOutput
deriving DecidableEq

/-- One output returned by the Electrum adapter. An output that is not present
was removed by a replacement or a reorganization. -/
structure ObservedOutput where
  network : BitcoinNetwork
  address : String
  outpoint : BitcoinOutpoint
  sats : Nat
  confirmations : Nat
  present : Bool
deriving DecidableEq

inductive ObservationAction where
  | update
  | replace
  | ignore
deriving DecidableEq, Repr

/-- The durable binding currently associated with an invoice address. -/
structure DirectBinding where
  outpoint : BitcoinOutpoint
  sats : Nat
  confirmations : Nat
  present : Bool
deriving DecidableEq

namespace DirectBinding

def isFinal (binding : DirectBinding) (requiredSats : Nat) : Bool :=
  binding.present && decide (requiredSats ≤ binding.sats) && decide (6 ≤ binding.confirmations)

/-- Choose whether an incoming observation updates this binding, replaces it,
or is ignored. The incoming amount and depth are not consulted. -/
def actionForValues (binding : DirectBinding) (outpoint : BitcoinOutpoint) (_sats : Nat)
    (_confirmations : Nat) (present : Bool) (requiredSats : Nat) : ObservationAction :=
  if outpoint = binding.outpoint ∨ present = false then .update
  else if binding.isFinal requiredSats then .ignore
  else if binding.sats < requiredSats ∨ binding.present = false ∨ binding.confirmations = 0 then
    .replace
  else .ignore

end DirectBinding

end PaykitServer.Bitcoin
