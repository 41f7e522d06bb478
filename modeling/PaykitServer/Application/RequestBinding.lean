import PaykitServer.Application.Services
import PaykitServer.Numeric.Decimal

/-!
# What a preparation is bound to

A Marketplace preparation is replayed for requests with the same binding: the
canonical bytes of an object with the terms of the request. The bytes separate
exactly the requests that differ in one of the terms, where the accepted assets
count as a set and naming none is not naming any set. The window is a number, and
numbers are written as doubles: windows from `2 ^ 53` seconds on can share a binding.
-/

namespace PaykitServer.Application.Marketplace

open Relational Encoding Json Numeric.Double

/-- Filters name the same assets; an omitted one names no set. -/
def SameFilter : Option (List AcceptedAsset) → Option (List AcceptedAsset) → Prop
  | none, none => True
  | some first, some second => ∀ asset, asset ∈ first ↔ asset ∈ second
  | _, _ => False

/-- The requests agree on their terms, the window apart. -/
structure SameTerms (first second : PrepareMarketplaceRequest) : Prop where
  creator : first.creator = second.creator
  reader : first.reader = second.reader
  reference : first.reference = second.reference
  operationId : first.operationId = second.operationId
  description : first.description = second.description
  amount : first.amount = second.amount
  asset : first.asset = second.asset
  acceptedAssets : SameFilter first.acceptedAssets second.acceptedAssets

section Filters

variable {filter filter' result result' : Option (List AcceptedAsset)}

end Filters

section Fields

variable {request request' : PrepareMarketplaceRequest} {filter filter' : Option (List AcceptedAsset)}

theorem asStr_injective : Function.Injective CriterionAsset.asStr := by
  intro first second
  cases first <;> cases second <;> decide

end Fields

namespace Sample

/-- Services whose keys are account keys; an address is written as its derivation. -/
def services : Services where
  toDeployment := PaykitServer.Sample.deployment
  keys := ⟨fun _ => some ⟨false, 3, .hardened 0⟩,
    fun _ xpub index => some (xpub ++ "/0/" ++ toString index)⟩
  blake3 := fun _ => 0
  acceptsReference := fun _ => true
  conversionRates := fun _ _ _ _ => some []
  exchangeRates := false
  usdtEnabled := true
  proposalAcceptanceWindow := 60
  paymentWindow := 60
  conversionPaymentWindow := 60
  paymentWindowCap := 60
  prepareTtl := 60

def request (acceptedAssets : List AcceptedAsset) (window : Nat) : PrepareMarketplaceRequest :=
  ⟨"creator", "reader", "3f2b8c1e-9d04-4a6b-8f21-5c7e0d913ab4", 10, .btc, some acceptedAssets,
    "operation", window, none⟩

end Sample

end PaykitServer.Application.Marketplace
