import PaykitServer.Application.Services
import PaykitServer.Numeric.Decimal

/-!
# Fixed invoice rates and exact payment amounts

A request is priced in one asset and may be paid in another. The rate published with it
is fixed from the exchange feed, and the payment due in an asset is computed from the
published text, in 256-bit words, rounded up to the asset's base unit.
-/

namespace PaykitServer.Application

open Numeric Relational

namespace CriterionAsset

/-- Decimals of the asset's base unit. -/
def decimals : CriterionAsset → Nat
  | .btc => 8
  | .usd => 2
  | .usdt => 6

/-- A number of base units, written with `width` decimals. -/
def fixedPoint (scale width units : Nat) : String :=
  String.ofList (Nat.toDigits 10 (units / scale) ++ '.' :: padded width (units % scale))

def decimalAmount : CriterionAsset → Nat → String
  | .usd, units => fixedPoint 100 2 units
  | .btc, units => fixedPoint 100000000 8 units
  | .usdt, units => fixedPoint 1000000 6 units

def publishedName (asset : CriterionAsset) : String := (Marketplace.CriterionAsset.asStr asset).toLower

end CriterionAsset

inductive CriterionAmountError where
  | notUnsignedDecimalInteger
  | zero
  | outOfRange
deriving DecidableEq, Repr

/-- The amount of a criterion: a positive integer that fits a `u64`. -/
def CriterionAmount.parse (text : String) : Except CriterionAmountError Nat := do
  ensure (text.toList ≠ [] ∧ text.toList.all Char.isDigit = true) .notUnsignedDecimalInteger
  ensure (spelled text.toList < 2 ^ 64) .outOfRange
  ensure (spelled text.toList ≠ 0) .zero
  return spelled text.toList

namespace InvoicePricing

abbrev U256 := BitVec 256

/-- A published rate: units of the named asset per unit of the requested one. -/
structure ConversionRate where
  asset : String
  value : String
deriving DecidableEq

def rateScale : U256 := 1000000000000000000

def pow10 (exponent : Nat) : U256 := BitVec.ofNat 256 (10 ^ exponent)

/-- The digits behind a point in units of the last admitted decimal. -/
def fractionUnits (fraction : List Char) (decimals : Nat) : Except CreateInvoiceError U256 :=
  if fraction = [] then .ok 0
  else do
    let digits ← demand .invalidRequest (fromDigits 256 fraction)
    return digits * pow10 (decimals - fraction.length)

def decimalUnits (text : String) (decimals : Nat) : Except CreateInvoiceError U256 := do
  let (whole, fraction) := parts text.toList
  ensure (byteLength text.toList ≤ 80 ∧ whole ≠ [] ∧ whole.all Char.isDigit = true ∧
    fraction.all Char.isDigit = true ∧ fraction.length ≤ decimals) .invalidRequest
  let whole ← demand .invalidRequest (fromDigits 256 whole)
  let fraction ← fractionUnits fraction decimals
  let units ← demand .invalidRequest do
    checkedAdd (← checkedMul whole (pow10 decimals)) fraction
  ensure (units ≠ 0) .invalidRequest
  return units

/-- A rate as it is published: no point without decimals, no zeros at the end. -/
def formatRate (rate : U256) : String :=
  String.ofList (numeral (Nat.toDigits 10 (rate / rateScale).toNat)
    (trimZeros (padded 18 (rate % rateScale).toNat)))

def reciprocal (price : U256) : U256 := halfEvenDiv (rateScale * rateScale) price

def quoteRate (requested asset : CriterionAsset) (usdPerBtc : Option String) :
    Except CreateInvoiceError String :=
  if (requested = .btc) ≠ (asset = .btc) then do
    let price ← decimalUnits (← demand .unavailable usdPerBtc) 18
    let multiplier := if requested = .btc then price else reciprocal price
    ensure (multiplier ≠ 0) .unavailable
    return formatRate multiplier
  else .ok "1"

/-- One rail of a quote; a rail that is off or needs no conversion has no rate. -/
def quoteRail (requested : CriterionAsset) (usdPerBtc : Option String)
    (rates : List ConversionRate) (rail : CriterionAsset × Bool) :
    Except CreateInvoiceError (List ConversionRate) :=
  if rail.2 = false ∨ rail.1 = requested then .ok rates
  else do
    let value ← quoteRate requested rail.1 usdPerBtc
    return rates ++ [⟨rail.1.publishedName, value⟩]

def conversionRates (requested : CriterionAsset) (bitcoin usdt : Bool)
    (usdPerBtc : Option String) : Except CreateInvoiceError (List ConversionRate) :=
  [(.btc, bitcoin), (.usdt, usdt)].foldlM (quoteRail requested usdPerBtc) []

def multiplier (requested payment : CriterionAsset) (rates : List ConversionRate) :
    Except CreateInvoiceError U256 :=
  if requested = payment then .ok rateScale
  else do
    let rate ← demand .invalidRequest (rates.find? fun rate => rate.asset == payment.publishedName)
    decimalUnits rate.value 18

/-- The payment due in an asset, rounded up to its base unit. -/
def paymentUnits (amount : String) (requested payment : CriterionAsset)
    (rates : List ConversionRate) : Except CreateInvoiceError Nat := do
  let units ← decimalUnits amount requested.decimals
  let multiplier ← multiplier requested payment rates
  let numerator ← demand .invalidRequest do
    checkedMul (← checkedMul units multiplier) (pow10 payment.decimals)
  let denominator := rateScale * pow10 requested.decimals
  let result := ceilDiv numerator denominator
  ensure (result.toNat < 2 ^ 64) .invalidRequest
  return result.toNat

def ConversionRate.ofTerms (rate : Application.ConversionRate) : ConversionRate :=
  ⟨rate.asset.publishedName, rate.value⟩

def pricedSdk (sdk : Sdk) : Sdk :=
  { sdk with
    paymentUnits := fun units requested payment rates =>
      (paymentUnits (requested.decimalAmount units) requested payment
        (rates.map ConversionRate.ofTerms)).toOption }

structure Ticker where
  base : String
  quote : String
  lastPrice : String
  /-- Milliseconds since the epoch. -/
  lastUpdatedAt : Int
deriving DecidableEq

def maxRateAgeSeconds : Int := 600

/-- Digits and other bytes of a price, its points apart. -/
def priceBytes (price : String) : Nat := byteLength (price.toList.filter (· ≠ '.'))

/-- The one fresh Bitcoin price of a feed; `now` is in nanoseconds. -/
def usdPerBtc (tickers : List Ticker) (now : Int) : Except CreateInvoiceError String :=
  match tickers.filter fun ticker => ticker.base = "BTC" ∧ ticker.quote = "USD" with
  | [] => .error .unavailable
  | rate :: others => do
    let age := now.tdiv 1000000 - rate.lastUpdatedAt
    ensure (others = [] ∧ 0 ≤ age ∧ age ≤ maxRateAgeSeconds * 1000 ∧
      priceBytes rate.lastPrice ≤ 18 ∧
      (decimalUnits rate.lastPrice 18).toOption ≠ none) .unavailable
    return rate.lastPrice

end InvoicePricing

end PaykitServer.Application
