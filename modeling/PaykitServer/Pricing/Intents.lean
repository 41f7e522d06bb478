import PaykitServer.Pricing.ConversionRates

/-!
# Recorded payments are the exact ones

A criterion's amount is a number of base units. It is written as a decimal text into the
terms of an intent, and every payment the intent offers is recorded at what the pricing
code computes from that text and the published rates. The text spells the units exactly,
so the recorded payment is the least one that covers the criterion at the published rate.
-/

namespace PaykitServer.Pricing

open Application hiding ConversionRate
open Persistence InvoicePricing Numeric Relational

section Amounts

variable {width units : Nat} {asset payment : CriterionAsset}

theorem parts_fixedPoint (positive : 0 < width) :
    parts (CriterionAsset.fixedPoint (10 ^ width) width units).toList =
      (Nat.toDigits 10 (units / 10 ^ width), padded width (units % 10 ^ width)) := by
  have below : units % 10 ^ width < 10 ^ width := Nat.mod_lt _ (Nat.pow_pos (by decide))
  have digits : ∀ c ∈ Nat.toDigits 10 (units / 10 ^ width), c.isDigit = true :=
    fun c there => Nat.isDigit_of_mem_toDigits (by decide) (by decide) there
  have some : padded width (units % 10 ^ width) ≠ [] := by
    apply List.ne_nil_of_length_pos
    rwa [length_padded positive below]
  have joined : parts (numeral (Nat.toDigits 10 (units / 10 ^ width))
      (padded width (units % 10 ^ width))) = _ := parts_numeral (point_notMem digits)
  rw [numeral, if_neg some] at joined
  rw [CriterionAsset.fixedPoint, String.toList_ofList, joined]

theorem decimalAmount_eq (asset : CriterionAsset) (units : Nat) :
    asset.decimalAmount units =
      CriterionAsset.fixedPoint (10 ^ asset.decimals) asset.decimals units := by
  cases asset <;> rfl

theorem decimals_pos (asset : CriterionAsset) : 0 < asset.decimals := by
  cases asset <;> decide

theorem parts_decimalAmount (asset : CriterionAsset) (units : Nat) :
    parts (asset.decimalAmount units).toList =
      (Nat.toDigits 10 (units / 10 ^ asset.decimals),
        padded asset.decimals (units % 10 ^ asset.decimals)) := by
  rw [decimalAmount_eq]
  exact parts_fixedPoint (decimals_pos asset)

theorem decimalValue_decimalAmount (asset : CriterionAsset) (units : Nat) :
    decimalValue (asset.decimalAmount units) = units / 10 ^ asset.decimals := by
  have below : units % 10 ^ asset.decimals < 10 ^ asset.decimals :=
    Nat.mod_lt _ (Nat.pow_pos (by decide))
  have split : (units : ℚ) = 10 ^ asset.decimals * (units / 10 ^ asset.decimals : Nat) +
      (units % 10 ^ asset.decimals : Nat) := by
    exact_mod_cast (Nat.div_add_mod units (10 ^ asset.decimals)).symm
  rw [decimalValue, value, parts_decimalAmount,
    length_padded (decimals_pos asset) below, spelled_toDigits, spelled_padded]
  conv_rhs => rw [split]
  field_simp

theorem decimalAmount_numeral (positive : 0 < units) (small : units < 2 ^ 64)
    (asset : CriterionAsset) : Numeral (asset.decimalAmount units) asset.decimals := by
  have below : units % 10 ^ asset.decimals < 10 ^ asset.decimals :=
    Nat.mod_lt _ (Nat.pow_pos (by decide))
  have fraction := length_padded (decimals_pos asset) below
  have split := parts_decimalAmount asset units
  have wholeDigits : ∀ c ∈ Nat.toDigits 10 (units / 10 ^ asset.decimals), c.isDigit = true :=
    fun c there => Nat.isDigit_of_mem_toDigits (by decide) (by decide) there
  refine ⟨?_, ?_, ?_, ?_, ?_, ?_⟩
  · have whole : (Nat.toDigits 10 (units / 10 ^ asset.decimals)).length ≤ 20 := by
      apply (Nat.length_toDigits_le_iff (by decide) (by decide)).mpr
      have := Nat.div_le_self units (10 ^ asset.decimals)
      omega
    have decimals : asset.decimals ≤ 8 := by cases asset <;> decide
    have point : byteLength ['.'] = 1 := by decide
    have wholeBytes := byteLength_digits wholeDigits
    have fractionBytes := byteLength_digits
      (padded_digits : ∀ c ∈ padded asset.decimals (units % 10 ^ asset.decimals), _)
    obtain joined | ⟨joined, -⟩ := eq_of_parts split
    · rw [joined, byteLength_append, ← List.singleton_append, byteLength_append, point]
      omega
    · rw [joined]
      omega
  · rw [split]
    exact Nat.toDigits_ne_nil
  · rw [split]
    exact wholeDigits
  · rw [split]
    exact padded_digits
  · rw [split]
    exact Nat.le_of_eq fraction
  · rw [decimalValue_decimalAmount]
    positivity

theorem decimalAmount_due (positive : 0 < units) (small : units < 2 ^ 64) (asset : CriterionAsset)
    (rates : List ConversionRate) :
    paymentUnits (asset.decimalAmount units) asset asset rates = .ok units := by
  have shape := decimalAmount_numeral positive small asset
  have exact : exactPayment (decimalValue (asset.decimalAmount units)) 1 asset = units := by
    rw [exactPayment, decimalValue_decimalAmount]
    field_simp
  have fits : decimalValue (asset.decimalAmount units) * 10 ^ asset.decimals < 2 ^ 256 := by
    rw [decimalValue_decimalAmount, div_mul_cancel₀ _ (by positivity)]
    exact_mod_cast Nat.lt_trans small (by decide)
  obtain ⟨base, read, -⟩ := shape.reads (decimals_fit asset) fits
  have same : RateOf asset asset rates 1 := .inl ⟨rfl, rfl⟩
  have due : exactPayment (decimalValue (asset.decimalAmount units)) 1 asset ≤ 2 ^ 64 - 1 := by
    have below : (units + 1 : ℚ) ≤ 2 ^ 64 := by exact_mod_cast small
    rw [exact]
    linarith
  obtain ⟨units', computed⟩ := payment_succeeds same (by norm_num) read due
  obtain ⟨rate, -, published, -, least, -⟩ := paymentUnits_ok.mp computed
  obtain ⟨-, rfl⟩ | ⟨other, -⟩ := published
  · rw [exact] at least
    have cover : IsLeast {n : Nat | (units : ℚ) ≤ n} units :=
      ⟨le_refl (units : ℚ), fun n covered => by exact_mod_cast covered⟩
    rw [computed, least.unique cover]
  · exact absurd rfl other

theorem criterionAmount_due {text : String} (parsed : CriterionAmount.parse text = .ok units)
    (asset : CriterionAsset) (rates : List ConversionRate) :
    paymentUnits (asset.decimalAmount units) asset asset rates = .ok units := by
  obtain ⟨_, digits, _, small, _, positive, parsed⟩ := bind₃_eq_ok.mp parsed
  cases parsed
  exact decimalAmount_due (Nat.pos_of_ne_zero (ensure_eq_ok.mp positive)) (ensure_eq_ok.mp small)
    asset rates

/-- What is printed is read back: every rate that is not zero, over all words, and every
amount of a criterion, as the payment due in its own asset. -/
theorem printed_values_read_back (word : U256) (units : Nat) (asset : CriterionAsset)
    (rates : List ConversionRate) :
    (word ≠ 0 → decimalUnits (formatRate word) 18 = .ok word) ∧
    (units ≠ 0 → units < 2 ^ 64 →
      paymentUnits (asset.decimalAmount units) asset asset rates = .ok units) := by
  refine ⟨fun positive => ?_, fun positive small =>
    decimalAmount_due (Nat.pos_of_ne_zero positive) small asset rates⟩
  have value : decimalValue (formatRate word) * 10 ^ 18 = word.toNat := by
    rw [decimalValue_formatRate, div_mul_cancel₀ _ (by positivity)]
  apply (decimalUnits_exact (by decide)).mpr
  refine ⟨formatRate_numeral word positive, ?_, value.symm⟩
  rw [value]
  exact_mod_cast word.isLt

end Amounts

section Records

variable {sdk : Sdk} {terms : PaymentTermsV1} {intent : DeliveryIntentV1}
  {record : InvoicePaymentRecordV1}

/-- Every destination of a record asks for what its asset's price is. -/
def RecordPriced (sdk : Sdk) (terms : PaymentTermsV1) (record : InvoicePaymentRecordV1) : Prop :=
  (∀ destination, record.bitcoin = some destination →
    sdk.paymentUnits terms.amount terms.asset .btc terms.rates =
      some destination.requiredAmount) ∧
  (∀ destination, record.usdt = some destination →
    sdk.paymentUnits terms.amount terms.asset .usdt terms.rates =
      some destination.requiredAmount)

theorem recordEndpoint_priced {record' : InvoicePaymentRecordV1} {endpoint : PaymentEndpoint}
    (priced : RecordPriced sdk terms record)
    (done : recordEndpoint sdk terms record endpoint = .ok record') :
    RecordPriced sdk terms record' := by
  obtain ⟨_, _, units, price, done⟩ := bind₂_eq_ok.mp done
  rw [demand_eq_ok] at price
  cases endpoint with
  | mk asset address =>
    cases asset with
    | btc =>
      obtain ⟨_, _, done⟩ := bind_eq_ok.mp done
      cases done
      refine ⟨fun destination recorded => ?_, priced.2⟩
      cases recorded
      exact price
    | usdt =>
      obtain ⟨_, _, done⟩ := bind_eq_ok.mp done
      cases done
      refine ⟨priced.1, fun destination recorded => ?_⟩
      cases recorded
      exact price

theorem fromIntent_priced {index : Int} (read : intent.terms = .ok terms)
    (done : fromIntent sdk index intent = .ok record) : RecordPriced sdk terms record := by
  obtain ⟨_, again, done⟩ := bind_eq_ok.mp done
  rw [orFail_eq_ok, read] at again
  cases again
  apply foldlM_invariant (fun _ _ _ priced step => recordEndpoint_priced priced step) _ done
  constructor <;> intro destination recorded <;> cases recorded

theorem pricedSdk_covers {requested payment : CriterionAsset} {units due : Nat}
    {rates : List Application.ConversionRate}
    (price : (pricedSdk sdk).paymentUnits units requested payment rates = some due) :
    ∃ rate, RateOf requested payment (rates.map ConversionRate.ofTerms) rate ∧
      IsLeast {n : Nat | exactPayment (units / 10 ^ requested.decimals) rate payment ≤ n} due := by
  obtain ⟨rate, -, published, -, least, -⟩ := paymentUnits_ok.mp (eq_ok_of_toOption price)
  rw [decimalValue_decimalAmount] at least
  exact ⟨rate, published, least⟩

theorem recorded_payment_covers {index : Int} (read : intent.terms = .ok terms)
    (done : fromIntent (pricedSdk sdk) index intent = .ok record) :
    (∀ destination, record.bitcoin = some destination →
      ∃ rate, RateOf terms.asset .btc (terms.rates.map ConversionRate.ofTerms) rate ∧
        IsLeast {n : Nat | exactPayment (terms.amount / 10 ^ terms.asset.decimals) rate .btc ≤ n}
          destination.requiredAmount) ∧
    (∀ destination, record.usdt = some destination →
      ∃ rate, RateOf terms.asset .usdt (terms.rates.map ConversionRate.ofTerms) rate ∧
        IsLeast {n : Nat | exactPayment (terms.amount / 10 ^ terms.asset.decimals) rate .usdt ≤ n}
          destination.requiredAmount) := by
  have priced := fromIntent_priced read done
  constructor
  · intro destination recorded
    exact pricedSdk_covers (priced.1 destination recorded)
  · intro destination recorded
    exact pricedSdk_covers (priced.2 destination recorded)

end Records

end PaykitServer.Pricing
