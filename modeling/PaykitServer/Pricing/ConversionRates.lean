import PaykitServer.Pricing.PaymentUnits
import Mathlib.Data.Rat.Floor

/-!
# Published rates lose nothing

A rate is computed in units of its eighteenth decimal, written as a decimal text and read
back by whoever computes a payment. The text spells the computed units exactly, so the
direct rate is the price of the feed and the reciprocal rate its reciprocal, rounded once.
-/

namespace PaykitServer.Pricing

open Application hiding ConversionRate
open InvoicePricing Numeric Relational

section Format

variable (word : U256)

def rateFraction : List Char := trimZeros (padded 18 (word % rateScale).toNat)

theorem parts_formatRate :
    parts (formatRate word).toList =
      (Nat.toDigits 10 (word.toNat / 10 ^ 18), rateFraction word) := by
  have digits : ∀ c ∈ Nat.toDigits 10 (word / rateScale).toNat, c.isDigit = true :=
    fun c there => Nat.isDigit_of_mem_toDigits (by decide) (by decide) there
  have scale : rateScale.toNat = 10 ^ 18 := by decide
  rw [formatRate, String.toList_ofList, parts_numeral (point_notMem digits), BitVec.toNat_udiv,
    scale, rateFraction]

theorem rateFraction_spelled :
    (rateFraction word).length ≤ 18 ∧
      word.toNat % 10 ^ 18 =
        spelled (rateFraction word) * 10 ^ (18 - (rateFraction word).length) := by
  have scale : rateScale.toNat = 10 ^ 18 := by decide
  have below : word.toNat % 10 ^ 18 < 10 ^ 18 := Nat.mod_lt _ (by decide)
  obtain ⟨short, exact⟩ := trimZeros_spelled (padded 18 (word % rateScale).toNat)
  rw [spelled_padded, BitVec.toNat_umod, scale, length_padded (by decide) below] at exact
  rw [BitVec.toNat_umod, scale, length_padded (by decide) below] at short
  unfold rateFraction
  rw [BitVec.toNat_umod, scale]
  exact ⟨short, exact⟩

theorem rateFraction_digits : ∀ c ∈ rateFraction word, c.isDigit = true :=
  trimZeros_digits padded_digits

theorem byteLength_formatRate : byteLength (formatRate word).toList ≤ 80 := by
  have small : word.toNat / 10 ^ 18 < 10 ^ 60 := by
    have := word.isLt
    omega
  have whole : (Nat.toDigits 10 (word.toNat / 10 ^ 18)).length ≤ 60 :=
    (Nat.length_toDigits_le_iff (by decide) (by decide)).mpr small
  have wholeBytes := byteLength_digits fun c there =>
    Nat.isDigit_of_mem_toDigits (b := 10) (n := word.toNat / 10 ^ 18) (by decide) (by decide) there
  have fractionBytes := byteLength_digits (rateFraction_digits word)
  have fraction := (rateFraction_spelled word).1
  obtain joined | ⟨joined, -⟩ := eq_of_parts (parts_formatRate word)
  · have point : byteLength ['.'] = 1 := by decide
    rw [joined, byteLength_append, ← List.singleton_append, byteLength_append, point]
    omega
  · rw [joined]
    omega

theorem decimalValue_formatRate : decimalValue (formatRate word) = word.toNat / 10 ^ 18 := by
  obtain ⟨short, exact⟩ := rateFraction_spelled word
  have split : (word.toNat : ℚ) =
      (word.toNat / 10 ^ 18 : Nat) * 10 ^ 18 + (word.toNat % 10 ^ 18 : Nat) := by
    exact_mod_cast (Nat.div_add_mod' word.toNat (10 ^ 18)).symm
  have powers : (10 : ℚ) ^ 18 =
      10 ^ (18 - (rateFraction word).length) * 10 ^ (rateFraction word).length := by
    rw [← pow_add, Nat.sub_add_cancel short]
  rw [decimalValue, value, parts_formatRate, split, exact]
  simp only [spelled_toDigits]
  push_cast
  rw [powers]
  field_simp

theorem formatRate_numeral (positive : word ≠ 0) : Numeral (formatRate word) 18 where
  short := byteLength_formatRate word
  whole := by
    rw [parts_formatRate]
    exact Nat.toDigits_ne_nil
  wholeDigits := by
    rw [parts_formatRate]
    exact fun c there => Nat.isDigit_of_mem_toDigits (by decide) (by decide) there
  fractionDigits := by
    rw [parts_formatRate]
    exact rateFraction_digits word
  fraction := by
    rw [parts_formatRate]
    exact (rateFraction_spelled word).1
  positive := by
    have : 0 < word.toNat := by
      apply Nat.pos_of_ne_zero
      intro none
      exact positive (BitVec.eq_of_toNat_eq none)
    rw [decimalValue_formatRate]
    positivity

end Format

section Quotes

variable {price text : String} {requested payment : CriterionAsset}

theorem reciprocal_rounds {word : U256} (read : decimalUnits price 18 = .ok word) :
    RoundsHalfEven (10 ^ 18 / decimalValue price) (reciprocal word).toNat := by
  obtain ⟨shape, -, exact⟩ := (decimalUnits_exact (by decide)).mp read
  have square : (rateScale * rateScale).toNat = 10 ^ 36 := by decide
  have positive : 0 < word.toNat := by
    have price := shape.positive
    have : (0 : ℚ) < word.toNat := by
      rw [exact]
      positivity
    exact_mod_cast this
  have quotient : ((rateScale * rateScale).toNat : ℚ) / word.toNat =
      10 ^ 18 / decimalValue price := by
    have price := shape.positive
    rw [exact, square]
    push_cast
    field_simp
    norm_num
  rw [← quotient]
  exact halfEvenDiv_rounds (by decide) positive (by rw [square]; decide)

theorem quoteRate_crossing (crosses : (requested = .btc) ≠ (payment = .btc)) :
    quoteRate requested payment (some price) = .ok text ↔
      ∃ word, decimalUnits price 18 = .ok word ∧
        (if requested = .btc then word else reciprocal word) ≠ 0 ∧
        text = formatRate (if requested = .btc then word else reciprocal word) := by
  rw [quoteRate, if_pos crosses]
  constructor
  · intro quoted
    obtain ⟨_, given, quoted⟩ := bind_eq_ok.mp quoted
    cases given
    obtain ⟨word, read, _, positive, quoted⟩ := bind₂_eq_ok.mp quoted
    cases quoted
    exact ⟨word, read, ensure_eq_ok.mp positive, rfl⟩
  · intro ⟨word, read, positive, published⟩
    rw [published]
    exact bind_eq_ok.mpr ⟨price, rfl, bind_eq_ok.mpr ⟨word, read,
      bind_eq_ok.mpr ⟨(), ensure_eq_ok.mpr positive, rfl⟩⟩⟩

theorem quoteRate_direct (quoted : quoteRate .btc .usdt (some price) = .ok text) :
    Numeral text 18 ∧ decimalValue text = decimalValue price := by
  obtain ⟨word, read, positive, published⟩ := (quoteRate_crossing (by simp)).mp quoted
  obtain ⟨-, -, exact⟩ := (decimalUnits_exact (by decide)).mp read
  rw [if_pos rfl] at positive published
  rw [published, decimalValue_formatRate, exact]
  exact ⟨formatRate_numeral word positive, by field_simp⟩

theorem quoteRate_reciprocal (dollars : requested ≠ .btc)
    (quoted : quoteRate requested .btc (some price) = .ok text) :
    Numeral text 18 ∧ ∃ m : Nat, RoundsHalfEven (10 ^ 18 / decimalValue price) m ∧
      decimalValue text = m / 10 ^ 18 := by
  obtain ⟨word, read, positive, published⟩ := (quoteRate_crossing (by simp [dollars])).mp quoted
  rw [if_neg dollars] at positive published
  rw [published]
  exact ⟨formatRate_numeral _ positive, _, reciprocal_rounds read, decimalValue_formatRate _⟩

theorem quoteRate_par (quoted : quoteRate .usd .usdt (some price) = .ok text) :
    Numeral text 18 ∧ decimalValue text = 1 := by
  cases quoted
  have par : "1" = formatRate rateScale := by decide +kernel
  have scale : rateScale.toNat = 10 ^ 18 := by decide
  rw [par, decimalValue_formatRate, scale]
  exact ⟨formatRate_numeral _ (by decide), by norm_num⟩

variable {usdPerBtc : Option String} {rates : List ConversionRate}

theorem quoteRail_ok {before after : List ConversionRate}
    {rail : CriterionAsset × Bool} (quoted : quoteRail requested usdPerBtc before rail = .ok after) :
    ((rail.2 = false ∨ rail.1 = requested) ∧ after = before) ∨
      (rail.2 = true ∧ rail.1 ≠ requested ∧ ∃ text,
        quoteRate requested rail.1 usdPerBtc = .ok text ∧
          after = before ++ [⟨rail.1.publishedName, text⟩]) := by
  unfold quoteRail at quoted
  split at quoted
  case isTrue skipped =>
    cases quoted
    exact .inl ⟨skipped, rfl⟩
  case isFalse taken =>
    obtain ⟨text, rate, quoted⟩ := bind_eq_ok.mp quoted
    cases quoted
    rw [not_or, Bool.not_eq_false] at taken
    exact .inr ⟨taken.1, taken.2, text, rate, rfl⟩

def Enabled (bitcoin usdt : Bool) (payment : CriterionAsset) : Prop :=
  (payment = .btc ∧ bitcoin = true) ∨ (payment = .usdt ∧ usdt = true)

theorem conversionRates_find {bitcoin usdt : Bool}
    (quoted : conversionRates requested bitcoin usdt usdPerBtc = .ok rates)
    (enabled : Enabled bitcoin usdt payment) (other : requested ≠ payment) :
    ∃ text, quoteRate requested payment usdPerBtc = .ok text ∧
      rates.find? (fun rate => rate.asset == payment.publishedName) =
        some ⟨payment.publishedName, text⟩ := by
  have apart : (CriterionAsset.publishedName .btc == CriterionAsset.publishedName .usdt) = false := by
    decide +kernel
  obtain ⟨first, bitcoinRail, second, usdtRail, quoted⟩ := bind₂_eq_ok.mp quoted
  cases quoted
  obtain ⟨rfl, on⟩ | ⟨rfl, on⟩ := enabled
  · obtain ⟨off | same, -⟩ | ⟨-, -, text, rate, rfl⟩ := quoteRail_ok bitcoinRail
    · simp [on] at off
    · exact absurd same.symm other
    · refine ⟨text, rate, ?_⟩
      obtain ⟨-, rfl⟩ | ⟨-, -, _, -, rfl⟩ := quoteRail_ok usdtRail
      · simp
      · simp
  · obtain ⟨off | same, -⟩ | ⟨-, -, text, rate, rfl⟩ := quoteRail_ok usdtRail
    · simp [on] at off
    · exact absurd same.symm other
    · refine ⟨text, rate, ?_⟩
      obtain ⟨-, rfl⟩ | ⟨-, -, _, -, rfl⟩ := quoteRail_ok bitcoinRail
      · simp
      · simp [apart]

theorem quoteRate_formats (quoted : quoteRate requested payment usdPerBtc = .ok text) :
    ∃ word : U256, word ≠ 0 ∧ text = formatRate word := by
  by_cases crosses : (requested = .btc) ≠ (payment = .btc)
  · cases usdPerBtc with
    | none =>
      rw [quoteRate, if_pos crosses] at quoted
      cases quoted
    | some price =>
      obtain ⟨word, -, positive, published⟩ := (quoteRate_crossing crosses).mp quoted
      exact ⟨_, positive, published⟩
  · rw [quoteRate, if_neg crosses] at quoted
    cases quoted
    exact ⟨rateScale, by decide, by decide +kernel⟩

theorem conversionRates_rate {bitcoin usdt : Bool}
    (quoted : conversionRates requested bitcoin usdt usdPerBtc = .ok rates)
    (enabled : Enabled bitcoin usdt payment) :
    ∃ rate, RateOf requested payment rates rate ∧ rate * 10 ^ 18 < 2 ^ 256 := by
  by_cases same : requested = payment
  · exact ⟨1, .inl ⟨same, rfl⟩, by norm_num⟩
  · obtain ⟨text, quote, found⟩ := conversionRates_find quoted enabled same
    obtain ⟨word, positive, rfl⟩ := quoteRate_formats quote
    refine ⟨_, .inr ⟨same, _, found, formatRate_numeral word positive, rfl⟩, ?_⟩
    rw [decimalValue_formatRate, div_mul_cancel₀ _ (by positivity)]
    exact_mod_cast word.isLt

/-- A payment whose exact amount fits is computed: the products on the way fit with it. -/
theorem payment_succeeds {amount : String} {base : U256} {rate : ℚ}
    (published : RateOf requested payment rates rate) (rateFits : rate * 10 ^ 18 < 2 ^ 256)
    (read : decimalUnits amount requested.decimals = .ok base)
    (fits : exactPayment (decimalValue amount) rate payment ≤ 2 ^ 64 - 1) :
    ∃ units, paymentUnits amount requested payment rates = .ok units := by
  obtain ⟨shape, amountFits, -⟩ := (decimalUnits_exact (decimals_fit requested)).mp read
  have amountPos := shape.positive
  have ratePos := published.pos
  have scaled : decimalValue amount * 10 ^ requested.decimals * (rate * 10 ^ 18) *
      10 ^ payment.decimals =
        exactPayment (decimalValue amount) rate payment * (10 ^ 18 * 10 ^ requested.decimals) := by
    unfold exactPayment
    ring
  have divisor : (10 : ℚ) ^ 18 * 10 ^ requested.decimals ≤ 10 ^ 26 := by
    cases requested <;> norm_num [CriterionAsset.decimals]
  have numeratorFits : decimalValue amount * 10 ^ requested.decimals * (rate * 10 ^ 18) *
      10 ^ payment.decimals < 2 ^ 256 := by
    rw [scaled]
    calc exactPayment (decimalValue amount) rate payment * (10 ^ 18 * 10 ^ requested.decimals)
        ≤ (2 ^ 64 - 1) * 10 ^ 26 := by gcongr
      _ < 2 ^ 256 := by norm_num
  have productFits : decimalValue amount * 10 ^ requested.decimals * (rate * 10 ^ 18) < 2 ^ 256 := by
    refine lt_of_le_of_lt (le_mul_of_one_le_right (by positivity) ?_) numeratorFits
    exact one_le_pow₀ (by norm_num)
  refine ⟨⌈exactPayment (decimalValue amount) rate payment⌉₊, paymentUnits_ok.mpr
    ⟨rate, shape, published, ⟨amountFits, rateFits, productFits, numeratorFits⟩, ⟨?_, ?_⟩, ?_⟩⟩
  · show exactPayment (decimalValue amount) rate payment ≤ _
    exact Nat.le_ceil _
  · intro n covered
    exact Nat.ceil_le.mpr covered
  · have below : ⌈exactPayment (decimalValue amount) rate payment⌉₊ ≤ 2 ^ 64 - 1 := by
      apply Nat.ceil_le.mpr
      exact_mod_cast fits
    omega

end Quotes

section Feed

variable {price : String} {tickers : List Ticker} {now : Int}

theorem priceBytes_eq (shape : Numeral price 18) :
    priceBytes price = (parts price.toList).1.length + (parts price.toList).2.length := by
  have kept {digits : List Char} (all : ∀ c ∈ digits, c.isDigit = true) :
      digits.filter (· ≠ '.') = digits := by
    apply List.filter_eq_self.mpr
    intro c there
    apply decide_eq_true
    intro point
    exact point_notMem all (point ▸ there)
  have whole := byteLength_digits shape.wholeDigits
  have fraction := byteLength_digits shape.fractionDigits
  rw [priceBytes]
  obtain joined | ⟨joined, none⟩ := eq_of_parts (Prod.eta (parts price.toList)).symm
  · conv_lhs => rw [joined]
    rw [List.filter_append, kept shape.wholeDigits, List.filter_cons_of_neg (by simp),
      kept shape.fractionDigits, byteLength_append, whole, fraction]
  · conv_lhs => rw [joined]
    rw [kept shape.wholeDigits, whole, none]
    rfl

/-- A price of at most eighteen digits is below `10 ^ 18`. -/
theorem scaled_price_lt (shape : Numeral price 18) (short : priceBytes price ≤ 18) :
    scaled price.toList 18 < 10 ^ 36 := by
  rw [priceBytes_eq shape] at short
  have whole := spelled_lt shape.wholeDigits
  have fraction := spelled_lt shape.fractionDigits
  have length := shape.fraction
  have wholeBound : 10 ^ (parts price.toList).1.length ≤ 10 ^ 18 :=
    Nat.pow_le_pow_right (by decide) (by omega)
  have fractionBound : spelled (parts price.toList).2 * 10 ^ (18 - (parts price.toList).2.length) <
      10 ^ 18 := by
    calc spelled (parts price.toList).2 * 10 ^ (18 - (parts price.toList).2.length)
        < 10 ^ (parts price.toList).2.length * 10 ^ (18 - (parts price.toList).2.length) :=
          Nat.mul_lt_mul_of_pos_right fraction (Nat.pow_pos (by decide))
      _ = 10 ^ 18 := by rw [← Nat.pow_add, Nat.add_sub_cancel' length]
  unfold scaled
  omega

/-- The price of a feed is read, and is below `10 ^ 18` dollars. -/
theorem usdPerBtc_price (fed : usdPerBtc tickers now = .ok price) :
    ∃ word, decimalUnits price 18 = .ok word ∧ word.toNat < 10 ^ 36 := by
  unfold usdPerBtc at fed
  split at fed
  case h_1 => cases fed
  case h_2 =>
    obtain ⟨_, checked, fed⟩ := bind_eq_ok.mp fed
    cases fed
    obtain ⟨-, -, -, short, readable⟩ := ensure_eq_ok.mp checked
    obtain ⟨word, read⟩ := exists_ok (Option.isSome_iff_ne_none.mpr readable)
    obtain ⟨shape, -, exact⟩ := (decimalUnits_ok (by decide)).mp read
    exact ⟨word, read, exact ▸ scaled_price_lt shape short⟩

theorem reciprocal_ne_zero {word : U256} (positive : 0 < word.toNat)
    (small : word.toNat < 10 ^ 36) : reciprocal word ≠ 0 := by
  have square : (rateScale * rateScale).toNat = 10 ^ 36 := by decide
  have once : 1 ≤ 10 ^ 36 / word.toNat := (Nat.one_le_div_iff positive).mpr (Nat.le_of_lt small)
  intro none
  have rounded := toNat_halfEvenDiv (a := rateScale * rateScale) (b := word) (by decide) positive
    (by rw [square]; decide)
  have zero : (halfEvenDiv (rateScale * rateScale) word).toNat = 0 := congrArg BitVec.toNat none
  rw [zero, square] at rounded
  have := Nat.le.intro rounded.symm
  omega

theorem quoteRate_succeeds {word : U256} (read : decimalUnits price 18 = .ok word)
    (small : word.toNat < 10 ^ 36) (requested payment : CriterionAsset) :
    ∃ text, quoteRate requested payment (some price) = .ok text := by
  by_cases crosses : (requested = .btc) ≠ (payment = .btc)
  · have positive : 0 < word.toNat := by
      obtain ⟨shape, -, exact⟩ := (decimalUnits_ok (by decide)).mp read
      rw [exact]
      exact (scaled_pos shape.fraction).mpr shape.positive
    refine ⟨_, (quoteRate_crossing crosses).mpr ⟨word, read, ?_, rfl⟩⟩
    split
    · intro none
      simp [none] at positive
    · exact reciprocal_ne_zero positive small
  · exact ⟨"1", if_neg crosses⟩

theorem quoteRail_succeeds {word : U256} (read : decimalUnits price 18 = .ok word)
    (small : word.toNat < 10 ^ 36) (requested : CriterionAsset) (before : List ConversionRate)
    (rail : CriterionAsset × Bool) :
    ∃ after, quoteRail requested (some price) before rail = .ok after := by
  unfold quoteRail
  split
  · exact ⟨before, rfl⟩
  · obtain ⟨text, quoted⟩ := quoteRate_succeeds read small requested rail.1
    exact ⟨_, bind_eq_ok.mpr ⟨text, quoted, rfl⟩⟩

theorem conversionRates_succeeds (fed : usdPerBtc tickers now = .ok price)
    (requested : CriterionAsset) (bitcoin usdt : Bool) :
    ∃ rates, conversionRates requested bitcoin usdt (some price) = .ok rates := by
  obtain ⟨word, read, small⟩ := usdPerBtc_price fed
  obtain ⟨first, bitcoinRail⟩ := quoteRail_succeeds read small requested [] (.btc, bitcoin)
  obtain ⟨second, usdtRail⟩ := quoteRail_succeeds read small requested first (.usdt, usdt)
  exact ⟨second, bind_eq_ok.mpr ⟨first, bitcoinRail, bind_eq_ok.mpr ⟨second, usdtRail, rfl⟩⟩⟩

end Feed

/-- Every price of the feed gives rates. Rates that were given can be used for every amount
the code reads whose payment fits; a dollar request is paid in Bitcoin at the reciprocal of
the price, rounded half to even at the eighteenth decimal and not zero, a Bitcoin request
in dollars at the price itself, and a dollar request in dollars at par. -/
theorem published_rates_are_usable (price : String) (requested : CriterionAsset)
    (bitcoin usdt : Bool) :
    (∀ tickers now, usdPerBtc tickers now = .ok price →
      ∃ rates, conversionRates requested bitcoin usdt (some price) = .ok rates) ∧
    ∀ rates, conversionRates requested bitcoin usdt (some price) = .ok rates →
      (∀ payment, Enabled bitcoin usdt payment → ∃ rate, RateOf requested payment rates rate ∧
        ∀ amount base, decimalUnits amount requested.decimals = .ok base →
          exactPayment (decimalValue amount) rate payment ≤ 2 ^ 64 - 1 →
          ∃ units, paymentUnits amount requested payment rates = .ok units) ∧
      (requested ≠ .btc → bitcoin = true → ∃ (rate : ℚ) (m : Nat),
        RateOf requested .btc rates rate ∧ RoundsHalfEven (10 ^ 18 * (1 / decimalValue price)) m ∧
          rate = m / 10 ^ 18 ∧ rate ≠ 0) ∧
      (requested = .btc → usdt = true →
        RateOf requested .usdt rates (decimalValue price)) ∧
      (requested = .usd → usdt = true → RateOf requested .usdt rates 1) := by
  refine ⟨fun tickers now fed => conversionRates_succeeds fed requested bitcoin usdt, ?_⟩
  intro rates quoted
  refine ⟨?_, ?_, ?_, ?_⟩
  · intro payment enabled
    obtain ⟨rate, published, rateFits⟩ := conversionRates_rate quoted enabled
    refine ⟨rate, published, ?_⟩
    intro amount base read fits
    exact payment_succeeds published rateFits read fits
  · intro dollars on
    obtain ⟨text, quote, found⟩ := conversionRates_find quoted (.inl ⟨rfl, on⟩) dollars
    obtain ⟨shape, m, rounds, value⟩ := quoteRate_reciprocal dollars quote
    have published : RateOf requested .btc rates (decimalValue text) :=
      .inr ⟨dollars, _, found, shape, rfl⟩
    rw [mul_one_div]
    exact ⟨_, m, published, rounds, value, ne_of_gt published.pos⟩
  · rintro rfl on
    obtain ⟨text, quote, found⟩ := conversionRates_find quoted (.inr ⟨rfl, on⟩) (by simp)
    obtain ⟨shape, value⟩ := quoteRate_direct quote
    exact .inr ⟨by simp, _, found, shape, value.symm⟩
  · rintro rfl on
    obtain ⟨text, quote, found⟩ := conversionRates_find quoted (.inr ⟨rfl, on⟩) (by simp)
    obtain ⟨shape, value⟩ := quoteRate_par quote
    exact .inr ⟨by simp, _, found, shape, value.symm⟩

example : conversionRates .usd true true (some "81000") =
    .ok [⟨"btc", "0.000012345679012346"⟩, ⟨"usdt", "1"⟩] := by
  decide +kernel

example : paymentUnits "5.00" .usd .btc [⟨"btc", "0.000012345679012346"⟩] = .ok 6173 := by
  decide +kernel

end PaykitServer.Pricing
