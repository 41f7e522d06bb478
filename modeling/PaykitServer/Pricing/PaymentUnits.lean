import PaykitServer.Application.InvoicePricing
import Mathlib.Data.Rat.Cast.CharZero
import Mathlib.Data.Rat.Cast.Order

/-!
# The payment due is the exact amount, rounded up

What the pricing code computes in 256-bit words is read as exact arithmetic: a text spells
a rational number, the amount times the rate is a rational number of base units, and the
payment due is the least whole number of them that covers it. The code fails whenever one
of its products leaves the word or the payment leaves a `u64`.
-/

namespace PaykitServer.Pricing

open Application hiding ConversionRate
open InvoicePricing Numeric Relational

def decimalValue (text : String) : ℚ := value text.toList

/-- A decimal text as the pricing code reads it. -/
structure Numeral (text : String) (decimals : Nat) : Prop where
  short : byteLength text.toList ≤ 80
  whole : (parts text.toList).1 ≠ []
  wholeDigits : ∀ c ∈ (parts text.toList).1, c.isDigit = true
  fractionDigits : ∀ c ∈ (parts text.toList).2, c.isDigit = true
  fraction : (parts text.toList).2.length ≤ decimals
  positive : 0 < decimalValue text

section Units

variable {text : String} {decimals : Nat} {units : U256}

theorem toNat_pow10 (fits : 10 ^ decimals < 2 ^ 256) : (pow10 decimals).toNat = 10 ^ decimals :=
  Nat.mod_eq_of_lt fits

theorem fractionUnits_ok {fraction : List Char} (digits : ∀ c ∈ fraction, c.isDigit = true)
    (short : fraction.length ≤ decimals) (fits : 10 ^ decimals < 2 ^ 256) :
    ∃ word, fractionUnits fraction decimals = .ok word ∧
      word.toNat = spelled fraction * 10 ^ (decimals - fraction.length) := by
  unfold fractionUnits
  split
  case isTrue none => exact ⟨0, rfl, by simp [none, spelled]⟩
  case isFalse =>
    have powers : 10 ^ decimals = 10 ^ fraction.length * 10 ^ (decimals - fraction.length) := by
      rw [← Nat.pow_add, Nat.add_sub_cancel' short]
    have below : spelled fraction * 10 ^ (decimals - fraction.length) < 10 ^ decimals := by
      rw [powers]
      exact Nat.mul_lt_mul_of_pos_right (spelled_lt digits) (Nat.pow_pos (by decide))
    have small : 10 ^ (decimals - fraction.length) ≤ 10 ^ decimals :=
      Nat.pow_le_pow_right (by decide) (Nat.sub_le _ _)
    have read : spelled fraction < 2 ^ 256 :=
      Nat.lt_of_lt_of_le (spelled_lt digits)
        (Nat.le_trans (Nat.pow_le_pow_right (by decide) short) (Nat.le_of_lt fits))
    have word : (BitVec.ofNat 256 (spelled fraction)).toNat = spelled fraction :=
      Nat.mod_eq_of_lt read
    have power : (pow10 (decimals - fraction.length)).toNat =
        10 ^ (decimals - fraction.length) := toNat_pow10 (Nat.lt_of_le_of_lt small fits)
    refine ⟨_, bind_eq_ok.mpr ⟨_, demand_eq_ok.mpr (fromDigits_eq_some.mpr ⟨read, word⟩), rfl⟩, ?_⟩
    rw [BitVec.toNat_mul_of_lt, word, power]
    rw [word, power]
    exact Nat.lt_trans below fits

theorem scaled_pos (short : (parts text.toList).2.length ≤ decimals) :
    0 < scaled text.toList decimals ↔ 0 < decimalValue text := by
  rw [← Nat.cast_pos (α := ℚ), scaled_cast short, decimalValue]
  exact mul_pos_iff_of_pos_right (by positivity)

theorem joined_eq_some {whole fraction : U256} (fits : 10 ^ decimals < 2 ^ 256) :
    (do checkedAdd (← checkedMul whole (pow10 decimals)) fraction) = some units ↔
      whole.toNat * 10 ^ decimals + fraction.toNat < 2 ^ 256 ∧
        units.toNat = whole.toNat * 10 ^ decimals + fraction.toNat := by
  have power := toNat_pow10 fits
  constructor
  · intro joined
    obtain ⟨product, multiplied, added⟩ := Option.bind_eq_some_iff.mp joined
    obtain ⟨-, product⟩ := checkedMul_eq_some.mp multiplied
    rw [checkedAdd_eq_some, product, power] at added
    exact added
  · intro ⟨small, joined⟩
    have product : (whole * pow10 decimals).toNat = whole.toNat * 10 ^ decimals := by
      rw [BitVec.toNat_mul_of_lt, power]
      rw [power]
      omega
    apply Option.bind_eq_some_iff.mpr
    refine ⟨whole * pow10 decimals, checkedMul_eq_some.mpr ⟨?_, ?_⟩,
      checkedAdd_eq_some.mpr ⟨?_, ?_⟩⟩
    · rw [power]
      omega
    · rw [product, power]
    · rwa [product]
    · rwa [product]

theorem decimalUnits_ok (fits : 10 ^ decimals < 2 ^ 256) :
    decimalUnits text decimals = .ok units ↔
      Numeral text decimals ∧ scaled text.toList decimals < 2 ^ 256 ∧
        units.toNat = scaled text.toList decimals := by
  constructor
  · intro read
    obtain ⟨_, shape, read⟩ := bind_eq_ok.mp read
    obtain ⟨short, whole, wholeDigits, fractionDigits, fraction⟩ := ensure_eq_ok.mp shape
    obtain ⟨front, fromWhole, back, fromFraction, joined, together, read⟩ := bind₃_eq_ok.mp read
    obtain ⟨_, positive, read⟩ := bind_eq_ok.mp read
    cases read
    rw [List.all_eq_true] at wholeDigits fractionDigits
    obtain ⟨word, sameWord, behind⟩ := fractionUnits_ok fractionDigits fraction fits
    rw [fromFraction] at sameWord
    cases sameWord
    rw [demand_eq_ok, joined_eq_some fits, (fromDigits_eq_some.mp (demand_eq_ok.mp fromWhole)).2,
      behind] at together
    refine ⟨⟨short, whole, wholeDigits, fractionDigits, fraction, ?_⟩, together⟩
    apply (scaled_pos fraction).mp
    apply Nat.pos_of_ne_zero
    intro none
    apply ensure_eq_ok.mp positive
    exact BitVec.eq_of_toNat_eq (together.2.trans none)
  · intro ⟨shape, small, exact⟩
    obtain ⟨back, fromFraction, behind⟩ := fractionUnits_ok shape.fractionDigits shape.fraction fits
    have one : 1 ≤ 10 ^ decimals := Nat.one_le_pow _ _ (by decide)
    have front : spelled (parts text.toList).1 < 2 ^ 256 := by
      apply Nat.lt_of_le_of_lt _ small
      exact Nat.le_trans (Nat.le_mul_of_pos_right _ one) (Nat.le_add_right _ _)
    have word : (BitVec.ofNat 256 (spelled (parts text.toList).1)).toNat =
        spelled (parts text.toList).1 := Nat.mod_eq_of_lt front
    have positive := (scaled_pos shape.fraction).mpr shape.positive
    refine bind_eq_ok.mpr ⟨(), ensure_eq_ok.mpr ⟨shape.short, shape.whole,
      List.all_eq_true.mpr shape.wholeDigits, List.all_eq_true.mpr shape.fractionDigits,
      shape.fraction⟩, ?_⟩
    refine bind_eq_ok.mpr ⟨_, demand_eq_ok.mpr (fromDigits_eq_some.mpr ⟨front, word⟩), ?_⟩
    refine bind_eq_ok.mpr ⟨back, fromFraction, ?_⟩
    refine bind_eq_ok.mpr ⟨units, demand_eq_ok.mpr ((joined_eq_some fits).mpr ?_), ?_⟩
    · rw [word, behind]
      exact ⟨small, exact⟩
    · refine bind_eq_ok.mpr ⟨(), ensure_eq_ok.mpr ?_, rfl⟩
      intro none
      rw [none] at exact
      simp at exact
      omega

theorem decimalUnits_exact (fits : 10 ^ decimals < 2 ^ 256) :
    decimalUnits text decimals = .ok units ↔
      Numeral text decimals ∧ decimalValue text * 10 ^ decimals < 2 ^ 256 ∧
        (units.toNat : ℚ) = decimalValue text * 10 ^ decimals := by
  rw [decimalUnits_ok fits]
  apply and_congr_right
  intro shape
  rw [decimalValue, ← scaled_cast shape.fraction]
  exact_mod_cast Iff.rfl

theorem Numeral.reads (shape : Numeral text decimals) (fits : 10 ^ decimals < 2 ^ 256)
    (small : decimalValue text * 10 ^ decimals < 2 ^ 256) :
    ∃ units, decimalUnits text decimals = .ok units ∧
      (units.toNat : ℚ) = decimalValue text * 10 ^ decimals := by
  have scaled := scaled_cast shape.fraction
  have bound : Numeric.scaled text.toList decimals < 2 ^ 256 := by
    rw [decimalValue, ← scaled] at small
    exact_mod_cast small
  have word : ((BitVec.ofNat 256 (Numeric.scaled text.toList decimals)).toNat : ℚ) =
      decimalValue text * 10 ^ decimals := by
    rw [BitVec.toNat_ofNat, Nat.mod_eq_of_lt bound]
    exact scaled
  exact ⟨_, (decimalUnits_exact fits).mpr ⟨shape, small, word⟩, word⟩

theorem decimalUnits_fails : FailsOnly .invalidRequest (decimalUnits text decimals) := by
  have fractions (fraction : List Char) :
      FailsOnly .invalidRequest (fractionUnits fraction decimals) := by
    unfold fractionUnits
    split
    · exact .ok 0
    · exact .bind (.demand _) fun digits => .ok _
  refine .bind (.ensure _) fun _ => .bind (.demand _) fun whole => ?_
  refine .bind (fractions _) fun fraction => .bind (.demand _) fun joined => ?_
  exact .bind (.ensure _) fun _ => .ok joined

end Units

theorem decimals_fit (asset : CriterionAsset) : 10 ^ asset.decimals < 2 ^ 256 := by
  cases asset <;> decide

/-- The rate of a payment: one in the requested asset, else the first published for it. -/
def RateOf (requested payment : CriterionAsset) (rates : List ConversionRate) (rate : ℚ) : Prop :=
  (requested = payment ∧ rate = 1) ∨
    (requested ≠ payment ∧ ∃ published,
      rates.find? (fun rate => rate.asset == payment.publishedName) = some published ∧
        Numeral published.value 18 ∧ rate = decimalValue published.value)

def exactPayment (amount rate : ℚ) (payment : CriterionAsset) : ℚ :=
  amount * rate * 10 ^ payment.decimals

/-- Every product on the way to a payment stays below `2 ^ 256`. -/
structure ProductsFit (amount rate : ℚ) (requested payment : CriterionAsset) : Prop where
  amountFits : amount * 10 ^ requested.decimals < 2 ^ 256
  rateFits : rate * 10 ^ 18 < 2 ^ 256
  productFits : amount * 10 ^ requested.decimals * (rate * 10 ^ 18) < 2 ^ 256
  numeratorFits : amount * 10 ^ requested.decimals * (rate * 10 ^ 18) * 10 ^ payment.decimals < 2 ^ 256

section Payment

variable {amount : String} {requested payment : CriterionAsset} {rates : List ConversionRate}

theorem multiplier_exact {word : U256} :
    multiplier requested payment rates = .ok word ↔
      ∃ rate, RateOf requested payment rates rate ∧ rate * 10 ^ 18 < 2 ^ 256 ∧
        (word.toNat : ℚ) = rate * 10 ^ 18 := by
  unfold multiplier RateOf
  by_cases same : requested = payment
  · have scale : rateScale.toNat = 10 ^ 18 := by decide
    simp only [same, if_true, true_and, ne_eq, not_true_eq_false, false_and, or_false,
      exists_eq_left, one_mul, Except.ok.injEq]
    constructor
    · intro word
      rw [← word, scale]
      norm_num
    · rintro ⟨-, word⟩
      apply BitVec.eq_of_toNat_eq
      rw [scale]
      exact_mod_cast word.symm
  · simp only [same, if_false, false_and, false_or, ne_eq, not_false_eq_true, true_and]
    constructor
    · intro read
      obtain ⟨published, found, read⟩ := bind_eq_ok.mp read
      obtain ⟨shape, small, exact⟩ := (decimalUnits_exact (by decide)).mp read
      exact ⟨_, ⟨published, demand_eq_ok.mp found, shape, rfl⟩, small, exact⟩
    · intro ⟨rate, ⟨published, found, shape, value⟩, small, exact⟩
      rw [value] at small exact
      exact bind_eq_ok.mpr ⟨published, demand_eq_ok.mpr found,
        (decimalUnits_exact (by decide)).mpr ⟨shape, small, exact⟩⟩

variable {rate : ℚ}

theorem RateOf.reads (published : RateOf requested payment rates rate)
    (small : rate * 10 ^ 18 < 2 ^ 256) :
    ∃ word, multiplier requested payment rates = .ok word ∧
      (word.toNat : ℚ) = rate * 10 ^ 18 := by
  have word : ∃ word : U256, (word.toNat : ℚ) = rate * 10 ^ 18 := by
    obtain ⟨-, one⟩ | ⟨-, text, -, shape, value⟩ := published
    · have scale : rateScale.toNat = 10 ^ 18 := by decide
      refine ⟨rateScale, ?_⟩
      rw [one, scale]
      norm_num
    · rw [value] at small
      obtain ⟨word, -, exact⟩ := shape.reads (by decide) small
      exact ⟨word, by rw [value, exact]⟩
  obtain ⟨word, exact⟩ := word
  exact ⟨word, multiplier_exact.mpr ⟨rate, published, small, exact⟩, exact⟩

theorem RateOf.pos (published : RateOf requested payment rates rate) : 0 < rate := by
  obtain ⟨-, one⟩ | ⟨-, text, -, shape, value⟩ := published
  · rw [one]
    exact one_pos
  · rw [value]
    exact shape.positive

theorem toNat_denominator (requested : CriterionAsset) :
    (rateScale * pow10 requested.decimals).toNat = 10 ^ 18 * 10 ^ requested.decimals := by
  cases requested <;> decide

theorem numerator_eq_some {units word numerator : U256} :
    (do checkedMul (← checkedMul units word) (pow10 payment.decimals)) = some numerator ↔
      units.toNat * word.toNat < 2 ^ 256 ∧
        units.toNat * word.toNat * 10 ^ payment.decimals < 2 ^ 256 ∧
        numerator.toNat = units.toNat * word.toNat * 10 ^ payment.decimals := by
  have power := toNat_pow10 (decimals_fit payment)
  constructor
  · intro computed
    obtain ⟨product, first, second⟩ := Option.bind_eq_some_iff.mp computed
    obtain ⟨small, product⟩ := checkedMul_eq_some.mp first
    rw [checkedMul_eq_some, product, power] at second
    exact ⟨small, second⟩
  · intro ⟨small, scaled, exact⟩
    have product := BitVec.toNat_mul_of_lt small
    apply Option.bind_eq_some_iff.mpr
    refine ⟨units * word, checkedMul_eq_some.mpr ⟨small, product⟩, checkedMul_eq_some.mpr ?_⟩
    rw [product, power]
    exact ⟨scaled, exact⟩

theorem quotient_eq_exactPayment {units word numerator : U256} {amount : ℚ}
    (amountUnits : (units.toNat : ℚ) = amount * 10 ^ requested.decimals)
    (rateUnits : (word.toNat : ℚ) = rate * 10 ^ 18)
    (product : numerator.toNat = units.toNat * word.toNat * 10 ^ payment.decimals) :
    (numerator.toNat : ℚ) / (rateScale * pow10 requested.decimals).toNat =
      exactPayment amount rate payment := by
  rw [toNat_denominator, product]
  push_cast
  rw [amountUnits, rateUnits, exactPayment]
  field_simp
  norm_num

theorem denominator_pos (requested : CriterionAsset) :
    0 < (rateScale * pow10 requested.decimals).toNat := by
  rw [toNat_denominator]
  positivity

theorem paymentUnits_ok {units : Nat} :
    paymentUnits amount requested payment rates = .ok units ↔
      ∃ rate, Numeral amount requested.decimals ∧ RateOf requested payment rates rate ∧
        ProductsFit (decimalValue amount) rate requested payment ∧
        IsLeast {n : Nat | exactPayment (decimalValue amount) rate payment ≤ n} units ∧
        units < 2 ^ 64 := by
  have fits := decimals_fit requested
  constructor
  · intro computed
    obtain ⟨base, read, word, rated, numerator, multiplied, computed⟩ := bind₃_eq_ok.mp computed
    obtain ⟨_, small, computed⟩ := bind_eq_ok.mp computed
    cases computed
    obtain ⟨shape, amountFits, amountUnits⟩ := (decimalUnits_exact fits).mp read
    obtain ⟨rate, published, rateFits, rateUnits⟩ := multiplier_exact.mp rated
    obtain ⟨product, scaled, exact⟩ := numerator_eq_some.mp (demand_eq_ok.mp multiplied)
    refine ⟨rate, shape, published, ⟨amountFits, rateFits, ?_, ?_⟩, ?_, ensure_eq_ok.mp small⟩
    · rw [← amountUnits, ← rateUnits]
      exact_mod_cast product
    · rw [← amountUnits, ← rateUnits]
      exact_mod_cast scaled
    · rw [← quotient_eq_exactPayment amountUnits rateUnits exact]
      exact isLeast_ceilDiv (denominator_pos requested)
  · rintro ⟨rate, shape, published, ⟨amountFits, rateFits, product, scaled⟩, least, small⟩
    obtain ⟨base, read, amountUnits⟩ := shape.reads fits amountFits
    obtain ⟨word, rated, rateUnits⟩ := published.reads rateFits
    rw [← amountUnits, ← rateUnits] at product scaled
    have product : base.toNat * word.toNat < 2 ^ 256 := by exact_mod_cast product
    have scaled : base.toNat * word.toNat * 10 ^ payment.decimals < 2 ^ 256 := by
      exact_mod_cast scaled
    have exact : (BitVec.ofNat 256 (base.toNat * word.toNat * 10 ^ payment.decimals)).toNat =
        base.toNat * word.toNat * 10 ^ payment.decimals := Nat.mod_eq_of_lt scaled
    rw [← quotient_eq_exactPayment amountUnits rateUnits exact] at least
    have units := least.unique (isLeast_ceilDiv (denominator_pos requested))
    rw [units] at small ⊢
    refine bind_eq_ok.mpr ⟨base, read, bind_eq_ok.mpr ⟨word, rated, ?_⟩⟩
    refine bind_eq_ok.mpr
      ⟨_, demand_eq_ok.mpr (numerator_eq_some.mpr ⟨product, scaled, exact⟩), ?_⟩
    exact bind_eq_ok.mpr ⟨(), ensure_eq_ok.mpr small, rfl⟩

theorem paymentUnits_fails :
    FailsOnly .invalidRequest (paymentUnits amount requested payment rates) := by
  have rated : FailsOnly .invalidRequest (multiplier requested payment rates) := by
    unfold multiplier
    split
    · exact .ok rateScale
    · exact .bind (.demand _) fun rate => decimalUnits_fails
  refine .bind decimalUnits_fails fun units => .bind rated fun word => ?_
  exact .bind (.demand _) fun numerator => .bind (.ensure _) fun _ => .ok _

theorem exactPayment_pos (shape : Numeral amount requested.decimals)
    (published : RateOf requested payment rates rate) :
    0 < exactPayment (decimalValue amount) rate payment := by
  have amount := shape.positive
  have rate := published.pos
  unfold exactPayment
  positivity

end Payment

theorem cover_lt_add_one {x : ℚ} {units : Nat} (positive : 0 < x)
    (least : IsLeast {n : Nat | x ≤ n} units) : (units : ℚ) < x + 1 := by
  cases units with
  | zero =>
    have := least.1
    simp at this
    linarith
  | succ below =>
    by_contra above
    have covered : x ≤ below := by
      push_cast at above
      linarith
    have := least.2 covered
    omega

/-- The payment due is the least whole number of base units that covers the exact amount
times the exact rate: at least one unit, and less than one unit above. It is computed
exactly when amount and rate are numerals, no product on the way leaves the word and the
payment fits; everything else is refused. -/
theorem payment_covers_exactly (amount : String) (requested payment : CriterionAsset)
    (rates : List ConversionRate) :
    (∀ units, paymentUnits amount requested payment rates = .ok units ↔
      ∃ rate, Numeral amount requested.decimals ∧ RateOf requested payment rates rate ∧
        ProductsFit (decimalValue amount) rate requested payment ∧
        IsLeast {n : Nat | exactPayment (decimalValue amount) rate payment ≤ n} units ∧
        units < 2 ^ 64) ∧
    (∀ units, paymentUnits amount requested payment rates = .ok units →
      1 ≤ units ∧ ∃ rate, RateOf requested payment rates rate ∧
        exactPayment (decimalValue amount) rate payment ≤ units ∧
        units < exactPayment (decimalValue amount) rate payment + 1) ∧
    (∀ error, paymentUnits amount requested payment rates = .error error →
      error = .invalidRequest) := by
  refine ⟨fun units => paymentUnits_ok, ?_, paymentUnits_fails⟩
  intro units computed
  obtain ⟨rate, shape, published, -, least, -⟩ := paymentUnits_ok.mp computed
  have positive := exactPayment_pos shape published
  refine ⟨?_, rate, published, least.1, cover_lt_add_one positive least⟩
  have covered : (0 : ℚ) < units := lt_of_lt_of_le positive least.1
  exact_mod_cast covered

end PaykitServer.Pricing
