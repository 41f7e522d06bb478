import PaykitServer.Numeric.Word
import Mathlib.Data.List.DropRight

/-!
# Decimal numerals

A numeral is a row of digits, possibly followed by a point and further digits. It spells a
rational number; a number is written with a fixed number of decimals by its quotient and
its remainder, the remainder filled up with zeros and, if wanted, stripped of the last ones.
-/

namespace Numeric

def byteLength (text : List Char) : Nat := (text.map Char.utf8Size).sum

/-- What stands before and after the first separator. -/
def splitOnce (separator : Char) : List Char → Option (List Char × List Char)
  | [] => none
  | c :: rest =>
    if c = separator then some ([], rest)
    else (splitOnce separator rest).map fun split => (c :: split.1, split.2)

def parts (text : List Char) : List Char × List Char := (splitOnce '.' text).getD (text, [])

def spelled (digits : List Char) : Nat := Nat.ofDigitChars 10 digits 0

def value (text : List Char) : ℚ :=
  spelled (parts text).1 + spelled (parts text).2 / 10 ^ (parts text).2.length

/-- Read a row of digits into a word, unless it does not fit. -/
def fromDigits (w : Nat) (digits : List Char) : Option (BitVec w) :=
  if spelled digits < 2 ^ w then some (BitVec.ofNat w (spelled digits)) else none

def padded (width n : Nat) : List Char := (Nat.toDigits 10 n).leftpad width '0'

/-- The digits of a fraction without the zeros at its end. -/
def trimZeros (digits : List Char) : List Char := digits.rdropWhile (· == '0')

/-- A numeral with its point; a whole number has none. -/
def numeral (whole fraction : List Char) : List Char :=
  if fraction = [] then whole else whole ++ '.' :: fraction

section Texts

variable {separator : Char} {text before after whole fraction digits : List Char}

theorem splitOnce_join (found : splitOnce separator text = some (before, after)) :
    text = before ++ separator :: after := by
  induction text generalizing before with
  | nil => cases found
  | cons c rest step =>
    by_cases here : c = separator
    · simp only [splitOnce, here, if_true, Option.some.injEq, Prod.mk.injEq] at found
      simp [← found.1, found.2, here]
    · simp only [splitOnce, here, if_false, Option.map_eq_some_iff] at found
      obtain ⟨⟨front, back⟩, further, same⟩ := found
      cases same
      rw [step further]
      rfl

theorem splitOnce_append (absent : separator ∉ before) :
    splitOnce separator (before ++ separator :: after) = some (before, after) := by
  induction before with
  | nil => simp [splitOnce]
  | cons c rest step =>
    have other : c ≠ separator := fun same => absent (same ▸ List.mem_cons_self)
    have further := step fun there => absent (List.mem_cons_of_mem c there)
    simp [splitOnce, other, further]

theorem splitOnce_absent (absent : separator ∉ text) : splitOnce separator text = none := by
  induction text with
  | nil => rfl
  | cons c rest step =>
    have other : c ≠ separator := fun same => absent (same ▸ List.mem_cons_self)
    simp [splitOnce, other, step fun there => absent (List.mem_cons_of_mem c there)]

theorem eq_of_parts (split : parts text = (whole, fraction)) :
    text = whole ++ '.' :: fraction ∨ (text = whole ∧ fraction = []) := by
  unfold parts at split
  cases found : splitOnce '.' text with
  | none =>
    rw [found] at split
    cases split
    exact .inr ⟨rfl, rfl⟩
  | some pair =>
    rw [found] at split
    cases split
    exact .inl (splitOnce_join found)

theorem parts_numeral (absent : '.' ∉ whole) :
    parts (numeral whole fraction) = (whole, fraction) := by
  unfold numeral
  split
  case isTrue none => simp [parts, splitOnce_absent absent, none]
  case isFalse => simp [parts, splitOnce_append absent]

theorem point_notMem (all : ∀ c ∈ digits, c.isDigit = true) : '.' ∉ digits := by
  intro there
  exact absurd (all _ there) (by decide)

theorem byteLength_append (front back : List Char) :
    byteLength (front ++ back) = byteLength front + byteLength back := by
  simp [byteLength]

theorem byteLength_digits (all : ∀ c ∈ digits, c.isDigit = true) :
    byteLength digits = digits.length := by
  induction digits with
  | nil => rfl
  | cons c rest step =>
    have one : c.utf8Size = 1 := by
      have digit := Char.isDigit_iff_toNat.mp (all c List.mem_cons_self)
      apply Char.utf8Size_eq_one_iff.mpr
      apply UInt32.le_iff_toNat_le.mpr
      simp only [Char.reduceToNat] at digit
      exact Nat.le_trans digit.2 (by decide)
    have others := step fun d there => all d (List.mem_cons_of_mem c there)
    simp only [byteLength, List.map_cons, List.sum_cons] at others ⊢
    rw [one, others, List.length_cons, Nat.add_comm]

end Texts

section Values

variable {text digits whole fraction : List Char} {decimals n width : Nat}

theorem spelled_append (front back : List Char) :
    spelled (front ++ back) = spelled front * 10 ^ back.length + spelled back := by
  rw [spelled, Nat.ofDigitChars_append, Nat.ofDigitChars_eq_ofDigitChars_zero, Nat.mul_comm]
  rfl

theorem spelled_zeros (n : Nat) : spelled (List.replicate n '0') = 0 := by
  simp [spelled]

@[simp] theorem spelled_toDigits (n : Nat) : spelled (Nat.toDigits 10 n) = n :=
  Nat.ofDigitChars_ten_toDigits

theorem spelled_lt (all : ∀ c ∈ digits, c.isDigit = true) :
    spelled digits < 10 ^ digits.length := by
  induction digits using List.reverseRecOn with
  | nil => simp [spelled]
  | append_singleton front last step =>
    have below := step fun c there => all c (List.mem_append_left _ there)
    have digit : last.toNat - 48 < 10 := by
      have := Char.isDigit_iff_toNat.mp (all last (by simp))
      simp at this
      omega
    have one : spelled [last] = last.toNat - 48 := by
      simp [spelled, Nat.ofDigitChars_cons]
    rw [spelled_append, one]
    simp only [List.length_append, List.length_singleton, Nat.pow_succ]
    omega

@[simp] theorem spelled_padded (width n : Nat) : spelled (padded width n) = n := by
  rw [padded, List.leftpad, spelled_append, spelled_zeros, spelled_toDigits]
  simp

theorem length_padded (positive : 0 < width) (fits : n < 10 ^ width) :
    (padded width n).length = width := by
  have short := (Nat.length_toDigits_le_iff (by decide) positive).mpr fits
  simp only [padded, List.leftpad, List.length_append, List.length_replicate]
  omega

theorem padded_digits : ∀ c ∈ padded width n, c.isDigit = true := by
  intro c there
  obtain zero | digit := List.mem_append.mp there
  · rw [List.eq_of_mem_replicate zero]
    decide
  · exact Nat.isDigit_of_mem_toDigits (by decide) (by decide) digit

/-- The zeros stripped from a fraction do not change what it stands for. -/
theorem trimZeros_spelled (digits : List Char) :
    (trimZeros digits).length ≤ digits.length ∧
      spelled digits =
        spelled (trimZeros digits) * 10 ^ (digits.length - (trimZeros digits).length) := by
  have zeros : digits.rtakeWhile (· == '0') =
      List.replicate (digits.rtakeWhile (· == '0')).length '0' := by
    apply List.eq_replicate_of_mem
    intro c there
    simpa using List.mem_rtakeWhile_imp there
  have whole : trimZeros digits ++ digits.rtakeWhile (· == '0') = digits :=
    List.rdropWhile_append_rtakeWhile
  have lengths := congrArg List.length whole
  have values := congrArg spelled whole
  simp only [List.length_append] at lengths
  rw [spelled_append, zeros, spelled_zeros, List.length_replicate] at values
  have stripped : (digits.rtakeWhile (· == '0')).length =
      digits.length - (trimZeros digits).length := by
    omega
  refine ⟨by omega, ?_⟩
  rw [← stripped]
  exact values.symm

theorem trimZeros_digits (all : ∀ c ∈ digits, c.isDigit = true) :
    ∀ c ∈ trimZeros digits, c.isDigit = true := by
  intro c there
  apply all
  have whole : trimZeros digits ++ digits.rtakeWhile (· == '0') = digits :=
    List.rdropWhile_append_rtakeWhile
  rw [← whole]
  exact List.mem_append_left _ there

theorem fromDigits_eq_some {w : Nat} {word : BitVec w} :
    fromDigits w digits = some word ↔ spelled digits < 2 ^ w ∧ word.toNat = spelled digits := by
  unfold fromDigits
  by_cases fits : spelled digits < 2 ^ w
  · simp [fits, ← BitVec.toNat_inj, Nat.mod_eq_of_lt fits, eq_comm]
  · simp [fits]

/-- What a numeral spells, counted in units of its last admitted decimal. -/
def scaled (text : List Char) (decimals : Nat) : Nat :=
  spelled (parts text).1 * 10 ^ decimals +
    spelled (parts text).2 * 10 ^ (decimals - (parts text).2.length)

theorem scaled_cast (short : (parts text).2.length ≤ decimals) :
    (scaled text decimals : ℚ) = value text * 10 ^ decimals := by
  have powers : (10 : ℚ) ^ decimals =
      10 ^ (decimals - (parts text).2.length) * 10 ^ (parts text).2.length := by
    rw [← pow_add, Nat.sub_add_cancel short]
  simp only [scaled, value]
  push_cast
  rw [add_mul, powers]
  field_simp

end Values

end Numeric
