import Mathlib.Data.BitVec

/-!
# Hexadecimal texts

A row of hexadecimal digits in either case spells a number, most significant
digit first. A word is written with one lowercase digit for every four bits.
-/

namespace Numeric.Hex

def digit (c : Char) : Option Nat :=
  if c.isDigit then some (c.toNat - 48)
  else if 'a' ≤ c ∧ c ≤ 'f' then some (c.toNat - 87)
  else if 'A' ≤ c ∧ c ≤ 'F' then some (c.toNat - 55)
  else none

/-- Read a row of digits on, after what the digits before it spell. -/
def spelledFrom : Nat → List Char → Option Nat
  | n, [] => some n
  | n, c :: rest => (digit c).bind fun d => spelledFrom (16 * n + d) rest

/-- The number a row of digits spells, none if it has other characters. -/
def spelled (digits : List Char) : Option Nat := spelledFrom 0 digits

/-- A row of exactly the digits of a word, with or without `0x` or `0X` before it. -/
def decode (nibbles : Nat) (text : List Char) : Option (BitVec (4 * nibbles)) :=
  let digits := if text.take 2 ∈ [['0', 'x'], ['0', 'X']] then text.drop 2 else text
  if digits.length = nibbles then (spelled digits).map (BitVec.ofNat _) else none

/-- The lowercase digits of the `count` lowest nibbles of a number. -/
def row : Nat → Nat → List Char
  | 0, _ => []
  | count + 1, n => row count (n / 16) ++ [Nat.digitChar (n % 16)]

/-- A word as `0x` and its digits. -/
def encode {nibbles : Nat} (word : BitVec (4 * nibbles)) : List Char :=
  '0' :: 'x' :: row nibbles word.toNat

def isLower (c : Char) : Bool := c.isDigit || ('a' ≤ c && c ≤ 'f')

theorem length_row (count n : Nat) : (row count n).length = count := by
  induction count generalizing n with
  | zero => rfl
  | succ count ih => rw [row, List.length_append, ih, List.length_singleton]

theorem isLower_digitChar : ∀ d < 16, isLower (Nat.digitChar d) = true := by decide

theorem isLower_row (count n : Nat) : (row count n).all isLower = true := by
  induction count generalizing n with
  | zero => rfl
  | succ count ih =>
    rw [row, List.all_append, ih, List.all_cons, isLower_digitChar _ (Nat.mod_lt n (by decide))]
    rfl

end Numeric.Hex
