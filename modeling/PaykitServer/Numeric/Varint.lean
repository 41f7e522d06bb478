import Mathlib.Algebra.Group.Nat.Defs
import Mathlib.Tactic.Ring

/-!
# Numbers of variable length

A number is written with seven bits to a byte, least significant first; every byte but the
last has its high bit set. A type admits a number of bytes, and bounds the last of these.
-/

namespace Numeric

/-- The bytes of a number, at most `more` beside the last one. -/
def varint : Nat → Nat → List UInt8
  | 0, n => [n.toUInt8]
  | more + 1, n => if n < 128 then [n.toUInt8]
    else (n % 128 + 128).toUInt8 :: varint more (n / 128)

/-- Read a number back. The last byte that is admitted is at most `last`. -/
def takeVarint (last : Nat) : Nat → List UInt8 → Option (Nat × List UInt8)
  | _, [] => none
  | 0, byte :: rest => if byte.toNat ≤ last then some (byte.toNat, rest) else none
  | more + 1, byte :: rest => if byte.toNat < 128 then some (byte.toNat, rest)
    else (takeVarint last more rest).map fun read => (byte.toNat - 128 + 128 * read.1, read.2)

/-- A number that the type admits is read back, whatever follows it. -/
theorem takeVarint_varint {last more n : Nat} (low : last < 128)
    (small : n < (last + 1) * 128 ^ more) (rest : List UInt8) :
    takeVarint last more (varint more n ++ rest) = some (n, rest) := by
  induction more generalizing n with
  | zero =>
    have byte : n.toUInt8.toNat = n := Nat.mod_eq_of_lt (by omega)
    have fits : n ≤ last := by omega
    simp [varint, takeVarint, byte, fits]
  | succ more ih =>
    by_cases short : n < 128
    · have byte : n.toUInt8.toNat = n := Nat.mod_eq_of_lt (by omega)
      simp [varint, takeVarint, short, byte]
    · have byte : (n % 128 + 128).toUInt8.toNat = n % 128 + 128 := Nat.mod_eq_of_lt (by omega)
      have next : n / 128 < (last + 1) * 128 ^ more := by
        apply Nat.div_lt_of_lt_mul
        calc n < (last + 1) * 128 ^ (more + 1) := small
          _ = 128 * ((last + 1) * 128 ^ more) := by ring
      rw [varint, if_neg short, List.cons_append, takeVarint, byte, if_neg (by omega), ih next,
        Option.map_some, Nat.add_sub_cancel, Nat.mod_add_div]

/-- A signed number as an unsigned one, the signs in turn. -/
def zigzag (n : Int) : Nat := if 0 ≤ n then 2 * n.toNat else 2 * (-n).toNat - 1

def unzigzag (n : Nat) : Int := if n % 2 = 0 then n / 2 else -(n / 2) - 1

theorem unzigzag_zigzag (n : Int) : unzigzag (zigzag n) = n := by
  unfold zigzag unzigzag
  split <;> split <;> omega

/-- A signed number of one byte, in two's complement. -/
def signedByte (n : Int) : UInt8 := (n % 256).toNat.toUInt8

def ofSignedByte (byte : UInt8) : Int :=
  if byte.toNat < 128 then byte.toNat else byte.toNat - 256

theorem ofSignedByte_signedByte {n : Int} (low : -128 ≤ n) (high : n < 128) :
    ofSignedByte (signedByte n) = n := by
  have byte : (signedByte n).toNat = (n % 256).toNat := Nat.mod_eq_of_lt (by omega)
  unfold ofSignedByte
  rw [byte]
  split <;> omega

end Numeric
