import Mathlib.Data.List.Basic

/-!
# Bitcoin outpoints, payment statuses and instants

Instants are microseconds since the Unix epoch. That is the resolution of the
stored timestamps: every instant the server compares is a database time, a
block time in whole seconds, or a process time bound to a timestamp column.
-/

namespace PaykitServer

/-- A UTC instant in microseconds. -/
abbrev OffsetDateTime := Int

/-- Drop the sub-second part, as `replace_nanosecond(0)` does. -/
def OffsetDateTime.replaceNanosecondZero (t : OffsetDateTime) : OffsetDateTime := t - t % 1000000

/-- The instants that `OffsetDateTime` can represent: years -9999 to 9999. -/
def OffsetDateTime.inRange (t : OffsetDateTime) : Bool :=
  decide (-377705116800000000 ≤ t) && decide (t ≤ 253402300799999999)

/-- The instant a duration later, if it can be represented. -/
def OffsetDateTime.checkedAdd (t : OffsetDateTime) (duration : Int) : Option OffsetDateTime :=
  if OffsetDateTime.inRange (t + duration) then some (t + duration) else none

theorem OffsetDateTime.checkedAdd_eq_some {t t' : OffsetDateTime} {duration : Int} :
    OffsetDateTime.checkedAdd t duration = some t' ↔
      OffsetDateTime.inRange (t + duration) = true ∧ t' = t + duration := by
  unfold OffsetDateTime.checkedAdd
  split
  · rename_i represented
    exact ⟨fun sum => ⟨represented, (Option.some.inj sum).symm⟩, fun sum => by rw [sum.2]⟩
  · rename_i unrepresented
    refine ⟨fun sum => ?_, fun sum => absurd sum.1 unrepresented⟩
    cases sum

/-- Whole seconds as a duration. -/
def seconds (n : Nat) : Int := n * 1000000

theorem seconds_pos {n : Nat} (nonzero : n ≠ 0) : 1000000 ≤ seconds n := by
  unfold seconds
  omega

theorem seconds_lt_seconds {n m : Nat} (less : n < m) : seconds n < seconds m := by
  unfold seconds
  omega

/-- Row identities drawn by `Uuid::new_v4`. -/
abbrev Uuid := Nat

namespace Domain

/-- A transaction ID is exactly 64 lowercase hexadecimal characters. -/
def isTxid (txid : String) : Bool :=
  txid.length == 64 && txid.toList.all fun c => c.isDigit || ('a' ≤ c && c ≤ 'f')

/-- A Bitcoin transaction output identity. Its text form is canonical, so the
stored text and the value it spells determine each other. -/
structure BitcoinOutpoint where
  txid : String
  vout : UInt32
  txid_valid : isTxid txid = true
deriving DecidableEq

def BitcoinOutpoint.canonicalText (outpoint : BitcoinOutpoint) : String :=
  outpoint.txid ++ ":" ++ toString outpoint.vout

inductive PaymentStatus where
  | undetected
  | detected
  | confirmed
deriving DecidableEq, Repr

end Domain

end PaykitServer
