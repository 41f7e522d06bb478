import PaykitServer.Numeric.Hex

/-!
# USDT receiving addresses

The token contract of USDT0 on Arbitrum, and the addresses a creator receives at:
`0x` and forty lowercase hexadecimal digits that are not all zero.
-/

namespace PaykitServer.Domain

open Numeric

def usdtToken : String := "0xfd086bc7cd5c481dcc9c85ebe478a1c0b69fcbb9"

def receivingDigits (digits : List Char) : Bool :=
  digits.length == 40 && digits.all Hex.isLower && !digits.all (· == '0')

/-- A receiving address, in its canonical text. -/
structure UsdtAddress where
  digits : List Char
  canonical : receivingDigits digits = true
deriving DecidableEq

namespace UsdtAddress

def asStr (address : UsdtAddress) : String := String.ofList ('0' :: 'x' :: address.digits)

end UsdtAddress

end PaykitServer.Domain
