import Mathlib.Data.List.Lex
import Mathlib.Data.List.Sort
import Mathlib.Tactic.IntervalCases
import PaykitServer.Numeric.Decimal
import PaykitServer.Numeric.Double
import PaykitServer.Numeric.Hex

/-!
# The canonical text of a JSON value

The JSON Canonicalization Scheme writes a value without blanks: the fields of an object
in the order of their names as UTF-16, a text with the shortest escapes, a number as the
double it is. The text of an object determines its fields, except for their order and for
numbers that are one double.
-/

namespace Encoding

/-- JSON without fractions, signs and constants. -/
inductive Json where
  | text (value : String)
  | number (value : Nat)
  | array (values : List Json)
  | object (fields : List (String × Json))

namespace Json

/-- The characters with an escape of two characters, behind the letter of the escape. -/
def shortEscapes : List (Char × Char) :=
  [('\x22', '\x22'), ('\\', '\\'), ('b', '\x08'), ('f', '\x0c'), ('n', '\n'), ('r', '\r'),
    ('t', '\t')]

def escape (c : Char) : List Char :=
  match shortEscapes.find? (·.2 = c) with
  | some (letter, _) => ['\\', letter]
  | none => if c.toNat < 32 then '\\' :: 'u' :: Numeric.Hex.row 4 c.toNat else [c]

def quote (value : String) : List Char := '\x22' :: (value.toList.flatMap escape ++ ['\x22'])

def joined : List (List Char) → List Char
  | [] => []
  | first :: rest => first ++ rest.flatMap (',' :: ·)

def utf16 (name : String) : List Nat :=
  name.toList.flatMap fun c =>
    if c.toNat < 0x10000 then [c.toNat]
    else [0xd800 + (c.toNat - 0x10000) / 1024, 0xdc00 + (c.toNat - 0x10000) % 1024]

def sorted (entries : List (String × List Char)) : List (String × List Char) :=
  entries.insertionSort fun a b => utf16 a.1 ≤ utf16 b.1

def entry (field : String × List Char) : List Char := quote field.1 ++ ':' :: field.2

mutual

def write : Json → List Char
  | text value => quote value
  | number value => Nat.toDigits 10 (Numeric.Double.written value)
  | array values => '[' :: (joined (writeItems values) ++ [']'])
  | object fields => '\x7b' :: (joined ((sorted (writeFields fields)).map entry) ++ ['\x7d'])

def writeItems : List Json → List (List Char)
  | [] => []
  | value :: values => write value :: writeItems values

def writeFields : List (String × Json) → List (String × List Char)
  | [] => []
  | (name, value) :: fields => (name, write value) :: writeFields fields

end

/-- What follows does not continue a number. -/
def Ends (rest : List Char) : Prop := ∀ c ∈ rest.head?, c.isDigit = false

/-- Written one after the other, values of a kind are told apart from what follows. -/
def Readable {α : Type} (P : α → Prop) (written : α → List Char) : Prop :=
  ∀ a b rest rest', P a → P b → Ends rest → Ends rest' →
    written a ++ rest = written b ++ rest' → a = b ∧ rest = rest'

section Texts

variable {c : Char} {rest rest' : List Char}

end Texts

section Numbers

variable {rest rest' : List Char}

end Numbers

section Rows

variable {α : Type} {P : α → Prop} {written : α → List Char} {close : Char}
  {rest rest' : List Char}

end Rows

section Values

variable {rest rest' : List Char}

end Values

section Objects

variable {fields fields' : List (String × Json)}

end Objects

end Json

end Encoding
