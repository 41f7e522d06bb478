import Mathlib.Data.List.Basic

/-!
# JSON values as they are read

A parsed JSON text, read by indexing: what is not there reads as null, so that a
chain of indices never fails. The fields of an object stand in the order of their
names, each name once.
-/

namespace PaykitServer.Usdt

/-- A JSON number: a whole one, or the bits of one read as floating point. -/
inductive Number where
  | integer (value : Int)
  | float (bits : BitVec 64)

/-- Equality of numbers: both zeros of the floating point are one number. -/
def Number.same : Number → Number → Bool
  | .integer a, .integer b => a == b
  | .float a, .float b => a == b || (a <<< 1 == 0 && b <<< 1 == 0)
  | _, _ => false

inductive Value where
  | null
  | bool (value : Bool)
  | number (value : Number)
  | text (value : String)
  | array (values : List Value)
  | object (fields : List (String × Value))

namespace Value

def isNull : Value → Bool
  | null => true
  | _ => false

def asStr : Value → Option String
  | text value => some value
  | _ => none

def asArray : Value → Option (List Value)
  | array values => some values
  | _ => none

def get? (name : String) : Value → Option Value
  | object fields => fields.lookup name
  | _ => none

/-- `value["name"]`. -/
def field (value : Value) (name : String) : Value := (value.get? name).getD null

/-- `value[index]`. -/
def item (value : Value) (index : Nat) : Value :=
  (value.asArray.bind fun values => values[index]?).getD null

mutual

/-- Equality of values, `==` of the source. -/
def same : Value → Value → Bool
  | null, null => true
  | bool a, bool b => a == b
  | number a, number b => a.same b
  | text a, text b => a == b
  | array as, array bs => sameItems as bs
  | object as, object bs => sameFields as bs
  | _, _ => false

def sameItems : List Value → List Value → Bool
  | [], [] => true
  | a :: as, b :: bs => same a b && sameItems as bs
  | _, _ => false

def sameFields : List (String × Value) → List (String × Value) → Bool
  | [], [] => true
  | (m, a) :: as, (n, b) :: bs => m == n && same a b && sameFields as bs
  | _, _ => false

end

variable {value : Value}

theorem asStr_eq_some {string : String} :
    value.asStr = some string ↔ value = text string := by
  cases value <;> simp [asStr]

theorem asArray_eq_some {values : List Value} :
    value.asArray = some values ↔ value = array values := by
  cases value <;> simp [asArray]

theorem same_text {string : String} :
    value.same (text string) = true ↔ value = text string := by
  cases value <;> simp [same]

end Value

end PaykitServer.Usdt
