set_option autoImplicit false

/-!
# Integers and flags in text

An integer is an optional sign and decimal digits; the sign `-` is for signed integers only. Reading
goes from left to right and reports the first fault it meets, where a character that is no digit
comes before a value that grew out of range.
-/

namespace HotRod.Text

/-- Why a text is no integer of a range. -/
inductive NumberFault where
  | empty
  | invalidDigit
  | tooLarge
  | tooSmall
  deriving DecidableEq, Repr

def NumberFault.message : NumberFault → String
  | .empty => "cannot parse integer from empty string"
  | .invalidDigit => "invalid digit found in string"
  | .tooLarge => "number too large to fit in target type"
  | .tooSmall => "number too small to fit in target type"

def digitValue? (c : Char) : Option Nat :=
  if c.isDigit then some (c.toNat - '0'.toNat) else none

/-- Continue a number with further digits, up to a greatest value. -/
def readDigits (greatest : Nat) (beyond : NumberFault) (value : Nat) :
    List Char → Except NumberFault Nat
  | [] => .ok value
  | c :: rest =>
    match digitValue? c with
    | none => .error .invalidDigit
    | some digit =>
      if value * 10 + digit ≤ greatest then readDigits greatest beyond (value * 10 + digit) rest
      else .error beyond

def readNat (greatest : Nat) : List Char → Except NumberFault Nat
  | [] => .error .empty
  | ['+'] => .error .invalidDigit
  | '+' :: digits => readDigits greatest .tooLarge 0 digits
  | digits => readDigits greatest .tooLarge 0 digits

/-- Read an integer between a least value, given by its size below zero, and a greatest value. -/
def readInt (below greatest : Nat) : List Char → Except NumberFault Int
  | ['-'] => .error .invalidDigit
  | '-' :: digits => (readDigits below .tooSmall 0 digits).map fun size : Nat => -Int.ofNat size
  | text => (readNat greatest text).map Int.ofNat

def readUInt16 (text : List Char) : Except NumberFault UInt16 :=
  (readNat 0xFFFF text).map UInt16.ofNat

def readUInt32 (text : List Char) : Except NumberFault UInt32 :=
  (readNat 0xFFFFFFFF text).map UInt32.ofNat

def readUInt64 (text : List Char) : Except NumberFault UInt64 :=
  (readNat 0xFFFFFFFFFFFFFFFF text).map UInt64.ofNat

def readInt64 (text : List Char) : Except NumberFault Int64 :=
  (readInt 0x8000000000000000 0x7FFFFFFFFFFFFFFF text).map Int64.ofInt

def readFlag? (text : List Char) : Option Bool :=
  if text = "true".toList then some true
  else if text = "false".toList then some false
  else none

def intText : Int → String
  | .ofNat size => Nat.repr size
  | .negSucc less => "-" ++ Nat.repr (less + 1)

def flagText (flag : Bool) : String := if flag then "true" else "false"

@[simp] theorem readFlag?_flagText (flag : Bool) : readFlag? (flagText flag).toList = some flag := by
  cases flag <;> rfl

end HotRod.Text
