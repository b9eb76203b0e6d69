set_option autoImplicit false

/-!
# Percent escapes

In the user info and the query of a URI, `%` and two digits of base sixteen stand for one byte; all
other characters stand for the bytes of their UTF-8 form. A text is read by collecting its bytes and
decoding them, so one escaped character may take several escapes.
-/

namespace HotRod.Text.Percent

/-- The value of a digit of base sixteen, in either case. -/
def hexValue? (c : Char) : Option Nat :=
  if '0' ≤ c ∧ c ≤ '9' then some (c.toNat - '0'.toNat)
  else if 'a' ≤ c ∧ c ≤ 'f' then some (c.toNat - 'a'.toNat + 10)
  else if 'A' ≤ c ∧ c ≤ 'F' then some (c.toNat - 'A'.toNat + 10)
  else none

/-- The byte written by the two characters of an escape: two digits, or a plus sign and one digit. -/
def readByte? (high low : Char) : Option UInt8 := do
  let sixteens ← if high = '+' then some 0 else hexValue? high
  let ones ← hexValue? low
  return UInt8.ofNat (16 * sixteens + ones)

/-- The bytes a text stands for, unless an escape is malformed. -/
def bytes? : List Char → Option (List UInt8)
  | [] => some []
  | '%' :: high :: low :: rest => do
    let byte ← readByte? high low
    let others ← bytes? rest
    return byte :: others
  | c :: rest => if c = '%' then none else (bytes? rest).map (String.utf8EncodeChar c ++ ·)

/-- The text an escaped text stands for, unless an escape is malformed or the bytes are no UTF-8. -/
def decode? (text : List Char) : Option String := do
  let bytes ← bytes? text
  String.fromUTF8? bytes.toByteArray

end HotRod.Text.Percent
