set_option autoImplicit false

/-!
# Durations

A duration of whole milliseconds is shown in seconds, with as many decimals as it needs, from one
second on, and in milliseconds below; no time at all is shown in nanoseconds.
-/

namespace HotRod.Text

/-- The decimals of a number of thousandths, without zeros at the end. -/
def decimals (thousandths : Nat) : String :=
  let digits := [thousandths / 100, thousandths / 10 % 10, thousandths % 10]
  let needed := (digits.reverse.dropWhile (· == 0)).reverse
  if needed.isEmpty then "" else "." ++ .ofList (needed.map Nat.digitChar)

def durationText (milliseconds : Nat) : String :=
  if milliseconds = 0 then "0ns"
  else if milliseconds < 1000 then Nat.repr milliseconds ++ "ms"
  else Nat.repr (milliseconds / 1000) ++ decimals (milliseconds % 1000) ++ "s"

end HotRod.Text
