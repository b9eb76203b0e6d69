import HotRod.Text.Blank
set_option autoImplicit false

/-!
# Cursors

A cursor is a place in a text: the characters from there on, with the line and the column of the first
of them. A line break opens a line of its own and stands in its column zero; at the end of the text a
cursor keeps the place of the last character.
-/

namespace HotRod.Ini

structure Cursor where
  rest : List Char
  line : Nat
  column : Nat

namespace Cursor

/-- Come to the first character of a text after a place. -/
def reach (line column : Nat) : List Char → Cursor
  | [] => ⟨[], line, column⟩
  | c :: rest => if c = '\n' then ⟨c :: rest, line + 1, 0⟩ else ⟨c :: rest, line, column + 1⟩

def start (text : List Char) : Cursor := reach 0 0 text

def next (cursor : Cursor) : Cursor := reach cursor.line cursor.column cursor.rest.tail

def forward : Nat → Cursor → Cursor
  | 0, cursor => cursor
  | steps + 1, cursor => forward steps cursor.next

def skipWhile (cursor : Cursor) (skipped : Char → Bool) : Cursor :=
  cursor.forward (cursor.rest.takeWhile skipped).length

@[simp] theorem rest_reach (line column : Nat) (text : List Char) :
    (reach line column text).rest = text := by
  cases text with
  | nil => rfl
  | cons c rest => rw [reach]; split <;> rfl

@[simp] theorem rest_next (cursor : Cursor) : cursor.next.rest = cursor.rest.tail :=
  rest_reach _ _ _

@[simp] theorem rest_forward (steps : Nat) (cursor : Cursor) :
    (cursor.forward steps).rest = cursor.rest.drop steps := by
  induction steps generalizing cursor with
  | zero => rfl
  | succ steps ih => simp [forward, ih, List.drop_tail]

theorem length_skipWhile_le (cursor : Cursor) (skipped : Char → Bool) :
    (cursor.skipWhile skipped).rest.length ≤ cursor.rest.length := by
  simp [skipWhile]

end Cursor

end HotRod.Ini
