import HotRod.Text.Decimal
set_option autoImplicit false

/-!
# JSON

JSON values and their indented text: two spaces for each level, one member to a line, members in the
order they are given, and an empty list or object on one line.
-/

namespace HotRod

inductive Json where
  | null
  | bool (value : Bool)
  | number (value : Int)
  | text (value : String)
  | list (items : List Json)
  | object (members : List (String × Json))

namespace Json

def ofOption : Option String → Json
  | none => .null
  | some value => .text value

/-- A digit of base sixteen, as it stands in `\u00xx`. -/
def escapeDigit (value : Nat) : Char := Nat.digitChar value

/-- A character inside a quoted text. Only quotes, backslashes and control characters are escaped. -/
def escape (c : Char) : List Char :=
  if c = '"' then ['\\', '"']
  else if c = '\\' then ['\\', '\\']
  else if c = '\n' then ['\\', 'n']
  else if c = '\r' then ['\\', 'r']
  else if c = '\t' then ['\\', 't']
  else if c.toNat = 0x08 then ['\\', 'b']
  else if c.toNat = 0x0C then ['\\', 'f']
  else if c.toNat < 0x20 then
    ['\\', 'u', '0', '0', escapeDigit (c.toNat / 16), escapeDigit (c.toNat % 16)]
  else [c]

def quote (text : String) : String := "\"" ++ .ofList (text.toList.flatMap escape) ++ "\""

def blanks (width : Nat) : String := .ofList (List.replicate width ' ')

def bracketed (indent : Nat) (opening closing : String) : List String → String
  | [] => opening ++ closing
  | members =>
    opening ++ "\n" ++ String.intercalate ",\n" (members.map (blanks (indent + 2) ++ ·)) ++ "\n" ++
      blanks indent ++ closing

mutual

/-- The indented text of a value whose first line is already indented. -/
def renderAt (indent : Nat) : Json → String
  | .null => "null"
  | .bool value => if value then "true" else "false"
  | .number value => Text.intText value
  | .text value => quote value
  | .list items => bracketed indent "[" "]" (renderItems (indent + 2) items)
  | .object members => bracketed indent "\x7b" "\x7d" (renderMembers (indent + 2) members)

def renderItems (indent : Nat) : List Json → List String
  | [] => []
  | item :: items => renderAt indent item :: renderItems indent items

def renderMembers (indent : Nat) : List (String × Json) → List String
  | [] => []
  | member :: members => renderMember indent member :: renderMembers indent members

def renderMember (indent : Nat) : String × Json → String
  | (name, value) => quote name ++ ": " ++ renderAt indent value

end

def render (value : Json) : String := renderAt 0 value

end Json

end HotRod
