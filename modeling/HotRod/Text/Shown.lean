set_option autoImplicit false

/-!
# Shown forms

How texts and lists are shown for diagnosis: texts in quotes, lists in brackets and sets in braces.
-/

namespace HotRod.Text

def shown (text : String) : String := "\"" ++ text ++ "\""

def commaSeparated (items : List String) : String := String.intercalate ", " items

def inBrackets (items : List String) : String := "[" ++ commaSeparated items ++ "]"

def inBraces (items : List String) : String := "\x7b" ++ commaSeparated items ++ "\x7d"

end HotRod.Text
