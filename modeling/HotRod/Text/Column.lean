set_option autoImplicit false

/-!
# Columns

Report lines put texts into columns. A column has a least width, counted in characters; a longer
text is never cut.
-/

namespace HotRod.Text

def padEnd (width : Nat) (text : String) : String :=
  text ++ .ofList (List.replicate (width - text.length) ' ')

def padStart (width : Nat) (text : String) : String :=
  .ofList (List.replicate (width - text.length) ' ') ++ text

end HotRod.Text
