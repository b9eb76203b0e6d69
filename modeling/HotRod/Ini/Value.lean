import HotRod.Ini.Cursor
set_option autoImplicit false

/-!
# Values of INI documents

Texts run up to the first of some characters. A backslash keeps the character after it in the text,
and a line break after a backslash is left out together with it. A value goes on to the end of its
line; parts of it may stand in quotes, which keep the blanks and line breaks between them.
-/

namespace HotRod.Ini

inductive Cause where
  | inlineComment
  | missingKey
  /-- The text ended before one of these characters. -/
  | unfinished (ends : List Char)
  deriving DecidableEq, Repr

/-- A character as it is shown among those that were expected. -/
def expectedText (c : Char) : String :=
  if c = '\'' then "Some('\\'')" else "Some('" ++ .singleton c ++ "')"

def Cause.message : Cause → String
  | .inlineComment => "doesn't support inline comment"
  | .missingKey => "missing key"
  | .unfinished ends =>
    "expecting \"[" ++ String.intercalate ", " (ends.map expectedText) ++ "]\" but found EOF."

/-- Why a text is no INI document, and where. -/
structure Fault where
  line : Nat
  column : Nat
  cause : Cause
  deriving DecidableEq, Repr

namespace Fault

def located (place : Cursor) (cause : Cause) : Fault := ⟨place.line, place.column, cause⟩

def message (fault : Fault) : String :=
  Nat.repr (fault.line + 1) ++ ":" ++ Nat.repr (fault.column + 1) ++ " " ++ fault.cause.message

end Fault

/-- The text up to a character of a class, and the number of characters it takes. -/
def collect (isEnd : Char → Bool) : List Char → List Char × Nat
  | [] => ([], 0)
  | '\\' :: c :: rest =>
    let (text, taken) := collect isEnd rest
    (if c = '\n' then text else '\\' :: c :: text, taken + 2)
  | c :: rest =>
    if isEnd c then ([], 0)
    else
      let (text, taken) := collect isEnd rest
      (c :: text, taken + 1)

/-- Read up to one of some characters, which has to come. -/
def readTo (ends : List Char) (cursor : Cursor) : Except Fault (List Char × Cursor) :=
  let (text, taken) := collect ends.contains cursor.rest
  let after := cursor.forward taken
  if after.rest.isEmpty then .error (.located after (.unfinished ends)) else .ok (text, after)

theorem length_of_readTo {ends text : List Char} {cursor after : Cursor}
    (h : readTo ends cursor = .ok (text, after)) :
    after.rest.length ≤ cursor.rest.length := by
  unfold readTo at h
  simp only at h
  split at h
  · simp at h
  · simp only [Except.ok.injEq, Prod.mk.injEq] at h
    rw [← h.2]
    simp

theorem collect_pos {isEnd : Char → Bool} {c : Char} {rest : List Char} (h : isEnd c = false) :
    1 ≤ (collect isEnd (c :: rest)).2 := by
  unfold collect
  split <;> simp_all

theorem length_lt_of_readTo {ends text : List Char} {cursor after : Cursor} {c : Char}
    {rest : List Char} (start : cursor.rest = c :: rest) (inner : ends.contains c = false)
    (h : readTo ends cursor = .ok (text, after)) :
    after.rest.length < cursor.rest.length := by
  unfold readTo at h
  simp only at h
  split at h
  · simp at h
  · simp only [Except.ok.injEq, Prod.mk.injEq] at h
    have taken := @collect_pos ends.contains c rest inner
    rw [← h.2]
    simp only [Cursor.rest_forward, List.length_drop]
    rw [start] at *
    simp only [List.length_cons]
    omega

def isLineEnd (c : Char) : Bool := c == '\n' || c == '\r'

def isQuote (c : Char) : Bool := c == '"' || c == '\''

/-- Read the parts of a value. Blanks around an unquoted part are dropped, but not those between it
and a quoted part. -/
def readParts (first : Bool) (cursor : Cursor) : Except Fault (List Char × Cursor) :=
  match _hrest : cursor.rest with
  | [] => .ok ([], cursor)
  | c :: _ =>
    if isQuote c then
      match _hpart : readTo [c] cursor.next with
      | .error fault => .error fault
      | .ok (part, closing) =>
        (readParts false closing.next).map fun (parts, after) => (part ++ parts, after)
    else
      let (text, taken) := collect isLineEnd cursor.rest
      .ok (if first then Text.trim text else Text.trimEnd text, cursor.forward taken)
termination_by cursor.rest.length
decreasing_by
  have shorter := length_of_readTo _hpart
  simp only [Cursor.rest_next, List.length_tail, _hrest, List.length_cons] at shorter ⊢
  omega

def readValue (sign : Cursor) : Except Fault (List Char × Cursor) :=
  readParts true (sign.next.skipWhile fun c => Text.isBlank c && !isLineEnd c)

theorem length_of_readParts {first : Bool} {cursor after : Cursor} {text : List Char}
    (h : readParts first cursor = .ok (text, after)) :
    after.rest.length ≤ cursor.rest.length := by
  fun_induction readParts first cursor generalizing text after with
  | case1 => simp_all
  | case2 => simp at h
  | case3 first cursor c _ hrest _ part closing hpart ih =>
    simp only [Except.map] at h
    split at h
    · simp at h
    · next value hvalue =>
      simp only [Except.ok.injEq, Prod.mk.injEq] at h
      have below := ih hvalue
      have shorter := length_of_readTo hpart
      simp only [Cursor.rest_next, List.length_tail] at below shorter
      rw [← h.2]
      omega
  | case4 =>
    simp only [Except.ok.injEq, Prod.mk.injEq] at h
    rw [← h.2]
    simp

theorem length_of_readValue {sign after : Cursor} {text : List Char}
    (h : readValue sign = .ok (text, after)) :
    after.rest.length ≤ sign.rest.length - 1 := by
  have first := length_of_readParts h
  have second := Cursor.length_skipWhile_le sign.next fun c => Text.isBlank c && !isLineEnd c
  simp only [Cursor.rest_next, List.length_tail] at second
  omega

end HotRod.Ini
