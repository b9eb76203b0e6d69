import HotRod.Ini.Value
set_option autoImplicit false

/-!
# INI documents

A document is read as titles in brackets and entries of a key and a value, in order. Its groups are
the entries that follow each title; a title that comes again opens another group. A key may stand on
a line before its value, and blanks before a key make no difference, except that an indented comment
is part of a key.
-/

namespace HotRod.Ini

inductive Item where
  | title (name : String)
  | entry (key value : String)
  deriving DecidableEq, Repr

/-- What reading a part of a document leaves: a place to go on from, a key without a value yet, and
the title or entry that was read. -/
structure Step where
  cursor : Cursor
  key : List Char
  item : Option Item := none

/-- The number of blanks a text starts with, up to a line break before an indented line. -/
def blanksToSkip : List Char → Nat
  | [] => 0
  | c :: rest =>
    if Text.isBlank c then
      if isLineEnd c && (rest.head? == some ' ' || rest.head? == some '\t') then 1
      else blanksToSkip rest + 1
    else 0

/-- Go on to where the next part of a document may start. -/
def settle (cursor : Cursor) : Cursor := cursor.forward (blanksToSkip cursor.rest)

def readTitle (key : List Char) (bracket : Cursor) : Except Fault Step := do
  let (name, closing) ← readTo [']'] bracket.next
  return ⟨settle closing.next, key, some (.title (.ofList (Text.trim name)))⟩

/-- The characters between a key and its value. -/
def signs : List Char := ['=', ':']

/-- Read what comes after the indentation of a line: a title, nothing, or a key. A key without a sign
after it is left out. -/
def readIndented (key : List Char) (cursor : Cursor) : Except Fault Step :=
  match cursor.rest with
  | [] => .ok ⟨cursor, key, none⟩
  | c :: _ =>
    if c = '[' then readTitle key cursor
    else if isLineEnd c then .ok ⟨cursor.next, key, none⟩
    else
      match readTo signs cursor with
      | .ok (name, sign) => .ok ⟨settle sign, Text.trim name, none⟩
      | .error _ => .ok ⟨cursor.forward cursor.rest.length, key, none⟩

/-- Read the part of a document that starts with a character at a place. -/
def readPart (key : List Char) (cursor : Cursor) (c : Char) : Except Fault Step :=
  if c = ';' ∨ c = '#' then
    if cursor.column > 1 then .error (.located cursor .inlineComment)
    else .ok ⟨settle (cursor.skipWhile (· != '\n')).next, key, none⟩
  else if c = '[' then readTitle key cursor
  else if signs.contains c then
    if key.isEmpty then .error (.located cursor .missingKey)
    else do
      let (value, after) ← readValue cursor
      return ⟨settle after, [], some (.entry (.ofList key) (.ofList value))⟩
  else if c = ' ' ∨ c = '\t' then
    readIndented key (cursor.next.skipWhile fun c => c == ' ' || c == '\t')
  else if isLineEnd c then .ok ⟨settle cursor.next, key, none⟩
  else do
    let (name, sign) ← readTo signs cursor
    return ⟨settle sign, Text.trim name, none⟩

theorem length_settle_le (cursor : Cursor) : (settle cursor).rest.length ≤ cursor.rest.length := by
  simp [settle]

theorem length_of_readTitle {key : List Char} {bracket : Cursor} {step : Step}
    (h : readTitle key bracket = .ok step) :
    step.cursor.rest.length ≤ bracket.rest.length - 1 := by
  unfold readTitle at h
  cases hread : readTo [']'] bracket.next with
  | error fault => simp [hread, bind, Except.bind] at h
  | ok found =>
    simp only [hread, bind, Except.bind, pure, Except.pure, Except.ok.injEq] at h
    have shorter := length_of_readTo hread
    have settled := length_settle_le found.2.next
    simp only [Cursor.rest_next, List.length_tail] at shorter settled
    rw [← h]
    simp only
    omega

theorem length_of_readIndented {key : List Char} {cursor : Cursor} {step : Step}
    (h : readIndented key cursor = .ok step) :
    step.cursor.rest.length ≤ cursor.rest.length := by
  unfold readIndented at h
  split at h
  · simp_all only [Except.ok.injEq]
    rw [← h]
    simp_all
  · next c rest start =>
    split at h
    · exact Nat.le_trans (length_of_readTitle h) (Nat.sub_le _ _)
    · split at h
      · simp only [Except.ok.injEq] at h
        rw [← h]
        simp
      · split at h
        · next name sign hread =>
          simp only [Except.ok.injEq] at h
          rw [← h]
          exact Nat.le_trans (length_settle_le sign) (length_of_readTo hread)
        · simp only [Except.ok.injEq] at h
          rw [← h]
          simp

/-- Every part of a document has at least one character. -/
theorem length_of_readPart {key : List Char} {cursor : Cursor} {c : Char} {rest : List Char}
    {step : Step} (start : cursor.rest = c :: rest) (h : readPart key cursor c = .ok step) :
    step.cursor.rest.length < cursor.rest.length := by
  have positive : 0 < cursor.rest.length := by simp [start]
  unfold readPart at h
  split at h
  · split at h
    · simp at h
    · simp only [Except.ok.injEq] at h
      rw [← h]
      have settled := length_settle_le (cursor.skipWhile (· != '\n')).next
      have skipped := cursor.length_skipWhile_le (· != '\n')
      simp only [Cursor.rest_next, List.length_tail] at settled skipped ⊢
      omega
  · split at h
    · have shorter := length_of_readTitle h
      omega
    · split at h
      · split at h
        · simp at h
        · cases hvalue : readValue cursor with
          | error fault => simp [hvalue, bind, Except.bind] at h
          | ok found =>
            simp only [hvalue, bind, Except.bind, pure, Except.pure, Except.ok.injEq] at h
            have shorter := length_of_readValue hvalue
            have settled := length_settle_le found.2
            rw [← h]
            simp only
            omega
      · next notSign =>
        split at h
        · have shorter := length_of_readIndented h
          have skipped := cursor.next.length_skipWhile_le fun c => c == ' ' || c == '\t'
          simp only [Cursor.rest_next, List.length_tail] at skipped
          omega
        · split at h
          · simp only [Except.ok.injEq] at h
            rw [← h]
            have settled := length_settle_le cursor.next
            simp only [Cursor.rest_next, List.length_tail] at settled ⊢
            omega
          · cases hread : readTo signs cursor with
            | error fault => simp [hread, bind, Except.bind] at h
            | ok found =>
              simp only [hread, bind, Except.bind, pure, Except.pure, Except.ok.injEq] at h
              have shorter := length_lt_of_readTo start
                (by simpa using notSign) hread
              have settled := length_settle_le found.2
              rw [← h]
              simp only
              omega

/-- Read the titles and entries from a place on, with a key that has no value yet. -/
def readItems (key : List Char) (cursor : Cursor) : Except Fault (List Item) :=
  match _hrest : cursor.rest with
  | [] => .ok []
  | c :: _ =>
    match _hpart : readPart key cursor c with
    | .error fault => .error fault
    | .ok step => (readItems step.key step.cursor).map (step.item.toList ++ ·)
termination_by cursor.rest.length
decreasing_by exact length_of_readPart _hrest _hpart

/-- A title and the entries under it. -/
structure Group where
  title : String
  entries : List (String × String)
  deriving DecidableEq, Repr

structure Document where
  /-- The entries before the first title. -/
  untitled : List (String × String) := []
  groups : List Group := []
  deriving DecidableEq, Repr

namespace Document

def ofItems : List Item → Document
  | [] => {}
  | .entry key value :: items =>
    let later := ofItems items
    { later with untitled := (key, value) :: later.untitled }
  | .title name :: items =>
    let later := ofItems items
    { groups := ⟨name, later.untitled⟩ :: later.groups }

def read (text : String) : Except Fault Document :=
  (readItems [] (Cursor.start text.toList)).map ofItems

end Document

end HotRod.Ini
