import SqlIdentifier.Text.Hex

namespace SqlIdentifier

/-- A place between two code points of a text: the bytes before it and the text after it. -/
structure Cursor where
  position : Nat
  rest : List Char
  deriving DecidableEq, Repr

namespace Cursor

def start (text : List Char) : Cursor :=
  ⟨0, text⟩

/-- The cursor at a byte offset. There is none past the end or inside a code point. -/
def at? (text : List Char) (position : Nat) : Option Cursor :=
  (Text.splitAt? text position).map fun (_, rest) => ⟨position, rest⟩

def peek? (cursor : Cursor) : Option Char :=
  cursor.rest.head?

def next? (cursor : Cursor) : Option (Char × Cursor) :=
  match cursor.rest with
  | [] => none
  | c :: rest => some (c, ⟨cursor.position + c.utf8Size, rest⟩)

/-- Passes over the given number of code points, or over all that are left. -/
def skip : Nat → Cursor → Cursor
  | 0, cursor => cursor
  | count + 1, cursor =>
    match cursor.next? with
    | none => cursor
    | some (_, behind) => skip count behind

def nextIf? (accepts : Char → Bool) (cursor : Cursor) : Option (Char × Cursor) :=
  match cursor.next? with
  | none => none
  | some (c, behind) => if accepts c then some (c, behind) else none

def accept? (expected : Char) (cursor : Cursor) : Option Cursor :=
  (cursor.nextIf? (· == expected)).map Prod.snd

def acceptText? (expected : List Char) (cursor : Cursor) : Option Cursor :=
  if expected.isPrefixOf cursor.rest then some (cursor.skip expected.length) else none

/-- The cursor behind the expected word in any mix of ASCII cases. As many bytes as the word has are
compared with it. -/
def acceptWord? (expected : List Char) (cursor : Cursor) : Option Cursor :=
  match Text.splitAt? cursor.rest (Text.byteSize expected) with
  | none => none
  | some (ahead, rest) =>
    if Text.eqIgnoringCase ahead expected then
      some ⟨cursor.position + Text.byteSize expected, rest⟩
    else none

def takeHex? (count : Nat) (cursor : Cursor) : Option (List Char × Cursor) :=
  match Text.splitAt? cursor.rest count with
  | none => none
  | some (digits, rest) =>
    if digits.all Hex.isDigit then some (digits, ⟨cursor.position + count, rest⟩) else none

theorem at?_eq_some_iff {text : List Char} {position : Nat} {cursor : Cursor} :
    at? text position = some cursor ↔
      cursor.position = position ∧
        ∃ before, text = before ++ cursor.rest ∧ position = Text.byteSize before := by
  simp only [at?, Option.map_eq_some_iff, Prod.exists, Text.splitAt?_eq_some_iff]
  constructor
  · rintro ⟨before, rest, ⟨parts, size⟩, rfl⟩
    exact ⟨rfl, before, parts, size⟩
  · rintro ⟨rfl, before, parts, size⟩
    exact ⟨before, cursor.rest, ⟨parts, size⟩, rfl⟩

theorem next?_rest_length {cursor behind : Cursor} {c : Char}
    (found : cursor.next? = some (c, behind)) :
    behind.rest.length + 1 = cursor.rest.length := by
  unfold next? at found
  split at found
  next => simp at found
  next c' rest atRest =>
    simp only [Option.some.injEq, Prod.mk.injEq] at found
    obtain ⟨_, rfl⟩ := found
    simp [atRest]

theorem accept?_rest_length {expected : Char} {cursor behind : Cursor}
    (found : cursor.accept? expected = some behind) :
    behind.rest.length + 1 = cursor.rest.length := by
  simp only [accept?, nextIf?, Option.map_eq_some_iff] at found
  obtain ⟨⟨c, behind'⟩, found, rfl⟩ := found
  split at found
  next => simp at found
  next c' behind'' stepped =>
    split at found
    next =>
      simp only [Option.some.injEq, Prod.mk.injEq] at found
      obtain ⟨rfl, rfl⟩ := found
      exact next?_rest_length stepped
    next => simp at found

theorem takeHex?_rest_length {count : Nat} {cursor behind : Cursor} {digits : List Char}
    (found : cursor.takeHex? count = some (digits, behind)) :
    behind.rest.length ≤ cursor.rest.length := by
  unfold takeHex? at found
  split at found
  next => simp at found
  next digits' rest cut =>
    obtain ⟨parts, _⟩ := Text.splitAt?_eq_some_iff.mp cut
    split at found
    next =>
      simp only [Option.some.injEq, Prod.mk.injEq] at found
      obtain ⟨rfl, rfl⟩ := found
      simp [parts]
    next => simp at found

end Cursor

end SqlIdentifier
