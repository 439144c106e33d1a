import SqlIdentifier.Cursor
import SqlIdentifier.Identifier.Error
import SqlIdentifier.Unicode.Scalar

namespace SqlIdentifier.Identifier

def halveQuotes : List Char → List Char
  | '"' :: '"' :: rest => '"' :: halveQuotes rest
  | c :: rest => c :: halveQuotes rest
  | [] => []

/-- What the escape character introduces, and the cursor behind it. The cursor stands behind the
escape character, which has the given offset. -/
def readEscape (escape : Char) (offset : Nat) (cursor : Cursor) : Except Error (Char × Cursor) :=
  match cursor.accept? escape with
  | some behind => .ok (escape, behind)
  | none =>
    let number :=
      match cursor.accept? '+' with
      | some behind => behind.takeHex? 6
      | none => cursor.takeHex? 4
    match number.bind fun (digits, behind) => (Hex.read? digits).map (·, behind) with
    | none => .error (.malformedEscape offset escape)
    | some (value, behind) =>
      match Unicode.scalar? value with
      | none => .error (.invalidCodePoint offset value)
      | some c => .ok (c, behind)

theorem readEscape_rest_length {escape c : Char} {offset : Nat} {cursor behind : Cursor}
    (found : readEscape escape offset cursor = .ok (c, behind)) :
    behind.rest.length ≤ cursor.rest.length := by
  unfold readEscape at found
  split at found
  next behind' accepted =>
    simp only [Except.ok.injEq, Prod.mk.injEq] at found
    obtain ⟨rfl, rfl⟩ := found
    have := Cursor.accept?_rest_length accepted
    omega
  next =>
    simp only at found
    split at found
    next => simp at found
    next value behind' read =>
      have shorter : behind'.rest.length ≤ cursor.rest.length := by
        simp only [Option.bind_eq_some_iff, Prod.exists, Option.map_eq_some_iff,
          Prod.mk.injEq] at read
        obtain ⟨digits, behind'', taken, _, _, _, rfl⟩ := read
        split at taken
        next behindPlus plus =>
          have := Cursor.accept?_rest_length plus
          have := Cursor.takeHex?_rest_length taken
          omega
        next => exact Cursor.takeHex?_rest_length taken
      split at found
      next => simp at found
      next =>
        simp only [Except.ok.injEq, Prod.mk.injEq] at found
        obtain ⟨_, rfl⟩ := found
        exact shorter

/-- Resolves the escapes from a cursor on, up to the first that is not one. -/
def unescapeFrom (escape : Char) (cursor : Cursor) : Except Error (List Char) :=
  match _step : cursor.next? with
  | none => .ok []
  | some (c, behind) =>
    if c = escape then
      match _read : readEscape escape cursor.position behind with
      | .error error => .error error
      | .ok (value, after) => (unescapeFrom escape after).map (value :: ·)
    else (unescapeFrom escape behind).map (c :: ·)
termination_by cursor.rest.length
decreasing_by
  all_goals
    have := Cursor.next?_rest_length _step
  · have := readEscape_rest_length _read
    omega
  · omega

/-- Resolves the escapes of a text. Offsets in errors are those of the escape character. -/
def unescape (escape : Char) (text : List Char) : Except Error (List Char) :=
  unescapeFrom escape (.start text)

end SqlIdentifier.Identifier
