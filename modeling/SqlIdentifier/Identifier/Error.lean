import SqlIdentifier.Text.Literal

namespace SqlIdentifier.Identifier

/-- Why a text is not an identifier, or cannot be written as one. Offsets are in bytes. -/
inductive Error where
  | noMatch (position : Nat)
  | malformedEscape (offset : Nat) (escape : Char)
  /-- An escape names a surrogate or a number above U+10FFFF. -/
  | invalidCodePoint (offset value : Nat)
  | lengthExceeded (length most : Nat)
  | invalidEscapeCharacter (escape : Char)
  deriving DecidableEq, Repr

namespace Error

def message : Error → String
  | noMatch position => s!"No identifier at byte {position}"
  | malformedEscape offset escape =>
    s!"Malformed Unicode escape at byte {offset}: '{escape}' must be followed by '{escape}', " ++
      "4 hex digits, or '+' and 6 hex digits"
  | invalidCodePoint offset value =>
    let number := String.ofList (Hex.write 4 value)
    s!"Invalid code point U+{number} at byte {offset}"
  | lengthExceeded length most =>
    s!"Identifier is {length} code points long, maximum is {most}"
  | invalidEscapeCharacter escape =>
    "Invalid escape character: " ++ Text.charLiteral escape

end Error

end SqlIdentifier.Identifier
