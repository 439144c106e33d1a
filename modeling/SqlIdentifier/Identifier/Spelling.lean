import SqlIdentifier.Identifier.Match

namespace SqlIdentifier.Identifier

def doubleQuotes (text : List Char) : List Char :=
  text.flatMap fun c => if c = '"' then ['"', '"'] else [c]

def delimited (text : List Char) : List Char :=
  '"' :: doubleQuotes text ++ ['"']

/-- One code point in the body of a Unicode delimited identifier. Printable ASCII stands for itself;
the double quote and the escape character are written twice. -/
def unicodeUnit (escape c : Char) : List Char :=
  if c = escape then [escape, escape]
  else if c = '"' then ['"', '"']
  else if ' ' ≤ c ∧ c ≤ '~' then [c]
  else if c.toNat ≤ 0xFFFF then escape :: Hex.write 4 c.toNat
  else escape :: '+' :: Hex.write 6 c.toNat

/-- The clause that names an escape character other than the default one. -/
def escapeClause (escape : Char) : List Char :=
  if escape = defaultEscape then [] else " UESCAPE '".toList ++ [escape, '\'']

def unicodeDelimited (escape : Char) (text : List Char) : Except Error (List Char) :=
  if CharClass.escapeCharacter.contains escape then
    .ok ("U&\"".toList ++ text.flatMap (unicodeUnit escape) ++ ['"'] ++ escapeClause escape)
  else .error (.invalidEscapeCharacter escape)

/-- The text itself if it is a regular identifier by ISO SQL, PostgreSQL and Java, and otherwise
the text in double quotes. -/
def normalForm (text : List Char) : List Char :=
  if Grammar.isoPostgresJavaRegular.accepts text then text else delimited text

theorem halveQuotes_doubleQuotes (text : List Char) : halveQuotes (doubleQuotes text) = text := by
  induction text with
  | nil => rfl
  | cons c rest ih =>
    by_cases quote : c = '"'
    · subst quote
      simpa [doubleQuotes, halveQuotes] using ih
    · have single : doubleQuotes (c :: rest) = c :: doubleQuotes rest := by
        simp [doubleQuotes, quote]
      rw [single, halveQuotes, ih]
      rintro _ rfl
      exact absurd rfl quote

end SqlIdentifier.Identifier
