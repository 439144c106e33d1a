import SqlIdentifier.Identifier.Spelling
import SqlIdentifier.Proofs.Recognition
import SqlIdentifier.Proofs.RegularRun

namespace SqlIdentifier.Identifier

/-- Ways to write a text as an identifier. -/
inductive Spells (text : List Char) : List Char → Prop
  | delimited : Spells text (delimited text)
  | normalForm : Spells text (normalForm text)
  | unicodeDelimited {escape : Char} {written : List Char} :
      unicodeDelimited escape text = .ok written → Spells text written

/-- The text can be divided into the units of a quoted body. -/
def InUnits (content : List Char) : Prop :=
  ∃ units : List (List Char), units.flatten = content ∧ ∀ unit ∈ units, QuotedUnit unit

theorem InUnits.of_quoteless {content : List Char} (quoteless : '"' ∉ content) :
    InUnits content := by
  refine ⟨content.map ([·]), ?_, ?_⟩
  · rw [← List.flatMap_def, List.flatMap_singleton']
  · intro unit member
    obtain ⟨c, inside, rfl⟩ := List.mem_map.mp member
    exact Or.inl ⟨c, fun quote => quoteless (quote ▸ inside), rfl⟩

theorem InUnits.pair : InUnits ['"', '"'] :=
  ⟨[['"', '"']], rfl, by simp [QuotedUnit]⟩

theorem InUnits.flatMap {write : Char → List Char} (each : ∀ c, InUnits (write c))
    (text : List Char) : InUnits (text.flatMap write) := by
  induction text with
  | nil => exact ⟨[], rfl, by simp⟩
  | cons c rest ih =>
    obtain ⟨first, atFirst, areFirst⟩ := each c
    obtain ⟨later, atLater, areLater⟩ := ih
    refine ⟨first ++ later, ?_, ?_⟩
    · rw [List.flatten_append, atFirst, atLater, List.flatMap_cons]
    · intro unit member
      rcases List.mem_append.mp member with inFirst | inLater
      · exact areFirst unit inFirst
      · exact areLater unit inLater

theorem InUnits.exists_body {content : List Char} (inUnits : InUnits content)
    (nonempty : content ≠ []) : ∃ body : Body, body.text = content := by
  obtain ⟨units, same, areUnits⟩ := inUnits
  refine ⟨⟨units, ?_, areUnits⟩, same⟩
  intro empty
  rw [empty] at same
  exact nonempty same.symm

theorem exists_delimitedBody {text : List Char} (nonempty : text ≠ []) :
    ∃ body : Body, body.text = doubleQuotes text := by
  refine InUnits.exists_body (InUnits.flatMap ?_ text) ?_
  · intro c
    by_cases quote : c = '"'
    · rw [if_pos quote]
      exact InUnits.pair
    · rw [if_neg quote]
      exact InUnits.of_quoteless (by simpa using Ne.symm quote)
  · intro empty
    have halved := halveQuotes_doubleQuotes text
    rw [empty] at halved
    exact nonempty halved.symm

theorem doubleQuotes_cons (c : Char) (rest : List Char) :
    doubleQuotes (c :: rest) = doubleQuotes [c] ++ doubleQuotes rest := by
  simp only [doubleQuotes, List.flatMap_cons, List.flatMap_nil, List.append_nil]

/-- A unit is what one code point is written as between the quotes. -/
theorem quotedUnit_iff {unit : List Char} : QuotedUnit unit ↔ ∃ c, unit = doubleQuotes [c] := by
  constructor
  · rintro (⟨c, plain, rfl⟩ | rfl)
    · exact ⟨c, by simp [doubleQuotes, plain]⟩
    · exact ⟨'"', rfl⟩
  · rintro ⟨c, rfl⟩
    by_cases quote : c = '"'
    · exact Or.inr (by rw [quote]; rfl)
    · exact Or.inl ⟨c, quote, by simp [doubleQuotes, quote]⟩

theorem exists_source_of_units {units : List (List Char)}
    (areUnits : ∀ unit ∈ units, QuotedUnit unit) :
    ∃ source, units.flatten = doubleQuotes source ∧ units.length = source.length := by
  induction units with
  | nil => exact ⟨[], rfl, rfl⟩
  | cons unit later ih =>
    obtain ⟨c, rfl⟩ := quotedUnit_iff.mp (areUnits unit List.mem_cons_self)
    obtain ⟨source, written, length⟩ :=
      ih fun other member => areUnits other (List.mem_cons_of_mem _ member)
    refine ⟨c :: source, ?_, ?_⟩
    · rw [List.flatten_cons, written, ← doubleQuotes_cons]
    · rw [List.length_cons, length, List.length_cons]

/-- A body is a text with its quotes doubled, and has one unit for each code point of this text. -/
theorem Body.exists_source (body : Body) :
    ∃ source, source ≠ [] ∧ body.text = doubleQuotes source ∧
      body.units.length = source.length := by
  obtain ⟨source, written, length⟩ := exists_source_of_units body.areUnits
  refine ⟨source, ?_, written, length⟩
  rintro rfl
  exact body.nonempty (List.length_eq_zero_iff.mp length)

theorem exists_delimitedShape {text : List Char} (nonempty : text ≠ []) :
    ∃ body : Body, (Shape.delimited body).text = delimited text ∧
      ∀ position, ((Shape.delimited body).matchAt position).decode = checkLength text := by
  obtain ⟨body, written⟩ := exists_delimitedBody nonempty
  refine ⟨body, ?_, ?_⟩
  · rw [Shape.text, written]
    rfl
  · intro position
    rw [Shape.matchAt, Match.decode, written, halveQuotes_doubleQuotes]

/-- What the narrower grammar of normal forms accepts is a regular identifier by the wider one by
which identifiers are read, which has no limit of length. -/
theorem exists_regularShape {text : List Char}
    (accepted : Grammar.isoPostgresJavaRegular.accepts text = true) :
    ∃ shape : Shape, shape.kind = .regular ∧ shape.text = text := by
  obtain ⟨first, parts, rfl, starts, continues, _⟩ :=
    Grammar.accepts_cappedRegular_iff.mp accepted
  refine ⟨.regular first parts (CharClass.isoPostgresJavaStart_contained starts) ?_, rfl, rfl⟩
  intro c member
  exact CharClass.isoPostgresJavaPart_contained (continues c member)

theorem decode_regular {shape : Shape} (isRegular : shape.kind = .regular) (position : Nat) :
    (shape.matchAt position).decode = checkLength shape.text := by
  cases shape with
  | regular => rfl
  | delimited => simp [Shape.kind] at isRegular
  | unicodeDelimited => simp [Shape.kind] at isRegular

/-- Each character but the double quote is written as one escape unit for it. The order of the cases
is that of the writer: the escape character comes before all others. -/
theorem unicodeUnit_escapeUnit (escape : Char) {c : Char} (noQuote : c ≠ '"') :
    EscapeUnit escape (unicodeUnit escape c) c := by
  have scalar := Unicode.scalar?_toNat c
  have bound := Unicode.toNat_lt c
  have readable : c.toNat < Nat.pow 16 8 := Nat.lt_of_lt_of_le bound (by decide)
  unfold unicodeUnit
  by_cases same : c = escape
  · rw [if_pos same, same]
    exact .doubled
  rw [if_neg same, if_neg noQuote]
  by_cases printable : ' ' ≤ c ∧ c ≤ '~'
  · rw [if_pos printable]
    exact .plain same
  rw [if_neg printable]
  by_cases short : c.toNat ≤ 0xFFFF
  · rw [if_pos short]
    have fits : c.toNat < Nat.pow 16 4 := Nat.lt_of_le_of_lt short (by decide)
    exact .four (Hex.length_write (by decide) fits) (Hex.isDigit_of_mem_write 4 c.toNat)
      (Hex.read?_write (by decide) readable) scalar
  · rw [if_neg short]
    have fits : c.toNat < Nat.pow 16 6 := Nat.lt_of_lt_of_le bound (by decide)
    exact .six (Hex.length_write (by decide) fits) (Hex.isDigit_of_mem_write 6 c.toNat)
      (Hex.read?_write (by decide) readable) scalar

section Unicode

variable {escape : Char} (legal : CharClass.escapeCharacter.contains escape = true)

include legal

theorem escape_ne_quote : escape ≠ '"' :=
  (CharClass.escapeCharacter_contains_iff.mp legal).2.2.2.1

theorem unicodeUnit_quote : unicodeUnit escape '"' = ['"', '"'] := by
  rw [unicodeUnit, if_neg (escape_ne_quote legal).symm, if_pos rfl]

theorem unicodeUnit_inUnits (c : Char) : InUnits (unicodeUnit escape c) := by
  by_cases quote : c = '"'
  · rw [quote, unicodeUnit_quote legal]
    exact InUnits.pair
  · exact InUnits.of_quoteless
      ((unicodeUnit_escapeUnit escape quote).quoteless (escape_ne_quote legal) quote)

/-- Halving leaves one escape unit for each character. -/
theorem halveQuotes_unicodeUnits (text : List Char) :
    ∃ pieces : List (List Char × Char),
      halveQuotes (text.flatMap (unicodeUnit escape)) = pieces.flatMap Prod.fst ∧
        pieces.map Prod.snd = text ∧ ∀ piece ∈ pieces, EscapeUnit escape piece.1 piece.2 := by
  induction text with
  | nil => exact ⟨[], rfl, rfl, by simp⟩
  | cons c rest ih =>
    obtain ⟨pieces, halved, values, areUnits⟩ := ih
    have withUnit {unit : List Char} (isUnit : EscapeUnit escape unit c)
        (first : halveQuotes (unicodeUnit escape c ++ rest.flatMap (unicodeUnit escape)) =
          unit ++ halveQuotes (rest.flatMap (unicodeUnit escape))) :
        ∃ pieces : List (List Char × Char),
          halveQuotes ((c :: rest).flatMap (unicodeUnit escape)) = pieces.flatMap Prod.fst ∧
            pieces.map Prod.snd = c :: rest ∧
              ∀ piece ∈ pieces, EscapeUnit escape piece.1 piece.2 := by
      refine ⟨(unit, c) :: pieces, ?_, ?_, ?_⟩
      · rw [List.flatMap_cons, first, halved, List.flatMap_cons]
      · rw [List.map_cons, values]
      · intro piece member
        rcases List.mem_cons.mp member with rfl | later
        · exact isUnit
        · exact areUnits piece later
    by_cases quote : c = '"'
    · subst quote
      refine withUnit (.plain (escape_ne_quote legal).symm) ?_
      rw [unicodeUnit_quote legal, List.cons_append, List.cons_append, halveQuotes_pair]
      rfl
    · have isUnit := unicodeUnit_escapeUnit escape quote
      exact withUnit isUnit
        (halveQuotes_append (isUnit.quoteless (escape_ne_quote legal) quote) _)

theorem unescape_unicodeUnits (text : List Char) :
    unescape escape (halveQuotes (text.flatMap (unicodeUnit escape))) = .ok text := by
  obtain ⟨pieces, halved, values, areUnits⟩ := halveQuotes_unicodeUnits legal text
  rw [halved, unescape_units legal areUnits, values]

theorem exists_unicodeBody {text : List Char} (nonempty : text ≠ []) :
    ∃ body : Body, body.text = text.flatMap (unicodeUnit escape) := by
  refine InUnits.exists_body (InUnits.flatMap (unicodeUnit_inUnits legal) text) ?_
  intro empty
  have decoded := unescape_unicodeUnits legal text
  rw [empty, halveQuotes, unescape, unescapeFrom_end rfl] at decoded
  exact nonempty (Except.ok.inj decoded).symm

/-- The written clause names the escape character in effect, and its absence the default one. -/
theorem exists_clause :
    ∃ clause : Option Clause, (clause.map Clause.text).getD [] = escapeClause escape ∧
      (clause.map Clause.escape).getD defaultEscape = escape := by
  by_cases default : escape = defaultEscape
  · refine ⟨none, ?_, default.symm⟩
    rw [escapeClause, if_pos default]
    rfl
  · have blank : ∀ c ∈ [' '], CharClass.whiteSpace.contains c = true := by
      simp [CharClass.whiteSpace]
    let clause : Clause :=
      { before := [' '], word := "UESCAPE".toList, between := [' '], escape,
        beforeBlank := blank, isKeyword := by decide, betweenBlank := blank, isEscape := legal }
    refine ⟨some clause, ?_, rfl⟩
    rw [escapeClause, if_neg default]
    rfl

theorem exists_unicodeShape {text : List Char} (nonempty : text ≠ []) :
    ∃ shape : Shape, unicodeDelimited escape text = .ok shape.text ∧
      ∀ position, (shape.matchAt position).kind = .unicodeDelimited ∧
        (shape.matchAt position).escapeInEffect = some escape ∧
        (shape.matchAt position).decode = checkLength text := by
  obtain ⟨body, written⟩ := exists_unicodeBody legal nonempty
  obtain ⟨clause, clauseText, inEffect⟩ := exists_clause legal
  refine ⟨.unicodeDelimited 'U' (by simp) body clause, ?_, ?_⟩
  · rw [unicodeDelimited, if_pos legal, Shape.text, written, clauseText]
    simp
  · intro position
    refine ⟨rfl, ?_, ?_⟩
    · rw [Shape.matchAt, Match.escapeInEffect, inEffect]
    · rw [Shape.matchAt, Match.decode, inEffect, written, unescape_unicodeUnits legal]
      rfl

end Unicode

theorem unicodeDelimited_eq_error_iff {escape : Char} {text : List Char} {error : Error} :
    unicodeDelimited escape text = .error error ↔
      CharClass.escapeCharacter.contains escape = false ∧ error = .invalidEscapeCharacter escape := by
  unfold unicodeDelimited
  split
  · rename_i legal
    simp [legal]
  · rename_i illegal
    simp [illegal, eq_comm]

theorem unicodeDelimited_eq_ok_iff {escape : Char} {text written : List Char} :
    unicodeDelimited escape text = .ok written ↔
      CharClass.escapeCharacter.contains escape = true ∧
        written =
          "U&\"".toList ++ text.flatMap (unicodeUnit escape) ++ ['"'] ++ escapeClause escape := by
  unfold unicodeDelimited
  split
  · rename_i legal
    simp only [legal, true_and, Except.ok.injEq]
    exact eq_comm
  · rename_i illegal
    simp [illegal]

theorem checkLength_eq (text : List Char) :
    checkLength text =
      if text.length ≤ 128 then .ok text else .error (.lengthExceeded text.length 128) := by
  rw [checkLength, Grammar.maxLength]
  by_cases long : 128 < text.length
  · rw [if_pos long, if_neg (by omega)]
  · rw [if_neg long, if_pos (by omega)]

theorem parse_text (shape : Shape) : parse shape.text = (shape.matchAt 0).decode := by
  rw [parse, matchWhole?_text]

/-- Whatever way of writing is taken, it gives a shape that stands for the text. -/
theorem Spells.exists_shape {text written : List Char} (spelled : Spells text written)
    (nonempty : text ≠ []) :
    ∃ shape : Shape, shape.text = written ∧
      ∀ position, (shape.matchAt position).decode = checkLength text := by
  have quoted : ∃ shape : Shape, shape.text = Identifier.delimited text ∧
      ∀ position, (shape.matchAt position).decode = checkLength text := by
    obtain ⟨body, sameText, decodes⟩ := exists_delimitedShape nonempty
    exact ⟨.delimited body, sameText, decodes⟩
  cases spelled with
  | delimited => exact quoted
  | normalForm =>
    unfold Identifier.normalForm
    by_cases accepted : Grammar.isoPostgresJavaRegular.accepts text = true
    · rw [if_pos accepted]
      obtain ⟨shape, isRegular, sameText⟩ := exists_regularShape accepted
      refine ⟨shape, sameText, ?_⟩
      intro position
      rw [decode_regular isRegular, sameText]
    · rw [if_neg accepted]
      exact quoted
  | @unicodeDelimited escape _ wrote =>
    cases legal : CharClass.escapeCharacter.contains escape with
    | true =>
      obtain ⟨shape, wroteShape, reads⟩ := exists_unicodeShape legal nonempty
      rw [wrote] at wroteShape
      exact ⟨shape, (Except.ok.inj wroteShape).symm, fun position => (reads position).2.2⟩
    | false =>
      have refused : Identifier.unicodeDelimited escape text =
          .error (.invalidEscapeCharacter escape) :=
        unicodeDelimited_eq_error_iff.mpr ⟨legal, rfl⟩
      rw [wrote] at refused
      simp at refused

theorem Spells.parse_eq {text written : List Char} (spelled : Spells text written)
    (nonempty : text ≠ []) : parse written = checkLength text := by
  obtain ⟨shape, rfl, decodes⟩ := spelled.exists_shape nonempty
  rw [parse_text, decodes]

/-- A text is written with a given escape character exactly if this is a legal one, and is then read
back with it. Only the length of the text can make reading fail. -/
theorem parse_unicodeDelimited (escape : Char) (text : List Char) :
    (∀ error, unicodeDelimited escape text = .error error ↔
      CharClass.escapeCharacter.contains escape = false ∧
        error = .invalidEscapeCharacter escape) ∧
    (CharClass.escapeCharacter.contains escape = true ↔
      CharClass.hexDigit.contains escape = false ∧ escape ≠ '+' ∧ escape ≠ '\'' ∧ escape ≠ '"' ∧
        CharClass.whiteSpace.contains escape = false) ∧
    (CharClass.escapeCharacter.contains escape = true → text ≠ [] →
      ∃ written, unicodeDelimited escape text = .ok written ∧
        (∃ found, matchWhole? written = some found ∧ found.kind = .unicodeDelimited ∧
          found.escapeInEffect = some escape) ∧
        parse written =
          if text.length ≤ 128 then .ok text else .error (.lengthExceeded text.length 128)) := by
  refine ⟨fun _ => unicodeDelimited_eq_error_iff, CharClass.escapeCharacter_contains_iff, ?_⟩
  intro legal nonempty
  obtain ⟨shape, wrote, reads⟩ := exists_unicodeShape legal nonempty
  obtain ⟨isUnicode, inEffect, _⟩ := reads 0
  refine ⟨shape.text, wrote, ⟨shape.matchAt 0, matchWhole?_text shape, isUnicode, inEffect⟩, ?_⟩
  rw [(Spells.unicodeDelimited wrote).parse_eq nonempty, checkLength_eq]

/-- The escape character may be a letter of the keyword that also stands in the text. -/
theorem parse_unicodeDelimited_letter :
    CharClass.escapeCharacter.contains 'S' = true ∧ "S\"é".toList ≠ [] ∧
      ∃ written, unicodeDelimited 'S' "S\"é".toList = .ok written ∧
        (∃ found, matchWhole? written = some found ∧ found.kind = .unicodeDelimited ∧
          found.escapeInEffect = some 'S') ∧
        parse written = .ok "S\"é".toList := by
  have legal : CharClass.escapeCharacter.contains 'S' = true := by
    simp [CharClass.escapeCharacter, CharClass.hexDigit, CharClass.whiteSpace]
  have nonempty : "S\"é".toList ≠ [] := by decide
  exact ⟨legal, nonempty, (parse_unicodeDelimited 'S' "S\"é".toList).2.2 legal nonempty⟩

theorem length_le_doubleQuotes (text : List Char) : text.length ≤ (doubleQuotes text).length := by
  induction text with
  | nil => exact Nat.le_refl 0
  | cons c rest ih =>
    have unit : 1 ≤ (if c = '"' then ['"', '"'] else [c]).length := by split <;> simp
    rw [doubleQuotes] at ih
    rw [doubleQuotes, List.flatMap_cons, List.length_append, List.length_cons]
    omega

theorem delimited_ne_self (text : List Char) : delimited text ≠ text := by
  intro same
  have length := congrArg List.length same
  have longer := length_le_doubleQuotes text
  rw [delimited, List.length_append, List.length_cons] at length
  omega

/-- A text written plainly is read back, and only its length can make reading fail. A text that is
its own normal form is read as a regular identifier. -/
theorem parse_delimited_normalForm {text : List Char} (nonempty : text ≠ []) :
    (∃ span body, matchWhole? (delimited text) = some (.delimited span body)) ∧
    (∀ write ∈ [delimited, normalForm],
      parse (write text) =
        if text.length ≤ 128 then .ok text else .error (.lengthExceeded text.length 128)) ∧
    (normalForm text = text →
      ∃ span, matchWhole? (normalForm text) = some (.regular span text)) := by
  refine ⟨?_, ?_, ?_⟩
  · obtain ⟨body, sameText, _⟩ := exists_delimitedShape nonempty
    rw [← sameText, matchWhole?_text]
    exact ⟨_, _, rfl⟩
  · intro write listed
    have spelled : Spells text (write text) := by
      simp only [List.mem_cons, List.not_mem_nil, or_false] at listed
      rcases listed with rfl | rfl
      · exact .delimited
      · exact .normalForm
    rw [spelled.parse_eq nonempty, checkLength_eq]
  · intro unchanged
    rw [unchanged]
    by_cases accepted : Grammar.isoPostgresJavaRegular.accepts text = true
    · obtain ⟨shape, isRegular, sameText⟩ := exists_regularShape accepted
      cases shape with
      | regular first parts starts continues =>
        have whole := matchWhole?_text (.regular first parts starts continues)
        rw [sameText] at whole
        exact ⟨_, by rw [whole, Shape.matchAt, ← sameText]; rfl⟩
      | delimited => simp [Shape.kind] at isRegular
      | unicodeDelimited => simp [Shape.kind] at isRegular
    · rw [normalForm, if_neg accepted] at unchanged
      exact absurd unchanged (delimited_ne_self text)

/-- Quotes at both ends and in a row come back as they were, and a name is left as it is. -/
theorem parse_delimited_normalForm_quotes :
    "\"a\"\"".toList ≠ [] ∧
      (∃ span body, matchWhole? (delimited "\"a\"\"".toList) = some (.delimited span body)) ∧
      parse (delimited "\"a\"\"".toList) = .ok "\"a\"\"".toList ∧
      parse (normalForm "\"a\"\"".toList) = .ok "\"a\"\"".toList ∧
      "été_1".toList ≠ [] ∧ normalForm "été_1".toList = "été_1".toList ∧
      ∃ span, matchWhole? (normalForm "été_1".toList) = some (.regular span "été_1".toList) := by
  have nonempty : "\"a\"\"".toList ≠ [] := by decide
  have nonempty' : "été_1".toList ≠ [] := by decide
  have unchanged : normalForm "été_1".toList = "été_1".toList := by decide +kernel
  obtain ⟨isDelimited, readBack, _⟩ := parse_delimited_normalForm nonempty
  exact ⟨nonempty, isDelimited, readBack delimited (by simp), readBack normalForm (by simp),
    nonempty', unchanged, (parse_delimited_normalForm nonempty').2.2 unchanged⟩

end SqlIdentifier.Identifier
