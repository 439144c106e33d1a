import SqlIdentifier.Identifier.Match
import SqlIdentifier.Proofs.Delimiters
import SqlIdentifier.Proofs.Repetition

namespace SqlIdentifier.Identifier

/-- One unit between the quotes: a code point other than the double quote, or two double quotes. -/
def QuotedUnit (unit : List Char) : Prop :=
  (∃ c, c ≠ '"' ∧ unit = [c]) ∨ unit = ['"', '"']

theorem quotedUnit_prefixCode : PrefixCode QuotedUnit where
  ne_nil := by
    intro unit isUnit
    rcases isUnit with ⟨c, _, rfl⟩ | rfl
    · simp
    · simp
  eq_of_append := by
    intro left right more more' isUnit isUnit' same
    rcases isUnit with ⟨c, plain, rfl⟩ | rfl
    · rcases isUnit' with ⟨d, _, rfl⟩ | rfl
      · rw [(List.cons.inj same).1]
      · exact absurd (List.cons.inj same).1 plain
    · rcases isUnit' with ⟨d, plain, rfl⟩ | rfl
      · exact absurd (List.cons.inj same).1.symm plain
      · rfl

/-- A double quote starts no unit exactly if no second one follows, and then it closes the body. -/
theorem startsNoItem_quote_iff {after : List Char} :
    StartsNoItem QuotedUnit ('"' :: after) ↔ after.head? ≠ some '"' := by
  constructor
  · intro ended doubled
    obtain ⟨rest, rfl⟩ := List.head?_eq_some_iff.mp doubled
    exact ended ['"', '"'] rest (Or.inr rfl) rfl
  · intro single unit more isUnit same
    rcases isUnit with ⟨c, plain, rfl⟩ | rfl
    · exact plain (List.cons.inj same).1.symm
    · rw [(List.cons.inj same).2] at single
      exact single rfl

/-- What stands between the quotes, by units. -/
structure Body where
  units : List (List Char)
  nonempty : units ≠ []
  areUnits : ∀ unit ∈ units, QuotedUnit unit

def Body.text (body : Body) : List Char :=
  body.units.flatten

theorem Body.ext {body body' : Body} (same : body.units = body'.units) : body = body' := by
  cases body
  cases body'
  cases same
  rfl

/-- A body ends where its quote is not doubled, so that text behind it does not blur it. -/
theorem Body.unique {body body' : Body} {after after' : List Char}
    (single : after.head? ≠ some '"') (single' : after'.head? ≠ some '"')
    (same : body.text ++ '"' :: after = body'.text ++ '"' :: after') :
    body = body' ∧ after = after' := by
  have run : PossessiveRun QuotedUnit none body.units ('"' :: after) :=
    ⟨body.areUnits, by simp, Or.inl (startsNoItem_quote_iff.mpr single)⟩
  have run' : PossessiveRun QuotedUnit none body'.units ('"' :: after') :=
    ⟨body'.areUnits, by simp, Or.inl (startsNoItem_quote_iff.mpr single')⟩
  obtain ⟨sameUnits, sameAfter⟩ := run.unique quotedUnit_prefixCode run' same
  exact ⟨Body.ext sameUnits, (List.cons.inj sameAfter).2⟩

/-- A clause that names the escape character: its keyword in any mix of cases with optional white
space around it, and the character in single quotes. -/
structure Clause where
  before : List Char
  word : List Char
  between : List Char
  escape : Char
  beforeBlank : ∀ c ∈ before, CharClass.whiteSpace.contains c = true
  isKeyword : Text.eqIgnoringCase word "UESCAPE".toList = true
  betweenBlank : ∀ c ∈ between, CharClass.whiteSpace.contains c = true
  isEscape : CharClass.escapeCharacter.contains escape = true

namespace Clause

def text (clause : Clause) : List Char :=
  clause.before ++ (clause.word ++ (clause.between ++ ['\'', clause.escape, '\'']))

/-- Where the escape character stands in a clause that starts at a byte offset. -/
def escapeSpan (position : Nat) (clause : Clause) : Span :=
  let start := position +
    Text.byteSize (clause.before ++ (clause.word ++ (clause.between ++ ['\''])))
  ⟨start, start + clause.escape.utf8Size⟩

theorem word_parts (clause : Clause) :
    ∀ c ∈ clause.word, CharClass.isoPostgresPart.contains c = true :=
  Text.isoPostgresPart_of_uescape clause.isKeyword

theorem word_ne_nil (clause : Clause) : clause.word ≠ [] := by
  intro empty
  have length := Text.length_of_eqIgnoringCase clause.isKeyword
  rw [empty] at length
  simp at length

theorem head?_word_append (clause : Clause) (more : List Char) :
    ∀ c ∈ (clause.word ++ more).head?, CharClass.isoPostgresPart.contains c = true :=
  CharClass.head?_members_append clause.word_ne_nil clause.word_parts more

/-- The white space before the keyword ends at the keyword, a letter. -/
theorem word_not_blank (clause : Clause) (more : List Char) :
    ∀ c ∈ (clause.word ++ more).head?, CharClass.whiteSpace.contains c = false := by
  intro c first
  have part := clause.head?_word_append more c first
  cases blank : CharClass.whiteSpace.contains c with
  | false => rfl
  | true =>
    exact (CharClass.not_inside_and_outside part
      (CharClass.isoPostgresPart_not_whiteSpace blank)).elim

/-- The keyword ends at white space or at the quote, neither of them a part of an identifier. -/
theorem word_ends (clause : Clause) (more : List Char) :
    ∀ c ∈ (clause.between ++ '\'' :: more).head?,
      CharClass.isoPostgresPart.contains c = false := by
  intro c first
  have blank := clause.betweenBlank
  cases atBetween : clause.between with
  | nil =>
    rw [atBetween] at first
    cases Option.some.inj first
    exact CharClass.isoPostgresPart_not_punctuation _ (by simp)
  | cons d later =>
    rw [atBetween] at first blank
    cases Option.some.inj first
    exact CharClass.isoPostgresPart_not_whiteSpace (blank c List.mem_cons_self)

theorem quote_not_blank (more : List Char) :
    ∀ c ∈ ('\'' :: more).head?, CharClass.whiteSpace.contains c = false :=
  CharClass.head?_outside (CharClass.whiteSpace_not_punctuation '\'' (by simp)) more

theorem ext {clause clause' : Clause} (before : clause.before = clause'.before)
    (word : clause.word = clause'.word) (between : clause.between = clause'.between)
    (escape : clause.escape = clause'.escape) : clause = clause' := by
  cases clause
  cases clause'
  cases before
  cases word
  cases between
  cases escape
  rfl

theorem unique {clause clause' : Clause} {after after' : List Char}
    (same : clause.text ++ after = clause'.text ++ after') :
    clause = clause' ∧ after = after' := by
  simp only [text, List.append_assoc, List.cons_append, List.nil_append] at same
  obtain ⟨sameBefore, same⟩ := CharClass.run_unique clause.beforeBlank clause'.beforeBlank
    (clause.word_not_blank _) (clause'.word_not_blank _) same
  obtain ⟨sameWord, same⟩ := CharClass.run_unique clause.word_parts clause'.word_parts
    (clause.word_ends _) (clause'.word_ends _) same
  obtain ⟨sameBetween, same⟩ := CharClass.run_unique clause.betweenBlank clause'.betweenBlank
    (quote_not_blank _) (quote_not_blank _) same
  simp only [List.cons.injEq, true_and] at same
  exact ⟨ext sameBefore sameWord sameBetween same.1, same.2⟩

/-- A clause does not start with a double quote, so that it closes the body before it. -/
theorem head?_text_append (clause : Clause) (after : List Char) :
    (clause.text ++ after).head? ≠ some '"' := by
  intro first
  have blank := clause.beforeBlank
  rw [text, List.append_assoc] at first
  cases atBefore : clause.before with
  | nil =>
    rw [atBefore, List.nil_append, List.append_assoc] at first
    exact CharClass.not_inside_and_outside (clause.head?_word_append _ '"' first)
      (CharClass.isoPostgresPart_not_punctuation '"' (by simp))
  | cons d later =>
    rw [atBefore] at first blank
    cases Option.some.inj first
    exact CharClass.not_inside_and_outside (blank '"' List.mem_cons_self)
      (CharClass.whiteSpace_not_punctuation '"' (by simp))

end Clause

/-- An identifier as written, by its form and its parts. -/
inductive Shape where
  | regular (first : Char) (parts : List Char)
      (starts : CharClass.isoPostgresStart.contains first = true)
      (continues : ∀ c ∈ parts, CharClass.isoPostgresPart.contains c = true)
  | delimited (body : Body)
  | unicodeDelimited (letter : Char) (isLetter : letter ∈ ['U', 'u']) (body : Body)
      (clause : Option Clause)

namespace Shape

def kind : Shape → Kind
  | regular .. => .regular
  | delimited .. => .delimited
  | unicodeDelimited .. => .unicodeDelimited

def text : Shape → List Char
  | regular first parts _ _ => first :: parts
  | delimited body => '"' :: (body.text ++ ['"'])
  | unicodeDelimited letter _ body clause =>
    letter :: '&' :: '"' :: (body.text ++ '"' :: (clause.map Clause.text).getD [])

/-- The text that follows does not carry the identifier on: no further part, no second quote behind
the closing one, and no clause behind an identifier without one. -/
def ClosedBy : Shape → List Char → Prop
  | regular .., after => ∀ c ∈ after.head?, CharClass.isoPostgresPart.contains c = false
  | delimited _, after => after.head? ≠ some '"'
  | unicodeDelimited _ _ _ none, after =>
    after.head? ≠ some '"' ∧ ∀ (clause : Clause) more, after ≠ clause.text ++ more
  | unicodeDelimited _ _ _ (some _), _ => True

/-- Where the body and the escape character stand in a shape at a byte offset. -/
def captures (position : Nat) : Shape → Captures
  | regular .. => {}
  | delimited body =>
    { body := some ⟨position + 1, position + 1 + Text.byteSize body.text⟩ }
  | unicodeDelimited _ _ body clause =>
    { body := some ⟨position + 3, position + 3 + Text.byteSize body.text⟩
      escape := clause.map (Clause.escapeSpan (position + 3 + Text.byteSize body.text + 1)) }

/-- What is recognised where the shape stands at a byte offset. -/
def matchAt (position : Nat) : Shape → Match
  | shape@(regular first parts _ _) =>
    .regular ⟨position, position + Text.byteSize shape.text⟩ (first :: parts)
  | shape@(delimited body) =>
    .delimited ⟨position, position + Text.byteSize shape.text⟩ body.text
  | shape@(unicodeDelimited _ _ body clause) =>
    .unicodeDelimited ⟨position, position + Text.byteSize shape.text⟩ body.text
      (clause.map Clause.escape)

theorem closedBy_nil (shape : Shape) : shape.ClosedBy [] := by
  cases shape with
  | regular => simp [ClosedBy]
  | delimited => simp [ClosedBy]
  | unicodeDelimited letter isLetter body clause =>
    cases clause with
    | some clause => trivial
    | none =>
      refine ⟨by simp, ?_⟩
      intro clause more same
      have empty := (List.append_eq_nil_iff.mp same.symm).1
      simp [Clause.text] at empty

/-- What follows the closing quote of a Unicode delimited identifier is no second quote. -/
theorem head?_clause_append {letter : Char} {isLetter : letter ∈ ['U', 'u']} {body : Body}
    {clause : Option Clause} {after : List Char}
    (closed : (unicodeDelimited letter isLetter body clause).ClosedBy after) :
    ((clause.map Clause.text).getD [] ++ after).head? ≠ some '"' := by
  cases clause with
  | none => exact closed.1
  | some clause => exact clause.head?_text_append after

theorem clause_unique {letter letter' : Char} {isLetter : letter ∈ ['U', 'u']}
    {isLetter' : letter' ∈ ['U', 'u']} {body body' : Body} {clause clause' : Option Clause}
    {after after' : List Char}
    (closed : (unicodeDelimited letter isLetter body clause).ClosedBy after)
    (closed' : (unicodeDelimited letter' isLetter' body' clause').ClosedBy after')
    (same : (clause.map Clause.text).getD [] ++ after =
      (clause'.map Clause.text).getD [] ++ after') :
    clause = clause' ∧ after = after' := by
  cases clause with
  | none =>
    cases clause' with
    | none => exact ⟨rfl, same⟩
    | some clause' => exact absurd same (closed.2 clause' after')
  | some clause =>
    cases clause' with
    | none => exact absurd same.symm (closed'.2 clause after)
    | some clause' =>
      obtain ⟨sameClause, sameAfter⟩ := Clause.unique same
      exact ⟨by rw [sameClause], sameAfter⟩

/-- At one place in a text at most one closed identifier of each form stands. -/
theorem unique {shape shape' : Shape} {after after' : List Char}
    (sameKind : shape.kind = shape'.kind) (closed : shape.ClosedBy after)
    (closed' : shape'.ClosedBy after') (same : shape.text ++ after = shape'.text ++ after') :
    shape = shape' ∧ after = after' := by
  cases shape with
  | regular first parts starts continues =>
    cases shape' with
    | regular first' parts' starts' continues' =>
      simp only [text, List.cons_append, List.cons.injEq] at same
      obtain ⟨rfl, same⟩ := same
      obtain ⟨rfl, sameAfter⟩ := CharClass.run_unique continues continues' closed closed' same
      exact ⟨rfl, sameAfter⟩
    | delimited => simp [kind] at sameKind
    | unicodeDelimited => simp [kind] at sameKind
  | delimited body =>
    cases shape' with
    | regular => simp [kind] at sameKind
    | delimited body' =>
      simp only [text, List.cons_append, List.append_assoc, List.nil_append, List.cons.injEq,
        true_and] at same
      obtain ⟨rfl, sameAfter⟩ := Body.unique closed closed' same
      exact ⟨rfl, sameAfter⟩
    | unicodeDelimited => simp [kind] at sameKind
  | unicodeDelimited letter isLetter body clause =>
    cases shape' with
    | regular => simp [kind] at sameKind
    | delimited => simp [kind] at sameKind
    | unicodeDelimited letter' isLetter' body' clause' =>
      simp only [text, List.cons_append, List.append_assoc, List.cons.injEq, true_and] at same
      obtain ⟨rfl, same⟩ := same
      obtain ⟨rfl, sameClause⟩ := Body.unique (head?_clause_append closed)
        (head?_clause_append closed') same
      obtain ⟨rfl, sameAfter⟩ := clause_unique closed closed' sameClause
      exact ⟨rfl, sameAfter⟩

theorem start_ne_quote {first : Char}
    (starts : CharClass.isoPostgresStart.contains first = true) : first ≠ '"' := by
  intro isQuote
  rw [isQuote] at starts
  exact CharClass.not_inside_and_outside (CharClass.isoPostgresStart_contained starts)
    (CharClass.isoPostgresPart_not_punctuation '"' (by simp))

/-- A regular identifier that is one code point before an ampersand, as the letter is which starts a
Unicode delimited identifier. -/
structure LetterOnly (shape : Shape) (after : List Char) : Prop where
  isRegular : shape.kind = .regular
  single : shape.text.length = 1
  ampersand : after.head? = some '&'

/-- Identifiers that start together have one form, unless one of them is only the letter that starts
the other. -/
theorem kind_cases {shape shape' : Shape} {after after' : List Char}
    (same : shape.text ++ after = shape'.text ++ after') :
    shape.kind = shape'.kind ∨
      (shape.LetterOnly after ∧ shape'.kind = .unicodeDelimited) ∨
      (shape'.LetterOnly after' ∧ shape.kind = .unicodeDelimited) := by
  have regularQuoted {first : Char} {more : List Char}
      (starts : CharClass.isoPostgresStart.contains first = true) {later : List Char} :
      first :: more ≠ '"' :: later := by
    intro equal
    exact start_ne_quote starts (List.cons.inj equal).1
  have quotedUnicode {letter : Char} (isLetter : letter ∈ ['U', 'u']) {later later' : List Char} :
      '"' :: later ≠ letter :: later' := by
    intro equal
    rw [← (List.cons.inj equal).1] at isLetter
    simp at isLetter
  -- the ampersand is no part, so that the regular identifier ends before it
  have letterOnly {first letter : Char} {parts more later : List Char}
      {starts : CharClass.isoPostgresStart.contains first = true}
      {continues : ∀ c ∈ parts, CharClass.isoPostgresPart.contains c = true}
      (equal : first :: (parts ++ more) = letter :: '&' :: later) :
      (regular first parts starts continues).LetterOnly more := by
    cases parts with
    | nil => exact ⟨rfl, rfl, congrArg List.head? (List.cons.inj equal).2⟩
    | cons d others =>
      have part := continues d List.mem_cons_self
      rw [(List.cons.inj (List.cons.inj equal).2).1] at part
      exact (CharClass.not_inside_and_outside part
        (CharClass.isoPostgresPart_not_punctuation '&' (by simp))).elim
  cases shape with
  | regular first parts starts continues =>
    cases shape' with
    | regular => exact Or.inl rfl
    | delimited => exact absurd same (regularQuoted starts)
    | unicodeDelimited => exact Or.inr (Or.inl ⟨letterOnly same, rfl⟩)
  | delimited body =>
    cases shape' with
    | regular first parts starts continues => exact absurd same.symm (regularQuoted starts)
    | delimited => exact Or.inl rfl
    | unicodeDelimited letter isLetter => exact absurd same (quotedUnicode isLetter)
  | unicodeDelimited letter isLetter =>
    cases shape' with
    | regular first parts starts continues => exact Or.inr (Or.inr ⟨letterOnly same.symm, rfl⟩)
    | delimited => exact absurd same.symm (quotedUnicode isLetter)
    | unicodeDelimited => exact Or.inl rfl

/-- No text has two of the forms. -/
theorem kind_eq_of_text {shape shape' : Shape} (same : shape.text = shape'.text) :
    shape.kind = shape'.kind := by
  have whole : shape.text ++ [] = shape'.text ++ [] := by rw [same]
  rcases kind_cases whole with sameKind | ⟨letter, _⟩ | ⟨letter, _⟩
  · exact sameKind
  · exact absurd letter.ampersand (by simp)
  · exact absurd letter.ampersand (by simp)

/-- The text of an identifier determines its form and all its parts. -/
theorem text_injective {shape shape' : Shape} (same : shape.text = shape'.text) :
    shape = shape' := by
  have whole : shape.text ++ [] = shape'.text ++ [] := by rw [same]
  exact (unique (kind_eq_of_text same) shape.closedBy_nil shape'.closedBy_nil whole).1

theorem text_ne_nil (shape : Shape) : shape.text ≠ [] := by
  cases shape <;> simp [text]

end Shape

end SqlIdentifier.Identifier
