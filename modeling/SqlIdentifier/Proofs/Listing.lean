import SqlIdentifier.Proofs.RoundTrip
import SqlIdentifier.Proofs.ScanLoop

namespace SqlIdentifier

namespace CharClass

/-- What may stand between the entries of a list. -/
def listSeparator : CharClass :=
  .union [.chars [','], whiteSpace]

theorem listSeparator_contains_iff {c : Char} :
    listSeparator.contains c = true ↔ c = ',' ∨ whiteSpace.contains c = true := by
  simp [listSeparator]

theorem listSeparator_of_whiteSpace {c : Char} (blank : whiteSpace.contains c = true) :
    listSeparator.contains c = true :=
  listSeparator_contains_iff.mpr (Or.inr blank)

theorem isoPostgresPart_not_listSeparator {c : Char} (separates : listSeparator.contains c = true) :
    isoPostgresPart.contains c = false := by
  rcases listSeparator_contains_iff.mp separates with rfl | blank
  · exact isoPostgresPart_not_punctuation ',' (by simp)
  · exact isoPostgresPart_not_whiteSpace blank

theorem listSeparator_not_part {c : Char} (part : isoPostgresPart.contains c = true) :
    listSeparator.contains c = false := by
  cases separates : listSeparator.contains c with
  | false => rfl
  | true => exact (not_inside_and_outside part (isoPostgresPart_not_listSeparator separates)).elim

theorem listSeparator_not_punctuation :
    ∀ c ∈ ['"', '\'', '&'], listSeparator.contains c = false := by
  simp [listSeparator, whiteSpace]

end CharClass

namespace Identifier

theorem Opens.not_listSeparator {c : Char} (opens : Opens c) :
    CharClass.listSeparator.contains c = false := by
  rcases opens with starts | rfl
  · exact CharClass.listSeparator_not_part (CharClass.isoPostgresStart_contained starts)
  · exact CharClass.listSeparator_not_punctuation '"' (by simp)

/-- A text and a way in which it is written. -/
structure Entry where
  text : List Char
  written : List Char
  nonempty : text ≠ []
  spelled : Spells text written

structure Separator where
  chars : List Char
  nonempty : chars ≠ []
  separates : ∀ c ∈ chars, CharClass.listSeparator.contains c = true

/-- Entries with separators between them. A separator may also stand behind the last entry. -/
inductive Listing where
  | empty
  | last (entry : Entry)
  | cons (entry : Entry) (separator : Separator) (later : Listing)

namespace Listing

def text : Listing → List Char
  | empty => []
  | last entry => entry.written
  | cons entry separator later => entry.written ++ (separator.chars ++ later.text)

def entries : Listing → List Entry
  | empty => []
  | last entry => [entry]
  | cons entry _ later => entry :: later.entries

/-- Where the entries stand in a listing that starts at a byte offset. -/
def spans (position : Nat) : Listing → List Span
  | empty => []
  | last entry => [⟨position, position + Text.byteSize entry.written⟩]
  | cons entry separator later =>
    ⟨position, position + Text.byteSize entry.written⟩ ::
      later.spans (position + Text.byteSize entry.written + Text.byteSize separator.chars)

end Listing

theorem Listing.head?_opens (listing : Listing) : ∀ c ∈ listing.text.head?, Opens c := by
  have written (entry : Entry) (after : List Char) :
      ∀ c ∈ (entry.written ++ after).head?, Opens c := by
    intro c first
    obtain ⟨shape, sameText, _⟩ := entry.spelled.exists_shape entry.nonempty
    obtain ⟨d, later, atShape, opens⟩ := shape.exists_opening
    rw [← sameText, atShape] at first
    cases Option.some.inj first
    exact opens
  cases listing with
  | empty => simp [text]
  | last entry => simpa [text] using written entry []
  | cons entry separator later => exact written entry _

theorem Separator.head?_separates (separator : Separator) (after : List Char) :
    ∀ c ∈ (separator.chars ++ after).head?, CharClass.listSeparator.contains c = true :=
  CharClass.head?_members_append separator.nonempty separator.separates after

theorem Separator.head?_ne (separator : Separator) (after : List Char) {c : Char}
    (outside : CharClass.listSeparator.contains c = false) :
    (separator.chars ++ after).head? ≠ some c := by
  intro first
  exact CharClass.not_inside_and_outside (separator.head?_separates after c first) outside

/-- A separator goes on for as long as there are commas and white space: the entries behind it start
with neither. -/
theorem Separator.rest_unique {separator : Separator} {listing : Listing} {blanks more : List Char}
    (areBlank : ∀ c ∈ blanks, CharClass.whiteSpace.contains c = true)
    (outside : ∀ c ∈ more.head?, CharClass.listSeparator.contains c = false)
    (same : separator.chars ++ listing.text = blanks ++ more) : listing.text = more := by
  refine (CharClass.run_unique separator.separates ?_ ?_ outside same).2
  · intro c member
    exact CharClass.listSeparator_of_whiteSpace (areBlank c member)
  · intro c first
    exact (listing.head?_opens c first).not_listSeparator

/-- An identifier is not the keyword of a clause if no quoted character follows it. Only a regular
identifier could be the keyword, and it is so as a whole. -/
theorem Shape.text_append_ne_keyword {shape : Shape} {after : List Char}
    (ends : ∀ c ∈ after.head?, CharClass.isoPostgresPart.contains c = false)
    (noQuote : ∀ blanks more, (∀ c ∈ blanks, CharClass.whiteSpace.contains c = true) →
      after ≠ blanks ++ '\'' :: more)
    (clause : Clause) (more : List Char) :
    shape.text ++ after ≠ clause.word ++ (clause.between ++ '\'' :: more) := by
  intro same
  cases shape with
  | regular first parts starts continues =>
    have areParts : ∀ c ∈ first :: parts, CharClass.isoPostgresPart.contains c = true := by
      intro c member
      rcases List.mem_cons.mp member with rfl | later
      · exact CharClass.isoPostgresStart_contained starts
      · exact continues c later
    obtain ⟨_, sameAfter⟩ := CharClass.run_unique areParts clause.word_parts ends
      (clause.word_ends more) same
    exact noQuote clause.between more clause.betweenBlank sameAfter
  | delimited body =>
    have part := clause.head?_word_append (clause.between ++ '\'' :: more) '"' (by
      rw [← same]
      rfl)
    exact CharClass.not_inside_and_outside part
      (CharClass.isoPostgresPart_not_punctuation '"' (by simp))
  | unicodeDelimited letter isLetter body escape =>
    have letterPart : ∀ c ∈ [letter], CharClass.isoPostgresPart.contains c = true := by
      intro c member
      rw [List.mem_singleton.mp member]
      exact CharClass.isoPostgresStart_contained
        (CharClass.isoPostgresStart_unicodeLetter letter isLetter)
    have ampersandEnds := CharClass.head?_outside
      (CharClass.isoPostgresPart_not_punctuation '&' (by simp))
    obtain ⟨sameWord, _⟩ := CharClass.run_unique letterPart clause.word_parts (ampersandEnds _)
      (clause.word_ends more) same
    have length := Text.length_of_eqIgnoringCase clause.isKeyword
    rw [← sameWord] at length
    simp at length

/-- Behind a separator and white space no quoted character follows. -/
theorem Separator.no_quote (separator : Separator) (listing : Listing) {blanks : List Char}
    (areBlank : ∀ c ∈ blanks, CharClass.whiteSpace.contains c = true) (more : List Char) :
    separator.chars ++ listing.text ≠ blanks ++ '\'' :: more := by
  intro same
  have outside := CharClass.head?_outside
    (CharClass.listSeparator_not_punctuation '\'' (by simp)) more
  have atQuote := Separator.rest_unique areBlank outside same
  have opens := listing.head?_opens '\'' (by rw [atQuote]; rfl)
  rcases opens with starts | isDouble
  · exact CharClass.not_inside_and_outside (CharClass.isoPostgresStart_contained starts)
      (CharClass.isoPostgresPart_not_punctuation '\'' (by simp))
  · simp at isDouble

/-- A clause is not found behind a separator. Its keyword would be the next entry, but behind that
entry is the end of the text or another separator, and no quoted character. -/
theorem Separator.no_clause (separator : Separator) (listing : Listing) (clause : Clause)
    (more : List Char) : separator.chars ++ listing.text ≠ clause.text ++ more := by
  intro same
  simp only [Clause.text, List.append_assoc, List.cons_append, List.nil_append] at same
  have outside : ∀ c ∈ (clause.word ++
      (clause.between ++ '\'' :: clause.escape :: '\'' :: more)).head?,
      CharClass.listSeparator.contains c = false := by
    intro c first
    exact CharClass.listSeparator_not_part (clause.head?_word_append _ c first)
  -- the white space before the keyword is the whole separator
  have atWord := Separator.rest_unique clause.beforeBlank outside same
  cases listing with
  | empty => exact clause.word_ne_nil (List.append_eq_nil_iff.mp atWord.symm).1
  | last entry =>
    obtain ⟨shape, sameText, _⟩ := entry.spelled.exists_shape entry.nonempty
    have atEnd : shape.text ++ [] = clause.word ++
        (clause.between ++ '\'' :: clause.escape :: '\'' :: more) := by
      rw [sameText, List.append_nil]
      exact atWord
    exact shape.text_append_ne_keyword (by simp) (by simp) clause _ atEnd
  | cons entry next later =>
    obtain ⟨shape, sameText, _⟩ := entry.spelled.exists_shape entry.nonempty
    have ends : ∀ c ∈ (next.chars ++ later.text).head?,
        CharClass.isoPostgresPart.contains c = false := by
      intro c first
      exact CharClass.isoPostgresPart_not_listSeparator (next.head?_separates later.text c first)
    have atNext : shape.text ++ (next.chars ++ later.text) = clause.word ++
        (clause.between ++ '\'' :: clause.escape :: '\'' :: more) := by
      rw [sameText]
      exact atWord
    refine shape.text_append_ne_keyword ends ?_ clause _ atNext
    intro blanks more areBlank
    exact next.no_quote later areBlank more

/-- A separator closes whatever stands before it, since it looks like no part of an identifier. -/
theorem Shape.closedBy_separator (shape : Shape) (separator : Separator) (listing : Listing) :
    shape.ClosedBy (separator.chars ++ listing.text) := by
  have separates := separator.head?_separates listing.text
  have noQuote := separator.head?_ne listing.text
    (CharClass.listSeparator_not_punctuation '"' (by simp))
  cases shape with
  | regular =>
    intro c first
    exact CharClass.isoPostgresPart_not_listSeparator (separates c first)
  | delimited => exact noQuote
  | unicodeDelimited letter isLetter body clause =>
    cases clause with
    | none => exact ⟨noQuote, separator.no_clause listing⟩
    | some clause => trivial

/-- The loop passes over a separator without finding anything in it. -/
theorem ScanRun.over_separator {text before chars after : List Char} {tokens : List Match}
    (run : ScanRun text (Text.byteSize before + Text.byteSize chars) tokens)
    (separates : ∀ c ∈ chars, CharClass.listSeparator.contains c = true)
    (parts : text = before ++ (chars ++ after)) :
    ScanRun text (Text.byteSize before) tokens := by
  induction chars generalizing before with
  | nil => exact run
  | cons c later ih =>
    have notOpening : ¬ Opens c := by
      intro opens
      exact CharClass.not_inside_and_outside (separates c List.mem_cons_self)
        opens.not_listSeparator
    have refused : matchAt? text (Text.byteSize before) = none := by
      rw [parts]
      exact matchAt?_eq_none_of_not_opens notOpening before (later ++ after)
    have regroup : text = before ++ [c] ++ (later ++ after) := by rw [parts]; simp
    have behind : Text.byteSize before + c.utf8Size = Text.byteSize (before ++ [c]) := by
      rw [Text.byteSize_append]
      rfl
    refine .skip parts rfl refused ?_
    rw [Text.byteSize_cons, ← Nat.add_assoc, behind] at run
    rw [behind]
    exact ih run (fun d member => separates d (List.mem_cons_of_mem c member)) regroup

/-- At an entry the loop records the identifier that was written, if nothing behind it carries this
on. -/
theorem Entry.exists_token (entry : Entry) {text before after : List Char} {tokens : List Match}
    (parts : text = before ++ (entry.written ++ after))
    (closed : ∀ shape : Shape, shape.ClosedBy after) (noAmpersand : after.head? ≠ some '&')
    (run : ScanRun text (Text.byteSize before + Text.byteSize entry.written) tokens) :
    ∃ found, ScanRun text (Text.byteSize before) (found :: tokens) ∧
      found.span = ⟨Text.byteSize before, Text.byteSize before + Text.byteSize entry.written⟩ ∧
      found.decode = checkLength entry.text := by
  obtain ⟨shape, sameText, decodes⟩ := entry.spelled.exists_shape entry.nonempty
  rw [← sameText] at parts run ⊢
  have recognised := matchAt?_of_closed before (closed shape) noAmpersand
  rw [← parts] at recognised
  have span := shape.span_matchAt (Text.byteSize before)
  have within : Text.byteSize before < Text.byteSize text := by
    have positive := Text.byteSize_pos shape.text_ne_nil
    rw [parts, Text.byteSize_append, Text.byteSize_append]
    omega
  exact ⟨_, .token within recognised (by rw [span]; exact run), span, decodes _⟩

/-- The loop over a listing records one identifier for each entry. The text before the listing is
arbitrary: the induction moves each entry and its separator there. -/
theorem Listing.exists_run (listing : Listing) {text before : List Char}
    (parts : text = before ++ listing.text) :
    ∃ tokens, ScanRun text (Text.byteSize before) tokens ∧
      tokens.map Match.span = listing.spans (Text.byteSize before) ∧
      tokens.map Match.decode = listing.entries.map fun entry => checkLength entry.text := by
  induction listing generalizing before with
  | empty =>
    have atEnd : Text.byteSize text = Text.byteSize before := by
      rw [parts, Listing.text, List.append_nil]
    exact ⟨[], .done (Nat.le_of_eq atEnd), rfl, rfl⟩
  | last entry =>
    have parts : text = before ++ (entry.written ++ []) := by
      rw [List.append_nil]
      exact parts
    have atEnd : Text.byteSize text = Text.byteSize before + Text.byteSize entry.written := by
      rw [parts, List.append_nil, Text.byteSize_append]
    obtain ⟨found, run, span, decodes⟩ :=
      entry.exists_token parts Shape.closedBy_nil (by simp) (.done (Nat.le_of_eq atEnd))
    refine ⟨[found], run, ?_, ?_⟩
    · rw [List.map_singleton, span, Listing.spans]
    · rw [List.map_singleton, decodes]
      rfl
  | cons entry separator later ih =>
    have behindEntry : text = before ++ entry.written ++ (separator.chars ++ later.text) := by
      rw [parts, Listing.text, List.append_assoc]
    have behindSeparator : text = before ++ entry.written ++ separator.chars ++ later.text := by
      rw [behindEntry, ← List.append_assoc]
    obtain ⟨tokens, run, spans, decode⟩ := ih behindSeparator
    have fromEntry : ScanRun text (Text.byteSize before + Text.byteSize entry.written) tokens := by
      rw [Text.byteSize_append] at run
      rw [← Text.byteSize_append]
      exact run.over_separator separator.separates behindEntry
    have noAmpersand := separator.head?_ne later.text
      (CharClass.listSeparator_not_punctuation '&' (by simp))
    obtain ⟨found, run, span, decodes⟩ := entry.exists_token parts
      (fun shape => shape.closedBy_separator separator later) noAmpersand fromEntry
    refine ⟨found :: tokens, run, ?_, ?_⟩
    · rw [List.map_cons, span, spans, Listing.spans, Text.byteSize_append, Text.byteSize_append]
    · rw [List.map_cons, decodes, decode]
      rfl

/-- Scanning a list gives its entries back: one identifier for each, exactly where it was written,
which stands for the text of the entry or is refused for the length of that text. -/
theorem scan_listing (listing : Listing) :
    ScanRun listing.text 0 (scan listing.text) ∧
    (scan listing.text).map Match.span = listing.spans 0 ∧
    (scan listing.text).map Match.decode = listing.entries.map fun entry =>
      if entry.text.length ≤ 128 then .ok entry.text
      else .error (.lengthExceeded entry.text.length 128) := by
  obtain ⟨tokens, run, spans, decode⟩ := listing.exists_run (List.nil_append listing.text).symm
  have scanned : scan listing.text = tokens := run.eq_scan
  rw [scanned]
  refine ⟨run, spans, ?_⟩
  simp only [decode, checkLength_eq]

-- the keyword of a clause as an entry of its own
example : (scan "U&\"x\" uescape , \"a\"\"b\"".toList).map Match.span =
    [⟨0, 5⟩, ⟨6, 13⟩, ⟨16, 22⟩] := by
  decide +kernel

end Identifier

end SqlIdentifier
