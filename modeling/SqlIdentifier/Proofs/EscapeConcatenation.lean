import SqlIdentifier.Proofs.Locality

namespace SqlIdentifier

namespace Cursor

/-- The same place in a text that goes on further. -/
def extend (more : List Char) (cursor : Cursor) : Cursor :=
  ⟨cursor.position, cursor.rest ++ more⟩

@[simp]
theorem position_extend (more : List Char) (cursor : Cursor) :
    (cursor.extend more).position = cursor.position := rfl

theorem Passes.extend {cursor behind : Cursor} {taken : List Char}
    (passes : cursor.Passes taken behind) (more : List Char) :
    (cursor.extend more).Passes taken (behind.extend more) := by
  refine ⟨?_, passes.position⟩
  simp only [Cursor.extend, passes.rest, List.append_assoc]

theorem next?_eq_none_iff {cursor : Cursor} : cursor.next? = none ↔ cursor.rest = [] := by
  unfold next?
  split <;> simp_all

/-- What comes next is decided by the text before the extension, unless that is at its end. -/
theorem accept?_extend {cursor : Cursor} (ahead : cursor.rest ≠ []) (expected : Char)
    (more : List Char) :
    (cursor.extend more).accept? expected = (cursor.accept? expected).map (extend more) := by
  obtain ⟨position, rest⟩ := cursor
  cases rest with
  | nil => exact absurd rfl ahead
  | cons c rest =>
    simp only [accept?, nextIf?, next?, extend, List.cons_append]
    split <;> rfl

@[simp]
theorem position_shift (offset : Nat) (cursor : Cursor) :
    (cursor.shift offset).position = offset + cursor.position := rfl

theorem takeHex?_shift (offset count : Nat) (cursor : Cursor) :
    (cursor.shift offset).takeHex? count =
      (cursor.takeHex? count).map (Prod.map id (shift offset)) := by
  rw [takeHex?, takeHex?, rest_shift]
  cases Text.splitAt? cursor.rest count with
  | none => rfl
  | some cut =>
    simp only [shift, Nat.add_assoc]
    split <;> rfl

end Cursor

namespace Identifier

/-- The same failure further on by a number of bytes. -/
def Error.shift (bytes : Nat) : Error → Error
  | noMatch position => noMatch (bytes + position)
  | malformedEscape offset escape => malformedEscape (bytes + offset) escape
  | invalidCodePoint offset value => invalidCodePoint (bytes + offset) value
  | lengthExceeded length most => lengthExceeded length most
  | invalidEscapeCharacter escape => invalidEscapeCharacter escape

/-- What decoding gives further on by a number of bytes. -/
def shiftErrors {α : Type} (bytes : Nat) : Except Error α → Except Error α :=
  Except.mapError (Error.shift bytes)

theorem shiftErrors_map {α β : Type} (bytes : Nat) (outcome : Except Error α) (change : α → β) :
    shiftErrors bytes (outcome.map change) = (shiftErrors bytes outcome).map change := by
  cases outcome <;> rfl

theorem Numeral.ne_nil {numeral : List Char} {value : Nat} (isNumeral : Numeral numeral value) :
    numeral ≠ [] := by
  cases isNumeral with
  | four length => exact List.ne_nil_of_length_pos (by omega)
  | six => simp

section Shift

variable (bytes : Nat)

theorem readNumber?_shift (cursor : Cursor) :
    readNumber? (cursor.shift bytes) =
      (readNumber? cursor).map (Prod.map id (Cursor.shift bytes)) := by
  have valued {read? : List Char × Cursor → Option (Nat × Cursor)}
      (moves : ∀ digits behind, read? (digits, Cursor.shift bytes behind) =
        (read? (digits, behind)).map (Prod.map id (Cursor.shift bytes)))
      (taken : Option (List Char × Cursor)) :
      (taken.map (Prod.map id (Cursor.shift bytes))).bind read? =
        (taken.bind read?).map (Prod.map id (Cursor.shift bytes)) := by
    cases taken with
    | none => rfl
    | some taken => exact moves taken.1 taken.2
  rw [readNumber?, readNumber?, Cursor.accept?_shift, ← valued]
  · cases cursor.accept? '+' with
    | none => simp only [Option.map_none, cursor.takeHex?_shift]
    | some behind => simp only [Option.map_some, behind.takeHex?_shift]
  · intro digits behind
    simp only [Option.map_map]
    rfl

theorem readEscape_shift (escape : Char) (offset : Nat) (cursor : Cursor) :
    readEscape escape (bytes + offset) (cursor.shift bytes) =
      shiftErrors bytes
        ((readEscape escape offset cursor).map (Prod.map id (Cursor.shift bytes))) := by
  rw [readEscape_eq, readEscape_eq, Cursor.accept?_shift, readNumber?_shift]
  cases cursor.accept? escape with
  | some behind => rfl
  | none =>
    cases readNumber? cursor with
    | none => rfl
    | some number =>
      obtain ⟨value, behind⟩ := number
      simp only [Option.map_none, Option.map_some, Prod.map, id_eq]
      cases Unicode.scalar? value <;> rfl

/-- Decoding looks only ahead: further on in a text it gives the same, with the offsets moved. -/
theorem unescapeFrom_shift (escape : Char) (cursor : Cursor) :
    unescapeFrom escape (cursor.shift bytes) = shiftErrors bytes (unescapeFrom escape cursor) := by
  have shifted {cursor behind : Cursor} {c : Char} (next : cursor.next? = some (c, behind)) :
      (cursor.shift bytes).Passes [c] (behind.shift bytes) := by
    rw [← Cursor.next?_eq_some_iff, Cursor.next?_shift, next]
    rfl
  fun_induction unescapeFrom escape cursor with
  | case1 cursor atEnd =>
    have nothing : cursor.rest = [] := Cursor.next?_eq_none_iff.mp atEnd
    exact unescapeFrom_end nothing
  | case2 cursor behind error failed next =>
    rw [unescapeFrom_read (shifted next), Cursor.position_shift, readEscape_shift, failed]
    rfl
  | case3 cursor behind value after found next ih =>
    rw [unescapeFrom_read (shifted next), Cursor.position_shift, readEscape_shift, found,
      shiftErrors_map bytes (unescapeFrom escape after), ← ih]
    rfl
  | case4 cursor c behind next plain ih =>
    rw [unescapeFrom_plain (shifted next) plain, ih, shiftErrors_map]

end Shift

section Extend

variable {escape : Char} (more : List Char)

/-- An escape that is complete reads the same whatever follows: it is one character or a numeral,
and these are there already. Only an escape that breaks off can be carried on. -/
theorem readEscape_extend {offset : Nat} {cursor : Cursor}
    (complete : readEscape escape offset cursor ≠ .error (.malformedEscape offset escape)) :
    readEscape escape offset (cursor.extend more) =
      (readEscape escape offset cursor).map (Prod.map id (Cursor.extend more)) := by
  rw [readEscape_eq] at complete
  rw [readEscape_eq, readEscape_eq]
  cases doubled : cursor.accept? escape with
  | some behind =>
    have passes := (Cursor.accept?_eq_some_iff.mp doubled).extend more
    rw [Cursor.accept?_eq_some_iff.mpr passes]
    rfl
  | none =>
    cases read : readNumber? cursor with
    | none => simp [doubled, read] at complete
    | some number =>
      obtain ⟨value, behind⟩ := number
      obtain ⟨numeral, isNumeral, passes⟩ := readNumber?_eq_some_iff.mp read
      have ahead : cursor.rest ≠ [] := by
        rw [passes.rest]
        exact List.append_ne_nil_of_left_ne_nil isNumeral.ne_nil _
      have readOn := readNumber?_eq_some_iff.mpr ⟨numeral, isNumeral, passes.extend more⟩
      rw [Cursor.accept?_extend ahead, doubled, readOn]
      simp only [Option.map_none]
      cases Unicode.scalar? value <;> rfl

theorem readEscape_passes {offset : Nat} {cursor behind : Cursor} {c : Char}
    (read : readEscape escape offset cursor = .ok (c, behind)) :
    ∃ taken, cursor.Passes taken behind := by
  rw [readEscape_eq] at read
  split at read
  · rename_i behind' doubled
    obtain ⟨_, rfl⟩ := Prod.mk.inj (Except.ok.inj read)
    exact ⟨[escape], Cursor.accept?_eq_some_iff.mp doubled⟩
  · split at read
    · simp at read
    · rename_i value behind' number
      obtain ⟨numeral, _, passes⟩ := readNumber?_eq_some_iff.mp number
      split at read
      · simp at read
      · obtain ⟨_, rfl⟩ := Prod.mk.inj (Except.ok.inj read)
        exact ⟨numeral, passes⟩

/-- The place at which the text that is ahead ends and a further one begins. -/
def endOf (cursor : Cursor) (more : List Char) : Cursor :=
  ⟨cursor.position + Text.byteSize cursor.rest, more⟩

theorem endOf_of_passes {cursor behind : Cursor} {taken : List Char}
    (passes : cursor.Passes taken behind) : endOf cursor more = endOf behind more := by
  simp only [endOf, passes.rest, passes.position, Text.byteSize_append, Nat.add_assoc]

/-- What comes of a text with a second one behind it: an error of the first stands, and otherwise
the characters of both follow one another. -/
def followedBy (outcome next : Except Error (List Char)) : Except Error (List Char) :=
  outcome.bind fun decoded => next.map (decoded ++ ·)

theorem followedBy_map_cons (c : Char) (outcome next : Except Error (List Char)) :
    followedBy (outcome.map (c :: ·)) next = (followedBy outcome next).map (c :: ·) := by
  cases outcome with
  | error => rfl
  | ok decoded => cases next <;> rfl

theorem followedBy_nil (next : Except Error (List Char)) : followedBy (.ok []) next = next := by
  cases next <;> rfl

/-- A text without an escape that breaks off is decoded, or refused, before anything behind it is
looked at. -/
theorem unescapeFrom_extend {cursor : Cursor}
    (complete : ∀ offset, unescapeFrom escape cursor ≠ .error (.malformedEscape offset escape)) :
    unescapeFrom escape (cursor.extend more) =
      followedBy (unescapeFrom escape cursor) (unescapeFrom escape (endOf cursor more)) := by
  have completeLater {outcome : Except Error (List Char)} {c : Char}
      (complete : ∀ offset, outcome.map (c :: ·) ≠ .error (.malformedEscape offset escape))
      (offset : Nat) : outcome ≠ .error (.malformedEscape offset escape) := by
    intro malformed
    exact complete offset (by rw [malformed]; rfl)
  fun_induction unescapeFrom escape cursor with
  | case1 cursor atEnd =>
    have nothing := Cursor.next?_eq_none_iff.mp atEnd
    have here : cursor.extend more = endOf cursor more := by
      simp only [Cursor.extend, endOf, nothing, Text.byteSize_nil, List.nil_append, Nat.add_zero]
    rw [here, followedBy_nil]
  | case2 cursor behind error failed next =>
    have first := Cursor.next?_eq_some_iff.mp next
    have whole : readEscape escape cursor.position behind ≠
        .error (.malformedEscape cursor.position escape) := by
      rw [failed]
      exact fun same => complete _ (congrArg Except.error (Except.error.inj same))
    rw [unescapeFrom_read (first.extend more), Cursor.position_extend,
      readEscape_extend more whole, failed]
    rfl
  | case3 cursor behind value after found next ih =>
    have first := Cursor.next?_eq_some_iff.mp next
    obtain ⟨taken, passes⟩ := readEscape_passes found
    have whole : readEscape escape cursor.position behind ≠
        .error (.malformedEscape cursor.position escape) := by simp [found]
    rw [unescapeFrom_read (first.extend more), Cursor.position_extend,
      readEscape_extend more whole, found, followedBy_map_cons,
      endOf_of_passes more (first.trans passes), ← ih (completeLater complete)]
    rfl
  | case4 cursor c behind next plain ih =>
    have first := Cursor.next?_eq_some_iff.mp next
    rw [unescapeFrom_plain (first.extend more) plain, followedBy_map_cons,
      endOf_of_passes more first, ih (completeLater complete)]

end Extend

/-- Decoding is compatible with putting texts together, as long as no escape of the first breaks
off at its end. -/
theorem unescape_append {escape : Char} {first : List Char}
    (complete : ∀ offset, unescape escape first ≠ .error (.malformedEscape offset escape))
    (second : List Char) :
    unescape escape (first ++ second) =
      followedBy (unescape escape first)
        (shiftErrors (Text.byteSize first) (unescape escape second)) := by
  have extended := unescapeFrom_extend second complete
  have reached : endOf (.start first) second = (Cursor.start second).shift (Text.byteSize first) := by
    simp only [endOf, Cursor.start, Cursor.shift, Nat.zero_add, Nat.add_zero]
  rw [reached, unescapeFrom_shift] at extended
  exact extended

/-- Decoding a text and a second one behind it. If the first decodes, the second decodes as it does
alone: its characters follow those of the first, and an error in it is the same error, found as many
bytes later as the first text has. If the first names an invalid code point, that error stands
whatever follows. Neither depends on the escape character being one that an identifier can have. -/
theorem unescape_concatenation (escape : Char) (first second : List Char) :
    (∀ decoded, unescape escape first = .ok decoded →
      (∀ more, unescape escape second = .ok more →
        unescape escape (first ++ second) = .ok (decoded ++ more)) ∧
      (∀ offset reported, unescape escape second = .error (.malformedEscape offset reported) →
        unescape escape (first ++ second) =
          .error (.malformedEscape (Text.byteSize first + offset) reported)) ∧
      (∀ offset value, unescape escape second = .error (.invalidCodePoint offset value) →
        unescape escape (first ++ second) =
          .error (.invalidCodePoint (Text.byteSize first + offset) value)) ∧
      ∀ error, unescape escape second = .error error →
        (∃ offset, error = .malformedEscape offset escape) ∨
          ∃ offset value, error = .invalidCodePoint offset value) ∧
    (∀ offset value, unescape escape first = .error (.invalidCodePoint offset value) →
      unescape escape (first ++ second) = .error (.invalidCodePoint offset value)) := by
  refine ⟨?_, ?_⟩
  · intro decoded read
    have complete : ∀ offset, unescape escape first ≠ .error (.malformedEscape offset escape) := by
      simp [read]
    have joined := unescape_append complete second
    rw [read] at joined
    refine ⟨?_, ?_, ?_, ?_⟩
    · intro more readMore
      rw [joined, readMore]
      rfl
    · intro offset reported failed
      rw [joined, failed]
      rfl
    · intro offset value failed
      rw [joined, failed]
      rfl
    · intro error failed
      exact unescapeFrom_error_cases failed
  · intro offset value failed
    have complete : ∀ offset, unescape escape first ≠ .error (.malformedEscape offset escape) := by
      simp [failed]
    rw [unescape_append complete second, failed]
    rfl

/-- With a hexadecimal digit as the escape character, which no identifier can have, the first text
decodes, a second one of digits decodes and one that breaks off fails five bytes later. -/
theorem unescape_concatenation_digit :
    CharClass.escapeCharacter.contains 'a' = false ∧
      unescape 'a' "éaa+".toList = .ok "éa+".toList ∧
      unescape 'a' ("éaa+".toList ++ "a0041".toList) = .ok ("éa+".toList ++ "A".toList) ∧
      unescape 'a' ("éaa+".toList ++ "xa+0041".toList) = .error (.malformedEscape (5 + 1) 'a') ∧
      unescape 'a' ("éaa+".toList ++ "aD800".toList) = .error (.invalidCodePoint (5 + 0) 0xD800) ∧
      unescape 'a' ("aD800".toList ++ "aa".toList) = .error (.invalidCodePoint 0 0xD800) := by
  have illegal : CharClass.escapeCharacter.contains 'a' = false := by
    simp [CharClass.escapeCharacter, CharClass.hexDigit, CharClass.whiteSpace]
  have read : unescape 'a' "éaa+".toList = .ok "éa+".toList := by with_unfolding_all rfl
  have digits : unescape 'a' "a0041".toList = .ok "A".toList := by with_unfolding_all rfl
  have breaksOff : unescape 'a' "xa+0041".toList = .error (.malformedEscape 1 'a') := by
    with_unfolding_all rfl
  have surrogate : unescape 'a' "aD800".toList = .error (.invalidCodePoint 0 0xD800) := by
    with_unfolding_all rfl
  obtain ⟨decodes, _, _, _⟩ :=
    (unescape_concatenation 'a' "éaa+".toList "a0041".toList).1 _ read
  obtain ⟨_, malformed, _, _⟩ :=
    (unescape_concatenation 'a' "éaa+".toList "xa+0041".toList).1 _ read
  obtain ⟨_, _, invalid, _⟩ :=
    (unescape_concatenation 'a' "éaa+".toList "aD800".toList).1 _ read
  have stands := (unescape_concatenation 'a' "aD800".toList "aa".toList).2
  exact ⟨illegal, read, decodes _ digits, malformed _ _ breaksOff, invalid _ _ surrogate,
    stands _ _ surrogate⟩

end Identifier

end SqlIdentifier
