import SqlIdentifier.Identifier.Body
import SqlIdentifier.Proofs.Delimiters
import SqlIdentifier.Proofs.HexDigits

namespace SqlIdentifier.Identifier

theorem halveQuotes_append {quoteless : List Char} (plain : '"' ∉ quoteless) (rest : List Char) :
    halveQuotes (quoteless ++ rest) = quoteless ++ halveQuotes rest := by
  induction quoteless with
  | nil => rfl
  | cons c later ih =>
    simp only [List.mem_cons, not_or] at plain
    rw [List.cons_append, halveQuotes, ih plain.2, List.cons_append]
    intro _ same
    exact absurd same.symm plain.1

theorem halveQuotes_pair (rest : List Char) :
    halveQuotes ('"' :: '"' :: rest) = '"' :: halveQuotes rest := by
  rw [halveQuotes]

/-- The units from which an escaped text is made, each with the character that it stands for. -/
inductive EscapeUnit (escape : Char) : List Char → Char → Prop
  | plain {c : Char} : c ≠ escape → EscapeUnit escape [c] c
  | doubled : EscapeUnit escape [escape, escape] escape
  | four {digits : List Char} {value : Nat} {c : Char} : digits.length = 4 →
      (∀ d ∈ digits, Hex.isDigit d = true) → Hex.read? digits = some value →
      Unicode.scalar? value = some c → EscapeUnit escape (escape :: digits) c
  | six {digits : List Char} {value : Nat} {c : Char} : digits.length = 6 →
      (∀ d ∈ digits, Hex.isDigit d = true) → Hex.read? digits = some value →
      Unicode.scalar? value = some c → EscapeUnit escape (escape :: '+' :: digits) c

/-- What numbers a character behind the escape character: four hexadecimal digits, or a plus sign
and six of them. -/
inductive Numeral : List Char → Nat → Prop
  | four {digits : List Char} : digits.length = 4 →
      (∀ d ∈ digits, CharClass.hexDigit.contains d = true) →
      Numeral digits (Hex.placeValue digits)
  | six {digits : List Char} : digits.length = 6 →
      (∀ d ∈ digits, CharClass.hexDigit.contains d = true) →
      Numeral ('+' :: digits) (Hex.placeValue digits)

theorem Numeral.escapeUnit {escape c : Char} {numeral : List Char}
    (isNumeral : Numeral numeral c.toNat) : EscapeUnit escape (escape :: numeral) c := by
  have scalar := Unicode.scalar?_toNat c
  generalize c.toNat = value at isNumeral scalar
  cases isNumeral with
  | four length areDigits =>
    have read := Hex.read?_of_hexDigits (by omega) (by omega) areDigits
    exact .four length (Hex.forall_isDigit_iff.mpr areDigits) read scalar
  | six length areDigits =>
    have read := Hex.read?_of_hexDigits (by omega) (by omega) areDigits
    exact .six length (Hex.forall_isDigit_iff.mpr areDigits) read scalar

/-- The units by what stands behind the escape character, with the number itself in place of the
steps that read it. -/
theorem escapeUnit_iff {escape c : Char} {unit : List Char} :
    EscapeUnit escape unit c ↔
      (c ≠ escape ∧ unit = [c]) ∨ (c = escape ∧ unit = [escape, escape]) ∨
        ∃ numeral, Numeral numeral c.toNat ∧ unit = escape :: numeral := by
  constructor
  · intro isUnit
    cases isUnit with
    | plain different => exact Or.inl ⟨different, rfl⟩
    | doubled => exact Or.inr (Or.inl ⟨rfl, rfl⟩)
    | @four digits value _ length areDigits read scalar =>
      have valued : c.toNat = Hex.placeValue digits :=
        (Unicode.scalar?_eq_some_iff.mp scalar).symm.trans (Hex.read?_eq_some_iff.mp read).2.2.2
      refine Or.inr (Or.inr ⟨digits, ?_, rfl⟩)
      rw [valued]
      exact .four length (Hex.forall_isDigit_iff.mp areDigits)
    | @six digits value _ length areDigits read scalar =>
      have valued : c.toNat = Hex.placeValue digits :=
        (Unicode.scalar?_eq_some_iff.mp scalar).symm.trans (Hex.read?_eq_some_iff.mp read).2.2.2
      refine Or.inr (Or.inr ⟨'+' :: digits, ?_, rfl⟩)
      rw [valued]
      exact .six length (Hex.forall_isDigit_iff.mp areDigits)
  · rintro (⟨different, rfl⟩ | ⟨rfl, rfl⟩ | ⟨numeral, isNumeral, rfl⟩)
    · exact .plain different
    · exact .doubled
    · exact isNumeral.escapeUnit

/-- A unit holds a double quote only to stand for one. -/
theorem EscapeUnit.quoteless {escape c : Char} {unit : List Char}
    (isUnit : EscapeUnit escape unit c) (noEscape : escape ≠ '"') (noQuote : c ≠ '"') :
    '"' ∉ unit := by
  have noDigit {digits : List Char} (areDigits : ∀ d ∈ digits, Hex.isDigit d = true) :
      '"' ∉ digits := by
    intro member
    have digit := areDigits '"' member
    have checked : Hex.isDigit '"' = false := by decide
    rw [checked] at digit
    simp at digit
  cases isUnit with
  | plain => simpa using noQuote.symm
  | doubled => simpa using noQuote.symm
  | four _ areDigits => simpa using ⟨noEscape.symm, noDigit areDigits⟩
  | six _ areDigits => simpa using ⟨noEscape.symm, noDigit areDigits⟩

theorem accept?_eq_none {cursor : Cursor} {expected : Char}
    (different : cursor.rest.head? ≠ some expected) : cursor.accept? expected = none := by
  cases found : cursor.accept? expected with
  | none => rfl
  | some behind =>
    have ahead := (Cursor.accept?_eq_some_iff.mp found).rest
    exact absurd (by rw [ahead]; rfl) different

theorem unescapeFrom_end {escape : Char} {cursor : Cursor} (atEnd : cursor.rest = []) :
    unescapeFrom escape cursor = .ok [] := by
  have nothing : cursor.next? = none := by rw [Cursor.next?, atEnd]
  rw [unescapeFrom]
  split
  · rfl
  · rename_i next
    simp [nothing] at next

theorem unescapeFrom_plain {escape c : Char} {cursor behind : Cursor}
    (next : cursor.Passes [c] behind) (plain : c ≠ escape) :
    unescapeFrom escape cursor = (unescapeFrom escape behind).map (c :: ·) := by
  have taken := Cursor.next?_eq_some_iff.mpr next
  rw [unescapeFrom]
  split
  · rename_i atEnd
    simp [atEnd] at taken
  · rename_i c' behind' step
    obtain ⟨rfl, rfl⟩ := Prod.mk.inj (Option.some.inj (step.symm.trans taken))
    rw [if_neg plain]

/-- At an escape character the decoder goes on behind what this introduces, or fails with it. -/
theorem unescapeFrom_read {escape : Char} {cursor behind : Cursor}
    (next : cursor.Passes [escape] behind) :
    unescapeFrom escape cursor =
      match readEscape escape cursor.position behind with
      | .error error => .error error
      | .ok (c, after) => (unescapeFrom escape after).map (c :: ·) := by
  have taken := Cursor.next?_eq_some_iff.mpr next
  rw [unescapeFrom]
  split
  · rename_i atEnd
    simp [atEnd] at taken
  · rename_i c' behind' step
    obtain ⟨rfl, rfl⟩ := Prod.mk.inj (Option.some.inj (step.symm.trans taken))
    rw [if_pos rfl]
    split
    · rename_i failed
      rw [failed]
    · rename_i found
      rw [found]

/-- The number behind the escape character, and the cursor behind the number. -/
def readNumber? (cursor : Cursor) : Option (Nat × Cursor) :=
  let number :=
    match cursor.accept? '+' with
    | some behind => behind.takeHex? 6
    | none => cursor.takeHex? 4
  number.bind fun (digits, behind) => (Hex.read? digits).map (·, behind)

theorem readEscape_eq (escape : Char) (offset : Nat) (cursor : Cursor) :
    readEscape escape offset cursor =
      match cursor.accept? escape with
      | some behind => .ok (escape, behind)
      | none =>
        match readNumber? cursor with
        | none => .error (.malformedEscape offset escape)
        | some (value, behind) =>
          match Unicode.scalar? value with
          | none => .error (.invalidCodePoint offset value)
          | some c => .ok (c, behind) :=
  rfl

/-- A number is read exactly where a numeral stands. A plus sign is no digit, so that it decides
between the two forms before any digit is looked at. -/
theorem readNumber?_eq_some_iff {cursor behind : Cursor} {value : Nat} :
    readNumber? cursor = some (value, behind) ↔
      ∃ numeral, Numeral numeral value ∧ cursor.Passes numeral behind := by
  simp only [readNumber?, Option.bind_eq_some_iff, Prod.exists, Option.map_eq_some_iff,
    Prod.mk.injEq]
  constructor
  · intro found
    obtain ⟨digits, _, taken, _, read, rfl, rfl⟩ := found
    obtain ⟨_, _, areDigits, rfl⟩ := Hex.read?_eq_some_iff.mp read
    have hexDigits := Hex.forall_isDigit_iff.mp areDigits
    split at taken
    · rename_i middle plus
      obtain ⟨length, _, passes⟩ := Cursor.takeHex?_eq_some_iff.mp taken
      have first := Cursor.accept?_eq_some_iff.mp plus
      exact ⟨'+' :: digits, .six length hexDigits, first.trans passes⟩
    · obtain ⟨length, _, passes⟩ := Cursor.takeHex?_eq_some_iff.mp taken
      exact ⟨digits, .four length hexDigits, passes⟩
  · intro standing
    obtain ⟨numeral, isNumeral, passes⟩ := standing
    cases isNumeral with
    | four length areDigits =>
      have read := Hex.read?_of_hexDigits (by omega) (by omega) areDigits
      have taken := Cursor.takeHex?_eq_some_iff.mpr
        ⟨length, Hex.forall_isDigit_iff.mpr areDigits, passes⟩
      obtain ⟨first, later, rfl⟩ := List.exists_cons_of_length_pos (by omega : 0 < numeral.length)
      have noPlus : cursor.rest.head? ≠ some '+' := by
        rw [passes.rest]
        rintro ⟨⟩
        exact CharClass.not_inside_and_outside (areDigits '+' List.mem_cons_self) Hex.plus_not_hexDigit
      rw [accept?_eq_none noPlus]
      exact ⟨_, _, taken, _, read, rfl, rfl⟩
    | @six digits length areDigits =>
      have read := Hex.read?_of_hexDigits (by omega) (by omega) areDigits
      obtain ⟨middle, plus, later⟩ := Cursor.passes_cons_iff.mp passes
      have taken := Cursor.takeHex?_eq_some_iff.mpr
        ⟨length, Hex.forall_isDigit_iff.mpr areDigits, later⟩
      rw [Cursor.accept?_eq_some_iff.mpr plus]
      exact ⟨_, _, taken, _, read, rfl, rfl⟩

section Legal

variable {escape : Char} (legal : CharClass.escapeCharacter.contains escape = true)

include legal

theorem digit_ne_escape {d : Char} (digit : Hex.isDigit d = true) : d ≠ escape := by
  rintro rfl
  have noDigit := (CharClass.escapeCharacter_contains_iff.mp legal).1
  rw [← Hex.isDigit_eq_hexDigit, digit] at noDigit
  simp at noDigit

theorem Numeral.exists_first {numeral : List Char} {value : Nat}
    (isNumeral : Numeral numeral value) :
    ∃ first later, numeral = first :: later ∧ first ≠ escape := by
  cases isNumeral with
  | four length areDigits =>
    obtain ⟨first, later, rfl⟩ := List.exists_cons_of_length_pos (by omega : 0 < numeral.length)
    have digit := Hex.forall_isDigit_iff.mpr areDigits first List.mem_cons_self
    exact ⟨first, later, rfl, digit_ne_escape legal digit⟩
  | @six digits =>
    have noPlus := (CharClass.escapeCharacter_contains_iff.mp legal).2.1
    exact ⟨'+', digits, rfl, noPlus.symm⟩

theorem readEscape_numeral {numeral : List Char} {value : Nat} {cursor behind : Cursor}
    (offset : Nat) (isNumeral : Numeral numeral value) (passes : cursor.Passes numeral behind) :
    readEscape escape offset cursor =
      match Unicode.scalar? value with
      | none => .error (.invalidCodePoint offset value)
      | some c => .ok (c, behind) := by
  have number := readNumber?_eq_some_iff.mpr ⟨numeral, isNumeral, passes⟩
  obtain ⟨first, later, rfl, different⟩ := isNumeral.exists_first legal
  have notDoubled : cursor.rest.head? ≠ some escape := by
    rw [passes.rest]
    simpa using different
  rw [readEscape_eq, accept?_eq_none notDoubled, number]

/-- A unit is a plain character, or the escape character with what the decoder reads behind it. -/
theorem EscapeUnit.plain_or_read {unit : List Char} {c : Char} {cursor behind : Cursor}
    (isUnit : EscapeUnit escape unit c) (passes : cursor.Passes unit behind) (offset : Nat) :
    (c ≠ escape ∧ unit = [c]) ∨
      ∃ middle, cursor.Passes [escape] middle ∧
        readEscape escape offset middle = .ok (c, behind) := by
  rcases escapeUnit_iff.mp isUnit with plain | ⟨rfl, rfl⟩ | ⟨numeral, isNumeral, rfl⟩
  · exact Or.inl plain
  · obtain ⟨middle, first, second⟩ := Cursor.passes_cons_iff.mp passes
    refine Or.inr ⟨middle, first, ?_⟩
    rw [readEscape_eq, Cursor.accept?_eq_some_iff.mpr second]
  · obtain ⟨middle, first, later⟩ := Cursor.passes_cons_iff.mp passes
    refine Or.inr ⟨middle, first, ?_⟩
    rw [readEscape_numeral legal offset isNumeral later, Unicode.scalar?_toNat]

/-- One round of the decoder: a unit gives its character, and decoding goes on behind it. -/
theorem unescapeFrom_unit {unit : List Char} {c : Char} {cursor behind : Cursor}
    (isUnit : EscapeUnit escape unit c) (passes : cursor.Passes unit behind) :
    unescapeFrom escape cursor = (unescapeFrom escape behind).map (c :: ·) := by
  rcases isUnit.plain_or_read legal passes cursor.position with ⟨plain, rfl⟩ | ⟨middle, first, read⟩
  · exact unescapeFrom_plain passes plain
  · rw [unescapeFrom_read first, read]

/-- Units one behind the other give their characters in order. -/
theorem unescapeFrom_units {pieces : List (List Char × Char)} {cursor behind : Cursor}
    (areUnits : ∀ piece ∈ pieces, EscapeUnit escape piece.1 piece.2)
    (passes : cursor.Passes (pieces.flatMap Prod.fst) behind) :
    unescapeFrom escape cursor =
      (unescapeFrom escape behind).map (pieces.map Prod.snd ++ ·) := by
  induction pieces generalizing cursor with
  | nil =>
    rw [Cursor.passes_nil_iff.mp passes]
    cases unescapeFrom escape cursor <;> rfl
  | cons piece later ih =>
    obtain ⟨middle, first, rest⟩ := Cursor.passes_append_iff.mp passes
    have decoded := ih (fun other member => areUnits other (List.mem_cons_of_mem _ member)) rest
    rw [unescapeFrom_unit legal (areUnits piece List.mem_cons_self) first, decoded]
    cases unescapeFrom escape behind <;> rfl

theorem unescape_units {pieces : List (List Char × Char)}
    (areUnits : ∀ piece ∈ pieces, EscapeUnit escape piece.1 piece.2) :
    unescape escape (pieces.flatMap Prod.fst) = .ok (pieces.map Prod.snd) := by
  have ahead : (Cursor.start (pieces.flatMap Prod.fst)).rest = pieces.flatMap Prod.fst ++ [] :=
    (List.append_nil _).symm
  obtain ⟨behind, passes, atEnd⟩ := Cursor.exists_passes ahead
  rw [unescape, unescapeFrom_units legal areUnits passes, unescapeFrom_end atEnd, Except.map,
    List.append_nil]

end Legal

theorem readEscape_error_cases {escape : Char} {offset : Nat} {cursor : Cursor} {error : Error}
    (failed : readEscape escape offset cursor = .error error) :
    error = .malformedEscape offset escape ∨ ∃ value, error = .invalidCodePoint offset value := by
  rw [readEscape_eq] at failed
  split at failed
  · simp at failed
  · split at failed
    · exact Or.inl (Except.error.inj failed).symm
    · rename_i value behind number
      split at failed
      · exact Or.inr ⟨value, (Except.error.inj failed).symm⟩
      · simp at failed

/-- Decoding fails on an escape only, and reports a malformed one with the escape character that was
given. -/
theorem unescapeFrom_error_cases {escape : Char} {cursor : Cursor} {error : Error}
    (failed : unescapeFrom escape cursor = .error error) :
    (∃ offset, error = .malformedEscape offset escape) ∨
      ∃ offset value, error = .invalidCodePoint offset value := by
  have failedLater {outcome : Except Error (List Char)} {c : Char}
      (failed : outcome.map (c :: ·) = .error error) : outcome = .error error := by
    cases outcome with
    | ok => simp [Except.map] at failed
    | error => exact congrArg Except.error (Except.error.inj failed)
  fun_induction unescapeFrom escape cursor with
  | case1 => simp at failed
  | case2 cursor behind reported read next =>
    cases Except.error.inj failed
    rcases readEscape_error_cases read with malformed | ⟨value, invalid⟩
    · exact Or.inl ⟨_, malformed⟩
    · exact Or.inr ⟨_, value, invalid⟩
  | case3 cursor behind value after read next ih => exact ih (failedLater failed)
  | case4 cursor c behind next plain ih => exact ih (failedLater failed)

theorem unescapeFrom_ne_noMatch {escape : Char} {cursor : Cursor} {position : Nat} :
    unescapeFrom escape cursor ≠ .error (.noMatch position) := by
  intro failed
  rcases unescapeFrom_error_cases failed with ⟨_, same⟩ | ⟨_, _, same⟩
  · simp at same
  · simp at same

end SqlIdentifier.Identifier
