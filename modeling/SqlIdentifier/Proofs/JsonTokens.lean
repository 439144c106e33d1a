import SqlIdentifier.Proofs.JsonGrammar

namespace SqlIdentifier

namespace Json

open Text

def skipBlanks (text : List Char) : List Char :=
  text.dropWhile isBlank

/-- Reads the four digits of a code unit. -/
def readUnit? : List Char → Option (Nat × List Char)
  | a :: b :: c :: d :: rest => (Hex.read? [a, b, c, d]).map (·, rest)
  | _ => none

/-- Reads the low surrogate that stands behind the given high one. -/
def readLow? (high : Nat) : List Char → Option (Char × List Char)
  | '\\' :: 'u' :: text => do
    let (low, rest) ← readUnit? text
    if isLowSurrogate low then (Unicode.scalar? (joinSurrogates high low)).map (·, rest) else none
  | _ => none

/-- Reads what stands behind a backslash and the letter u. A surrogate does not stand alone. -/
def readScalar? (text : List Char) : Option (Char × List Char) := do
  let (unit, rest) ← readUnit? text
  if isHighSurrogate unit then readLow? unit rest else (Unicode.scalar? unit).map (·, rest)

/-- Reads what stands behind a backslash. -/
def readEscape? : List Char → Option (Char × List Char)
  | [] => none
  | letter :: rest =>
    if letter = 'u' then readScalar? rest else (shortEscapes.lookup letter).map (·, rest)

/-- Reads a code point of a string. -/
def readChar? : List Char → Option (Char × List Char)
  | [] => none
  | c :: rest =>
    if c = '\\' then readEscape? rest else if ' ' ≤ c ∧ c ≠ '"' then some (c, rest) else none

/-- Reads the code points of a string and its closing quote, for as many code points as the limit
says. -/
def readChars? : (limit : Nat) → List Char → Option (List Char × List Char)
  | _, '"' :: rest => some ([], rest)
  | 0, _ => none
  | limit + 1, text => do
    let (c, rest) ← readChar? text
    (readChars? limit rest).map (Prod.map (c :: ·) id)

def readString? : List Char → Option (List Char × List Char)
  | '"' :: rest => readChars? rest.length rest
  | _ => none

/-- Reads a number. All digits in front belong to it. -/
def readNumber? (text : List Char) : Option (Nat × List Char) :=
  let digits := text.takeWhile Char.isDigit
  if digits = [] ∨ (digits.head? = some '0' ∧ digits ≠ ['0']) then none
  else some (Nat.ofDigitChars 10 digits 0, text.dropWhile Char.isDigit)

def readWord? (word : List Char) (value : Json) (text : List Char) : Option (Json × List Char) :=
  if word.isPrefixOf text then some (value, text.drop word.length) else none

/-- A value that is read and then mapped. -/
theorem exists_of_map {α β : Type} {found : Option (α × List Char)} {f : α → β} {value : β}
    {rest : List Char} (mapped : found.map (Prod.map f id) = some (value, rest)) :
    ∃ source, found = some (source, rest) ∧ value = f source := by
  obtain ⟨⟨source, behind⟩, isFound, same⟩ := Option.map_eq_some_iff.mp mapped
  obtain ⟨rfl, rfl⟩ := Prod.mk.inj same
  exact ⟨source, isFound, rfl⟩

/-- A value that is found and then joined with what is left. -/
theorem map_rest_eq_some_iff {α : Type} {found : Option α} {value : α} {rest rest' : List Char} :
    found.map (·, rest) = some (value, rest') ↔ found = some value ∧ rest = rest' := by
  cases found <;> simp

theorem CodeUnit.readUnit?_append {digits : List Char} {value : Nat} (unit : CodeUnit digits value)
    (rest : List Char) : readUnit? (digits ++ rest) = some (value, rest) := by
  match digits, unit with
  | [a, b, c, d], unit =>
    have found := Hex.read?_eq_some_iff.mpr
      ⟨List.cons_ne_nil a [b, c, d], by simp, unit.areDigits, unit.value⟩
    simp [readUnit?, found]

theorem readUnit?_eq_some_iff {text rest : List Char} {value : Nat} :
    readUnit? text = some (value, rest) ↔
      ∃ digits, text = digits ++ rest ∧ CodeUnit digits value := by
  constructor
  · intro read
    unfold readUnit? at read
    split at read
    next a b c d rest' =>
      obtain ⟨found, rfl⟩ := map_rest_eq_some_iff.mp read
      obtain ⟨_, _, areDigits, rfl⟩ := Hex.read?_eq_some_iff.mp found
      exact ⟨[a, b, c, d], rfl, rfl, areDigits, rfl⟩
    next => simp at read
  · rintro ⟨digits, rfl, unit⟩
    exact unit.readUnit?_append rest

theorem not_isHighSurrogate_toNat (c : Char) : isHighSurrogate c.toNat = false := by
  have valid : c.toNat.isValidChar := c.valid
  simp only [Nat.isValidChar] at valid
  simp only [isHighSurrogate, Bool.and_eq_false_iff, decide_eq_false_iff_not]
  omega

theorem readLow?_eq_some_iff {high : Nat} {text rest : List Char} {c : Char} :
    readLow? high text = some (c, rest) ↔
      ∃ digits low, text = '\\' :: 'u' :: digits ++ rest ∧ CodeUnit digits low ∧
        isLowSurrogate low = true ∧ c.toNat = joinSurrogates high low := by
  constructor
  · intro read
    unfold readLow? at read
    split at read
    next behind =>
      obtain ⟨⟨low, rest'⟩, second, joins⟩ := Option.bind_eq_some_iff.mp read
      obtain ⟨digits, rfl, unit⟩ := readUnit?_eq_some_iff.mp second
      simp only at joins
      split at joins
      next isLow =>
        obtain ⟨found, rfl⟩ := map_rest_eq_some_iff.mp joins
        exact ⟨digits, low, rfl, unit, isLow, (Unicode.scalar?_eq_some_iff.mp found).symm⟩
      next => simp at joins
    next => simp at read
  · rintro ⟨digits, low, rfl, unit, isLow, joined⟩
    simp [readLow?, unit.readUnit?_append, isLow, ← joined, Unicode.scalar?_toNat]

theorem readScalar?_eq_some_iff {text rest : List Char} {c : Char} :
    readScalar? text = some (c, rest) ↔
      ∃ spelled, text = spelled ++ rest ∧ SpellsChar ('\\' :: 'u' :: spelled) c := by
  constructor
  · intro read
    obtain ⟨⟨unit, rest'⟩, first, reads⟩ := Option.bind_eq_some_iff.mp read
    obtain ⟨digits, rfl, isUnit⟩ := readUnit?_eq_some_iff.mp first
    simp only at reads
    split at reads
    next isHigh =>
      obtain ⟨digits', low, rfl, isUnit', isLow, joined⟩ := readLow?_eq_some_iff.mp reads
      exact ⟨digits ++ '\\' :: 'u' :: digits', by simp, .pair isUnit isUnit' isHigh isLow joined⟩
    next =>
      obtain ⟨found, rfl⟩ := map_rest_eq_some_iff.mp reads
      obtain rfl := Unicode.scalar?_eq_some_iff.mp found
      exact ⟨digits, rfl, .unit isUnit⟩
  · rintro ⟨spelled, rfl, escape⟩
    cases escape with
    | short listed => simp [shortEscapes] at listed
    | unit unit =>
      simp [readScalar?, unit.readUnit?_append, not_isHighSurrogate_toNat, Unicode.scalar?_toNat]
    | @pair digits digits' high low _ isUnit isUnit' isHigh isLow joined =>
      have second : readLow? high ('\\' :: 'u' :: digits' ++ rest) = some (c, rest) :=
        readLow?_eq_some_iff.mpr ⟨digits', low, rfl, isUnit', isLow, joined⟩
      simpa [readScalar?, isUnit.readUnit?_append, isHigh] using second

theorem lookup_shortEscapes_iff {letter c : Char} :
    shortEscapes.lookup letter = some c ↔ (letter, c) ∈ shortEscapes := by
  constructor
  · intro found
    obtain ⟨before, after, parts, _⟩ := List.lookup_eq_some_iff.mp found
    rw [parts]
    exact List.mem_append_right before List.mem_cons_self
  · intro listed
    simp only [shortEscapes, List.mem_cons, Prod.mk.injEq, List.not_mem_nil, or_false] at listed
    rcases listed with ⟨rfl, rfl⟩ | ⟨rfl, rfl⟩ | ⟨rfl, rfl⟩ | ⟨rfl, rfl⟩ | ⟨rfl, rfl⟩ | ⟨rfl, rfl⟩ |
      ⟨rfl, rfl⟩ | ⟨rfl, rfl⟩ <;> rfl

theorem readEscape?_eq_some_iff {text rest : List Char} {c : Char} :
    readEscape? text = some (c, rest) ↔
      ∃ spelled, text = spelled ++ rest ∧ SpellsChar ('\\' :: spelled) c := by
  constructor
  · intro read
    unfold readEscape? at read
    split at read
    next => simp at read
    next letter behind =>
      split at read
      next isU =>
        obtain ⟨spelled, rfl, escape⟩ := readScalar?_eq_some_iff.mp read
        exact ⟨letter :: spelled, rfl, by rwa [isU]⟩
      next =>
        obtain ⟨found, rfl⟩ := map_rest_eq_some_iff.mp read
        exact ⟨[letter], rfl, .short (lookup_shortEscapes_iff.mp found)⟩
  · rintro ⟨spelled, rfl, escape⟩
    have numbered {digits : List Char} (escape : SpellsChar ('\\' :: 'u' :: digits) c) :
        readEscape? ('u' :: digits ++ rest) = some (c, rest) :=
      readScalar?_eq_some_iff.mpr ⟨digits, rfl, escape⟩
    cases escape with
    | plain _ _ backslash => exact absurd rfl backslash
    | @short letter _ listed =>
      have noU : letter ≠ 'u' := by
        rintro rfl
        simp [shortEscapes] at listed
      simp [readEscape?, noU, lookup_shortEscapes_iff.mpr listed]
    | unit unit => exact numbered (.unit unit)
    | pair first second isHigh isLow joined => exact numbered (.pair first second isHigh isLow joined)

theorem readChar?_eq_some_iff {text rest : List Char} {c : Char} :
    readChar? text = some (c, rest) ↔ ∃ spelled, text = spelled ++ rest ∧ SpellsChar spelled c := by
  constructor
  · intro read
    unfold readChar? at read
    split at read
    next => simp at read
    next first behind =>
      split at read
      next backslash =>
        obtain ⟨spelled, rfl, escape⟩ := readEscape?_eq_some_iff.mp read
        exact ⟨first :: spelled, rfl, by rwa [backslash]⟩
      next backslash =>
        split at read
        next plain =>
          obtain ⟨rfl, rfl⟩ := Prod.mk.inj (Option.some.inj read)
          exact ⟨[first], rfl, .plain plain.1 plain.2 backslash⟩
        next => simp at read
  · rintro ⟨spelled, rfl, spells⟩
    have escaped {letters : List Char} (escape : SpellsChar ('\\' :: letters) c) :
        readChar? ('\\' :: letters ++ rest) = some (c, rest) :=
      readEscape?_eq_some_iff.mpr ⟨letters, rfl, escape⟩
    cases spells with
    | plain visible quote backslash => simp [readChar?, visible, quote, backslash]
    | short listed => exact escaped (.short listed)
    | unit unit => exact escaped (.unit unit)
    | pair first second isHigh isLow joined => exact escaped (.pair first second isHigh isLow joined)

theorem SpellsChar.exists_first {text : List Char} {c : Char} (spelled : SpellsChar text c) :
    ∃ first later, text = first :: later ∧ first ≠ '"' := by
  cases spelled with
  | plain _ quote _ => exact ⟨_, _, rfl, quote⟩
  | _ => exact ⟨'\\', _, rfl, by decide⟩

theorem readChars?_of_spells {limit : Nat} {text value : List Char}
    (spelled : SpellsEach SpellsChar text value) (within : text.length ≤ limit) (rest : List Char) :
    readChars? limit (text ++ '"' :: rest) = some (value, rest) := by
  induction spelled generalizing limit with
  | nil => simp [readChars?]
  | @cons text later c value first _ ih =>
    obtain ⟨first', later', rfl, quote⟩ := first.exists_first
    simp only [List.length_append, List.length_cons] at within
    obtain ⟨limit, rfl⟩ : ∃ less, limit = less + 1 := ⟨limit - 1, by omega⟩
    have read : readChar? (first' :: (later' ++ (later ++ '"' :: rest))) =
        some (c, later ++ '"' :: rest) :=
      readChar?_eq_some_iff.mpr ⟨first' :: later', rfl, first⟩
    have reads := @ih limit (by omega)
    simp [readChars?, quote, read, reads]

theorem exists_spells_of_readChars? {limit : Nat} {text value rest : List Char}
    (read : readChars? limit text = some (value, rest)) :
    ∃ inside, text = inside ++ '"' :: rest ∧ SpellsEach SpellsChar inside value := by
  fun_induction readChars? limit text generalizing value rest with
  | case1 limit behind =>
    obtain ⟨rfl, rfl⟩ := Prod.mk.inj (Option.some.inj read)
    exact ⟨[], rfl, .nil⟩
  | case2 => simp at read
  | case3 limit text _ ih =>
    obtain ⟨⟨c, behind⟩, first, reads⟩ := Option.bind_eq_some_iff.mp read
    obtain ⟨later, found, rfl⟩ := exists_of_map reads
    obtain ⟨spelled, rfl, isChar⟩ := readChar?_eq_some_iff.mp first
    obtain ⟨inside, rfl, spells⟩ := ih behind found
    exact ⟨spelled ++ inside, (List.append_assoc ..).symm, .cons isChar spells⟩

theorem readString?_eq_some_iff {text value rest : List Char} :
    readString? text = some (value, rest) ↔
      ∃ spelled, text = spelled ++ rest ∧ SpellsString spelled value := by
  constructor
  · intro read
    unfold readString? at read
    split at read
    next behind =>
      obtain ⟨inside, rfl, spelled⟩ := exists_spells_of_readChars? read
      exact ⟨'"' :: inside ++ ['"'], by simp, inside, rfl, spelled⟩
    next => simp at read
  · rintro ⟨_, rfl, inside, rfl, spelled⟩
    have read : readChars? (inside ++ '"' :: rest).length (inside ++ '"' :: rest) =
        some (value, rest) := readChars?_of_spells spelled (by simp) rest
    simpa [readString?] using read

theorem readNumber?_of_spells {text rest : List Char} {value : Nat}
    (spelled : SpellsNumber text value) (stops : Stops Char.isDigit rest) :
    readNumber? (text ++ rest) = some (value, rest) := by
  have accepted : ¬ (text = [] ∨ (text.head? = some '0' ∧ text ≠ ['0'])) := by
    rintro (empty | ⟨zero, other⟩)
    · exact spelled.nonempty empty
    · exact other (spelled.noLeadingZero zero)
  rw [readNumber?, stops.takeWhile_append spelled.areDigits,
    stops.dropWhile_append spelled.areDigits]
  simp only [accepted, if_false, spelled.value]

theorem exists_spells_of_readNumber? {text rest : List Char} {value : Nat}
    (read : readNumber? text = some (value, rest)) :
    ∃ spelled, text = spelled ++ rest ∧ SpellsNumber spelled value := by
  unfold readNumber? at read
  simp only at read
  split at read
  next => simp at read
  next accepted =>
  obtain ⟨rfl, rfl⟩ := Prod.mk.inj (Option.some.inj read)
  have areDigits := List.all_eq_true.mp (List.all_takeWhile (p := Char.isDigit) (l := text))
  simp only [not_or, not_and, ne_eq, Classical.not_not] at accepted
  exact ⟨text.takeWhile Char.isDigit, List.takeWhile_append_dropWhile.symm, accepted.1, areDigits,
    accepted.2, rfl⟩

theorem skipBlanks_append {before rest : List Char} (blank : Blank before)
    (stops : Stops isBlank rest) : skipBlanks (before ++ rest) = rest :=
  stops.dropWhile_append blank

theorem exists_blank_skipBlanks (text : List Char) :
    ∃ before, Blank before ∧ text = before ++ skipBlanks text :=
  ⟨text.takeWhile isBlank, List.all_eq_true.mp List.all_takeWhile,
    List.takeWhile_append_dropWhile.symm⟩

theorem readWord?_append (word : List Char) (value : Json) (rest : List Char) :
    readWord? word value (word ++ rest) = some (value, rest) := by
  simp [readWord?]

theorem parts_of_readWord? {word : List Char} {value value' : Json} {text rest : List Char}
    (read : readWord? word value text = some (value', rest)) :
    text = word ++ rest ∧ value' = value := by
  unfold readWord? at read
  split at read
  next isPrefix =>
    obtain ⟨behind, rfl⟩ := List.isPrefixOf_iff_prefix.mp isPrefix
    obtain ⟨rfl, rfl⟩ := Prod.mk.inj (Option.some.inj read)
    simp
  next => simp at read

end Json

end SqlIdentifier
