import SqlIdentifier.Identifier.Error
import SqlIdentifier.Proofs.JsonTokens

namespace SqlIdentifier

namespace Text

theorem toDigits_injective {value value' : Nat}
    (same : Nat.toDigits 10 value = Nat.toDigits 10 value') : value = value' := by
  have read := congrArg (Nat.ofDigitChars 10 · 0) same
  simpa only [Nat.ofDigitChars_ten_toDigits] using read

namespace Stops

variable {rest rest' : List Char}

/-- A run that nothing prolongs is determined, with where it ends. -/
theorem append_inj {member : Char → Bool} {front front' : List Char} (stops : Stops member rest)
    (stops' : Stops member rest') (members : ∀ c ∈ front, member c = true)
    (members' : ∀ c ∈ front', member c = true) (same : front ++ rest = front' ++ rest') :
    front = front' ∧ rest = rest' := by
  have taken := congrArg (List.takeWhile member) same
  have left := congrArg (List.dropWhile member) same
  rw [stops.takeWhile_append members, stops'.takeWhile_append members'] at taken
  rw [stops.dropWhile_append members, stops'.dropWhile_append members'] at left
  exact ⟨taken, left⟩

theorem decimal_inj {value value' : Nat} (stops : Stops Char.isDigit rest)
    (stops' : Stops Char.isDigit rest')
    (same : Nat.toDigits 10 value ++ rest = Nat.toDigits 10 value' ++ rest') :
    value = value' ∧ rest = rest' := by
  obtain ⟨digits, rests⟩ := stops.append_inj stops' (Json.spellsNumber_toDigits value).areDigits
    (Json.spellsNumber_toDigits value').areDigits same
  exact ⟨toDigits_injective digits, rests⟩

theorem hex_inj {width value value' : Nat} (stops : Stops Hex.isDigit rest)
    (stops' : Stops Hex.isDigit rest')
    (same : Hex.write width value ++ rest = Hex.write width value' ++ rest') :
    value = value' ∧ rest = rest' := by
  obtain ⟨digits, rests⟩ := stops.append_inj stops' (Hex.isDigit_of_mem_write width value)
    (Hex.isDigit_of_mem_write width value') same
  have read := Hex.valueFrom_write width value
  rw [digits, Hex.valueFrom_write] at read
  exact ⟨(Option.some.inj read).symm, rests⟩

end Stops

/-- The letters that make an escape of a literal in single quotes together with a backslash. -/
def literalEscapes : List (Char × Char) :=
  [('0', '\x00'), ('t', '\t'), ('r', '\r'), ('n', '\n'), ('\\', '\\'), ('\'', '\'')]

/-- The three ways to show a code point. -/
theorem literalChar_cases (c : Char) :
    (literalChar '\'' c = [c]) ∨
    (∃ letter, literalChar '\'' c = ['\\', letter] ∧ (letter, c) ∈ literalEscapes) ∨
    literalChar '\'' c = ['\\', 'u', '\x7b'] ++ Nat.toDigits 16 c.toNat ++ ['\x7d'] := by
  unfold literalChar
  iterate 4
    split
    next is => subst is; exact .inr (.inl ⟨_, rfl, by decide⟩)
  split
  next is => rcases is with rfl | rfl <;> exact .inr (.inl ⟨_, rfl, by decide⟩)
  split
  next => exact .inl rfl
  next => exact .inr (.inr rfl)

theorem toDigits_hex_injective {value value' : Nat}
    (same : Nat.toDigits 16 value = Nat.toDigits 16 value') : value = value' := by
  have read := Hex.valueFrom_toDigits value
  rw [same, Hex.valueFrom_toDigits value'] at read
  exact (Option.some.inj read).symm

theorem literalChar_injective {c d : Char} (same : literalChar '\'' c = literalChar '\'' d) :
    c = d := by
  have letters : ∀ escape ∈ literalEscapes, ∀ escape' ∈ literalEscapes,
      escape.1 = escape'.1 → escape.2 = escape'.2 := by decide
  rcases literalChar_cases c with plain | ⟨letter, short, listed⟩ | numbered <;>
    rcases literalChar_cases d with plain' | ⟨letter', short', listed'⟩ | numbered'
  case inl.inl =>
    rw [plain, plain'] at same
    exact (List.cons.inj same).1
  case inr.inl.inr.inl =>
    rw [short, short'] at same
    have sameLetter : letter = letter' := by simpa using same
    exact letters _ listed _ listed' sameLetter
  case inr.inr.inr.inr =>
    rw [numbered, numbered'] at same
    have digits := List.append_cancel_left (List.append_cancel_right same)
    exact Char.toNat_inj.mp (toDigits_hex_injective digits)
  -- Texts of different ways differ in length.
  all_goals
    have lengths := congrArg List.length same
    simp_all

end Text

namespace Identifier.Error

theorem toList_message_noMatch (position : Nat) :
    (noMatch position).message.toList =
      "No identifier at byte ".toList ++ Nat.toDigits 10 position := by
  have text : (noMatch position).message = "No identifier at byte " ++ toString position := rfl
  rw [text, String.toList_append, Nat.toString_eq_repr, Nat.toList_repr]

theorem exists_message_malformedEscape (offset : Nat) (escape : Char) :
    ∃ tail, (malformedEscape offset escape).message.toList =
      "Malformed Unicode escape at byte ".toList ++
        (Nat.toDigits 10 offset ++ (": '".toList ++ escape :: tail)) := by
  have text : (malformedEscape offset escape).message =
      "Malformed Unicode escape at byte " ++ toString offset ++ ": '" ++ toString escape ++
        "' must be followed by '" ++ toString escape ++ "', " ++
        "4 hex digits, or '+' and 6 hex digits" := rfl
  have shown : (toString escape).toList = [escape] := String.toList_singleton escape
  simp only [text, String.toList_append, Nat.toString_eq_repr, Nat.toList_repr, shown,
    List.append_assoc, List.cons_append, List.nil_append]
  exact ⟨_, rfl⟩

theorem toList_message_invalidCodePoint (offset value : Nat) :
    (invalidCodePoint offset value).message.toList =
      "Invalid code point U+".toList ++
        (Hex.write 4 value ++ (" at byte ".toList ++ Nat.toDigits 10 offset)) := by
  have text : (invalidCodePoint offset value).message =
      "Invalid code point U+" ++ String.ofList (Hex.write 4 value) ++ " at byte " ++
        toString offset := rfl
  have shown : (String.ofList (Hex.write 4 value)).toList = Hex.write 4 value := String.toList_ofList
  simp only [text, String.toList_append, shown, Nat.toString_eq_repr, Nat.toList_repr,
    List.append_assoc]

theorem toList_message_lengthExceeded (length most : Nat) :
    (lengthExceeded length most).message.toList =
      "Identifier is ".toList ++
        (Nat.toDigits 10 length ++
          (" code points long, maximum is ".toList ++ Nat.toDigits 10 most)) := by
  have text : (lengthExceeded length most).message =
      "Identifier is " ++ toString length ++ " code points long, maximum is " ++ toString most := rfl
  simp only [text, String.toList_append, Nat.toString_eq_repr, Nat.toList_repr, List.append_assoc]

theorem toList_message_invalidEscapeCharacter (escape : Char) :
    (invalidEscapeCharacter escape).message.toList =
      "Invalid escape character: ".toList ++ '\'' :: (Text.literalChar '\'' escape ++ ['\'']) := by
  have text : (invalidEscapeCharacter escape).message =
      "Invalid escape character: " ++ Text.charLiteral escape := rfl
  have shown : (Text.charLiteral escape).toList = '\'' :: Text.literalChar '\'' escape ++ ['\''] :=
    String.toList_ofList
  rw [text, String.toList_append, shown, List.cons_append]

/-- The words that messages start with. -/
def opening : Error → String
  | noMatch _ => "No identifier at byte "
  | malformedEscape .. => "Malformed Unicode escape at byte "
  | invalidCodePoint .. => "Invalid code point U+"
  | lengthExceeded .. => "Identifier is "
  | invalidEscapeCharacter _ => "Invalid escape character: "

theorem exists_message (error : Error) :
    ∃ rest, error.message.toList = error.opening.toList ++ rest := by
  cases error with
  | noMatch position => exact ⟨_, toList_message_noMatch position⟩
  | malformedEscape offset escape =>
    obtain ⟨tail, text⟩ := exists_message_malformedEscape offset escape
    exact ⟨_, text⟩
  | invalidCodePoint offset value => exact ⟨_, toList_message_invalidCodePoint offset value⟩
  | lengthExceeded length most => exact ⟨_, toList_message_lengthExceeded length most⟩
  | invalidEscapeCharacter escape => exact ⟨_, toList_message_invalidEscapeCharacter escape⟩

theorem message_injective {left right : Error} (same : left.message = right.message) :
    left = right := by
  obtain ⟨rest, text⟩ := left.exists_message
  obtain ⟨rest', text'⟩ := right.exists_message
  have texts := congrArg String.toList same
  have opened : left.opening.toList ++ rest = right.opening.toList ++ rest' := by
    rw [← text, ← text', texts]
  cases left <;> cases right
  case noMatch.noMatch position position' =>
    rw [toList_message_noMatch, toList_message_noMatch] at texts
    rw [Text.toDigits_injective (List.append_cancel_left texts)]
  case malformedEscape.malformedEscape offset escape offset' escape' =>
    obtain ⟨tail, parts⟩ := exists_message_malformedEscape offset escape
    obtain ⟨tail', parts'⟩ := exists_message_malformedEscape offset' escape'
    rw [parts, parts'] at texts
    obtain ⟨offsets, behind⟩ := Text.Stops.decimal_inj (by simp [Text.Stops])
      (by simp [Text.Stops]) (List.append_cancel_left texts)
    have escapes := (List.cons.inj (List.append_cancel_left behind)).1
    rw [offsets, escapes]
  case invalidCodePoint.invalidCodePoint offset value offset' value' =>
    rw [toList_message_invalidCodePoint, toList_message_invalidCodePoint] at texts
    have space : Hex.isDigit ' ' = false := by decide
    obtain ⟨values, behind⟩ := Text.Stops.hex_inj (by simp [Text.Stops, space])
      (by simp [Text.Stops, space]) (List.append_cancel_left texts)
    rw [values, Text.toDigits_injective (List.append_cancel_left behind)]
  case lengthExceeded.lengthExceeded length most length' most' =>
    rw [toList_message_lengthExceeded, toList_message_lengthExceeded] at texts
    obtain ⟨lengths, behind⟩ := Text.Stops.decimal_inj (by simp [Text.Stops])
      (by simp [Text.Stops]) (List.append_cancel_left texts)
    rw [lengths, Text.toDigits_injective (List.append_cancel_left behind)]
  case invalidEscapeCharacter.invalidEscapeCharacter escape escape' =>
    rw [toList_message_invalidEscapeCharacter, toList_message_invalidEscapeCharacter] at texts
    have shown := (List.cons.inj (List.append_cancel_left texts)).2
    rw [Text.literalChar_injective (List.append_cancel_right shown)]
  -- Errors of two kinds differ in the words in front.
  all_goals simp [opening] at opened

end Identifier.Error

end SqlIdentifier
