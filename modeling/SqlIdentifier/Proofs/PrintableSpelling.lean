import SqlIdentifier.Proofs.HexNotation
import SqlIdentifier.Proofs.RoundTrip

namespace SqlIdentifier

namespace Identifier

def IsPrintable (c : Char) : Prop :=
  ' ' ≤ c ∧ c ≤ '~'

instance (c : Char) : Decidable (IsPrintable c) :=
  inferInstanceAs (Decidable (_ ∧ _))

theorem forall_isPrintable {text : List Char}
    (checked : text.all (fun c => IsPrintable c) = true) : ∀ c ∈ text, IsPrintable c :=
  fun c member => of_decide_eq_true (List.all_eq_true.mp checked c member)

/-- Whether a code point is written as itself: it is printable, and it is neither the escape
character nor a quote. -/
def StandsForItself (escape c : Char) : Prop :=
  IsPrintable c ∧ c ≠ escape ∧ c ≠ '"'

instance (escape c : Char) : Decidable (StandsForItself escape c) :=
  inferInstanceAs (Decidable (_ ∧ _))

/-- What is written for one code point. The cases exclude one another. -/
inductive UnitFor (escape : Char) : Char → List Char → Prop
  | itself {c : Char} : StandsForItself escape c → UnitFor escape c [c]
  | escape : UnitFor escape escape [escape, escape]
  | quote : '"' ≠ escape → UnitFor escape '"' ['"', '"']
  | four {c : Char} {digits : List Char} : c ≠ escape → ¬ IsPrintable c → c.toNat ≤ 0xFFFF →
      Hex.Writes 4 c.toNat digits → UnitFor escape c (escape :: digits)
  | six {c : Char} {digits : List Char} : c ≠ escape → ¬ IsPrintable c → 0xFFFF < c.toNat →
      Hex.Writes 6 c.toNat digits → UnitFor escape c (escape :: '+' :: digits)

section UnitFor

variable {escape c : Char} {unit : List Char}

theorem writes_four_iff {digits : List Char} (short : c.toNat ≤ 0xFFFF) :
    Hex.Writes 4 c.toNat digits ↔ digits = Hex.write 4 c.toNat :=
  Hex.writes_iff (by decide) (Nat.lt_of_le_of_lt short (by decide))

theorem writes_six_iff {digits : List Char} :
    Hex.Writes 6 c.toNat digits ↔ digits = Hex.write 6 c.toNat :=
  Hex.writes_iff (by decide) (Nat.lt_of_lt_of_le (Unicode.toNat_lt c) (by decide))

/-- The unit for a code point is the one that the writer takes. The order of the cases is that of
the writer: the escape character may be printable or not, and the quote is printable. -/
theorem unitFor_iff : UnitFor escape c unit ↔ unit = unicodeUnit escape c := by
  have cases_eq : unicodeUnit escape c =
      if c = escape then [escape, escape]
      else if c = '"' then ['"', '"']
      else if IsPrintable c then [c]
      else if c.toNat ≤ 0xFFFF then escape :: Hex.write 4 c.toNat
      else escape :: '+' :: Hex.write 6 c.toNat := rfl
  have ne_quote (unprintable : ¬ IsPrintable c) : c ≠ '"' := by
    rintro rfl
    exact unprintable (by decide)
  rw [cases_eq]
  constructor
  · intro isUnit
    cases isUnit with
    | itself plain =>
      obtain ⟨printable, noEscape, noQuote⟩ := plain
      rw [if_neg noEscape, if_neg noQuote, if_pos printable]
    | escape => rw [if_pos rfl]
    | quote noEscape => rw [if_neg noEscape, if_pos rfl]
    | four noEscape unprintable short writes =>
      rw [if_neg noEscape, if_neg (ne_quote unprintable), if_neg unprintable, if_pos short,
        (writes_four_iff short).mp writes]
    | six noEscape unprintable long writes =>
      rw [if_neg noEscape, if_neg (ne_quote unprintable), if_neg unprintable,
        if_neg (Nat.not_le_of_lt long), writes_six_iff.mp writes]
  · rintro rfl
    by_cases isEscape : c = escape
    · rw [if_pos isEscape, isEscape]
      exact .escape
    rw [if_neg isEscape]
    by_cases isQuote : c = '"'
    · rw [if_pos isQuote, isQuote]
      exact .quote (isQuote ▸ isEscape)
    rw [if_neg isQuote]
    by_cases printable : IsPrintable c
    · rw [if_pos printable]
      exact .itself ⟨printable, isEscape, isQuote⟩
    rw [if_neg printable]
    by_cases short : c.toNat ≤ 0xFFFF
    · rw [if_pos short]
      exact .four isEscape printable short ((writes_four_iff short).mpr rfl)
    · rw [if_neg short]
      exact .six isEscape printable (Nat.lt_of_not_le short) (writes_six_iff.mpr rfl)

theorem UnitFor.printable (isUnit : UnitFor escape c unit) :
    ∀ d ∈ unit, IsPrintable d ∨ d = escape := by
  have digits {width value : Nat} {digits : List Char} (writes : Hex.Writes width value digits) :
      ∀ d ∈ digits, IsPrintable d ∨ d = escape := by
    have checked : ∀ d ∈ Hex.capitals, IsPrintable d := forall_isPrintable (by decide)
    intro d member
    exact Or.inl (checked d (writes.capital d member))
  have escaped {rest : List Char} (later : ∀ d ∈ rest, IsPrintable d ∨ d = escape) :
      ∀ d ∈ escape :: rest, IsPrintable d ∨ d = escape :=
    List.forall_mem_cons.mpr ⟨Or.inr rfl, later⟩
  cases isUnit with
  | itself plain => simpa using Or.inl plain.1
  | escape => simp
  | quote => exact fun d member => Or.inl (by simp_all; decide)
  | four _ _ _ writes => exact escaped (digits writes)
  | six _ _ _ writes =>
    exact escaped (List.forall_mem_cons.mpr ⟨Or.inl (by decide), digits writes⟩)

/-- A code point that stands for itself is in its unit, and for any other nothing is claimed. -/
theorem UnitFor.sublist (isUnit : UnitFor escape c unit) :
    ([c].filter (StandsForItself escape ·)).Sublist unit := by
  cases isUnit with
  | itself plain => simp [plain]
  | escape => simp [StandsForItself]
  | quote => simp [StandsForItself]
  | four _ unprintable => simp [StandsForItself, unprintable]
  | six _ unprintable => simp [StandsForItself, unprintable]

end UnitFor

/-- What is written for a text: the units for its code points, in order. -/
def BodyFor (escape : Char) (text body : List Char) : Prop :=
  Text.SpellsEach (fun unit c => UnitFor escape c unit) body text

section BodyFor

variable {escape : Char} {text body : List Char}

theorem bodyFor_iff : BodyFor escape text body ↔ body = text.flatMap (unicodeUnit escape) := by
  have each (unit : List Char) (c : Char) : UnitFor escape c unit ↔ unit = unicodeUnit escape c :=
    unitFor_iff
  exact Text.spellsEach_iff each

theorem BodyFor.printable (isBody : BodyFor escape text body) :
    ∀ d ∈ body, IsPrintable d ∨ d = escape := by
  induction isBody with
  | nil => simp
  | cons isUnit _ ih => exact List.forall_mem_append.mpr ⟨isUnit.printable, ih⟩

theorem BodyFor.sublist (isBody : BodyFor escape text body) :
    (text.filter (StandsForItself escape ·)).Sublist body := by
  induction isBody with
  | nil => exact List.Sublist.refl []
  | cons isUnit _ ih =>
    rw [← List.singleton_append, List.filter_append]
    exact isUnit.sublist.append ih

theorem printable_escapeClause : ∀ d ∈ escapeClause escape, IsPrintable d ∨ d = escape := by
  have word : ∀ d ∈ " UESCAPE '".toList, IsPrintable d := forall_isPrintable (by decide)
  unfold escapeClause
  split
  · simp
  · refine List.forall_mem_append.mpr ⟨fun d member => Or.inl (word d member), ?_⟩
    simpa using Or.inl (by decide : IsPrintable '\'')

end BodyFor

/-- What is written with an escape character that may be used. Each text has one body, made of the
units for its code points in order: what is printable stands for itself and remains in order, and
all else is doubled or numbered. The whole is printable, the escape character apart. The body of
texts put together is made of their bodies. -/
theorem unicodeDelimited_printable {escape : Char}
    (legal : CharClass.escapeCharacter.contains escape = true) :
    ∃ bodyOf : List Char → List Char,
      (∀ text,
        unicodeDelimited escape text =
          .ok ("U&\"".toList ++ bodyOf text ++ ['"'] ++ escapeClause escape) ∧
        (∀ d ∈ "U&\"".toList ++ bodyOf text ++ ['"'] ++ escapeClause escape,
          IsPrintable d ∨ d = escape) ∧
        (∀ body, BodyFor escape text body ↔ body = bodyOf text) ∧
        (text.filter (StandsForItself escape ·)).Sublist (bodyOf text)) ∧
      ∀ texts : List (List Char), bodyOf texts.flatten = (texts.map bodyOf).flatten := by
  refine ⟨fun text => text.flatMap (unicodeUnit escape), ?_, ?_⟩
  · intro text
    have isBody : BodyFor escape text _ := bodyFor_iff.mpr rfl
    have opening : ∀ d ∈ "U&\"".toList, IsPrintable d ∨ d = escape := by
      have checked : ∀ d ∈ "U&\"".toList, IsPrintable d := forall_isPrintable (by decide)
      exact fun d member => Or.inl (checked d member)
    have closing : ∀ d ∈ ['"'], IsPrintable d ∨ d = escape := by
      simpa using Or.inl (by decide : IsPrintable '"')
    refine ⟨unicodeDelimited_eq_ok_iff.mpr ⟨legal, rfl⟩, ?_, fun body => bodyFor_iff, isBody.sublist⟩
    simp only [List.forall_mem_append]
    exact ⟨⟨⟨opening, isBody.printable⟩, closing⟩, printable_escapeClause⟩
  · intro texts
    induction texts with
    | nil => rfl
    | cons text later ih =>
      simp only [List.flatten_cons, List.flatMap_append, List.map_cons]
      exact congrArg (text.flatMap (unicodeUnit escape) ++ ·) ih

/-- A control character as the escape character, in a text that takes each of the ways. -/
theorem unicodeDelimited_printable_control :
    CharClass.escapeCharacter.contains '\x01' = true ∧
      ∃ bodyOf : List Char → List Char,
        bodyOf "a\"\x01\x7f😀".toList = "a\"\"\x01\x01\x01007F\x01+01F600".toList ∧
        (∀ d ∈ "U&\"".toList ++ bodyOf "a\"\x01\x7f😀".toList ++ ['"'] ++ escapeClause '\x01',
          IsPrintable d ∨ d = '\x01') ∧
        bodyOf "aé".toList = bodyOf "a".toList ++ bodyOf "é".toList := by
  have legal : CharClass.escapeCharacter.contains '\x01' = true := by decide +kernel
  obtain ⟨bodyOf, each, together⟩ := unicodeDelimited_printable legal
  obtain ⟨_, printable, body, _⟩ := each "a\"\x01\x7f😀".toList
  have written : BodyFor '\x01' "a\"\x01\x7f😀".toList
      "a\"\"\x01\x01\x01007F\x01+01F600".toList := bodyFor_iff.mpr (by decide)
  have joined := together ["a".toList, "é".toList]
  exact ⟨legal, bodyOf, ((body _).mp written).symm, printable, by simpa using joined⟩

end Identifier

end SqlIdentifier
