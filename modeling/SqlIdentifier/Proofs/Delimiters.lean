import SqlIdentifier.CharClass.Dialects
import SqlIdentifier.Text.Utf8

namespace SqlIdentifier.CharClass

section Contains

variable (c : Char)

@[simp]
theorem contains_chars (listed : List Char) : (chars listed).contains c = listed.contains c := rfl

@[simp]
theorem contains_range (first last : Char) :
    (range first last).contains c = (first ≤ c && c ≤ last) := rfl

@[simp]
theorem contains_union (classes : List CharClass) :
    (union classes).contains c = classes.any (·.contains c) :=
  anyContains_eq_any classes c

@[simp]
theorem contains_intersection (classes : List CharClass) :
    (intersection classes).contains c = classes.all (·.contains c) :=
  allContain_eq_all classes c

@[simp]
theorem contains_complement (inner : CharClass) :
    (complement inner).contains c = !inner.contains c := rfl

end Contains

theorem not_inside_and_outside {k : CharClass} {c : Char} (inside : k.contains c = true)
    (outside : k.contains c = false) : False := by
  rw [outside] at inside
  simp at inside

/-- A run of a class starts with a member of the class, whatever follows it. -/
theorem head?_members_append {k : CharClass} {chars : List Char} (nonempty : chars ≠ [])
    (members : ∀ c ∈ chars, k.contains c = true) (more : List Char) :
    ∀ c ∈ (chars ++ more).head?, k.contains c = true := by
  intro c first
  obtain ⟨d, later, rfl⟩ := List.exists_cons_of_ne_nil nonempty
  cases Option.some.inj first
  exact members c List.mem_cons_self

/-- A run of a class ends before a code point outside the class. -/
theorem head?_outside {k : CharClass} {d : Char} (outside : k.contains d = false)
    (more : List Char) : ∀ c ∈ (d :: more).head?, k.contains c = false := by
  intro c first
  cases Option.some.inj first
  exact outside

/-- Whether a number is that of a code point in the class. Surrogates are in no class. -/
def containsNumber (k : CharClass) (codePoint : Nat) : Bool :=
  (Unicode.scalar? codePoint).any k.contains

theorem containsNumber_toNat (k : CharClass) (c : Char) :
    k.containsNumber c.toNat = k.contains c := by
  rw [containsNumber, Unicode.scalar?_toNat, Option.any_some]

theorem isoStart_contained {c : Char} (member : isoStart.contains c = true) :
    isoPart.contains c = true := by
  simp [isoPart, member]

theorem postgresStart_contained {c : Char} (member : postgresStart.contains c = true) :
    postgresPart.contains c = true := by
  simp [postgresPart, member]

theorem isoPostgresStart_contains_iff {c : Char} :
    isoPostgresStart.contains c = true ↔
      isoStart.contains c = true ∧ postgresStart.contains c = true := by
  simp [isoPostgresStart]

theorem isoPostgresPart_contains_iff {c : Char} :
    isoPostgresPart.contains c = true ↔
      isoPart.contains c = true ∧ postgresPart.contains c = true := by
  simp [isoPostgresPart]

theorem isoPostgresStart_contained {c : Char} (member : isoPostgresStart.contains c = true) :
    isoPostgresPart.contains c = true := by
  obtain ⟨iso, postgres⟩ := isoPostgresStart_contains_iff.mp member
  exact isoPostgresPart_contains_iff.mpr
    ⟨isoStart_contained iso, postgresStart_contained postgres⟩

/-- What Java forbids besides is only ever taken away. -/
theorem isoPostgresJavaStart_contained {c : Char} (member : isoPostgresJavaStart.contains c = true) :
    isoPostgresStart.contains c = true := by
  simp only [isoPostgresJavaStart, contains_intersection, List.all_cons, Bool.and_eq_true] at member
  exact isoPostgresStart_contains_iff.mpr ⟨member.1, member.2.1⟩

theorem isoPostgresJavaPart_contained {c : Char} (member : isoPostgresJavaPart.contains c = true) :
    isoPostgresPart.contains c = true := by
  simp only [isoPostgresJavaPart, contains_intersection, List.all_cons, Bool.and_eq_true] at member
  exact isoPostgresPart_contains_iff.mpr ⟨member.1, member.2.1⟩

/-- The numbers of the code points with the property White_Space. -/
def whiteSpaceNumbers : List Nat :=
  [0x09, 0x0A, 0x0B, 0x0C, 0x0D, 0x20, 0x85, 0xA0, 0x1680, 0x2000, 0x2001, 0x2002, 0x2003, 0x2004,
    0x2005, 0x2006, 0x2007, 0x2008, 0x2009, 0x200A, 0x2028, 0x2029, 0x202F, 0x205F, 0x3000]

theorem toNat_mem_whiteSpaceNumbers {c : Char} (blank : whiteSpace.contains c = true) :
    c.toNat ∈ whiteSpaceNumbers := by
  simp only [whiteSpace, contains_union, contains_range, contains_chars, List.any_cons,
    List.any_nil, Bool.or_eq_true, Bool.and_eq_true, decide_eq_true_eq, List.contains_iff_mem,
    List.mem_cons, List.not_mem_nil, or_false, Bool.or_false, Char.le_def,
    UInt32.le_iff_toNat_le] at blank
  rcases blank with early | (rfl | rfl | rfl | rfl) | wide | (rfl | rfl | rfl | rfl | rfl)
  · have least : 0x09 ≤ c.toNat := early.1
    have most : c.toNat ≤ 0x0D := early.2
    simp only [whiteSpaceNumbers, List.mem_cons]
    omega
  · decide
  · decide
  · decide
  · decide
  · have least : 0x2000 ≤ c.toNat := wide.1
    have most : c.toNat ≤ 0x200A := wide.2
    simp only [whiteSpaceNumbers, List.mem_cons]
    omega
  · decide
  · decide
  · decide
  · decide
  · decide

/-- All that is asked of the table of categories: which delimiters are outside of regular
identifiers, and which letters are inside. -/
theorem regular_checked :
    (whiteSpaceNumbers ++ ['"', '\'', '&', ','].map Char.toNat).all
        (!isoPostgresPart.containsNumber ·) = true ∧
      ['U', 'u'].all isoPostgresStart.contains = true ∧
      ("UESCAPE".toList.map Char.toLower).all (fun d =>
        isoPostgresPart.containsNumber d.toNat &&
          isoPostgresPart.containsNumber (d.toNat - 32)) = true := by
  decide +kernel

theorem isoPostgresPart_not_delimiter {c : Char}
    (delimits : c.toNat ∈ whiteSpaceNumbers ++ ['"', '\'', '&', ','].map Char.toNat) :
    isoPostgresPart.contains c = false := by
  rw [← containsNumber_toNat]
  simpa only [Bool.not_eq_true'] using List.all_eq_true.mp regular_checked.1 c.toNat delimits

theorem isoPostgresPart_not_whiteSpace {c : Char} (blank : whiteSpace.contains c = true) :
    isoPostgresPart.contains c = false :=
  isoPostgresPart_not_delimiter (List.mem_append_left _ (toNat_mem_whiteSpaceNumbers blank))

theorem isoPostgresPart_not_punctuation :
    ∀ c ∈ ['"', '\'', '&', ','], isoPostgresPart.contains c = false := by
  intro c member
  exact isoPostgresPart_not_delimiter (List.mem_append_right _ (List.mem_map_of_mem member))

theorem whiteSpace_not_punctuation :
    ∀ c ∈ ['"', '\'', '&', ','], whiteSpace.contains c = false := by
  simp [whiteSpace]

theorem isoPostgresStart_unicodeLetter :
    ∀ c ∈ ['U', 'u'], isoPostgresStart.contains c = true :=
  List.all_eq_true.mp regular_checked.2.1

theorem notDoubleQuote_contains_iff {c : Char} :
    notDoubleQuote.contains c = true ↔ c ≠ '"' := by
  simp [notDoubleQuote]

theorem escapeCharacter_contains_iff {c : Char} :
    escapeCharacter.contains c = true ↔
      hexDigit.contains c = false ∧ c ≠ '+' ∧ c ≠ '\'' ∧ c ≠ '"' ∧ whiteSpace.contains c = false := by
  simp only [escapeCharacter, contains_complement, contains_union, contains_chars, List.any_cons,
    List.any_nil, Bool.or_false, Bool.not_eq_true', Bool.or_eq_false_iff, List.contains_eq_mem,
    decide_eq_false_iff_not, List.mem_cons, List.not_mem_nil, or_false, not_or]
  constructor
  · intro legal
    obtain ⟨noDigit, ⟨noPlus, noQuote, noDouble⟩, noBlank⟩ := legal
    exact ⟨noDigit, noPlus, noQuote, noDouble, noBlank⟩
  · intro outside
    obtain ⟨noDigit, noPlus, noQuote, noDouble, noBlank⟩ := outside
    exact ⟨noDigit, ⟨noPlus, noQuote, noDouble⟩, noBlank⟩

end SqlIdentifier.CharClass

namespace SqlIdentifier.Text

/-- A character with the given lower case is that letter itself or its capital. -/
theorem eq_or_eq_of_toLower {c d : Char} (same : c.toLower = d) :
    c = d ∨ c.toNat + 32 = d.toNat := by
  unfold Char.toLower at same
  split at same
  · rename_i upper
    have most : c.val.toNat ≤ 90 := UInt32.le_iff_toNat_le.mp upper.2
    right
    subst same
    show c.val.toNat + 32 = (c.val + ('a'.val - 'A'.val)).toNat
    rw [UInt32.toNat_add]
    simp only [Char.reduceVal, UInt32.reduceSub, UInt32.reduceToNat]
    omega
  · exact Or.inl same

/-- The keyword of the escape clause, in any mix of cases, is made of letters. -/
theorem isoPostgresPart_of_uescape {word : List Char}
    (agree : eqIgnoringCase word "UESCAPE".toList = true) :
    ∀ c ∈ word, CharClass.isoPostgresPart.contains c = true := by
  have same : word.map Char.toLower = "UESCAPE".toList.map Char.toLower := beq_iff_eq.mp agree
  intro c member
  have lower := List.mem_map_of_mem (f := Char.toLower) member
  rw [same] at lower
  obtain ⟨small, capital⟩ := Bool.and_eq_true_iff.mp
    (List.all_eq_true.mp CharClass.regular_checked.2.2 _ lower)
  rw [← CharClass.containsNumber_toNat]
  rcases eq_or_eq_of_toLower (c := c) rfl with equal | shifted
  · rw [equal]
    exact small
  · rw [← shifted, Nat.add_sub_cancel] at capital
    exact capital

theorem utf8Size_unicodeLetter : ∀ c ∈ ['U', 'u'], c.utf8Size = 1 := by
  intro c member
  have checked : ['U', 'u'].all (·.utf8Size == 1) = true := by decide
  exact beq_iff_eq.mp (List.all_eq_true.mp checked c member)

theorem length_of_eqIgnoringCase {left right : List Char}
    (agree : eqIgnoringCase left right = true) : left.length = right.length := by
  have same : left.map Char.toLower = right.map Char.toLower := beq_iff_eq.mp agree
  simpa using congrArg List.length same

end SqlIdentifier.Text
