import SqlIdentifier.Proofs.LengthLimit

namespace SqlIdentifier.CharClass

open Unicode (Category)

/-- The middle dot, a part of identifiers by ISO SQL although it is a punctuation mark. -/
def middleDot : Char := '\u00b7'

theorem contains_categories (listed : List Category) (c : Char) :
    (categories listed).contains c = listed.contains (Unicode.category c) := rfl

theorem categories_contained {listed listed' : List Category} (inside : ∀ k ∈ listed, k ∈ listed')
    {c : Char} (member : (categories listed).contains c = true) :
    (categories listed').contains c = true := by
  rw [contains_categories, List.contains_iff_mem] at member ⊢
  exact inside _ member

theorem nonAscii_contains_iff {c : Char} : nonAscii.contains c = true ↔ 0x80 ≤ c.toNat := by
  simp only [nonAscii, contains_complement, contains_range, Bool.not_eq_true',
    Bool.and_eq_false_iff, decide_eq_false_iff_not, Char.le_def, UInt32.le_iff_toNat_le]
  have first : '\x00'.val.toNat = 0 := rfl
  have last : '\x7f'.val.toNat = 0x7F := rfl
  have number : c.toNat = c.val.toNat := rfl
  omega

/-- An inclusion in a class that holds all that is not ASCII is settled by the ASCII part of the
table of categories. -/
theorem contained_of_ascii {k k' : CharClass}
    (checked : (List.range 0x80).all (fun codePoint =>
      !k.containsNumber codePoint || k'.containsNumber codePoint) = true)
    (above : ∀ c, nonAscii.contains c = true → k'.contains c = true) {c : Char}
    (member : k.contains c = true) : k'.contains c = true := by
  by_cases ascii : c.toNat < 0x80
  · have inTable := List.all_eq_true.mp checked c.toNat (List.mem_range.mpr ascii)
    simpa only [containsNumber_toNat, member, Bool.not_true, Bool.false_or] using inTable
  · exact above c (nonAscii_contains_iff.mpr (by omega))

/-- The letters among the ASCII characters are those that PostgreSQL lists. -/
theorem postgresStart_of_isoStart {c : Char} (member : isoStart.contains c = true) :
    postgresStart.contains c = true := by
  refine contained_of_ascii (by decide +kernel) ?_ member
  intro d wide
  simp [postgresStart, wide]

theorem postgresPart_of_isoPart {c : Char} (member : isoPart.contains c = true) :
    postgresPart.contains c = true := by
  refine contained_of_ascii (by decide +kernel) ?_ member
  intro d wide
  simp [postgresPart, postgresStart, wide]

theorem isoPostgresStart_eq_isoStart (c : Char) :
    isoPostgresStart.contains c = isoStart.contains c := by
  rw [Bool.eq_iff_iff, isoPostgresStart_contains_iff]
  exact and_iff_left_of_imp postgresStart_of_isoStart

theorem isoPostgresPart_eq_isoPart (c : Char) :
    isoPostgresPart.contains c = isoPart.contains c := by
  rw [Bool.eq_iff_iff, isoPostgresPart_contains_iff]
  exact and_iff_left_of_imp postgresPart_of_isoPart

theorem javaStart_of_isoStart {c : Char} (member : isoStart.contains c = true) :
    javaStart.contains c = true :=
  categories_contained (by decide) member

/-- Every category of parts by ISO SQL is one of Java's: connectors as those that start, format
characters as those that are ignored, marks and digits by name. Only the middle dot is listed for
itself. -/
theorem javaPart_of_isoPart {c : Char} (member : isoPart.contains c = true)
    (plain : c ≠ middleDot) : javaPart.contains c = true := by
  have javaPart_iff : javaPart.contains c = true ↔ javaStart.contains c = true ∨
      (categories [.nd, .mn, .mc]).contains c = true ∨ javaIgnorable.contains c = true := by
    simp [javaPart]
  have parts : isoStart.contains c = true ∨
      (categories [.mn, .mc, .nd, .pc, .cf]).contains c = true ∨ c = middleDot := by
    simpa [isoPart, middleDot] using member
  rcases parts with letter | other | dot
  · exact javaPart_iff.mpr (Or.inl (javaStart_of_isoStart letter))
  · have listed : Unicode.category c ∈ [Category.mn, .mc, .nd] ∨
        Unicode.category c ∈ [Category.pc] ∨ Unicode.category c ∈ [Category.cf] := by
      simpa [contains_categories, or_assoc] using other
    rcases listed with mark | connector | format
    · refine javaPart_iff.mpr (Or.inr (Or.inl ?_))
      exact categories_contained (by decide) (List.contains_iff_mem.mpr mark)
    · refine javaPart_iff.mpr (Or.inl ?_)
      exact categories_contained (by decide) (List.contains_iff_mem.mpr connector)
    · have ignored : (categories [.cf]).contains c = true := List.contains_iff_mem.mpr format
      exact javaPart_iff.mpr (Or.inr (Or.inr (by simp [javaIgnorable, ignored])))
  · exact absurd dot plain

/-- By its category the middle dot is neither a letter nor anything that Java allows. -/
theorem middleDot_checked :
    isoStart.contains middleDot = false ∧ javaPart.contains middleDot = false := by
  decide +kernel

theorem isoPostgresJavaStart_contains_iff {c : Char} :
    isoPostgresJavaStart.contains c = true ↔ isoPostgresStart.contains c = true := by
  refine ⟨isoPostgresJavaStart_contained, ?_⟩
  intro member
  obtain ⟨iso, postgres⟩ := isoPostgresStart_contains_iff.mp member
  simp [isoPostgresJavaStart, iso, postgres, javaStart_of_isoStart iso]

theorem isoPostgresJavaPart_contains_iff {c : Char} :
    isoPostgresJavaPart.contains c = true ↔
      isoPostgresPart.contains c = true ∧ c ≠ middleDot := by
  constructor
  · intro member
    refine ⟨isoPostgresJavaPart_contained member, ?_⟩
    rintro rfl
    have java : javaPart.contains middleDot = true := by
      simp only [isoPostgresJavaPart, contains_intersection, List.all_cons,
        Bool.and_eq_true] at member
      exact member.2.2.1
    exact not_inside_and_outside java middleDot_checked.2
  · rintro ⟨member, plain⟩
    obtain ⟨iso, postgres⟩ := isoPostgresPart_contains_iff.mp member
    simp [isoPostgresJavaPart, iso, postgres, javaPart_of_isoPart iso plain]

theorem isoPostgresStart_ne_middleDot {c : Char} (member : isoPostgresStart.contains c = true) :
    c ≠ middleDot := by
  rintro rfl
  exact not_inside_and_outside (isoPostgresStart_contains_iff.mp member).1 middleDot_checked.1

end SqlIdentifier.CharClass

namespace SqlIdentifier.Grammar

open CharClass (middleDot)

/-- With PostgreSQL the classes of ISO SQL hold the same code points as without, and what a class
holds is all that a run depends on. -/
theorem isoRegular_submatchesAt? (text : List Char) (position : Nat) :
    isoRegular.submatchesAt? text position = isoPostgresRegular.submatchesAt? text position := by
  refine (cappedRegular_takes _ _ _).submatchesAt?_congr (cappedRegular_takes _ _ _) ?_ _ _
  intro taken left
  have sameRun : RegularRun .isoStart .isoPart taken left ↔
      RegularRun .isoPostgresStart .isoPostgresPart taken left :=
    RegularRun.congr (fun c => (CharClass.isoPostgresStart_eq_isoStart c).symm)
      (fun c => (CharClass.isoPostgresPart_eq_isoPart c).symm)
  rw [sameRun]

theorem isoRegular_matchAt? (text : List Char) (position : Nat) :
    isoRegular.matchAt? text position = isoPostgresRegular.matchAt? text position := by
  rw [Pattern.matchAt?, isoRegular_submatchesAt?, Pattern.matchAt?]

theorem postgresRegular_of_isoRegular {text : List Char}
    (accepted : isoRegular.accepts text = true) : postgresRegular.accepts text = true := by
  obtain ⟨run, _⟩ := (cappedRegular_takes _ _ _).accepts_iff.mp accepted
  refine (regularToken_takes _ _).accepts_iff.mpr (run.widen ?_ ?_)
  · exact fun c => CharClass.postgresStart_of_isoStart
  · exact fun c => CharClass.postgresPart_of_isoPart

/-- Java takes the middle dot away from the parts and nothing from the starts. -/
theorem isoPostgresJavaRegular_accepts_iff {text : List Char} :
    isoPostgresJavaRegular.accepts text = true ↔
      isoPostgresRegular.accepts text = true ∧ middleDot ∉ text := by
  rw [isoPostgresJavaRegular, isoPostgresRegular, accepts_cappedRegular_iff,
    accepts_cappedRegular_iff]
  constructor
  · intro spelled
    obtain ⟨first, parts, rfl, starts, continues, few⟩ := spelled
    have isoStarts := CharClass.isoPostgresJavaStart_contains_iff.mp starts
    have allowed (c : Char) (member : c ∈ parts) :=
      CharClass.isoPostgresJavaPart_contains_iff.mp (continues c member)
    refine ⟨⟨first, parts, rfl, isoStarts, fun c member => (allowed c member).1, few⟩, ?_⟩
    intro dotted
    rcases List.mem_cons.mp dotted with atFirst | later
    · exact CharClass.isoPostgresStart_ne_middleDot isoStarts atFirst.symm
    · exact (allowed middleDot later).2 rfl
  · intro spelled
    obtain ⟨⟨first, parts, rfl, starts, continues, few⟩, undotted⟩ := spelled
    refine ⟨first, parts, rfl, CharClass.isoPostgresJavaStart_contains_iff.mpr starts, ?_, few⟩
    intro c member
    refine CharClass.isoPostgresJavaPart_contains_iff.mpr ⟨continues c member, ?_⟩
    rintro rfl
    exact undotted (List.mem_cons_of_mem first member)

end SqlIdentifier.Grammar

namespace SqlIdentifier

open CharClass (middleDot)

/-- A text is its own normal form exactly if it needs no quotes, which would change it. -/
theorem Identifier.normalForm_eq_self_iff {text : List Char} :
    normalForm text = text ↔ Grammar.isoPostgresJavaRegular.accepts text = true := by
  unfold normalForm
  split
  · rename_i accepted
    simp [accepted]
  · rename_i refused
    simp [refused, delimited_ne_self]

theorem Report.check_iso_iff {text : String} {whole : Bool} {span : Option Span} :
    check .iso text = ⟨text, .checked .iso whole span⟩ ↔
      check .isoPostgres text = ⟨text, .checked .isoPostgres whole span⟩ := by
  simp only [check, Dialect.grammar, Grammar.isoRegular_matchAt?, Report.mk.injEq,
    Verdict.checked.injEq, true_and]

/-- The dialects by what they match. Every identifier by ISO SQL is one by PostgreSQL, so that with
the rules of ISO SQL and with those of both the same is matched and recorded at every place of every
text, and the same is reported. Java besides forbids the middle dot and nothing else, and so the
identifiers without it are the texts that are their own normal form. -/
theorem dialects_compared :
    (∀ text position, Grammar.isoRegular.submatchesAt? text position =
      Grammar.isoPostgresRegular.submatchesAt? text position) ∧
    (∀ text, Grammar.isoRegular.accepts text = true →
      Grammar.postgresRegular.accepts text = true) ∧
    (∀ text whole span, Report.check .iso text = ⟨text, .checked .iso whole span⟩ ↔
      Report.check .isoPostgres text = ⟨text, .checked .isoPostgres whole span⟩) ∧
    (∀ text, Grammar.isoPostgresJavaRegular.accepts text = true ↔
      Grammar.isoPostgresRegular.accepts text = true ∧ '\u00b7' ∉ text) ∧
    (∀ text, Identifier.normalForm text = text ↔
      Grammar.isoPostgresRegular.accepts text = true ∧ '\u00b7' ∉ text) := by
  refine ⟨Grammar.isoRegular_submatchesAt?, fun _ => Grammar.postgresRegular_of_isoRegular,
    fun _ _ _ => Report.check_iso_iff, fun _ => Grammar.isoPostgresJavaRegular_accepts_iff, ?_⟩
  intro text
  exact Identifier.normalForm_eq_self_iff.trans Grammar.isoPostgresJavaRegular_accepts_iff

/-- A name with a middle dot is an identifier by ISO SQL and therefore by PostgreSQL. -/
theorem dialects_compared_dotted :
    Grammar.isoRegular.accepts "l·l_é1".toList = true ∧
      Grammar.postgresRegular.accepts "l·l_é1".toList = true := by
  have accepted : Grammar.isoRegular.accepts "l·l_é1".toList = true := by decide +kernel
  exact ⟨accepted, dialects_compared.2.1 _ accepted⟩

end SqlIdentifier
