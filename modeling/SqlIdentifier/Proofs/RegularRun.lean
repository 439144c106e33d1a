import SqlIdentifier.Proofs.Tokens

namespace SqlIdentifier

namespace Pattern

/-- The pattern matches exactly where a text comes next that is allowed before what is left behind
it, moves behind this text and records nothing. -/
def Takes (pattern : Pattern) (Allowed : (taken left : List Char) → Prop) : Prop :=
  ∀ state after, pattern.run state = (true, after) ↔
    ∃ taken behind, Allowed taken behind.rest ∧ state.cursor.Passes taken behind ∧
      after = { state with cursor := behind }

theorem accepts_iff_submatchesAt? {pattern : Pattern} {text : List Char} :
    pattern.accepts text = true ↔
      ∃ found, pattern.submatchesAt? text 0 = some found ∧ found.1.stop = Text.byteSize text := by
  simp only [accepts, matchAt?, Option.any_map, Option.any_eq_true, beq_iff_eq]

section Takes

variable {pattern pattern' : Pattern} {Allowed Allowed' : List Char → List Char → Prop}

theorem Takes.submatchesAt?_iff (takes : pattern.Takes Allowed) {text : List Char} {position : Nat}
    {found : Span × Captures} :
    pattern.submatchesAt? text position = some found ↔
      ∃ before taken after, text = before ++ (taken ++ after) ∧ position = Text.byteSize before ∧
        Allowed taken after ∧ found = (⟨position, position + Text.byteSize taken⟩, {}) := by
  obtain ⟨span, captures⟩ := found
  simp only [submatchesAt?, Option.bind_eq_some_iff, Cursor.at?_eq_some_iff, matchFrom?_eq_some_iff]
  constructor
  · intro matched
    obtain ⟨cursor, ⟨here, before, parts, offset⟩, behind, run, rfl⟩ := matched
    obtain ⟨taken, behind', allowed, passes, moved⟩ := (takes _ _).mp run
    obtain ⟨rfl, rfl⟩ := State.mk.inj moved
    refine ⟨before, taken, behind.rest, ?_, offset, allowed, ?_⟩
    · rw [parts, passes.rest]
    · rw [passes.position, here]
  · intro standing
    obtain ⟨before, taken, after, parts, offset, allowed, same⟩ := standing
    obtain ⟨rfl, rfl⟩ := Prod.mk.inj same
    obtain ⟨behind, passes, left⟩ := Cursor.exists_passes
      (show (Cursor.mk position (taken ++ after)).rest = taken ++ after from rfl)
    refine ⟨⟨position, taken ++ after⟩, ⟨rfl, before, parts, offset⟩, behind, ?_, ?_⟩
    · exact (takes _ _).mpr ⟨taken, behind, by rw [left]; exact allowed, passes, rfl⟩
    · rw [passes.position]

theorem Takes.matchAt?_iff (takes : pattern.Takes Allowed) {text : List Char} {position : Nat}
    {span : Span} :
    pattern.matchAt? text position = some span ↔
      ∃ before taken after, text = before ++ (taken ++ after) ∧ position = Text.byteSize before ∧
        Allowed taken after ∧ span = ⟨position, position + Text.byteSize taken⟩ := by
  simp only [matchAt?, Option.map_eq_some_iff, takes.submatchesAt?_iff]
  constructor
  · intro matched
    obtain ⟨_, ⟨before, taken, after, parts, offset, allowed, rfl⟩, rfl⟩ := matched
    exact ⟨before, taken, after, parts, offset, allowed, rfl⟩
  · intro standing
    obtain ⟨before, taken, after, parts, offset, allowed, rfl⟩ := standing
    exact ⟨_, ⟨before, taken, after, parts, offset, allowed, rfl⟩, rfl⟩

/-- A whole text is taken with nothing left behind it. -/
theorem Takes.accepts_iff (takes : pattern.Takes Allowed) {text : List Char} :
    pattern.accepts text = true ↔ Allowed text [] := by
  simp only [accepts_iff_submatchesAt?, takes.submatchesAt?_iff]
  constructor
  · intro accepted
    obtain ⟨_, ⟨before, taken, after, rfl, offset, allowed, rfl⟩, covers⟩ := accepted
    obtain rfl := Text.eq_nil_of_byteSize offset.symm
    simp only [List.nil_append, Text.byteSize_append, Nat.zero_add] at covers ⊢
    obtain rfl : after = [] := Text.eq_nil_of_byteSize (by omega)
    rwa [List.append_nil]
  · intro allowed
    exact ⟨_, ⟨[], text, [], (List.append_nil _).symm, rfl, allowed, rfl⟩, Nat.zero_add _⟩

theorem Takes.submatchesAt?_congr (takes : pattern.Takes Allowed) (takes' : pattern'.Takes Allowed')
    (same : ∀ taken left, Allowed taken left ↔ Allowed' taken left) (text : List Char)
    (position : Nat) :
    pattern.submatchesAt? text position = pattern'.submatchesAt? text position := by
  ext found
  simp only [takes.submatchesAt?_iff, takes'.submatchesAt?_iff, same]

end Takes

end Pattern

/-- A start code point and all of the part code points that follow it. -/
structure RegularRun (start part : CharClass) (taken left : List Char) : Prop where
  spelled : ∃ first parts, taken = first :: parts ∧ start.contains first = true ∧
    ∀ c ∈ parts, part.contains c = true
  ended : ∀ c ∈ left.head?, part.contains c = false

/-- The class holds exactly what both of two classes hold. -/
def CharClass.IsMeet (both k k' : CharClass) : Prop :=
  ∀ c, both.contains c = true ↔ k.contains c = true ∧ k'.contains c = true

theorem CharClass.IsMeet.intersection (k k' : CharClass) :
    (CharClass.intersection [k, k']).IsMeet k k' := by
  intro c
  simp

theorem CharClass.IsMeet.symm {both k k' : CharClass} (meet : both.IsMeet k k') :
    both.IsMeet k' k := by
  intro c
  rw [meet c, and_comm]

namespace RegularRun

variable {start start' bothStart part part' bothPart : CharClass}
  {taken taken' left left' text : List Char}

theorem transfer (sameStart : ∀ c, start.contains c = start'.contains c)
    (samePart : ∀ c, part.contains c = part'.contains c) (run : RegularRun start part taken left) :
    RegularRun start' part' taken left :=
  ⟨by simpa only [sameStart, samePart] using run.spelled, by simpa only [samePart] using run.ended⟩

/-- A run depends on what its classes hold and not on how they are built. -/
theorem congr (sameStart : ∀ c, start.contains c = start'.contains c)
    (samePart : ∀ c, part.contains c = part'.contains c) :
    RegularRun start part taken left ↔ RegularRun start' part' taken left := by
  refine ⟨transfer sameStart samePart, transfer ?_ ?_⟩
  · exact fun c => (sameStart c).symm
  · exact fun c => (samePart c).symm

/-- At the end of the text no class can carry a run on, so that wider classes keep it. -/
theorem widen (inStart : ∀ c, start.contains c = true → start'.contains c = true)
    (inPart : ∀ c, part.contains c = true → part'.contains c = true)
    (run : RegularRun start part text []) : RegularRun start' part' text [] := by
  obtain ⟨first, parts, same, starts, continues⟩ := run.spelled
  exact ⟨⟨first, parts, same, inStart first starts, fun c member => inPart c (continues c member)⟩,
    by simp⟩

/-- Of two runs that start together the one that ends first is a run of the common classes: the
other goes on over all of it, and what ends it is no common part. -/
theorem meet (run : RegularRun start part taken left) (other : RegularRun start' part' taken' left')
    (startMeet : bothStart.IsMeet start start') (partMeet : bothPart.IsMeet part part')
    (same : taken ++ left = taken' ++ left')
    (shorter : Text.byteSize taken ≤ Text.byteSize taken') :
    RegularRun bothStart bothPart taken left := by
  obtain ⟨first, parts, rfl, starts, continues⟩ := run.spelled
  obtain ⟨first', parts', rfl, starts', continues'⟩ := other.spelled
  obtain ⟨more, goesOn, _⟩ := Text.exists_between same shorter
  obtain ⟨rfl, rfl⟩ := List.cons.inj goesOn
  refine ⟨⟨_, parts, rfl, (startMeet _).mpr ⟨starts, starts'⟩, ?_⟩, ?_⟩
  · intro c member
    exact (partMeet c).mpr ⟨continues c member, continues' c (List.mem_append_left more member)⟩
  · intro c first
    cases both : bothPart.contains c with
    | false => rfl
    | true => exact (CharClass.not_inside_and_outside ((partMeet c).mp both).1
        (run.ended c first)).elim

/-- Up to the end of the text a run of the common classes is a run of each. -/
theorem meet_whole_iff (startMeet : bothStart.IsMeet start start')
    (partMeet : bothPart.IsMeet part part') :
    RegularRun bothStart bothPart text [] ↔
      RegularRun start part text [] ∧ RegularRun start' part' text [] := by
  constructor
  · intro run
    refine ⟨run.widen ?_ ?_, run.widen ?_ ?_⟩
    · exact fun c member => ((startMeet c).mp member).1
    · exact fun c member => ((partMeet c).mp member).1
    · exact fun c member => ((startMeet c).mp member).2
    · exact fun c member => ((partMeet c).mp member).2
  · intro runs
    exact runs.1.meet runs.2 startMeet partMeet rfl (Nat.le_refl _)

end RegularRun

namespace Grammar

open Pattern

theorem regularToken_takes (start part : CharClass) :
    (regularToken start part).Takes (RegularRun start part) := by
  intro state after
  rw [run_regularToken_iff]
  constructor
  · intro matched
    obtain ⟨first, parts, behind, starts, continues, outside, passes, moved⟩ := matched
    exact ⟨first :: parts, behind, ⟨⟨first, parts, rfl, starts, continues⟩, outside⟩, passes, moved⟩
  · intro found
    obtain ⟨_, behind, ⟨⟨first, parts, rfl, starts, continues⟩, outside⟩, passes, moved⟩ := found
    exact ⟨first, parts, behind, starts, continues, outside, passes, moved⟩

/-- The limit is one on the length of the whole run: the start code point and the parts. -/
theorem cappedRegular_takes (mostParts : Nat) (start part : CharClass) :
    (cappedRegular mostParts start part).Takes fun taken left =>
      RegularRun start part taken left ∧ taken.length ≤ mostParts + 1 := by
  intro state after
  rw [run_cappedRegular_iff]
  constructor
  · intro matched
    obtain ⟨first, parts, behind, starts, continues, few, outside, passes, moved⟩ := matched
    exact ⟨first :: parts, behind, ⟨⟨⟨first, parts, rfl, starts, continues⟩, outside⟩,
      Nat.succ_le_succ few⟩, passes, moved⟩
  · intro found
    obtain ⟨_, behind, ⟨⟨⟨first, parts, rfl, starts, continues⟩, outside⟩, few⟩, passes, moved⟩ :=
      found
    exact ⟨first, parts, behind, starts, continues, Nat.le_of_succ_le_succ few, outside, passes,
      moved⟩

/-- Under a limit a whole text is accepted exactly if it is a start code point with few enough parts
behind it. -/
theorem accepts_cappedRegular_iff {mostParts : Nat} {start part : CharClass} {text : List Char} :
    (cappedRegular mostParts start part).accepts text = true ↔
      ∃ first parts, text = first :: parts ∧ start.contains first = true ∧
        (∀ c ∈ parts, part.contains c = true) ∧ parts.length ≤ mostParts := by
  rw [(cappedRegular_takes mostParts start part).accepts_iff]
  constructor
  · intro accepted
    obtain ⟨⟨⟨first, parts, rfl, starts, continues⟩, _⟩, few⟩ := accepted
    exact ⟨first, parts, rfl, starts, continues, Nat.le_of_succ_le_succ few⟩
  · intro spelled
    obtain ⟨first, parts, rfl, starts, continues, few⟩ := spelled
    exact ⟨⟨⟨first, parts, rfl, starts, continues⟩, by simp⟩, Nat.succ_le_succ few⟩

section Meet

variable {start start' bothStart part part' bothPart : CharClass} {mostParts : Nat}
  (startMeet : bothStart.IsMeet start start') (partMeet : bothPart.IsMeet part part')

include startMeet partMeet

theorem accepts_meet_iff {text : List Char} :
    (cappedRegular mostParts bothStart bothPart).accepts text = true ↔
      (cappedRegular mostParts start part).accepts text = true ∧
        (regularToken start' part').accepts text = true := by
  rw [(cappedRegular_takes _ _ _).accepts_iff, (cappedRegular_takes _ _ _).accepts_iff,
    (regularToken_takes _ _).accepts_iff, RegularRun.meet_whole_iff startMeet partMeet]
  exact and_right_comm

/-- At one place the combined grammar matches the shorter of the two matches. The limit holds for it
as it does for the match with the limit, which it starts. -/
theorem matchAt?_meet {text : List Char} {position : Nat} {span span' : Span}
    (matched : (cappedRegular mostParts start part).matchAt? text position = some span)
    (matched' : (regularToken start' part').matchAt? text position = some span') :
    (cappedRegular mostParts bothStart bothPart).matchAt? text position =
      some ⟨position, min span.stop span'.stop⟩ := by
  obtain ⟨before, taken, after, rfl, offset, ⟨run, few⟩, rfl⟩ :=
    (cappedRegular_takes _ _ _).matchAt?_iff.mp matched
  obtain ⟨before', taken', after', parts, offset', run', rfl⟩ :=
    (regularToken_takes _ _).matchAt?_iff.mp matched'
  obtain ⟨rfl, same⟩ := Text.append_inj_of_byteSize (offset.symm.trans offset') parts
  refine (cappedRegular_takes _ _ _).matchAt?_iff.mpr ?_
  rcases Nat.le_total (Text.byteSize taken) (Text.byteSize taken') with shorter | shorter
  · refine ⟨before, taken, after, rfl, offset,
      ⟨run.meet run' startMeet partMeet same shorter, few⟩, ?_⟩
    rw [Nat.min_eq_left (Nat.add_le_add_left shorter position)]
  · have fewer : taken'.length ≤ mostParts + 1 := by
      obtain ⟨more, rfl, _⟩ := Text.exists_between same.symm shorter
      rw [List.length_append] at few
      omega
    refine ⟨before, taken', after', parts, offset,
      ⟨run'.meet run startMeet.symm partMeet.symm same.symm shorter, fewer⟩, ?_⟩
    rw [Nat.min_eq_right (Nat.add_le_add_left shorter position)]

end Meet

/-- Dialects are combined by the intersection of their classes. With a limit on one side and none on
the other, a whole text is accepted by both grammars exactly if the combined grammar, which has the
limit, accepts it; and where both match, this matches up to where the first of them ends. So the
grammar of ISO SQL and PostgreSQL accepts exactly what each of the two accepts. -/
theorem cappedRegular_intersection (mostParts : Nat) (start part start' part' : CharClass) :
    (∀ text,
      (cappedRegular mostParts (.intersection [start, start'])
          (.intersection [part, part'])).accepts text = true ↔
        (cappedRegular mostParts start part).accepts text = true ∧
          (regularToken start' part').accepts text = true) ∧
    (∀ text position span span',
      (cappedRegular mostParts start part).matchAt? text position = some span →
      (regularToken start' part').matchAt? text position = some span' →
      (cappedRegular mostParts (.intersection [start, start'])
          (.intersection [part, part'])).matchAt? text position =
        some ⟨position, min span.stop span'.stop⟩) ∧
    (∀ text, isoPostgresRegular.accepts text = true ↔
      isoRegular.accepts text = true ∧ postgresRegular.accepts text = true) := by
  refine ⟨?_, ?_, ?_⟩
  · intro text
    exact accepts_meet_iff (.intersection _ _) (.intersection _ _)
  · intro text position span span' matched matched'
    exact matchAt?_meet (.intersection _ _) (.intersection _ _) matched matched'
  · intro text
    exact accepts_meet_iff (.intersection _ _) (.intersection _ _)

/-- Behind the first byte of the text ISO SQL stops at the dollar sign, where PostgreSQL goes on.
With other classes it is the grammar without the limit that stops first. -/
theorem cappedRegular_intersection_shorter :
    (isoRegular.matchAt? " été$x".toList 1 = some ⟨1, 6⟩ ∧
      postgresRegular.matchAt? " été$x".toList 1 = some ⟨1, 8⟩ ∧
      isoPostgresRegular.matchAt? " été$x".toList 1 = some ⟨1, 6⟩) ∧
    (cappedRegular 3 (.chars ['a']) (.chars ['a', 'b'])).matchAt? "aaba".toList 0 = some ⟨0, 4⟩ ∧
      (regularToken (.chars ['a']) (.chars ['a'])).matchAt? "aaba".toList 0 = some ⟨0, 2⟩ ∧
      (cappedRegular 3 (.intersection [.chars ['a'], .chars ['a']])
        (.intersection [.chars ['a', 'b'], .chars ['a']])).matchAt? "aaba".toList 0 =
          some ⟨0, 2⟩ := by
  have iso : isoRegular.matchAt? " été$x".toList 1 = some ⟨1, 6⟩ := by decide +kernel
  have postgres : postgresRegular.matchAt? " été$x".toList 1 = some ⟨1, 8⟩ := by decide +kernel
  have limited : (cappedRegular 3 (.chars ['a']) (.chars ['a', 'b'])).matchAt? "aaba".toList 0 =
      some ⟨0, 4⟩ := by decide +kernel
  have unlimited : (regularToken (.chars ['a']) (.chars ['a'])).matchAt? "aaba".toList 0 =
      some ⟨0, 2⟩ := by decide +kernel
  refine ⟨⟨iso, postgres, ?_⟩, limited, unlimited, ?_⟩
  · exact (cappedRegular_intersection _ _ _ _ _).2.1 _ _ _ _ iso postgres
  · exact (cappedRegular_intersection _ _ _ _ _).2.1 _ _ _ _ limited unlimited

end Grammar

end SqlIdentifier
