import SqlIdentifier.Proofs.Recognition
import SqlIdentifier.Proofs.RegularRun

namespace SqlIdentifier

/-- The longest run of code points of a class with which a text starts. -/
structure LongestRun (k : CharClass) (text run : List Char) : Prop where
  starts : run <+: text
  members : ∀ c ∈ run, k.contains c = true
  longest : ∀ other, other <+: text → (∀ c ∈ other, k.contains c = true) →
    other.length ≤ run.length

namespace LongestRun

variable {k : CharClass} {text run run' left : List Char}

theorem unique (isRun : LongestRun k text run) (isRun' : LongestRun k text run') : run = run' := by
  have shorter := isRun'.longest run isRun.starts isRun.members
  have longer := isRun.longest run' isRun'.starts isRun'.members
  have starts := List.prefix_of_prefix_length_le isRun.starts isRun'.starts shorter
  exact starts.eq_of_length (Nat.le_antisymm shorter longer)

/-- A run is the longest one if what is left behind it does not carry it on: a longer run would
start with this one and then hold the first code point that is left. -/
theorem append_iff :
    LongestRun k (run ++ left) run ↔
      (∀ c ∈ run, k.contains c = true) ∧ ∀ c ∈ left.head?, k.contains c = false := by
  constructor
  · intro isRun
    refine ⟨isRun.members, ?_⟩
    intro c first
    obtain ⟨later, rfl⟩ := List.head?_eq_some_iff.mp first
    cases carriesOn : k.contains c with
    | false => rfl
    | true =>
      have members : ∀ d ∈ run ++ [c], k.contains d = true := by
        intro d member
        rcases List.mem_append.mp member with inRun | isNext
        · exact isRun.members d inRun
        · rwa [List.mem_singleton.mp isNext]
      have starts : run ++ [c] <+: run ++ c :: later := ⟨later, by simp⟩
      have atMost := isRun.longest (run ++ [c]) starts members
      simp only [List.length_append, List.length_singleton] at atMost
      omega
  · rintro ⟨members, ended⟩
    refine ⟨List.prefix_append run left, members, ?_⟩
    intro other starts others
    refine Nat.le_of_not_lt fun longer => ?_
    have inside := List.prefix_of_prefix_length_le (List.prefix_append run left) starts
      (Nat.le_of_lt longer)
    obtain ⟨more, rfl⟩ := inside
    obtain ⟨rest, same⟩ := (List.prefix_append_right_inj run).mp starts
    cases more with
    | nil => simp at longer
    | cons c later =>
      have inClass := others c (by simp)
      have outside := ended c (by simp [← same])
      exact CharClass.not_inside_and_outside inClass outside

end LongestRun

/-- A start code point stands at a byte offset, and the run is the longest one of parts behind it. -/
def RunAt (start part : CharClass) (text : List Char) (position : Nat) (first : Char)
    (run : List Char) : Prop :=
  ∃ before rest, text = before ++ first :: rest ∧ position = Text.byteSize before ∧
    start.contains first = true ∧ LongestRun part rest run

theorem RunAt.unique {start part : CharClass} {text run run' : List Char} {position : Nat}
    {first first' : Char} (stands : RunAt start part text position first run)
    (stands' : RunAt start part text position first' run') : first = first' ∧ run = run' := by
  obtain ⟨before, rest, parts, offset, _, isRun⟩ := stands
  obtain ⟨before', rest', parts', offset', _, isRun'⟩ := stands'
  obtain ⟨_, same⟩ := Text.append_inj_of_byteSize (offset.symm.trans offset')
    (parts.symm.trans parts')
  obtain ⟨rfl, rfl⟩ := List.cons.inj same
  exact ⟨rfl, isRun.unique isRun'⟩

/-- What a regular run takes at a place is a start code point and the longest run behind it. -/
theorem RegularRun.runAt_iff {start part : CharClass} {text : List Char} {position : Nat}
    {first : Char} {run : List Char} :
    (∃ before after, text = before ++ (first :: run ++ after) ∧ position = Text.byteSize before ∧
      RegularRun start part (first :: run) after) ↔
      RunAt start part text position first run := by
  constructor
  · intro found
    obtain ⟨before, after, parts, offset, ⟨first', parts', same, starts, continues⟩, ended⟩ := found
    obtain ⟨rfl, rfl⟩ := List.cons.inj same
    exact ⟨before, run ++ after, parts, offset, starts, LongestRun.append_iff.mpr ⟨continues, ended⟩⟩
  · intro stands
    obtain ⟨before, rest, parts, offset, starts, isRun⟩ := stands
    obtain ⟨after, rfl⟩ := isRun.starts
    obtain ⟨continues, ended⟩ := LongestRun.append_iff.mp isRun
    exact ⟨before, after, parts, offset, ⟨first, run, rfl, starts, continues⟩, ended⟩

namespace Grammar

open Pattern

/-- The pattern matches a start code point together with the longest run of parts behind it. If the
run has more parts than are allowed, the pattern does not match at all. -/
def MatchesLongestRuns (pattern : Pattern) (start part : CharClass) (mostParts : Option Nat) :
    Prop :=
  ∀ text position,
    (∀ span, pattern.matchAt? text position = some span ↔
      ∃ first run, RunAt start part text position first run ∧
        (∀ most ∈ mostParts, run.length ≤ most) ∧
        span = ⟨position, position + Text.byteSize (first :: run)⟩) ∧
    (∀ first run, RunAt start part text position first run →
      (∃ most ∈ mostParts, most < run.length) → pattern.matchAt? text position = none)

theorem matchesLongestRuns_of_takes {pattern : Pattern} {start part : CharClass}
    {mostParts : Option Nat}
    (takes : pattern.Takes fun taken left => RegularRun start part taken left ∧
      ∀ most ∈ mostParts, taken.length ≤ most + 1) :
    MatchesLongestRuns pattern start part mostParts := by
  intro text position
  have matched (span : Span) : pattern.matchAt? text position = some span ↔
      ∃ first run, RunAt start part text position first run ∧
        (∀ most ∈ mostParts, run.length ≤ most) ∧
        span = ⟨position, position + Text.byteSize (first :: run)⟩ := by
    rw [takes.matchAt?_iff]
    constructor
    · rintro ⟨before, taken, after, parts, offset, ⟨isRun, few⟩, rfl⟩
      obtain ⟨first, run, rfl, _⟩ := isRun.spelled
      refine ⟨first, run, RegularRun.runAt_iff.mp ⟨before, after, parts, offset, isRun⟩, ?_, rfl⟩
      intro most limit
      exact Nat.le_of_succ_le_succ (few most limit)
    · rintro ⟨first, run, stands, few, rfl⟩
      obtain ⟨before, after, parts, offset, isRun⟩ := RegularRun.runAt_iff.mpr stands
      refine ⟨before, first :: run, after, parts, offset, ⟨isRun, ?_⟩, rfl⟩
      intro most limit
      exact Nat.succ_le_succ (few most limit)
  refine ⟨matched, ?_⟩
  rintro first run stands ⟨most, limit, tooMany⟩
  cases found : pattern.matchAt? text position with
  | none => rfl
  | some span =>
    obtain ⟨first', run', stands', few, _⟩ := (matched span).mp found
    obtain ⟨_, rfl⟩ := stands.unique stands'
    have atMost := few most limit
    omega

theorem cappedRegular_matchesLongestRuns (mostParts : Nat) (start part : CharClass) :
    MatchesLongestRuns (cappedRegular mostParts start part) start part (some mostParts) := by
  refine matchesLongestRuns_of_takes ?_
  simpa using cappedRegular_takes mostParts start part

theorem regularToken_matchesLongestRuns (start part : CharClass) :
    MatchesLongestRuns (regularToken start part) start part none := by
  refine matchesLongestRuns_of_takes ?_
  simpa using regularToken_takes start part

/-- The span covers at most the given number of code points. -/
def coversAtMost (most : Nat) (text : List Char) (span : Span) : Bool :=
  (span.slice? text).any fun covered => covered.length ≤ most

/-- The limit refuses what is too long and changes nothing else. -/
theorem matchAt?_cappedRegular (mostParts : Nat) (start part : CharClass) (text : List Char)
    (position : Nat) :
    (cappedRegular mostParts start part).matchAt? text position =
      ((regularToken start part).matchAt? text position).filter
        (coversAtMost (mostParts + 1) text) := by
  ext span
  rw [Option.filter_eq_some_iff, (cappedRegular_takes mostParts start part).matchAt?_iff,
    (regularToken_takes start part).matchAt?_iff]
  have covers {before taken after : List Char} (parts : text = before ++ (taken ++ after))
      (offset : position = Text.byteSize before) :
      coversAtMost (mostParts + 1) text ⟨position, position + Text.byteSize taken⟩ = true ↔
        taken.length ≤ mostParts + 1 := by
    rw [coversAtMost, parts, Identifier.slice?_of_parts before taken after offset]
    simp
  constructor
  · rintro ⟨before, taken, after, parts, offset, ⟨isRun, few⟩, rfl⟩
    exact ⟨⟨before, taken, after, parts, offset, isRun, rfl⟩, (covers parts offset).mpr few⟩
  · rintro ⟨⟨before, taken, after, parts, offset, isRun, rfl⟩, few⟩
    exact ⟨before, taken, after, parts, offset, ⟨isRun, (covers parts offset).mp few⟩, rfl⟩

/-- Every regular grammar matches a start code point and the longest run of parts behind it, to the
byte at which the run ends, and matches nowhere else. The grammars of ISO SQL allow 127 parts and
refuse a longer run as a whole; PostgreSQL and the token grammar have no limit. So the grammar of
both matches what the token grammar matches, up to 128 code points. -/
theorem regular_matches_longest_run :
    MatchesLongestRuns isoRegular .isoStart .isoPart (some 127) ∧
    MatchesLongestRuns isoPostgresRegular .isoPostgresStart .isoPostgresPart (some 127) ∧
    MatchesLongestRuns isoPostgresJavaRegular .isoPostgresJavaStart .isoPostgresJavaPart
      (some 127) ∧
    MatchesLongestRuns postgresRegular .postgresStart .postgresPart none ∧
    MatchesLongestRuns isoPostgresRegularToken .isoPostgresStart .isoPostgresPart none ∧
    ∀ text position, isoPostgresRegular.matchAt? text position =
      (isoPostgresRegularToken.matchAt? text position).filter (coversAtMost 128 text) := by
  refine ⟨?_, ?_, ?_, ?_, ?_, ?_⟩
  · exact cappedRegular_matchesLongestRuns 127 .isoStart .isoPart
  · exact cappedRegular_matchesLongestRuns 127 .isoPostgresStart .isoPostgresPart
  · exact cappedRegular_matchesLongestRuns 127 .isoPostgresJavaStart .isoPostgresJavaPart
  · exact regularToken_matchesLongestRuns .postgresStart .postgresPart
  · exact regularToken_matchesLongestRuns .isoPostgresStart .isoPostgresPart
  · exact matchAt?_cappedRegular 127 .isoPostgresStart .isoPostgresPart

end Grammar

end SqlIdentifier
