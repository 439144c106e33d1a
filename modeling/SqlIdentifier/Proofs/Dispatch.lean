import SqlIdentifier.Proofs.Recognition

namespace SqlIdentifier.Identifier

/-- Folding keeps a candidate that is as long as any other. -/
theorem exists_longest (best : Candidate) (others : List Candidate) :
    ∃ longest ∈ best :: others, others.foldl Candidate.longer (some best) = some longest ∧
      ∀ candidate ∈ best :: others, candidate.span.size ≤ longest.span.size := by
  induction others generalizing best with
  | nil => exact ⟨best, List.mem_cons_self, rfl, by simp⟩
  | cons next others ih =>
    by_cases shorter : best.span.size < next.span.size
    · have step : Candidate.longer (some best) next = some next := if_pos shorter
      obtain ⟨longest, member, folded, most⟩ := ih next
      refine ⟨longest, List.mem_cons_of_mem _ member, by rw [List.foldl_cons, step, folded], ?_⟩
      intro candidate listed
      rcases List.mem_cons.mp listed with rfl | later
      · have nextMost := most next List.mem_cons_self
        omega
      · exact most candidate later
    · have step : Candidate.longer (some best) next = some best := if_neg shorter
      obtain ⟨longest, member, folded, most⟩ := ih best
      have bestMost := most best List.mem_cons_self
      refine ⟨longest, ?_, by rw [List.foldl_cons, step, folded], ?_⟩
      · rcases List.mem_cons.mp member with rfl | later
        · exact List.mem_cons_self
        · exact List.mem_cons_of_mem _ (List.mem_cons_of_mem _ later)
      · intro candidate listed
        rcases List.mem_cons.mp listed with rfl | inOthers
        · exact bestMost
        rcases List.mem_cons.mp inOthers with rfl | later
        · omega
        · exact most candidate (List.mem_cons_of_mem _ later)

theorem mem_candidates_iff {text : List Char} {position : Nat} {candidate : Candidate} :
    candidate ∈ forms.filterMap (·.candidateAt? text position) ↔
      ∃ shape : Shape, shape.StandsAt text position ∧ candidate = shape.candidate position := by
  rw [List.mem_filterMap]
  constructor
  · intro listed
    obtain ⟨form, isForm, found⟩ := listed
    obtain ⟨shape, _, stands, same⟩ := (candidateAt?_eq_some_iff isForm).mp found
    exact ⟨shape, stands, same⟩
  · intro shaped
    obtain ⟨shape, stands, same⟩ := shaped
    obtain ⟨form, isForm, sameKind⟩ := exists_form shape.kind
    exact ⟨form, isForm, (candidateAt?_eq_some_iff isForm).mpr ⟨shape, sameKind.symm, stands, same⟩⟩

namespace Shape

@[simp]
theorem size_candidate (shape : Shape) (position : Nat) :
    (shape.candidate position).span.size = Text.byteSize shape.text :=
  Nat.add_sub_cancel_left _ _

@[simp]
theorem span_matchAt (shape : Shape) (position : Nat) :
    (shape.matchAt position).span = ⟨position, position + Text.byteSize shape.text⟩ := by
  cases shape <;> rfl

@[simp]
theorem kind_matchAt (shape : Shape) (position : Nat) :
    (shape.matchAt position).kind = shape.kind := by
  cases shape <;> rfl

/-- What stands at one position divides the text behind it. -/
theorem StandsAt.together {shape shape' : Shape} {text : List Char} {position : Nat}
    (stands : shape.StandsAt text position) (stands' : shape'.StandsAt text position) :
    ∃ after after', shape.text ++ after = shape'.text ++ after' ∧ shape.ClosedBy after ∧
      shape'.ClosedBy after' := by
  obtain ⟨before, after, rfl, offset, closed⟩ := stands
  obtain ⟨before', after', parts, offset', closed'⟩ := stands'
  obtain ⟨_, same⟩ := Text.append_inj_of_byteSize (offset.symm.trans offset') parts
  exact ⟨after, after', same, closed, closed'⟩

theorem StandsAt.eq_of_size {shape shape' : Shape} {text : List Char} {position : Nat}
    (stands : shape.StandsAt text position) (stands' : shape'.StandsAt text position)
    (sameSize : Text.byteSize shape.text = Text.byteSize shape'.text) : shape = shape' := by
  obtain ⟨after, after', same, _, _⟩ := stands.together stands'
  exact text_injective (Text.append_inj_of_byteSize sameSize same).1

end Shape

/-- Where a shape stands, the longest that stands there is recognised. -/
theorem exists_longestShape {shape : Shape} {text : List Char} {position : Nat}
    (stands : shape.StandsAt text position) :
    ∃ longest : Shape, longest.StandsAt text position ∧
      matchAt? text position = some (longest.matchAt position) ∧
      ∀ other : Shape, other.StandsAt text position →
        Text.byteSize other.text ≤ Text.byteSize longest.text := by
  have listed := mem_candidates_iff.mpr ⟨shape, stands, rfl⟩
  cases candidates : forms.filterMap (·.candidateAt? text position) with
  | nil =>
    rw [candidates] at listed
    simp at listed
  | cons best others =>
    obtain ⟨candidate, member, folded, most⟩ := exists_longest best others
    rw [← candidates] at member most
    obtain ⟨longest, standsLongest, rfl⟩ := mem_candidates_iff.mp member
    have fromNone : (best :: others).foldl Candidate.longer none = _ := folded
    refine ⟨longest, standsLongest, ?_, ?_⟩
    · rw [matchAt?, candidates, fromNone, Option.bind_some, ofCandidate?_candidate standsLongest]
    · intro other standsOther
      simpa using most _ (mem_candidates_iff.mpr ⟨other, standsOther, rfl⟩)

theorem matchAt?_eq_none_iff {text : List Char} {position : Nat} :
    matchAt? text position = none ↔ ∀ shape : Shape, ¬ shape.StandsAt text position := by
  constructor
  · intro refused shape stands
    obtain ⟨_, _, recognised, _⟩ := exists_longestShape stands
    rw [refused] at recognised
    simp at recognised
  · intro noneStands
    have noCandidate : forms.filterMap (·.candidateAt? text position) = [] := by
      refine List.eq_nil_iff_forall_not_mem.mpr ?_
      intro candidate listed
      obtain ⟨shape, stands, _⟩ := mem_candidates_iff.mp listed
      exact noneStands shape stands
    rw [matchAt?, noCandidate]
    rfl

/-- The identifier at a position is the longest that stands there. Two of one length are the same, so
that the order of the forms does not matter. -/
theorem matchAt?_eq_some_iff {text : List Char} {position : Nat} {found : Match} :
    matchAt? text position = some found ↔
      ∃ shape : Shape, shape.StandsAt text position ∧ found = shape.matchAt position ∧
        ∀ other : Shape, other.StandsAt text position →
          Text.byteSize other.text ≤ Text.byteSize shape.text := by
  constructor
  · intro recognised
    cases Classical.em (∃ shape : Shape, shape.StandsAt text position) with
    | inl somewhere =>
      obtain ⟨shape, stands⟩ := somewhere
      obtain ⟨longest, standsLongest, same, most⟩ := exists_longestShape stands
      exact ⟨longest, standsLongest, Option.some.inj (recognised.symm.trans same), most⟩
    | inr nowhere =>
      rw [matchAt?_eq_none_iff.mpr (not_exists.mp nowhere)] at recognised
      simp at recognised
  · intro shaped
    obtain ⟨shape, stands, rfl, most⟩ := shaped
    obtain ⟨longest, standsLongest, same, most'⟩ := exists_longestShape stands
    have sameSize := Nat.le_antisymm (most longest standsLongest) (most' shape stands)
    rw [same, standsLongest.eq_of_size stands sameSize]

/-- A closed identifier is the longest at its place, as long as it is not the letter before an
ampersand. -/
theorem matchAt?_of_closed {shape : Shape} (before : List Char) {after : List Char}
    (closed : shape.ClosedBy after) (noAmpersand : after.head? ≠ some '&') :
    matchAt? (before ++ (shape.text ++ after)) (Text.byteSize before) =
      some (shape.matchAt (Text.byteSize before)) := by
  refine matchAt?_eq_some_iff.mpr ⟨shape, ⟨before, after, rfl, rfl, closed⟩, rfl, ?_⟩
  intro other stands
  obtain ⟨before', after', parts, offset, closed'⟩ := stands
  obtain ⟨_, same⟩ := Text.append_inj_of_byteSize offset parts
  rcases Shape.kind_cases same with sameKind | ⟨letter, _⟩ | ⟨letter, _⟩
  · obtain ⟨rfl, _⟩ := Shape.unique sameKind closed closed' same
    exact Nat.le_refl _
  · exact absurd letter.ampersand noAmpersand
  · -- the other is only the letter of the prefix, and shorter
    obtain ⟨c, single⟩ := List.length_eq_one_iff.mp letter.single
    obtain ⟨first, later, atShape⟩ := List.exists_cons_of_ne_nil shape.text_ne_nil
    rw [single, atShape] at same
    rw [single, atShape, (List.cons.inj same).1, Text.byteSize_cons, Text.byteSize_cons]
    exact Nat.add_le_add_left (Nat.zero_le _) _

/-- A code point with which an identifier can start. -/
def Opens (c : Char) : Prop :=
  CharClass.isoPostgresStart.contains c = true ∨ c = '"'

theorem Shape.exists_opening (shape : Shape) :
    ∃ first later, shape.text = first :: later ∧ Opens first := by
  cases shape with
  | regular first parts starts => exact ⟨first, parts, rfl, Or.inl starts⟩
  | delimited => exact ⟨'"', _, rfl, Or.inr rfl⟩
  | unicodeDelimited letter isLetter =>
    exact ⟨letter, _, rfl, Or.inl (CharClass.isoPostgresStart_unicodeLetter letter isLetter)⟩

theorem matchAt?_eq_none_of_not_opens {c : Char} (notOpening : ¬ Opens c)
    (before after : List Char) :
    matchAt? (before ++ c :: after) (Text.byteSize before) = none := by
  refine matchAt?_eq_none_iff.mpr ?_
  intro shape stands
  obtain ⟨before', after', parts, offset, _⟩ := stands
  obtain ⟨_, same⟩ := Text.append_inj_of_byteSize offset parts
  obtain ⟨first, later, atShape, opens⟩ := shape.exists_opening
  rw [atShape] at same
  rw [(List.cons.inj same).1] at notOpening
  exact notOpening opens

end SqlIdentifier.Identifier
