import SqlIdentifier.Cursor

namespace SqlIdentifier

theorem Text.byteSize_pos {text : List Char} (nonempty : text ≠ []) : 0 < Text.byteSize text := by
  cases text with
  | nil => exact absurd rfl nonempty
  | cons c rest =>
    have positive := c.utf8Size_pos
    rw [Text.byteSize_cons]
    omega

theorem Text.eq_nil_of_byteSize {text : List Char} (empty : Text.byteSize text = 0) : text = [] := by
  cases text with
  | nil => rfl
  | cons c rest =>
    have positive := Text.byteSize_pos (List.cons_ne_nil c rest)
    omega

/-- A text is divided in one way only by the number of bytes before the cut. -/
theorem Text.append_inj_of_byteSize {before before' after after' : List Char}
    (sameSize : Text.byteSize before = Text.byteSize before')
    (same : before ++ after = before' ++ after') : before = before' ∧ after = after' := by
  have cut := Text.splitAt?_byteSize_append before after
  rw [same, sameSize, Text.splitAt?_byteSize_append] at cut
  obtain ⟨sameBefore, sameAfter⟩ := Prod.mk.inj (Option.some.inj cut)
  exact ⟨sameBefore.symm, sameAfter.symm⟩

/-- Of two cuts of a text, the one with fewer bytes before it comes first. -/
theorem Text.exists_between {before before' after after' : List Char}
    (same : before ++ after = before' ++ after')
    (earlier : Text.byteSize before ≤ Text.byteSize before') :
    ∃ middle, before' = before ++ middle ∧ after = middle ++ after' := by
  rcases List.append_eq_append_iff.mp same with ⟨middle, parts, rest⟩ | ⟨middle, parts, rest⟩
  · exact ⟨middle, parts, rest⟩
  · have size := congrArg Text.byteSize parts
    rw [Text.byteSize_append] at size
    have nothing : middle = [] := Text.eq_nil_of_byteSize (by omega)
    rw [nothing, List.append_nil] at parts
    rw [nothing, List.nil_append] at rest
    exact ⟨[], by rw [parts, List.append_nil], rest.symm⟩

/-- Lower case changes ASCII letters only, and to ASCII letters. -/
theorem Text.utf8Size_toLower (c : Char) : c.toLower.utf8Size = c.utf8Size := by
  unfold Char.toLower
  split
  · rename_i upper
    have most : c.val.toNat ≤ 90 := UInt32.le_iff_toNat_le.mp upper.2
    have before : c.utf8Size = 1 :=
      Char.utf8Size_eq_one_iff.mpr (UInt32.le_iff_toNat_le.mpr (Nat.le_trans most (by decide)))
    rw [before, Char.utf8Size_eq_one_iff, UInt32.le_iff_toNat_le, UInt32.toNat_add]
    simp only [Char.reduceVal, UInt32.reduceSub, UInt32.reduceToNat]
    omega
  · rfl

/-- Texts that agree up to ASCII case fill the same bytes, so that a window of as many bytes as the
expected word has is the only one to compare with it. -/
theorem Text.byteSize_eq_of_eqIgnoringCase {left right : List Char}
    (agree : Text.eqIgnoringCase left right = true) :
    Text.byteSize left = Text.byteSize right := by
  have same : left.map Char.toLower = right.map Char.toLower := beq_iff_eq.mp agree
  induction left generalizing right with
  | nil => simp_all
  | cons c rest ih =>
    cases right with
    | nil => simp at same
    | cons d later =>
      simp only [List.map_cons, List.cons.injEq] at same
      have sizes := congrArg Char.utf8Size same.1
      rw [Text.utf8Size_toLower, Text.utf8Size_toLower] at sizes
      rw [Text.byteSize_cons, Text.byteSize_cons, sizes, ih (beq_iff_eq.mpr same.2) same.2]

namespace Text

/-- The text does not go on with a member of the class. -/
def Stops (member : Char → Bool) (rest : List Char) : Prop :=
  ∀ c ∈ rest.head?, member c = false

theorem stops_nil (member : Char → Bool) : Stops member [] := by simp [Stops]

theorem stops_cons_iff {member : Char → Bool} {c : Char} {rest : List Char} :
    Stops member (c :: rest) ↔ member c = false := by
  simp [Stops]

theorem Stops.takeWhile_append {member : Char → Bool} {front rest : List Char}
    (stops : Stops member rest) (members : ∀ c ∈ front, member c = true) :
    (front ++ rest).takeWhile member = front := by
  rw [List.takeWhile_append_of_pos members]
  cases rest with
  | nil => simp
  | cons c rest => simp [stops_cons_iff.mp stops]

theorem Stops.dropWhile_append {member : Char → Bool} {front rest : List Char}
    (stops : Stops member rest) (members : ∀ c ∈ front, member c = true) :
    (front ++ rest).dropWhile member = rest := by
  rw [List.dropWhile_append_of_pos members]
  cases rest with
  | nil => simp
  | cons c rest => simp [stops_cons_iff.mp stops]

/-- A text that spells each of the values, one behind the other. -/
inductive SpellsEach {α : Type} (Spells : List Char → α → Prop) : List Char → List α → Prop
  | nil : SpellsEach Spells [] []
  | cons {written later : List Char} {value : α} {values : List α} (first : Spells written value)
      (rest : SpellsEach Spells later values) :
      SpellsEach Spells (written ++ later) (value :: values)

section SpellsEach

variable {α : Type} {Spells : List Char → α → Prop} {write : α → List Char}

theorem spellsEach_flatMap (spells : ∀ value, Spells (write value) value) (values : List α) :
    SpellsEach Spells (values.flatMap write) values := by
  induction values with
  | nil => exact .nil
  | cons value values ih => exact .cons (spells value) ih

/-- If each value has one text, so have several. -/
theorem spellsEach_iff (spells_iff : ∀ written value, Spells written value ↔ written = write value)
    {text : List Char} {values : List α} :
    SpellsEach Spells text values ↔ text = values.flatMap write := by
  constructor
  · intro spelled
    induction spelled with
    | nil => rfl
    | cons first _ ih => rw [(spells_iff _ _).mp first, ih, List.flatMap_cons]
  · rintro rfl
    exact spellsEach_flatMap (fun value => (spells_iff _ value).mpr rfl) values

end SpellsEach

end Text

namespace Cursor

/-- The cursor `behind` stands behind the text `taken`, which comes next at the cursor. -/
structure Passes (cursor : Cursor) (taken : List Char) (behind : Cursor) : Prop where
  rest : cursor.rest = taken ++ behind.rest
  position : behind.position = cursor.position + Text.byteSize taken

theorem Passes.unique {cursor behind behind' : Cursor} {taken : List Char}
    (passes : cursor.Passes taken behind) (passes' : cursor.Passes taken behind') :
    behind = behind' := by
  obtain ⟨position, rest⟩ := behind
  obtain ⟨position', rest'⟩ := behind'
  have sameRest : rest = rest' := List.append_cancel_left (passes.rest.symm.trans passes'.rest)
  have samePosition : position = position' := passes.position.trans passes'.position.symm
  rw [sameRest, samePosition]

theorem Passes.trans {cursor middle behind : Cursor} {taken more : List Char}
    (first : cursor.Passes taken middle) (second : middle.Passes more behind) :
    cursor.Passes (taken ++ more) behind := by
  refine ⟨?_, ?_⟩
  · rw [first.rest, second.rest, List.append_assoc]
  · rw [second.position, first.position, Text.byteSize_append]
    omega

theorem exists_passes {cursor : Cursor} {taken left : List Char}
    (ahead : cursor.rest = taken ++ left) :
    ∃ behind, cursor.Passes taken behind ∧ behind.rest = left :=
  ⟨⟨cursor.position + Text.byteSize taken, left⟩, ⟨ahead, rfl⟩, rfl⟩

theorem passes_nil_iff {cursor behind : Cursor} : cursor.Passes [] behind ↔ behind = cursor := by
  constructor
  · intro passes
    exact passes.unique ⟨rfl, rfl⟩
  · rintro rfl
    exact ⟨rfl, rfl⟩

theorem passes_append_iff {cursor behind : Cursor} {taken more : List Char} :
    cursor.Passes (taken ++ more) behind ↔
      ∃ middle, cursor.Passes taken middle ∧ middle.Passes more behind := by
  constructor
  · intro passes
    have ahead : cursor.rest = taken ++ (more ++ behind.rest) := by
      rw [passes.rest, List.append_assoc]
    obtain ⟨middle, first, left⟩ := exists_passes ahead
    refine ⟨middle, first, left, ?_⟩
    rw [passes.position, first.position, Text.byteSize_append]
    omega
  · intro found
    obtain ⟨middle, first, second⟩ := found
    exact first.trans second

theorem passes_cons_iff {cursor behind : Cursor} {c : Char} {more : List Char} :
    cursor.Passes (c :: more) behind ↔
      ∃ middle, cursor.Passes [c] middle ∧ middle.Passes more behind := by
  rw [← passes_append_iff, List.singleton_append]

/-- Every passed text but the empty one moves the cursor. -/
theorem Passes.position_eq_iff {cursor behind : Cursor} {taken : List Char}
    (passes : cursor.Passes taken behind) : behind.position = cursor.position ↔ taken = [] := by
  constructor
  · intro same
    cases taken with
    | nil => rfl
    | cons c later =>
      have positive := Text.byteSize_pos (List.cons_ne_nil c later)
      have moved := passes.position
      omega
  · rintro rfl
    exact passes.position

theorem next?_eq_some_iff {cursor behind : Cursor} {c : Char} :
    cursor.next? = some (c, behind) ↔ cursor.Passes [c] behind := by
  obtain ⟨position, rest⟩ := cursor
  cases rest with
  | nil =>
    constructor
    · intro found
      simp [next?] at found
    · intro passes
      simpa using passes.rest
  | cons d later =>
    simp only [next?, Option.some.injEq, Prod.mk.injEq]
    constructor
    · intro found
      obtain ⟨rfl, rfl⟩ := found
      exact ⟨rfl, rfl⟩
    · intro passes
      obtain ⟨rfl, rfl⟩ := List.cons.inj passes.rest
      exact ⟨rfl, Passes.unique ⟨rfl, rfl⟩ passes⟩

theorem nextIf?_eq_some_iff {cursor behind : Cursor} {accepts : Char → Bool} {c : Char} :
    cursor.nextIf? accepts = some (c, behind) ↔ accepts c = true ∧ cursor.Passes [c] behind := by
  unfold nextIf?
  split
  · rename_i atEnd
    constructor
    · simp
    · intro moved
      obtain ⟨_, passes⟩ := moved
      rw [next?_eq_some_iff.mpr passes] at atEnd
      simp at atEnd
  · rename_i d behind' found
    have first := next?_eq_some_iff.mp found
    constructor
    · intro taken
      split at taken
      · rename_i accepted
        obtain ⟨rfl, rfl⟩ := Prod.mk.inj (Option.some.inj taken)
        exact ⟨accepted, first⟩
      · simp at taken
    · intro found
      obtain ⟨accepted, passes⟩ := found
      obtain ⟨rfl, rfl⟩ := Prod.mk.inj
        (Option.some.inj (found.symm.trans (next?_eq_some_iff.mpr passes)))
      rw [if_pos accepted]

theorem accept?_eq_some_iff {cursor behind : Cursor} {expected : Char} :
    cursor.accept? expected = some behind ↔ cursor.Passes [expected] behind := by
  simp only [accept?, Option.map_eq_some_iff, Prod.exists, nextIf?_eq_some_iff, beq_iff_eq]
  constructor
  · intro moved
    obtain ⟨c, _, ⟨rfl, passes⟩, rfl⟩ := moved
    exact passes
  · intro passes
    exact ⟨expected, behind, ⟨rfl, passes⟩, rfl⟩

theorem Passes.skip_length {cursor behind : Cursor} {taken : List Char}
    (passes : cursor.Passes taken behind) : cursor.skip taken.length = behind := by
  induction taken generalizing cursor with
  | nil => exact (passes_nil_iff.mp passes).symm
  | cons c rest ih =>
    obtain ⟨middle, first, later⟩ := passes_cons_iff.mp passes
    simp only [List.length_cons, skip, next?_eq_some_iff.mpr first]
    exact ih later

theorem acceptText?_eq_some_iff {cursor behind : Cursor} {expected : List Char} :
    cursor.acceptText? expected = some behind ↔ cursor.Passes expected behind := by
  unfold acceptText?
  constructor
  · intro found
    split at found
    · rename_i ahead
      obtain ⟨left, parts⟩ := List.isPrefixOf_iff_prefix.mp ahead
      obtain ⟨behind', passes, _⟩ := exists_passes parts.symm
      rw [passes.skip_length] at found
      cases Option.some.inj found
      exact passes
    · simp at found
  · intro passes
    have ahead : expected <+: cursor.rest := ⟨behind.rest, passes.rest.symm⟩
    rw [if_pos (List.isPrefixOf_iff_prefix.mpr ahead), passes.skip_length]

theorem acceptWord?_eq_some_iff {cursor behind : Cursor} {expected : List Char} :
    cursor.acceptWord? expected = some behind ↔
      ∃ word, Text.eqIgnoringCase word expected = true ∧ cursor.Passes word behind := by
  unfold acceptWord?
  constructor
  · intro found
    split at found
    · simp at found
    · rename_i word rest cut
      obtain ⟨parts, size⟩ := Text.splitAt?_eq_some_iff.mp cut
      split at found
      · rename_i agree
        cases Option.some.inj found
        exact ⟨word, agree, parts, by rw [size]⟩
      · simp at found
  · intro found
    obtain ⟨word, agree, passes⟩ := found
    have size := Text.byteSize_eq_of_eqIgnoringCase agree
    rw [← size, passes.rest, Text.splitAt?_byteSize_append]
    simp only [agree, if_true, Option.some.injEq]
    exact Passes.unique ⟨passes.rest, rfl⟩ passes

end Cursor

end SqlIdentifier
