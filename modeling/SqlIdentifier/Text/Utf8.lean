namespace SqlIdentifier.Text

/-- The number of bytes of a text in UTF-8. -/
def byteSize : List Char → Nat
  | [] => 0
  | c :: rest => c.utf8Size + byteSize rest

/-- Cuts a text at a byte offset. There is no cut past the end or inside a code point. -/
def splitAt? : List Char → Nat → Option (List Char × List Char)
  | text, 0 => some ([], text)
  | [], _ + 1 => none
  | c :: rest, offset + 1 =>
    if c.utf8Size ≤ offset + 1 then
      (splitAt? rest (offset + 1 - c.utf8Size)).map fun (before, after) => (c :: before, after)
    else none

/-- The byte offsets of the code points of a text that starts at `position`, and of its end. -/
def boundaries : (position : Nat) → List Char → List Nat
  | position, [] => [position]
  | position, c :: rest => position :: boundaries (position + c.utf8Size) rest

/-- Whether two texts agree up to the case of ASCII letters. -/
def eqIgnoringCase (left right : List Char) : Bool :=
  left.map Char.toLower == right.map Char.toLower

@[simp]
theorem byteSize_nil : byteSize [] = 0 := rfl

@[simp]
theorem byteSize_cons (c : Char) (rest : List Char) :
    byteSize (c :: rest) = c.utf8Size + byteSize rest := rfl

@[simp]
theorem byteSize_append (left right : List Char) :
    byteSize (left ++ right) = byteSize left + byteSize right := by
  induction left with
  | nil => simp
  | cons c rest ih => simp only [List.cons_append, byteSize_cons, ih]; omega

theorem length_le_byteSize (text : List Char) : text.length ≤ byteSize text := by
  induction text with
  | nil => simp
  | cons c rest ih =>
    have positive := c.utf8Size_pos
    simp only [List.length_cons, byteSize_cons]; omega

theorem splitAt?_byteSize_append (before after : List Char) :
    splitAt? (before ++ after) (byteSize before) = some (before, after) := by
  induction before with
  | nil => cases after <;> rfl
  | cons c rest ih =>
    obtain ⟨size, hsize⟩ : ∃ size, c.utf8Size = size + 1 :=
      ⟨c.utf8Size - 1, by have := c.utf8Size_pos; omega⟩
    have offset : byteSize (c :: rest) = (size + byteSize rest) + 1 := by
      rw [byteSize_cons, hsize]; omega
    have left : size + byteSize rest + 1 - c.utf8Size = byteSize rest := by omega
    rw [offset, List.cons_append, splitAt?, if_pos (by omega), left, ih]
    rfl

theorem splitAt?_eq_some_iff {text before after : List Char} {offset : Nat} :
    splitAt? text offset = some (before, after) ↔
      text = before ++ after ∧ offset = byteSize before := by
  refine ⟨fun cut => ?_, fun ⟨parts, size⟩ => ?_⟩
  · fun_induction splitAt? text offset generalizing before after with
    | case1 text =>
      simp only [Option.some.injEq, Prod.mk.injEq] at cut
      obtain ⟨rfl, rfl⟩ := cut
      simp
    | case2 => simp at cut
    | case3 offset c rest fits ih =>
      simp only [Option.map_eq_some_iff, Prod.exists, Prod.mk.injEq] at cut
      obtain ⟨inner, after', found, rfl, rfl⟩ := cut
      obtain ⟨rfl, size⟩ := ih found
      simp only [List.cons_append, byteSize_cons, true_and]; omega
    | case4 => simp at cut
  · rw [parts, size]; exact splitAt?_byteSize_append before after

theorem mem_boundaries {text : List Char} {position offset : Nat} :
    offset ∈ boundaries position text ↔
      ∃ before after, text = before ++ after ∧ offset = position + byteSize before := by
  induction text generalizing position with
  | nil =>
    simp only [boundaries, List.mem_singleton]
    constructor
    · rintro rfl
      exact ⟨[], [], rfl, rfl⟩
    · rintro ⟨before, after, parts, rfl⟩
      simp [(List.append_eq_nil_iff.mp parts.symm).1]
  | cons c rest ih =>
    simp only [boundaries, List.mem_cons, ih]
    constructor
    · rintro (rfl | ⟨before, after, rfl, rfl⟩)
      · exact ⟨[], c :: rest, rfl, rfl⟩
      · exact ⟨c :: before, after, rfl, by rw [byteSize_cons]; omega⟩
    · rintro ⟨before, after, parts, rfl⟩
      cases before with
      | nil => exact Or.inl rfl
      | cons first before =>
        obtain ⟨rfl, rfl⟩ := List.cons.inj parts
        exact Or.inr ⟨before, after, rfl, by rw [byteSize_cons]; omega⟩

end SqlIdentifier.Text
