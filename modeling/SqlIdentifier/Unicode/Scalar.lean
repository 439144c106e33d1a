import SqlIdentifier.Unicode.CategoryData

namespace SqlIdentifier.Unicode

/-- The character with the given number. Surrogates and numbers above U+10FFFF name none. -/
def scalar? (codePoint : Nat) : Option Char :=
  if codePoint.isValidChar then some (Char.ofNat codePoint) else none

def category (c : Char) : Category :=
  CategoryTable.unicode.lookup c.toNat

theorem toNat_lt (c : Char) : c.toNat < 0x110000 := by
  have valid : c.toNat.isValidChar := c.valid
  rcases valid with low | high
  · omega
  · exact high.2

theorem scalar?_toNat (c : Char) : scalar? c.toNat = some c := by
  have valid : c.toNat.isValidChar := c.valid
  simp [scalar?, valid]

theorem scalar?_eq_some_iff {codePoint : Nat} {c : Char} :
    scalar? codePoint = some c ↔ codePoint = c.toNat := by
  constructor
  · intro found
    unfold scalar? at found
    split at found
    · rename_i valid
      rw [← Option.some.inj found, Char.ofNat, dif_pos valid]
      rfl
    · simp at found
  · rintro rfl
    exact scalar?_toNat c

theorem scalar?_eq_none_iff {codePoint : Nat} :
    scalar? codePoint = none ↔
      (0xD800 ≤ codePoint ∧ codePoint ≤ 0xDFFF) ∨ 0x10FFFF < codePoint := by
  simp only [scalar?, Nat.isValidChar, ite_eq_right_iff, reduceCtorEq, imp_false]
  omega

end SqlIdentifier.Unicode
