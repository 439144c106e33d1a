namespace SqlIdentifier.Unicode

/-- The general categories of Unicode, named by their two-letter abbreviations. -/
inductive Category where
  | lu | ll | lt | lm | lo
  | mn | mc | me
  | nd | nl | no
  | pc | pd | ps | pe | pi | pf | po
  | sm | sc | sk | so
  | zs | zl | zp
  | cc | cf | cs | co | cn
  deriving DecidableEq, Repr

/-- Consecutive code points from `first` on, with one category for the even and one for the odd
ones: in many scripts capital and small letters alternate. -/
structure CategoryRun where
  first : Nat
  even : Category
  odd : Category

namespace CategoryRun

def category (run : CategoryRun) (codePoint : Nat) : Category :=
  if codePoint % 2 = 0 then run.even else run.odd

/-- The category by the last of the ascending runs that starts at or before the code point, and
`found` if there is none. -/
def lookup : List CategoryRun → Category → Nat → Category
  | [], found, _ => found
  | run :: later, found, codePoint =>
    if codePoint < run.first then found else lookup later (run.category codePoint) codePoint

end CategoryRun

/-- A search tree with ascending runs at its leaves. Code points below the pivot of a split are
found in its first subtree, all others in its second. -/
inductive CategoryTable where
  | runs (runs : List CategoryRun)
  | split (pivot : Nat) (below above : CategoryTable)

def CategoryTable.lookup : CategoryTable → Nat → Category
  | runs ascending, codePoint => CategoryRun.lookup ascending .cn codePoint
  | split pivot below above, codePoint =>
    if codePoint < pivot then below.lookup codePoint else above.lookup codePoint

end SqlIdentifier.Unicode
