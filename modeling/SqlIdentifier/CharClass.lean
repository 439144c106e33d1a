import SqlIdentifier.Unicode.Scalar

namespace SqlIdentifier

open Unicode (Category)

/-- A set of code points, built from general categories, single code points and ranges. -/
inductive CharClass where
  | categories (categories : List Category)
  | chars (chars : List Char)
  | range (first last : Char)
  | union (classes : List CharClass)
  /-- The members of all the classes; every code point if none is listed. -/
  | intersection (classes : List CharClass)
  | complement (inner : CharClass)

namespace CharClass

mutual

def contains : CharClass → Char → Bool
  | categories listed, c => listed.contains (Unicode.category c)
  | chars listed, c => listed.contains c
  | range first last, c => first ≤ c && c ≤ last
  | union classes, c => anyContains classes c
  | intersection classes, c => allContain classes c
  | complement inner, c => !inner.contains c

def anyContains : List CharClass → Char → Bool
  | [], _ => false
  | first :: others, c => first.contains c || anyContains others c

def allContain : List CharClass → Char → Bool
  | [], _ => true
  | first :: others, c => first.contains c && allContain others c

end

theorem anyContains_eq_any (classes : List CharClass) (c : Char) :
    anyContains classes c = classes.any (·.contains c) := by
  induction classes with
  | nil => rfl
  | cons first others ih => simp [anyContains, ih]

theorem allContain_eq_all (classes : List CharClass) (c : Char) :
    allContain classes c = classes.all (·.contains c) := by
  induction classes with
  | nil => rfl
  | cons first others ih => simp [allContain, ih]

end CharClass

end SqlIdentifier
