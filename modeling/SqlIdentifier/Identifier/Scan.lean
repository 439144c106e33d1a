import SqlIdentifier.Identifier.Match

namespace SqlIdentifier.Identifier

/-- The identifiers from a position on. Code points before `resume` belong to the last identifier
found and are passed over; at any other an identifier is looked for. -/
def scanFrom (text : List Char) (resume : Nat) : (position : Nat) → (rest : List Char) → List Match
  | _, [] => []
  | position, c :: rest =>
    if position < resume then scanFrom text resume (position + c.utf8Size) rest
    else
      match matchAt? text position with
      | none => scanFrom text resume (position + c.utf8Size) rest
      | some found => found :: scanFrom text found.span.stop (position + c.utf8Size) rest

/-- The identifiers of a text from left to right. Behind one the search goes on at its end, and
where there is none, at the next code point. -/
def scan (text : List Char) : List Match :=
  scanFrom text 0 0 text

end SqlIdentifier.Identifier
