import SqlIdentifier.Text.Utf8

namespace SqlIdentifier

/-- The bytes of a text from `start` up to but not including `stop`. -/
structure Span where
  start : Nat
  stop : Nat
  deriving DecidableEq, Repr

namespace Span

def size (span : Span) : Nat :=
  span.stop - span.start

def size? (span : Span) : Option Nat :=
  if span.start ≤ span.stop then some span.size else none

/-- The part of a text that the span covers. There is none if an end of the span lies outside the
text or inside a code point, or if the span ends before it starts. -/
def slice? (span : Span) (text : List Char) : Option (List Char) := do
  let (upTo, _) ← Text.splitAt? text span.stop
  let (_, covered) ← Text.splitAt? upTo span.start
  return covered

theorem slice?_eq_some_iff {span : Span} {text covered : List Char} :
    span.slice? text = some covered ↔
      ∃ before after, text = before ++ covered ++ after ∧ span.start = Text.byteSize before ∧
        span.stop = Text.byteSize (before ++ covered) := by
  constructor
  · intro cut
    simp only [slice?, Option.bind_eq_bind, Option.bind_eq_some_iff, Prod.exists,
      Text.splitAt?_eq_some_iff, Option.pure_def, Option.some.injEq] at cut
    obtain ⟨upTo, after, ⟨rfl, stop⟩, before, _, ⟨rfl, start⟩, rfl⟩ := cut
    exact ⟨before, after, rfl, start, stop⟩
  · rintro ⟨before, after, rfl, start, stop⟩
    simp only [slice?, Option.bind_eq_bind, Option.bind_eq_some_iff, Prod.exists,
      Text.splitAt?_eq_some_iff, Option.pure_def, Option.some.injEq]
    exact ⟨before ++ covered, after, ⟨rfl, stop⟩, before, covered, ⟨rfl, start⟩, rfl⟩

end Span

end SqlIdentifier
