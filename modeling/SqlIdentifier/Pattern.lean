import SqlIdentifier.CharClass
import SqlIdentifier.Cursor
import SqlIdentifier.Span

namespace SqlIdentifier

inductive Group where
  | body
  | escape
  deriving DecidableEq, Repr

/-- The spans recorded so far, the latest for each group. -/
structure Captures where
  body : Option Span := none
  escape : Option Span := none
  deriving DecidableEq, Repr

namespace Captures

def get? (captures : Captures) : Group → Option Span
  | .body => captures.body
  | .escape => captures.escape

def record (captures : Captures) : Group → Span → Captures
  | .body, span => { captures with body := some span }
  | .escape, span => { captures with escape := some span }

theorem get?_record (captures : Captures) (group other : Group) (span : Span) :
    (captures.record group span).get? other =
      if other = group then some span else captures.get? other := by
  cases group <;> cases other <;> rfl

end Captures

inductive Pattern where
  | oneOf (k : CharClass)
  | char (expected : Char)
  | literal (expected : List Char)
  /-- This text in any mix of ASCII cases. -/
  | keyword (expected : List Char)
  | seq (items : List Pattern)
  /-- The first of the patterns that matches. -/
  | choice (alternatives : List Pattern)
  /-- From `least` up to `most` rounds of the pattern, without a bound if there is no `most`. -/
  | rounds (item : Pattern) (least : Nat) (most : Option Nat)
  | capture (group : Group) (inner : Pattern)
  /-- Nothing, where no code point of the class follows. -/
  | notFollowedBy (k : CharClass)

namespace Pattern

structure State where
  cursor : Cursor
  captures : Captures := {}
  deriving DecidableEq, Repr

/-- The state after an attempt to move the cursor, and whether it moved. -/
def State.moveTo (state : State) : Option Cursor → Bool × State
  | none => (false, state)
  | some cursor => (true, { state with cursor })

/-- Repeats a step, up to `limit` times, until it fails or stays in place, and counts the times it
moved. A last step that stays in place is not counted, but what it recorded is kept. -/
def repeatStep (step : State → Bool × State) : (limit count : Nat) → State → Nat × State
  | 0, count, state => (count, state)
  | limit + 1, count, state =>
    match step state with
    | (false, after) => (count, after)
    | (true, after) =>
      if after.cursor.position = state.cursor.position then (count, after)
      else repeatStep step limit (count + 1) after

/-- The most steps that a repetition takes. Without a bound of its own it can move once for each
code point that is left, and one step more shows that it moves no further. -/
def stepLimit (most : Option Nat) (state : State) : Nat :=
  most.getD (state.cursor.rest.length + 1)

mutual

/-- Runs a pattern from a state: whether it matched, and the state after it. A sequence and a
repetition that fail return to the state they started from. -/
def run : Pattern → State → Bool × State
  | oneOf k, state => state.moveTo ((state.cursor.nextIf? k.contains).map Prod.snd)
  | char expected, state => state.moveTo (state.cursor.accept? expected)
  | literal expected, state => state.moveTo (state.cursor.acceptText? expected)
  | keyword expected, state => state.moveTo (state.cursor.acceptWord? expected)
  | seq items, state =>
    match runAll items state with
    | (true, after) => (true, after)
    | (false, _) => (false, state)
  | choice alternatives, state => runFirst alternatives state
  | rounds item least most, state =>
    match repeatStep (run item) (stepLimit most state) 0 state with
    | (count, after) => if count < least then (false, state) else (true, after)
  | capture group inner, state =>
    match run inner state with
    | (false, after) => (false, after)
    | (true, after) =>
      let span : Span := ⟨state.cursor.position, after.cursor.position⟩
      (true, { after with captures := after.captures.record group span })
  | notFollowedBy k, state => (!state.cursor.peek?.any k.contains, state)

def runAll : List Pattern → State → Bool × State
  | [], state => (true, state)
  | item :: later, state =>
    match run item state with
    | (false, after) => (false, after)
    | (true, after) => runAll later after

def runFirst : List Pattern → State → Bool × State
  | [], state => (false, state)
  | alternative :: others, state =>
    match run alternative state with
    | (true, after) => (true, after)
    | (false, after) => runFirst others after

end

def matchFrom? (pattern : Pattern) (cursor : Cursor) : Option (Span × Captures) :=
  match pattern.run { cursor } with
  | (false, _) => none
  | (true, after) => some (⟨cursor.position, after.cursor.position⟩, after.captures)

/-- The match that starts at a byte offset, with what it recorded. It may end before the text does.
Nothing matches past the end or inside a code point. -/
def submatchesAt? (pattern : Pattern) (text : List Char) (position : Nat) :
    Option (Span × Captures) :=
  (Cursor.at? text position).bind pattern.matchFrom?

def matchAt? (pattern : Pattern) (text : List Char) (position : Nat) : Option Span :=
  (pattern.submatchesAt? text position).map Prod.fst

def accepts (pattern : Pattern) (text : List Char) : Bool :=
  (pattern.matchAt? text 0).any fun span => span.stop == Text.byteSize text

def find? (pattern : Pattern) (text : List Char) : Option Span :=
  (Text.boundaries 0 text).findSome? (pattern.matchAt? text)

end Pattern

end SqlIdentifier
