import SqlIdentifier.CharClass
import SqlIdentifier.Cursor

namespace SqlIdentifier.Cursor

inductive Step where
  | peek
  | next
  | skip (count : Nat)
  | nextIf (accepted : CharClass)
  | accept (expected : Char)
  | acceptWord (expected : List Char)
  | takeHex (count : Nat)
  | remaining
  | save
  | restore (index : Nat)

inductive Reply where
  | done
  | char (c? : Option Char)
  | accepted (yes : Bool)
  | text (text? : Option (List Char))
  | index (index : Nat)
  deriving DecidableEq, Repr

/-- The reply to each step and the position after it, from a state on. -/
def replies? {σ : Type} (step? : σ → Step → Option (Reply × σ)) (position : σ → Nat) :
    σ → List Step → Option (List (Reply × Nat))
  | _, [] => some []
  | state, step :: later => do
    let (reply, state) ← step? state step
    let replies ← replies? step? position state later
    return (reply, position state) :: replies

structure Session where
  cursor : Cursor
  saved : List Cursor := []

namespace Session

/-- Moves to the cursor found with a reply, or stays if there is none. -/
def move {α : Type} (session : Session) (reply : Option α → Reply) :
    Option (α × Cursor) → Reply × Session
  | none => (reply none, session)
  | some (value, cursor) => (reply (some value), { session with cursor })

/-- Takes one step. It fails only to restore a cursor that has not been saved. -/
def step? (session : Session) : Step → Option (Reply × Session)
  | .peek => some (.char session.cursor.peek?, session)
  | .next => some (session.move .char session.cursor.next?)
  | .skip count => some (.done, { session with cursor := session.cursor.skip count })
  | .nextIf accepted => some (session.move .char (session.cursor.nextIf? accepted.contains))
  | .accept expected =>
    some (session.move (fun found => .accepted found.isSome)
      ((session.cursor.accept? expected).map ((), ·)))
  | .acceptWord expected =>
    some (session.move (fun found => .accepted found.isSome)
      ((session.cursor.acceptWord? expected).map ((), ·)))
  | .takeHex count => some (session.move .text (session.cursor.takeHex? count))
  | .remaining => some (.text (some session.cursor.rest), session)
  | .save =>
    some (.index session.saved.length, { session with saved := session.saved ++ [session.cursor] })
  | .restore index =>
    session.saved[index]?.map fun cursor => (.accepted true, { session with cursor })

def run? (session : Session) (steps : List Step) : Option (List (Reply × Nat)) :=
  replies? step? (·.cursor.position) session steps

end Session

end SqlIdentifier.Cursor
