import SqlIdentifier.Cursor.Session
import SqlIdentifier.Proofs.Delimiters
import SqlIdentifier.Proofs.HexDigits

namespace SqlIdentifier

/-- There are finitely many code points, so that a class can accept any of them and no other. -/
theorem CharClass.exists_contains (accepts : Char → Bool) :
    ∃ k : CharClass, ∀ c, k.contains c = accepts c := by
  let all := (List.range 0x110000).filterMap Unicode.scalar?
  have mem_all (c : Char) : c ∈ all :=
    List.mem_filterMap.mpr
      ⟨c.toNat, List.mem_range.mpr (Unicode.toNat_lt c), Unicode.scalar?_toNat c⟩
  refine ⟨.chars (all.filter accepts), fun c => ?_⟩
  rw [contains_chars, Bool.eq_iff_iff, List.contains_iff_mem, List.mem_filter]
  exact and_iff_right (mem_all c)

namespace Cursor

/-- Whether the step did not find what it was asked for. -/
def Reply.failed : Reply → Bool
  | .char none | .accepted false | .text none => true
  | _ => false

section Steps

variable {σ τ : Type}

/-- The state after the steps, if each of them can be taken. -/
def after? (step? : σ → Step → Option (Reply × σ)) (state : σ) (steps : List Step) : Option σ :=
  steps.foldlM (fun state step => (step? state step).map Prod.snd) state

/-- A step of what is seen is what is seen of a step, with the same reply. -/
def Simulates (step? : σ → Step → Option (Reply × σ)) (step?' : τ → Step → Option (Reply × τ))
    (view : τ → σ) : Prop :=
  ∀ state step, step? (view state) step = (step?' state step).map (Prod.map id view)

variable {step? : σ → Step → Option (Reply × σ)} {step?' : τ → Step → Option (Reply × τ)}
  {view : τ → σ}

theorem Simulates.replies?_eq (simulates : Simulates step? step?' view) (position : σ → Nat)
    (state : τ) (steps : List Step) :
    replies? step? position (view state) steps = replies? step?' (position ∘ view) state steps := by
  induction steps generalizing state with
  | nil => rfl
  | cons step later ih =>
    rw [replies?, replies?, simulates]
    cases step?' state step with
    | none => rfl
    | some next =>
      obtain ⟨reply, after⟩ := next
      simp only [Option.map_some, Prod.map, id_eq, Option.bind_eq_bind, Option.bind_some, ih after]
      rfl

theorem Simulates.after?_eq (simulates : Simulates step? step?' view) (state : τ)
    (steps : List Step) :
    after? step? (view state) steps = (after? step?' state steps).map view := by
  induction steps generalizing state with
  | nil => rfl
  | cons step later ih =>
    simp only [after?, List.foldlM_cons, simulates state step, Option.map_map]
    cases step?' state step with
    | none => rfl
    | some next => exact ih next.2

/-- What each step preserves holds after all of them. -/
theorem after?_preserves {Holds : σ → Prop}
    (preserves : ∀ state step reply next, Holds state → step? state step = some (reply, next) →
      Holds next)
    {state after : σ} {steps : List Step} (holds : Holds state)
    (reached : after? step? state steps = some after) : Holds after := by
  induction steps generalizing state with
  | nil =>
    cases Option.some.inj reached
    exact holds
  | cons step later ih =>
    rw [after?, List.foldlM_cons] at reached
    obtain ⟨middle, first, rest⟩ := Option.bind_eq_some_iff.mp reached
    obtain ⟨⟨reply, _⟩, taken, rfl⟩ := Option.map_eq_some_iff.mp first
    exact ih (preserves state step reply _ holds taken) rest

end Steps

def Session.after? (session : Session) (steps : List Step) : Option Session :=
  Cursor.after? Session.step? session steps

/-- Every step that returns to a saved cursor names one that has been saved by then. So many have
been saved before the first step. -/
def Restorable : (saved : Nat) → List Step → Prop
  | _, [] => True
  | saved, .restore index :: later => index < saved ∧ Restorable saved later
  | saved, .save :: later => Restorable (saved + 1) later
  | saved, _ :: later => Restorable saved later

/-- A text of which the code points up to a place have been read. -/
structure Reading where
  consumed : List Char
  rest : List Char
  deriving DecidableEq, Repr

namespace Reading

def text (reading : Reading) : List Char :=
  reading.consumed ++ reading.rest

/-- The cursor at the place: the bytes that have been read, and the text that is left. -/
def cursor (reading : Reading) : Cursor :=
  ⟨Text.byteSize reading.consumed, reading.rest⟩

/-- Reads so many code points more, or all that are left. -/
def drop (count : Nat) (reading : Reading) : Reading :=
  ⟨reading.consumed ++ reading.rest.take count, reading.rest.drop count⟩

/-- What a step answers, and how many code points it reads, by those that are left. Saving a place
and returning to one are not decided by them. -/
def answer (rest : List Char) : Step → Reply × Nat
  | .peek => (.char rest.head?, 0)
  | .next => (.char rest.head?, 1)
  | .skip count => (.done, count)
  | .nextIf accepted =>
    match rest.head?.filter accepted.contains with
    | none => (.char none, 0)
    | some c => (.char (some c), 1)
  | .accept expected =>
    if rest.head? = some expected then (.accepted true, 1) else (.accepted false, 0)
  | .acceptWord expected =>
    if Text.eqIgnoringCase (rest.take expected.length) expected then
      (.accepted true, expected.length)
    else (.accepted false, 0)
  | .takeHex count =>
    if count ≤ rest.length ∧ (rest.take count).all Hex.isDigit then
      (.text (some (rest.take count)), count)
    else (.text none, 0)
  | .remaining => (.text (some rest), 0)
  | .save | .restore _ => (.done, 0)

/-- A step that finds nothing reads nothing, or stands at the end. -/
theorem failed_answer {rest : List Char} {step : Step}
    (failed : (answer rest step).1.failed = true) : rest = [] ∨ (answer rest step).2 = 0 := by
  cases step with
  | next =>
    cases rest with
    | nil => exact Or.inl rfl
    | cons => simp [answer, Reply.failed] at failed
  | skip => simp [answer, Reply.failed] at failed
  | nextIf accepted =>
    cases found : rest.head?.filter accepted.contains with
    | none => exact Or.inr (by simp only [answer, found])
    | some c => simp [answer, found, Reply.failed] at failed
  | peek | remaining | save | restore => exact Or.inr rfl
  | accept | acceptWord | takeHex =>
    simp only [answer] at failed ⊢
    split at failed
    · simp [Reply.failed] at failed
    · rename_i missing
      exact Or.inr (by rw [if_neg missing])

/-- A reading together with those saved so far. -/
structure Session where
  reading : Reading
  saved : List Reading := []

namespace Session

def step? (session : Session) : Step → Option (Reply × Session)
  | .save =>
    some (.index session.saved.length, { session with saved := session.saved ++ [session.reading] })
  | .restore index =>
    session.saved[index]?.map fun reading => (.accepted true, { session with reading })
  | step =>
    let (reply, count) := answer session.reading.rest step
    some (reply, { session with reading := session.reading.drop count })

/-- The answer to each step and the number of bytes read after it. -/
def run? (session : Session) (steps : List Step) : Option (List (Reply × Nat)) :=
  replies? step? (fun session => Text.byteSize session.reading.consumed) session steps

def after? (session : Session) (steps : List Step) : Option Session :=
  Cursor.after? step? session steps

/-- The cursors at the place of the session and at the saved ones. -/
def cursors (session : Session) : Cursor.Session :=
  ⟨session.reading.cursor, session.saved.map cursor⟩

/-- All places of the session lie in one text. -/
structure Within (source : List Char) (session : Session) : Prop where
  reading : session.reading.text = source
  saved : ∀ reading ∈ session.saved, reading.text = source

end Session

section Drop

variable (reading : Reading)

@[simp]
theorem drop_zero : reading.drop 0 = reading := by
  simp [drop]

@[simp]
theorem text_drop (count : Nat) : (reading.drop count).text = reading.text := by
  simp [drop, text]

theorem drop_of_end (atEnd : reading.rest = []) (count : Nat) : reading.drop count = reading := by
  obtain ⟨consumed, rest⟩ := reading
  cases atEnd
  simp [drop]

theorem drop_succ_of_cons {c : Char} {later : List Char} (ahead : reading.rest = c :: later)
    (count : Nat) : reading.drop (count + 1) = (reading.drop 1).drop count := by
  simp [drop, ahead]

theorem passes_drop {taken later : List Char} (ahead : reading.rest = taken ++ later) :
    reading.cursor.Passes taken (reading.drop taken.length).cursor := by
  refine ⟨?_, ?_⟩
  · simp [cursor, drop, ahead]
  · simp [cursor, drop, ahead]

/-- A cursor that passes a text stands behind as many code points as this text has. -/
theorem eq_drop_of_passes {taken : List Char} {behind : Cursor}
    (passes : reading.cursor.Passes taken behind) :
    reading.rest.take taken.length = taken ∧ behind = (reading.drop taken.length).cursor := by
  have ahead : reading.rest = taken ++ behind.rest := passes.rest
  refine ⟨?_, passes.unique (reading.passes_drop ahead)⟩
  rw [ahead, List.take_left]

theorem skip_cursor (count : Nat) : reading.cursor.skip count = (reading.drop count).cursor := by
  induction count generalizing reading with
  | zero => rw [drop_zero, skip]
  | succ count ih =>
    cases ahead : reading.rest with
    | nil => simp [skip, next?, cursor, drop, ahead]
    | cons c later =>
      have passes : reading.cursor.Passes [c] (reading.drop [c].length).cursor :=
        reading.passes_drop ahead
      rw [skip, next?_eq_some_iff.mpr passes, reading.drop_succ_of_cons ahead]
      exact ih _

end Drop

section Readers

variable (reading : Reading)

theorem next?_cursor :
    reading.cursor.next? = reading.rest.head?.map ((·, (reading.drop 1).cursor)) := by
  cases ahead : reading.rest with
  | nil => simp [next?, cursor, ahead]
  | cons c later =>
    have passes : reading.cursor.Passes [c] (reading.drop 1).cursor := reading.passes_drop ahead
    exact next?_eq_some_iff.mpr passes

theorem nextIf?_cursor (accepts : Char → Bool) :
    reading.cursor.nextIf? accepts =
      (reading.rest.head?.filter accepts).map ((·, (reading.drop 1).cursor)) := by
  rw [nextIf?, next?_cursor]
  cases reading.rest.head? with
  | none => rfl
  | some c =>
    simp only [Option.map_some, Option.filter_some]
    split <;> rfl

theorem accept?_cursor (expected : Char) :
    reading.cursor.accept? expected =
      if reading.rest.head? = some expected then some (reading.drop 1).cursor else none := by
  rw [accept?, nextIf?_cursor]
  cases reading.rest.head? with
  | none => rfl
  | some c =>
    by_cases same : c = expected
    · simp [same]
    · simp [same]

/-- The window of bytes that is compared with a word holds as many code points as the word, if it
agrees with the word at all. -/
theorem acceptWord?_cursor (expected : List Char) :
    reading.cursor.acceptWord? expected =
      if Text.eqIgnoringCase (reading.rest.take expected.length) expected then
        some (reading.drop expected.length).cursor
      else none := by
  split
  · rename_i agree
    have length := Text.length_of_eqIgnoringCase agree
    have ahead := (List.take_append_drop expected.length reading.rest).symm
    have passes := reading.passes_drop ahead
    rw [length] at passes
    exact acceptWord?_eq_some_iff.mpr ⟨_, agree, passes⟩
  · rename_i different
    refine Option.eq_none_iff_forall_ne_some.mpr fun behind found => ?_
    obtain ⟨word, agree, passes⟩ := acceptWord?_eq_some_iff.mp found
    have sameWord := (reading.eq_drop_of_passes passes).1
    rw [Text.length_of_eqIgnoringCase agree] at sameWord
    rw [sameWord] at different
    exact different agree

/-- The window of bytes in which digits are looked for holds as many code points as it has bytes, if
all of them are digits. -/
theorem takeHex?_cursor (count : Nat) :
    reading.cursor.takeHex? count =
      if count ≤ reading.rest.length ∧ (reading.rest.take count).all Hex.isDigit then
        some (reading.rest.take count, (reading.drop count).cursor)
      else none := by
  split
  · rename_i standing
    obtain ⟨enough, areDigits⟩ := standing
    have length : (reading.rest.take count).length = count := by
      rw [List.length_take]
      omega
    have ahead := (List.take_append_drop count reading.rest).symm
    have passes := reading.passes_drop ahead
    rw [length] at passes
    exact takeHex?_eq_some_iff.mpr ⟨length, List.all_eq_true.mp areDigits, passes⟩
  · rename_i missing
    refine Option.eq_none_iff_forall_ne_some.mpr fun found taken => missing ?_
    obtain ⟨digits, behind⟩ := found
    obtain ⟨length, areDigits, passes⟩ := takeHex?_eq_some_iff.mp taken
    have ahead : reading.rest = digits ++ behind.rest := passes.rest
    have same := (reading.eq_drop_of_passes passes).1
    rw [length] at same
    rw [same]
    refine ⟨?_, List.all_eq_true.mpr areDigits⟩
    rw [ahead, List.length_append]
    omega

end Readers

namespace Session

variable (session : Session)

/-- One step of the cursors is one step of the readings. -/
theorem simulates_cursors : Simulates Cursor.Session.step? step? cursors := by
  intro session step
  cases step with
  | peek =>
    simp only [step?, answer, drop_zero]
    rfl
  | next =>
    simp only [Cursor.Session.step?, cursors, next?_cursor, step?, answer]
    cases ahead : session.reading.rest with
    | nil => simp [Cursor.Session.move, cursors, cursor, drop, ahead]
    | cons c later => rfl
  | skip count =>
    simp only [Cursor.Session.step?, cursors, skip_cursor]
    rfl
  | nextIf accepted =>
    simp only [Cursor.Session.step?, cursors, nextIf?_cursor, step?, answer]
    cases session.reading.rest.head?.filter accepted.contains with
    | none => simp [Cursor.Session.move, cursors]
    | some c => rfl
  | accept expected =>
    simp only [Cursor.Session.step?, cursors, accept?_cursor, step?, answer]
    split
    · rfl
    · simp [Cursor.Session.move, cursors]
  | acceptWord expected =>
    simp only [Cursor.Session.step?, cursors, acceptWord?_cursor, step?, answer]
    split
    · rfl
    · simp [Cursor.Session.move, cursors]
  | takeHex count =>
    simp only [Cursor.Session.step?, cursors, takeHex?_cursor, step?, answer]
    split
    · rfl
    · simp [Cursor.Session.move, cursors]
  | remaining =>
    simp only [step?, answer, drop_zero]
    rfl
  | save => simp [Cursor.Session.step?, step?, cursors]
  | restore index =>
    simp only [Cursor.Session.step?, step?, cursors, List.getElem?_map, Option.map_map]
    rfl

/-- A whole run of the cursors gives the answers of the readings. -/
theorem run?_cursors (steps : List Step) : session.cursors.run? steps = session.run? steps :=
  simulates_cursors.replies?_eq (fun session => session.cursor.position) session steps

theorem after?_cursors (steps : List Step) :
    session.cursors.after? steps = (session.after? steps).map cursors :=
  simulates_cursors.after?_eq session steps

section Step

variable {session} {after : Session} {step : Step} {reply : Reply}

/-- All that a step can do: save the place, return to a saved one, or read on. -/
theorem step?_cases (taken : session.step? step = some (reply, after)) :
    after = { session with saved := session.saved ++ [session.reading] } ∨
      (∃ reading ∈ session.saved, reply = .accepted true ∧ after = { session with reading }) ∨
      ∃ count, answer session.reading.rest step = (reply, count) ∧
        after = { session with reading := session.reading.drop count } := by
  cases step with
  | save =>
    obtain ⟨_, rfl⟩ := Prod.mk.inj (Option.some.inj taken)
    exact Or.inl rfl
  | restore index =>
    obtain ⟨reading, found, same⟩ := Option.map_eq_some_iff.mp taken
    obtain ⟨rfl, rfl⟩ := Prod.mk.inj same
    exact Or.inr (Or.inl ⟨reading, List.mem_of_getElem? found, rfl, rfl⟩)
  | _ =>
    obtain ⟨rfl, rfl⟩ := Prod.mk.inj (Option.some.inj taken)
    exact Or.inr (Or.inr ⟨_, rfl, rfl⟩)

theorem Within.step? {source : List Char} (within : session.Within source)
    (taken : session.step? step = some (reply, after)) : after.Within source := by
  rcases step?_cases taken with rfl | ⟨reading, member, _, rfl⟩ | ⟨count, _, rfl⟩
  · refine ⟨within.reading, ?_⟩
    simpa [or_imp, forall_and] using ⟨within.saved, within.reading⟩
  · exact ⟨within.saved reading member, within.saved⟩
  · exact ⟨(session.reading.text_drop count).trans within.reading, within.saved⟩

theorem Within.after? {source : List Char} {steps : List Step} (within : session.Within source)
    (reached : session.after? steps = some after) : after.Within source :=
  after?_preserves (fun _ _ _ _ within taken => Within.step? within taken) within reached

theorem reading_of_failed (taken : session.step? step = some (reply, after))
    (failed : reply.failed = true) : after.reading = session.reading := by
  rcases step?_cases taken with rfl | ⟨reading, _, rfl, _⟩ | ⟨count, answered, rfl⟩
  · rfl
  · simp [Reply.failed] at failed
  · have nothing := failed_answer (by rwa [answered])
    rw [answered] at nothing
    rcases nothing with atEnd | none
    · exact session.reading.drop_of_end atEnd count
    · exact (congrArg session.reading.drop none).trans session.reading.drop_zero

end Step

theorem isSome_run?_cons (step : Step) (later : List Step) :
    (session.run? (step :: later)).isSome =
      (session.step? step).any fun next => (next.2.run? later).isSome := by
  rw [run?, replies?]
  cases session.step? step with
  | none => rfl
  | some next =>
    obtain ⟨reply, after⟩ := next
    simp only [run?, Option.bind_eq_bind, Option.bind_some, Option.any_some]
    cases replies? step? _ after later <;> rfl

/-- A session answers all steps exactly if it returns only to places that it has saved. -/
theorem isSome_run?_iff (steps : List Step) :
    (session.run? steps).isSome ↔ Restorable session.saved.length steps := by
  induction steps generalizing session with
  | nil => simp [run?, replies?, Restorable]
  | cons step later ih =>
    rw [isSome_run?_cons]
    cases step with
    | save => simp [step?, Restorable, ih]
    | restore index =>
      cases found : session.saved[index]? with
      | none =>
        have missing := List.getElem?_eq_none_iff.mp found
        simp [step?, Restorable, Nat.not_lt_of_le missing]
      | some reading =>
        obtain ⟨inside, _⟩ := List.getElem?_eq_some_iff.mp found
        simp [step?, Restorable, inside, ih]
    | _ => simp [step?, Restorable, ih]

end Session

theorem exists_started {source : List Char} {cursor : Cursor}
    (started : cursor = start source ∨ ∃ position, at? source position = some cursor) :
    ∃ reading : Reading, reading.text = source ∧ reading.cursor = cursor := by
  rcases started with rfl | ⟨position, found⟩
  · exact ⟨⟨[], source⟩, rfl, rfl⟩
  · obtain ⟨here, before, parts, size⟩ := at?_eq_some_iff.mp found
    obtain ⟨position', rest⟩ := cursor
    refine ⟨⟨before, rest⟩, parts.symm, ?_⟩
    rw [Reading.cursor, ← size, ← here]

end Reading

/-- Whatever is asked of a cursor that starts anywhere in a text, the answers and the numbers of
bytes read are those of a reading of the text, and there are answers to all steps exactly if none
returns to a place that has not been saved. After any of the steps the cursor stands between two
code points: its position alone determines what is left, and a step that fails leaves it there. A
step that asks for a class can ask for any code points. -/
theorem Session.answers_of_reading {source : List Char} {cursor : Cursor}
    (started : cursor = start source ∨ ∃ position, at? source position = some cursor)
    (steps : List Step) :
    (∀ accepts : Char → Bool, ∃ k : CharClass, ∀ c, k.contains c = accepts c) ∧
    ∃ reading : Reading, reading.text = source ∧ reading.cursor = cursor ∧
      (Session.mk cursor []).run? steps = (Reading.Session.mk reading []).run? steps ∧
      (((Session.mk cursor []).run? steps).isSome ↔ Restorable 0 steps) ∧
      ∀ session, (Session.mk cursor []).after? steps = some session →
        ∃ readings, (Reading.Session.mk reading []).after? steps = some readings ∧
          readings.Within source ∧ session = readings.cursors ∧
          session.cursor.position ∈ Text.boundaries 0 source ∧
          Text.splitAt? source session.cursor.position =
            some (readings.reading.consumed, session.cursor.rest) ∧
          ∀ step reply next, session.step? step = some (reply, next) → reply.failed = true →
            next.cursor = session.cursor := by
  obtain ⟨reading, sameText, rfl⟩ := Reading.exists_started started
  let readings : Reading.Session := { reading }
  have within : readings.Within source := ⟨sameText, by simp [readings]⟩
  refine ⟨CharClass.exists_contains, reading, sameText, rfl, readings.run?_cursors steps, ?_, ?_⟩
  · have answered := readings.isSome_run?_iff steps
    rw [← readings.run?_cursors] at answered
    exact answered
  · intro session reached
    obtain ⟨readings', reached', rfl⟩ :=
      Option.map_eq_some_iff.mp ((readings.after?_cursors steps).symm.trans reached)
    have within' := within.after? reached'
    refine ⟨readings', reached', within', rfl, ?_, ?_, ?_⟩
    · rw [← within'.reading]
      exact Text.mem_boundaries.mpr ⟨_, _, rfl, (Nat.zero_add _).symm⟩
    · rw [← within'.reading]
      exact Text.splitAt?_byteSize_append _ _
    · intro step reply next taken failed
      rw [Reading.Session.simulates_cursors] at taken
      obtain ⟨⟨_, after⟩, taken', same⟩ := Option.map_eq_some_iff.mp taken
      obtain ⟨rfl, rfl⟩ := Prod.mk.inj same
      exact congrArg Reading.cursor (Reading.Session.reading_of_failed taken' failed)

/-- Windows of bytes that end inside a code point, before and after returning to a place that was
saved. -/
theorem Session.answers_of_reading_windows :
    let source := "xéUeScApE0é".toList
    let cursor : Cursor := ⟨1, "éUeScApE0é".toList⟩
    let steps : List Step := [.save, .next, .acceptWord "UESCAPE".toList, .takeHex 2, .takeHex 1,
      .restore 0, .acceptWord "e".toList, .skip 3]
    at? source 1 = some cursor ∧
      ∃ reading : Reading, reading.text = source ∧ reading.cursor = cursor ∧
        (Session.mk cursor []).run? steps = (Reading.Session.mk reading []).run? steps ∧
        (Reading.Session.mk reading []).run? steps =
          some [(.index 0, 1), (.char (some 'é'), 3), (.accepted true, 10), (.text none, 10),
            (.text (some ['0']), 11), (.accepted true, 1), (.accepted false, 1), (.done, 5)] := by
  intro source cursor steps
  have started : at? source 1 = some cursor := by decide
  obtain ⟨_, reading, sameText, sameCursor, answers, _⟩ :=
    answers_of_reading (Or.inr ⟨1, started⟩) steps
  refine ⟨started, reading, sameText, sameCursor, answers, answers.symm.trans ?_⟩
  decide

end Cursor

end SqlIdentifier
