import SqlIdentifier.Proofs.RunEffects

namespace SqlIdentifier

namespace Cursor

theorem Reaches.length_lt {cursor behind : Cursor} (reaches : cursor.Reaches behind)
    (moved : behind.position ≠ cursor.position) : behind.rest.length < cursor.rest.length := by
  obtain ⟨taken, passes⟩ := reaches
  have nonempty : taken ≠ [] := fun nothing => moved (passes.position_eq_iff.mpr nothing)
  have positive := List.length_pos_iff.mpr nonempty
  have ahead := congrArg List.length passes.rest
  rw [List.length_append] at ahead
  omega

end Cursor

namespace Pattern

/-- Whether a repetition that has counted so many rounds may try a further one. -/
def Admits (most : Option Nat) (count : Nat) : Prop :=
  ∀ limit ∈ most, count < limit

theorem Admits.mono {most : Option Nat} {count total : Nat} (admits : Admits most total)
    (earlier : count ≤ total) : Admits most count :=
  fun limit member => Nat.lt_of_le_of_lt earlier (admits limit member)

/-- The loop of a repetition as it is written, with no limit to its steps: at a state with `count`
rounds behind it, it ends at the state `last` with `total` rounds. A round that stays in place ends
the loop uncounted, and what it recorded is kept. -/
inductive LoopRun (item : Pattern) (most : Option Nat) : Nat → State → Nat → State → Prop
  | full {count : Nat} {state : State} :
      ¬ Admits most count → LoopRun item most count state count state
  | failed {count : Nat} {state after : State} :
      Admits most count → item.run state = (false, after) → LoopRun item most count state count after
  | stayed {count : Nat} {state after : State} :
      Admits most count → item.run state = (true, after) →
      after.cursor.position = state.cursor.position → LoopRun item most count state count after
  | counted {count total : Nat} {state after last : State} :
      Admits most count → item.run state = (true, after) →
      after.cursor.position ≠ state.cursor.position →
      LoopRun item most (count + 1) after total last → LoopRun item most count state total last

namespace LoopRun

variable {item : Pattern} {most : Option Nat} {count total total' : Nat} {state last last' : State}

theorem unique (loop : LoopRun item most count state total last)
    (loop' : LoopRun item most count state total' last') : total' = total ∧ last' = last := by
  induction loop with
  | full ended =>
    cases loop' with
    | full => exact ⟨rfl, rfl⟩
    | failed admits => exact absurd admits ended
    | stayed admits => exact absurd admits ended
    | counted admits => exact absurd admits ended
  | failed admits unmatched =>
    cases loop' with
    | full ended => exact absurd admits ended
    | failed _ unmatched' => exact ⟨rfl, (Prod.mk.inj (unmatched'.symm.trans unmatched)).2⟩
    | stayed _ matched => simp [unmatched] at matched
    | counted _ matched => simp [unmatched] at matched
  | stayed admits matched inPlace =>
    cases loop' with
    | full ended => exact absurd admits ended
    | failed _ unmatched => simp [matched] at unmatched
    | stayed _ matched' => exact ⟨rfl, (Prod.mk.inj (matched'.symm.trans matched)).2⟩
    | counted _ matched' moved =>
      obtain rfl := (Prod.mk.inj (matched'.symm.trans matched)).2
      exact absurd inPlace moved
  | counted admits matched moved _ ih =>
    cases loop' with
    | full ended => exact absurd admits ended
    | failed _ unmatched => simp [matched] at unmatched
    | stayed _ matched' inPlace =>
      obtain rfl := (Prod.mk.inj (matched'.symm.trans matched)).2
      exact absurd inPlace moved
    | counted _ matched' _ later' =>
      obtain rfl := (Prod.mk.inj (matched'.symm.trans matched)).2
      exact ih later'

theorem count_le (loop : LoopRun item most count state total last) : count ≤ total := by
  induction loop with
  | full => exact Nat.le_refl _
  | failed => exact Nat.le_refl _
  | stayed => exact Nat.le_refl _
  | counted _ _ _ _ ih => omega

/-- Each counted round has passed a code point, since no pattern moves backwards. -/
theorem total_le (loop : LoopRun item most count state total last) :
    total ≤ count + state.cursor.rest.length := by
  induction loop with
  | full => exact Nat.le_add_right _ _
  | failed => exact Nat.le_add_right _ _
  | stayed => exact Nat.le_add_right _ _
  | counted _ matched moved _ ih =>
    have fewer := (leadsTo_runClosed.run item matched).moved.length_lt moved
    omega

/-- A loop that has not ended for its bound goes the same way under every bound that admits as
many rounds. -/
theorem rebound {most' : Option Nat} (loop : LoopRun item most count state total last)
    (unfilled : Admits most total) (admits' : Admits most' total) :
    LoopRun item most' count state total last := by
  induction loop with
  | full ended => exact absurd unfilled ended
  | failed _ unmatched => exact .failed admits' unmatched
  | stayed _ matched inPlace => exact .stayed admits' matched inPlace
  | counted _ matched moved later ih =>
    have earlier := Nat.le_of_succ_le later.count_le
    exact .counted (admits'.mono earlier) matched moved (ih unfilled admits')

end LoopRun

/-- A limit to the steps acts as a bound of the repetition. -/
theorem loopRun_repeatStep (item : Pattern) (limit count : Nat) (state : State) :
    LoopRun item (some (count + limit)) count state (repeatStep item.run limit count state).1
      (repeatStep item.run limit count state).2 := by
  induction limit generalizing count state with
  | zero => exact .full (by simp [Admits])
  | succ limit ih =>
    have admits : Admits (some (count + (limit + 1))) count := by
      intro bound member
      cases Option.some.inj member
      omega
    rw [repeatStep]
    split
    · rename_i after unmatched
      exact .failed admits unmatched
    · rename_i after matched
      split
      · rename_i inPlace
        exact .stayed admits matched inPlace
      · rename_i moved
        have later := ih (count + 1) after
        rw [Nat.add_right_comm, Nat.add_assoc] at later
        exact .counted admits matched moved later

/-- The steps that a repetition without a bound is granted are enough for its loop to end by itself. -/
theorem loopRun_stepLimit (item : Pattern) (most : Option Nat) (state : State) :
    LoopRun item most 0 state (repeatStep item.run (stepLimit most state) 0 state).1
      (repeatStep item.run (stepLimit most state) 0 state).2 := by
  have limited := loopRun_repeatStep item (stepLimit most state) 0 state
  rw [Nat.zero_add] at limited
  cases most with
  | some bound => exact limited
  | none =>
    refine limited.rebound ?_ (by simp [Admits])
    intro limit member
    have few := limited.total_le
    have granted : state.cursor.rest.length + 1 = limit := Option.some.inj member
    omega

theorem exists_loopRun (item : Pattern) (most : Option Nat) (state : State) :
    ∃ total last, LoopRun item most 0 state total last :=
  ⟨_, _, loopRun_stepLimit item most state⟩

theorem LoopRun.run_rounds {item : Pattern} {most : Option Nat} {total : Nat} {state last : State}
    (loop : LoopRun item most 0 state total last) (least : Nat) :
    (rounds item least most).run state = if total < least then (false, state) else (true, last) := by
  obtain ⟨sameTotal, sameLast⟩ := loop.unique (loopRun_stepLimit item most state)
  rw [run_rounds_eq, sameTotal, sameLast]

/-- Whatever the item, from every state the loop of a repetition without a bound ends, in one way,
and with at most as many counted rounds as code points are left. With a bound above that number the
loop ends in the same way, so that the repetition matches or fails alike, at the same place and with
the same spans recorded. A repetition that needs more rounds than code points are left fails under
every bound. -/
theorem unbounded_rounds_end (item : Pattern) (least : Nat) (state : State) :
    (∃ total last, LoopRun item none 0 state total last ∧
      total ≤ state.cursor.rest.length ∧
      (∀ total' last', LoopRun item none 0 state total' last' → total' = total ∧ last' = last) ∧
      (rounds item least none).run state =
        (if total < least then (false, state) else (true, last)) ∧
      ∀ bound, state.cursor.rest.length < bound →
        LoopRun item (some bound) 0 state total last ∧
        (rounds item least (some bound)).run state = (rounds item least none).run state) ∧
    ∀ most, state.cursor.rest.length < least →
      (rounds item least most).run state = (false, state) := by
  constructor
  · obtain ⟨total, last, loop⟩ := exists_loopRun item none state
    have few := loop.total_le
    rw [Nat.zero_add] at few
    refine ⟨total, last, loop, few, fun _ _ => loop.unique, loop.run_rounds least, ?_⟩
    intro bound above
    have bounded : LoopRun item (some bound) 0 state total last := by
      refine loop.rebound (by simp [Admits]) ?_
      intro limit member
      cases Option.some.inj member
      omega
    exact ⟨bounded, by rw [bounded.run_rounds, loop.run_rounds]⟩
  · intro most tooMany
    obtain ⟨total, last, loop⟩ := exists_loopRun item most state
    have few := loop.total_le
    rw [loop.run_rounds, if_pos (by omega)]

/-- Behind two letters a third round stays in place and records where it stands. A bound of three
leaves room for this round and a bound of two does not, although both admit the rounds that count. -/
theorem unbounded_rounds_end_recording :
    let item := choice [char 'é', capture .escape (notFollowedBy (.chars ['é']))]
    let state : State := { cursor := ⟨1, ['é', 'é']⟩ }
    state.cursor.rest.length < 3 ∧
      (rounds item 2 (some 3)).run state = (rounds item 2 none).run state ∧
      (rounds item 2 none).run state = (true, ⟨⟨5, []⟩, { escape := some ⟨5, 5⟩ }⟩) ∧
      (rounds item 2 (some 2)).run state = (true, ⟨⟨5, []⟩, {}⟩) ∧
      (rounds item 3 none).run state = (false, state) := by
  intro item state
  have above : state.cursor.rest.length < 3 := by decide
  obtain ⟨⟨_, _, _, _, _, _, limit⟩, _⟩ := unbounded_rounds_end item 2 state
  obtain ⟨_, needsMore⟩ := unbounded_rounds_end item 3 state
  exact ⟨above, (limit 3 above).2, by decide, by decide, needsMore none above⟩

end Pattern

end SqlIdentifier
