import SqlIdentifier.Proofs.PatternRun

namespace SqlIdentifier

/-- None of the items is empty, and at one place in a text at most one of them stands. -/
structure PrefixCode (Item : List Char → Prop) : Prop where
  ne_nil {item : List Char} : Item item → item ≠ []
  eq_of_append {left right more more' : List Char} :
    Item left → Item right → left ++ more = right ++ more' → left = right

/-- The text does not start with an item. -/
def StartsNoItem (Item : List Char → Prop) (text : List Char) : Prop :=
  ∀ item more, Item item → text ≠ item ++ more

/-- Items that were read one behind the other until no further one stood there or the bound was
reached. None of them is given back for the text that is left. -/
structure PossessiveRun (Item : List Char → Prop) (most : Option Nat) (items : List (List Char))
    (left : List Char) : Prop where
  areItems : ∀ item ∈ items, Item item
  bounded : ∀ limit ∈ most, items.length ≤ limit
  complete : StartsNoItem Item left ∨ most = some items.length

namespace PossessiveRun

variable {Item : List Char → Prop} {most : Option Nat} {items items' : List (List Char)}
  {left left' : List Char}

theorem tail {item : List Char} (run : PossessiveRun Item most (item :: items) left) :
    PossessiveRun Item (most.map (· - 1)) items left where
  areItems := fun other member => run.areItems other (List.mem_cons_of_mem item member)
  bounded := by
    intro limit member
    obtain ⟨before, atMost, rfl⟩ := Option.map_eq_some_iff.mp member
    have bound := run.bounded before atMost
    rw [List.length_cons] at bound
    omega
  complete := by
    rcases run.complete with ended | full
    · exact Or.inl ended
    · right
      rw [full]
      simp

theorem nil_not_cons {item : List Char} (run : PossessiveRun Item most [] left)
    (run' : PossessiveRun Item most (item :: items') left')
    (same : left = item ++ (items'.flatten ++ left')) : False := by
  rcases run.complete with ended | full
  · exact ended item _ (run'.areItems item List.mem_cons_self) same
  · have bound := run'.bounded 0 (by simpa using full)
    simp at bound

/-- A text has one possessive run only, by whatever bound. -/
theorem unique (code : PrefixCode Item) (run : PossessiveRun Item most items left)
    (run' : PossessiveRun Item most items' left')
    (same : items.flatten ++ left = items'.flatten ++ left') : items = items' ∧ left = left' := by
  induction items generalizing most items' with
  | nil =>
    cases items' with
    | nil => exact ⟨rfl, same⟩
    | cons item' later' =>
      exact (run.nil_not_cons run' (by simpa using same)).elim
  | cons item later ih =>
    cases items' with
    | nil => exact (run'.nil_not_cons run (by simpa using same.symm)).elim
    | cons item' later' =>
      simp only [List.flatten_cons, List.append_assoc] at same
      have sameItem := code.eq_of_append (run.areItems item List.mem_cons_self)
        (run'.areItems item' List.mem_cons_self) same
      subst sameItem
      obtain ⟨sameItems, sameLeft⟩ := ih run.tail run'.tail (List.append_cancel_left same)
      exact ⟨by rw [sameItems], sameLeft⟩

theorem length_le_flatten (code : PrefixCode Item) (areItems : ∀ item ∈ items, Item item) :
    items.length ≤ items.flatten.length := by
  induction items with
  | nil => simp
  | cons item later ih =>
    have positive := List.length_pos_iff.mpr (code.ne_nil (areItems item List.mem_cons_self))
    have rest := ih fun other member => areItems other (List.mem_cons_of_mem item member)
    simp only [List.length_cons, List.flatten_cons, List.length_append]
    omega

end PossessiveRun

namespace Pattern

/-- The pattern matches exactly where an item stands, moves behind it and records nothing. -/
def Reads (pattern : Pattern) (Item : List Char → Prop) : Prop :=
  ∀ state after, pattern.run state = (true, after) ↔
    ∃ item behind, Item item ∧ state.cursor.Passes item behind ∧
      after = { state with cursor := behind }

theorem Reads.run_eq_false_iff {pattern : Pattern} {Item : List Char → Prop}
    (reads : pattern.Reads Item) {state : State} :
    pattern.run state = (false, state) ↔ StartsNoItem Item state.cursor.rest := by
  rw [Pattern.run_eq_false_iff]
  constructor
  · intro unmatched item more isItem ahead
    obtain ⟨behind, passes, _⟩ := Cursor.exists_passes ahead
    exact unmatched _ ((reads state _).mpr ⟨item, behind, isItem, passes, rfl⟩)
  · intro ended after matched
    obtain ⟨item, behind, isItem, passes, _⟩ := (reads state after).mp matched
    exact ended item behind.rest isItem passes.rest

/-- The loop of a repetition takes a possessive run. The induction is on the steps that are left. -/
theorem Reads.repeatStep_run {pattern : Pattern} {Item : List Char → Prop}
    (reads : pattern.Reads Item) (code : PrefixCode Item) (limit count : Nat) (state : State) :
    ∃ items behind, PossessiveRun Item (some limit) items behind.rest ∧
      state.cursor.Passes items.flatten behind ∧
      repeatStep pattern.run limit count state =
        (count + items.length, { state with cursor := behind }) := by
  induction limit generalizing count state with
  | zero =>
    refine ⟨[], state.cursor, ⟨by simp, by simp, Or.inr rfl⟩, Cursor.passes_nil_iff.mpr rfl, ?_⟩
    rfl
  | succ limit ih =>
    rw [repeatStep]
    split
    · rename_i after failed
      have unchanged := run_eq_false pattern failed
      subst unchanged
      refine ⟨[], after.cursor, ⟨by simp, by simp, Or.inl ?_⟩, Cursor.passes_nil_iff.mpr rfl, rfl⟩
      exact reads.run_eq_false_iff.mp failed
    · rename_i after matched
      obtain ⟨item, middle, isItem, passes, rfl⟩ := (reads state after).mp matched
      have moved : middle.position ≠ state.cursor.position := fun stayed =>
        code.ne_nil isItem (passes.position_eq_iff.mp stayed)
      obtain ⟨items, behind, run, later, loop⟩ := ih (count + 1) { state with cursor := middle }
      refine ⟨item :: items, behind, ⟨?_, ?_, ?_⟩, passes.trans later, ?_⟩
      · intro other member
        rcases List.mem_cons.mp member with rfl | member
        · exact isItem
        · exact run.areItems other member
      · intro bound member
        have within := run.bounded limit rfl
        cases Option.some.inj member
        rw [List.length_cons]
        omega
      · exact run.complete.imp_right fun full => by
          rw [List.length_cons, ← Option.some.inj full]
      · simp only [moved, if_false, loop, List.length_cons, Prod.mk.injEq, and_true]
        omega

/-- A repetition matches exactly the possessive run at its place, if that has enough rounds. -/
theorem Reads.run_rounds_iff {pattern : Pattern} {Item : List Char → Prop}
    (reads : pattern.Reads Item) (code : PrefixCode Item) {least : Nat} {most : Option Nat}
    {state after : State} :
    (rounds pattern least most).run state = (true, after) ↔
      ∃ items behind, PossessiveRun Item most items behind.rest ∧ least ≤ items.length ∧
        state.cursor.Passes items.flatten behind ∧ after = { state with cursor := behind } := by
  obtain ⟨items, behind, limited, passes, loop⟩ :=
    reads.repeatStep_run code (stepLimit most state) 0 state
  have run : PossessiveRun Item most items behind.rest := by
    cases most with
    | some limit => exact limited
    | none =>
      refine ⟨limited.areItems, by simp, ?_⟩
      rcases limited.complete with ended | full
      · exact Or.inl ended
      · -- one step for each code point and one more cannot all have moved
        have few := PossessiveRun.length_le_flatten code limited.areItems
        have ahead := congrArg List.length passes.rest
        have steps := Option.some.inj full
        simp only [stepLimit, Option.getD_none, List.length_append] at steps ahead
        omega
  rw [Pattern.run, loop]
  simp only [Nat.zero_add]
  constructor
  · intro matched
    split at matched
    · simp at matched
    · exact ⟨items, behind, run, by omega, passes, (Prod.mk.inj matched).2.symm⟩
  · intro found
    obtain ⟨items', behind', run', enough, passes', rfl⟩ := found
    obtain ⟨rfl, _⟩ := run.unique code run' (passes.rest.symm.trans passes'.rest)
    rw [passes.unique passes', if_neg (by omega)]

end Pattern

namespace CharClass

/-- The one-character texts of a class. -/
def Item (k : CharClass) (item : List Char) : Prop :=
  ∃ c, k.contains c = true ∧ item = [c]

theorem prefixCode (k : CharClass) : PrefixCode k.Item where
  ne_nil := by
    intro item isItem
    obtain ⟨c, _, rfl⟩ := isItem
    simp
  eq_of_append := by
    intro left right more more' isItem isItem' same
    obtain ⟨c, _, rfl⟩ := isItem
    obtain ⟨d, _, rfl⟩ := isItem'
    rw [(List.cons.inj same).1]

theorem startsNoItem_iff {k : CharClass} {text : List Char} :
    StartsNoItem k.Item text ↔ ∀ c ∈ text.head?, k.contains c = false := by
  constructor
  · intro ended c first
    obtain ⟨rest, rfl⟩ := List.head?_eq_some_iff.mp first
    cases member : k.contains c with
    | false => rfl
    | true => exact absurd rfl (ended [c] rest ⟨c, member, rfl⟩)
  · intro outside item more isItem ahead
    obtain ⟨c, member, rfl⟩ := isItem
    rw [outside c (by rw [ahead]; rfl)] at member
    simp at member

theorem exists_chars_of_items {k : CharClass} {items : List (List Char)}
    (areItems : ∀ item ∈ items, k.Item item) :
    ∃ chars : List Char, items = chars.map ([·]) ∧ ∀ c ∈ chars, k.contains c = true := by
  induction items with
  | nil => exact ⟨[], rfl, by simp⟩
  | cons item later ih =>
    obtain ⟨c, member, rfl⟩ := areItems item List.mem_cons_self
    obtain ⟨chars, rfl, members⟩ := ih fun other mem => areItems other (List.mem_cons_of_mem _ mem)
    exact ⟨c :: chars, rfl, by simpa using ⟨member, members⟩⟩

theorem possessiveRun_iff {k : CharClass} {most : Option Nat} {chars left : List Char} :
    PossessiveRun k.Item most (chars.map ([·])) left ↔
      (∀ c ∈ chars, k.contains c = true) ∧ (∀ limit ∈ most, chars.length ≤ limit) ∧
        ((∀ c ∈ left.head?, k.contains c = false) ∨ most = some chars.length) := by
  rw [← startsNoItem_iff]
  constructor
  · intro run
    refine ⟨?_, by simpa using run.bounded, by simpa using run.complete⟩
    intro c member
    obtain ⟨d, inClass, same⟩ := run.areItems [c] (List.mem_map_of_mem member)
    rw [(List.cons.inj same).1]
    exact inClass
  · intro found
    obtain ⟨members, bounded, complete⟩ := found
    refine ⟨?_, by simpa using bounded, by simpa using complete⟩
    intro item member
    obtain ⟨c, mem, rfl⟩ := List.mem_map.mp member
    exact ⟨c, members c mem, rfl⟩

/-- The longest run of a class at the start of a text is the only one that the class ends. -/
theorem run_unique {k : CharClass} {chars chars' left left' : List Char}
    (members : ∀ c ∈ chars, k.contains c = true) (members' : ∀ c ∈ chars', k.contains c = true)
    (outside : ∀ c ∈ left.head?, k.contains c = false)
    (outside' : ∀ c ∈ left'.head?, k.contains c = false) (same : chars ++ left = chars' ++ left') :
    chars = chars' ∧ left = left' := by
  have run : PossessiveRun k.Item none (chars.map ([·])) left :=
    possessiveRun_iff.mpr ⟨members, by simp, Or.inl outside⟩
  have run' : PossessiveRun k.Item none (chars'.map ([·])) left' :=
    possessiveRun_iff.mpr ⟨members', by simp, Or.inl outside'⟩
  obtain ⟨sameItems, sameLeft⟩ := run.unique k.prefixCode run' (by
    simpa only [← List.flatMap_def, List.flatMap_singleton'] using same)
  refine ⟨?_, sameLeft⟩
  simpa only [← List.flatMap_def, List.flatMap_singleton'] using congrArg List.flatten sameItems

end CharClass

namespace Pattern

theorem oneOf_reads (k : CharClass) : (oneOf k).Reads k.Item := by
  intro state after
  rw [run_oneOf_iff]
  constructor
  · intro matched
    obtain ⟨c, behind, member, passes, moved⟩ := matched
    exact ⟨[c], behind, ⟨c, member, rfl⟩, passes, moved⟩
  · intro found
    obtain ⟨_, behind, ⟨c, member, rfl⟩, passes, moved⟩ := found
    exact ⟨c, behind, member, passes, moved⟩

theorem run_rounds_oneOf_iff {k : CharClass} {least : Nat} {most : Option Nat}
    {state after : State} :
    (rounds (oneOf k) least most).run state = (true, after) ↔
      ∃ chars behind, (∀ c ∈ chars, k.contains c = true) ∧
        (∀ limit ∈ most, chars.length ≤ limit) ∧
        ((∀ c ∈ behind.rest.head?, k.contains c = false) ∨ most = some chars.length) ∧
        least ≤ chars.length ∧ state.cursor.Passes chars behind ∧
        after = { state with cursor := behind } := by
  rw [(oneOf_reads k).run_rounds_iff k.prefixCode]
  constructor
  · intro matched
    obtain ⟨items, behind, run, enough, passes, moved⟩ := matched
    obtain ⟨chars, rfl, _⟩ := CharClass.exists_chars_of_items run.areItems
    obtain ⟨members, bounded, complete⟩ := CharClass.possessiveRun_iff.mp run
    rw [← List.flatMap_def, List.flatMap_singleton'] at passes
    exact ⟨chars, behind, members, bounded, complete, by simpa using enough, passes, moved⟩
  · intro found
    obtain ⟨chars, behind, members, bounded, complete, enough, passes, moved⟩ := found
    refine ⟨chars.map ([·]), behind,
      CharClass.possessiveRun_iff.mpr ⟨members, bounded, complete⟩, by simpa using enough, ?_, moved⟩
    rw [← List.flatMap_def, List.flatMap_singleton']
    exact passes

end Pattern

end SqlIdentifier
