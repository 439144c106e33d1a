import SqlIdentifier.Proofs.Recognition

namespace SqlIdentifier

/-- Items that start a text which is itself made of items, up to where no item stands, are the first
of them. So no longer sequence of items stands there. -/
theorem PrefixCode.prefix_of_flatten {Item : List Char → Prop} (code : PrefixCode Item)
    {items others : List (List Char)} {left : List Char} (areItems : ∀ item ∈ items, Item item)
    (areOthers : ∀ item ∈ others, Item item) (ended : StartsNoItem Item left)
    (starts : others.flatten <+: items.flatten ++ left) : others <+: items := by
  induction others generalizing items with
  | nil => exact List.nil_prefix
  | cons other later ih =>
    obtain ⟨more, same⟩ := starts
    simp only [List.flatten_cons, List.append_assoc] at same
    cases items with
    | nil => exact absurd same.symm (ended other _ (areOthers other List.mem_cons_self))
    | cons item items =>
      simp only [List.flatten_cons, List.append_assoc] at same
      have sameItem := code.eq_of_append (areOthers other List.mem_cons_self)
        (areItems item List.mem_cons_self) same
      subst sameItem
      have startsLater : later.flatten <+: items.flatten ++ left :=
        ⟨more, List.append_cancel_left same⟩
      exact (List.prefix_cons_inj other).mpr
        (ih (fun item member => areItems item (List.mem_cons_of_mem _ member))
          (fun item member => areOthers item (List.mem_cons_of_mem _ member)) startsLater)

namespace Identifier

/-- At a byte offset stand the letter, the ampersand and the opening quote, then the body and a
closing quote that is not doubled, with the given text behind it. -/
structure OpensAt (text : List Char) (position : Nat) (letter : Char) (body : Body)
    (rest : List Char) : Prop where
  isLetter : letter ∈ ['U', 'u']
  stands : ∃ before, text = before ++ letter :: '&' :: '"' :: (body.text ++ '"' :: rest) ∧
    position = Text.byteSize before
  single : rest.head? ≠ some '"'

/-- The text does not start with a clause. -/
def StartsNoClause (text : List Char) : Prop :=
  ∀ (clause : Clause) more, text ≠ clause.text ++ more

/-- What the grammar matches where the body stands behind the prefix at a byte offset: all up to the
closing quote, and the clause if there is one. -/
def unicodeMatch (position : Nat) (body : Body) (clause : Option Clause) : Span × Captures :=
  let closed := position + 3 + Text.byteSize body.text + 1
  (⟨position, closed + Text.byteSize ((clause.map Clause.text).getD [])⟩,
    { body := some ⟨position + 3, position + 3 + Text.byteSize body.text⟩
      escape := clause.map (Clause.escapeSpan closed) })

/-- What was recorded for a group, cut from the text. -/
def recorded (text : List Char) (found : Span × Captures) (group : Group) : Option (List Char) :=
  (found.2.get? group).bind (·.slice? text)

/-- The escape character in effect in what the grammar of Unicode delimited identifiers matched. -/
def escapeOf (text : List Char) (found : Span × Captures) : Option Char :=
  (Match.ofCandidate? text ⟨.unicodeDelimited, found.1, found.2⟩).bind Match.escapeInEffect

section Opens

variable {text rest : List Char} {position : Nat} {letter : Char} {body : Body}

/-- No further unit can be added to the body, since its closing quote starts none. -/
theorem OpensAt.body_longest (opens : OpensAt text position letter body rest)
    {units : List (List Char)} (areUnits : ∀ unit ∈ units, QuotedUnit unit)
    (starts : units.flatten <+: body.text ++ '"' :: rest) : units <+: body.units :=
  quotedUnit_prefixCode.prefix_of_flatten body.areUnits areUnits
    (startsNoItem_quote_iff.mpr opens.single) starts

theorem OpensAt.stands_of_clause {clause : Clause} {more : List Char}
    (opens : OpensAt text position letter body (clause.text ++ more)) :
    ∃ isLetter,
      (Shape.unicodeDelimited letter isLetter body (some clause)).StandsAt text position := by
  obtain ⟨isLetter, ⟨before, parts, offset⟩, _⟩ := opens
  refine ⟨isLetter, before, more, ?_, offset, trivial⟩
  rw [parts]
  simp [Shape.text]

theorem OpensAt.stands_of_no_clause (opens : OpensAt text position letter body rest)
    (noClause : StartsNoClause rest) :
    ∃ isLetter, (Shape.unicodeDelimited letter isLetter body none).StandsAt text position := by
  obtain ⟨isLetter, ⟨before, parts, offset⟩, single⟩ := opens
  refine ⟨isLetter, before, rest, ?_, offset, single, noClause⟩
  rw [parts]
  simp [Shape.text]

theorem OpensAt.exists_stands (opens : OpensAt text position letter body rest) :
    ∃ isLetter clause,
      (Shape.unicodeDelimited letter isLetter body clause).StandsAt text position := by
  by_cases noClause : StartsNoClause rest
  · obtain ⟨isLetter, stands⟩ := opens.stands_of_no_clause noClause
    exact ⟨isLetter, none, stands⟩
  · simp only [StartsNoClause, ne_eq, Classical.not_forall, Classical.not_not] at noClause
    obtain ⟨clause, more, rfl⟩ := noClause
    obtain ⟨isLetter, stands⟩ := opens.stands_of_clause
    exact ⟨isLetter, some clause, stands⟩

theorem opensAt_of_stands {isLetter : letter ∈ ['U', 'u']} {clause : Option Clause}
    (stands : (Shape.unicodeDelimited letter isLetter body clause).StandsAt text position) :
    ∃ rest, OpensAt text position letter body rest := by
  obtain ⟨before, after, parts, offset, closed⟩ := stands
  refine ⟨_, isLetter, ⟨before, ?_, offset⟩, Shape.head?_clause_append closed⟩
  rw [parts]
  simp [Shape.text]

end Opens

section Stands

variable {text : List Char} {position : Nat} {letter : Char} {isLetter : letter ∈ ['U', 'u']}
  {body : Body} {clause : Option Clause}

theorem unicodeMatch_eq (isLetter : letter ∈ ['U', 'u']) :
    unicodeMatch position body clause =
      (⟨position, position +
        Text.byteSize (Shape.unicodeDelimited letter isLetter body clause).text⟩,
        (Shape.unicodeDelimited letter isLetter body clause).captures position) := by
  have letterSize := Text.utf8Size_unicodeLetter letter isLetter
  have ampersand : '&'.utf8Size = 1 := by decide
  have quote : '"'.utf8Size = 1 := by decide
  have size : 3 + Text.byteSize body.text + 1 + Text.byteSize ((clause.map Clause.text).getD []) =
      Text.byteSize (Shape.unicodeDelimited letter isLetter body clause).text := by
    simp only [Shape.text, Text.byteSize_cons, Text.byteSize_append, letterSize, ampersand, quote]
    omega
  simp only [unicodeMatch, Shape.captures, ← size, Nat.add_assoc]

theorem submatchesAt?_unicodeDelimited_iff {found : Span × Captures} :
    Grammar.unicodeDelimited.submatchesAt? text position = some found ↔
      ∃ letter isLetter body clause,
        (Shape.unicodeDelimited letter isLetter body clause).StandsAt text position ∧
        found = unicodeMatch position body clause := by
  have listed : Form.mk .unicodeDelimited Grammar.unicodeDelimited ∈ forms := by simp [forms]
  rw [submatchesAt?_eq_some_iff listed]
  constructor
  · rintro ⟨shape, sameKind, stands, rfl⟩
    cases shape with
    | regular => simp [Shape.kind] at sameKind
    | delimited => simp [Shape.kind] at sameKind
    | unicodeDelimited letter isLetter body clause =>
      exact ⟨letter, isLetter, body, clause, stands, (unicodeMatch_eq isLetter).symm⟩
  · rintro ⟨letter, isLetter, body, clause, stands, rfl⟩
    exact ⟨_, rfl, stands, unicodeMatch_eq isLetter⟩

variable (stands : (Shape.unicodeDelimited letter isLetter body clause).StandsAt text position)

include stands

theorem recorded_body_of_stands :
    recorded text (unicodeMatch position body clause) .body = some body.text := by
  obtain ⟨before, after, parts, offset, _⟩ := stands
  exact slice?_unicodeBody parts offset

/-- The escape character in effect is that of the clause, and the default one without a clause. -/
theorem escapeOf_of_stands :
    escapeOf text (unicodeMatch position body clause) =
      some ((clause.map Clause.escape).getD defaultEscape) := by
  have found := ofCandidate?_candidate stands
  rw [Shape.candidate, Shape.kind] at found
  rw [escapeOf, unicodeMatch_eq isLetter, found]
  rfl

end Stands

theorem recorded_escape_of_stands {text : List Char} {position : Nat} {letter : Char}
    {isLetter : letter ∈ ['U', 'u']} {body : Body} {clause : Clause}
    (stands : (Shape.unicodeDelimited letter isLetter body (some clause)).StandsAt text position) :
    recorded text (unicodeMatch position body (some clause)) .escape = some [clause.escape] := by
  obtain ⟨before, after, parts, offset, _⟩ := stands
  exact slice?_escape parts offset

/-- A Unicode delimited identifier is matched exactly where its prefix, a body and a closing quote
that is not doubled stand. The body is the longest sequence of units there. If a clause follows the
closing quote, the match ends behind this clause and the escape character is the one that it names;
if the clause is not complete or names a character that cannot introduce escapes, the match ends at
the closing quote, no escape character is recorded and the default one is in effect. -/
theorem escapeClause_whole_or_none (text : List Char) (position : Nat) :
    ((∃ found, Grammar.unicodeDelimited.submatchesAt? text position = some found) ↔
      ∃ letter body rest, OpensAt text position letter body rest) ∧
    ∀ letter body rest, OpensAt text position letter body rest →
      (∀ units, (∀ unit ∈ units, QuotedUnit unit) →
        units.flatten <+: body.text ++ '"' :: rest → units <+: body.units) ∧
      (∀ (clause : Clause) more, rest = clause.text ++ more →
        ∃ found, Grammar.unicodeDelimited.submatchesAt? text position = some found ∧
          found = unicodeMatch position body (some clause) ∧
          recorded text found .body = some body.text ∧
          recorded text found .escape = some [clause.escape] ∧
          escapeOf text found = some clause.escape) ∧
      (StartsNoClause rest →
        ∃ found, Grammar.unicodeDelimited.submatchesAt? text position = some found ∧
          found = unicodeMatch position body none ∧
          recorded text found .body = some body.text ∧ found.2.escape = none ∧
          escapeOf text found = some '\\') := by
  refine ⟨⟨?_, ?_⟩, ?_⟩
  · rintro ⟨found, matched⟩
    obtain ⟨letter, isLetter, body, clause, stands, _⟩ :=
      submatchesAt?_unicodeDelimited_iff.mp matched
    obtain ⟨rest, opens⟩ := opensAt_of_stands stands
    exact ⟨letter, body, rest, opens⟩
  · rintro ⟨letter, body, rest, opens⟩
    obtain ⟨isLetter, clause, stands⟩ := opens.exists_stands
    exact ⟨_, submatchesAt?_unicodeDelimited_iff.mpr ⟨letter, isLetter, body, clause, stands, rfl⟩⟩
  · intro letter body rest opens
    refine ⟨fun units areUnits starts => opens.body_longest areUnits starts, ?_, ?_⟩
    · rintro clause more rfl
      obtain ⟨isLetter, stands⟩ := opens.stands_of_clause
      exact ⟨_, submatchesAt?_unicodeDelimited_iff.mpr ⟨letter, isLetter, body, _, stands, rfl⟩, rfl,
        recorded_body_of_stands stands, recorded_escape_of_stands stands, escapeOf_of_stands stands⟩
    · intro noClause
      obtain ⟨isLetter, stands⟩ := opens.stands_of_no_clause noClause
      exact ⟨_, submatchesAt?_unicodeDelimited_iff.mpr ⟨letter, isLetter, body, _, stands, rfl⟩, rfl,
        recorded_body_of_stands stands, rfl, escapeOf_of_stands stands⟩

/-- Behind other text a clause in mixed case is taken whole, up to a quote that is not part of it. A
clause with a character that cannot introduce escapes is left out whole, white space included. -/
theorem escapeClause_whole_or_none_mixedCase :
    (∃ (body : Body) (clause : Clause), body.text = "b\"\"".toList ∧ clause.escape = 'é' ∧
      OpensAt "a U&\"b\"\"\" \tuEsCaPe'é'\"".toList 2 'U' body (clause.text ++ ['"']) ∧
      ∃ found,
        Grammar.unicodeDelimited.submatchesAt? "a U&\"b\"\"\" \tuEsCaPe'é'\"".toList 2 =
          some found ∧
        found.1 = ⟨2, 22⟩ ∧ escapeOf "a U&\"b\"\"\" \tuEsCaPe'é'\"".toList found = some 'é') ∧
    (∃ body : Body, body.text = ['b'] ∧
      OpensAt "u&\"b\" UESCAPE '+'".toList 0 'u' body " UESCAPE '+'".toList ∧
      StartsNoClause " UESCAPE '+'".toList ∧
      ∃ found, Grammar.unicodeDelimited.submatchesAt? "u&\"b\" UESCAPE '+'".toList 0 =
          some found ∧
        found.1 = ⟨0, 5⟩ ∧ escapeOf "u&\"b\" UESCAPE '+'".toList found = some '\\') := by
  refine ⟨?_, ?_⟩
  · let body : Body := ⟨[['b'], ['"', '"']], by simp, by simp [QuotedUnit]⟩
    let clause : Clause := ⟨" \t".toList, "uEsCaPe".toList, [], 'é',
      List.all_eq_true.mp (by decide +kernel), by decide +kernel, by simp, by decide +kernel⟩
    have opens : OpensAt "a U&\"b\"\"\" \tuEsCaPe'é'\"".toList 2 'U' body (clause.text ++ ['"']) :=
      ⟨by simp, ⟨"a ".toList, by decide +kernel, by decide +kernel⟩, by decide +kernel⟩
    obtain ⟨_, taken, _⟩ := (escapeClause_whole_or_none _ 2).2 'U' body _ opens
    obtain ⟨found, matched, rfl, _, _, escape⟩ := taken clause ['"'] rfl
    exact ⟨body, clause, rfl, rfl, opens, _, matched, by decide +kernel, escape⟩
  · let body : Body := ⟨[['b']], by simp, by simp [QuotedUnit]⟩
    have opens : OpensAt "u&\"b\" UESCAPE '+'".toList 0 'u' body " UESCAPE '+'".toList :=
      ⟨by simp, ⟨[], by decide +kernel, by decide +kernel⟩, by decide +kernel⟩
    obtain ⟨_, taken, leftOut⟩ := (escapeClause_whole_or_none _ 0).2 'u' body _ opens
    have noClause : StartsNoClause " UESCAPE '+'".toList := by
      intro clause more follows
      obtain ⟨found, matched, _, _, recordedEscape, _⟩ := taken clause more follows
      have nothing : Grammar.unicodeDelimited.submatchesAt? "u&\"b\" UESCAPE '+'".toList 0 =
          some (⟨0, 5⟩, { body := some ⟨3, 4⟩ }) := by decide +kernel
      cases Option.some.inj (matched.symm.trans nothing)
      simp [recorded, Captures.get?] at recordedEscape
    obtain ⟨found, matched, rfl, _, _, escape⟩ := leftOut noClause
    exact ⟨body, rfl, opens, noClause, _, matched, by decide +kernel, escape⟩

end Identifier

end SqlIdentifier
