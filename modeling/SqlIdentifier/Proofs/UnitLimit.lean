import SqlIdentifier.Proofs.Recognition

namespace SqlIdentifier.Grammar

open Pattern Identifier

/-- The body stands in double quotes at a byte offset, with the given text behind the second quote. -/
def QuotedAt (text : List Char) (position : Nat) (body : Body) (after : List Char) : Prop :=
  ∃ before, text = before ++ '"' :: (body.text ++ '"' :: after) ∧ position = Text.byteSize before

def quotedMatch (position : Nat) (body : Body) : Span × Captures :=
  (⟨position, position + Text.byteSize body.text + 2⟩,
    { body := some ⟨position + 1, position + 1 + Text.byteSize body.text⟩ })

def BodyWithin (limit : Nat) (text : List Char) (captures : Captures) : Prop :=
  ∃ body : Body, captures.body.bind (·.slice? text) = some body.text ∧ body.units.length ≤ limit

/-- Units up to the limit stand in front of two double quotes. The first of these is half of a
further unit, but a repetition that has taken its last round does not look at it. -/
def CutAt (limit : Nat) (text : List Char) (position : Nat) (body : Body) : Prop :=
  body.units.length = limit ∧ ∃ after, QuotedAt text position body ('"' :: after)

section Quoted

variable {text after after' : List Char} {position limit : Nat} {body body' : Body}

theorem QuotedAt.slice?_body (stands : QuotedAt text position body after) :
    (quotedMatch position body).2.body.bind (·.slice? text) = some body.text := by
  obtain ⟨before, parts, offset⟩ := stands
  have shaped : text = before ++ ((Shape.delimited body).text ++ after) := by
    rw [parts]
    simp [Shape.text]
  exact slice?_delimitedBody shaped offset

/-- Bodies that fill the same bytes at one place are the same text, with the same text behind. -/
theorem QuotedAt.eq_of_match (stands : QuotedAt text position body after)
    (stands' : QuotedAt text position body' after')
    (same : quotedMatch position body = quotedMatch position body') :
    body.text = body'.text ∧ after = after' := by
  obtain ⟨before, parts, offset⟩ := stands
  obtain ⟨before', parts', offset'⟩ := stands'
  have ends := congrArg (fun found => found.1.stop) same
  have sameSize : Text.byteSize body.text = Text.byteSize body'.text := by
    simp only [quotedMatch] at ends
    omega
  obtain ⟨_, ahead⟩ := Text.append_inj_of_byteSize (offset.symm.trans offset')
    (parts.symm.trans parts')
  obtain ⟨sameText, behind⟩ := Text.append_inj_of_byteSize sameSize (List.cons.inj ahead).2
  exact ⟨sameText, (List.cons.inj behind).2⟩

theorem body_units_unique (same : body.text = body'.text) : body = body' := by
  have closed : body.text ++ '"' :: [] = body'.text ++ '"' :: [] := by rw [same]
  exact (Body.unique (by simp) (by simp) closed).1

theorem byteSize_quoted (body : Body) (after : List Char) :
    Text.byteSize ('"' :: (body.text ++ '"' :: after)) =
      Text.byteSize body.text + 2 + Text.byteSize after := by
  have quote : '"'.utf8Size = 1 := by decide
  simp only [Text.byteSize_cons, Text.byteSize_append, quote]
  omega

theorem submatchesAt?_quoted_iff {most : Option Nat} {found : Span × Captures} :
    (seq (quoted most)).submatchesAt? text position = some found ↔
      ∃ body after, QuotedAt text position body after ∧
        PossessiveRun QuotedUnit most body.units ('"' :: after) ∧
        found = quotedMatch position body := by
  obtain ⟨span, captures⟩ := found
  have size (body : Body) : Text.byteSize ('"' :: (body.text ++ ['"'])) =
      Text.byteSize body.text + 2 := byteSize_quoted body []
  simp only [submatchesAt?, Option.bind_eq_some_iff, Cursor.at?_eq_some_iff, matchFrom?_eq_some_iff]
  rw [← List.append_nil (quoted most)]
  simp only [run_seq_iff, runAll_quoted_iff, runAll_nil_iff, State.mk.injEq]
  constructor
  · intro matched
    obtain ⟨cursor, ⟨here, before, parts, offset⟩, behind, ⟨body, closed, run, passes, rfl, rfl⟩,
      rfl⟩ := matched
    refine ⟨body, behind.rest, ⟨before, ?_, offset⟩, run, ?_⟩
    · rw [parts, passes.rest]
      simp
    · rw [quotedMatch, passes.position, size, here, Nat.add_assoc]
      rfl
  · intro standing
    obtain ⟨body, after, ⟨before, parts, offset⟩, run, same⟩ := standing
    have ahead : (Cursor.mk position ('"' :: (body.text ++ '"' :: after))).rest =
        '"' :: (body.text ++ ['"']) ++ after := by simp
    obtain ⟨behind, passes, left⟩ := Cursor.exists_passes ahead
    obtain ⟨rfl, rfl⟩ := Prod.mk.inj same
    refine ⟨_, ⟨rfl, before, parts, offset⟩, behind, ⟨body, behind, ?_, passes, rfl, rfl⟩, ?_⟩
    · rw [left]
      exact run
    · rw [passes.position, size, Nat.add_assoc]

/-- Below the limit the quote behind the units has to be single; at the limit it is not looked at. -/
theorem possessiveRun_limit_iff :
    PossessiveRun QuotedUnit (some limit) body.units ('"' :: after) ↔
      body.units.length ≤ limit ∧ (after.head? ≠ some '"' ∨ body.units.length = limit) := by
  rw [← startsNoItem_quote_iff]
  constructor
  · intro run
    exact ⟨run.bounded limit rfl, run.complete.imp_right fun full => (Option.some.inj full).symm⟩
  · intro bounded
    obtain ⟨few, complete⟩ := bounded
    refine ⟨body.areUnits, ?_, complete.imp_right fun full => by rw [full]⟩
    intro most same
    cases Option.some.inj same
    exact few

theorem submatchesAt?_limited_iff {found : Span × Captures} :
    (seq (quoted (some limit))).submatchesAt? text position = some found ↔
      ∃ body after, QuotedAt text position body after ∧ body.units.length ≤ limit ∧
        (after.head? ≠ some '"' ∨ body.units.length = limit) ∧
        found = quotedMatch position body := by
  simp only [submatchesAt?_quoted_iff, possessiveRun_limit_iff, and_assoc]

theorem submatchesAt?_token_iff {found : Span × Captures} :
    delimitedToken.submatchesAt? text position = some found ↔
      ∃ body after, QuotedAt text position body after ∧ after.head? ≠ some '"' ∧
        found = quotedMatch position body := by
  rw [delimitedToken]
  simp only [submatchesAt?_quoted_iff, possessiveRun_body_iff]

/-- A token is within the limit if its units are; they are determined by what is recorded. -/
theorem token_and_bodyWithin_iff {found : Span × Captures} :
    delimitedToken.submatchesAt? text position = some found ∧ BodyWithin limit text found.2 ↔
      ∃ body after, QuotedAt text position body after ∧ after.head? ≠ some '"' ∧
        body.units.length ≤ limit ∧ found = quotedMatch position body := by
  rw [submatchesAt?_token_iff]
  constructor
  · intro within
    obtain ⟨⟨body, after, stands, single, rfl⟩, body', recorded, few⟩ := within
    have sameText : body.text = body'.text :=
      Option.some.inj (stands.slice?_body.symm.trans recorded)
    rw [← body_units_unique sameText] at few
    exact ⟨body, after, stands, single, few, rfl⟩
  · intro standing
    obtain ⟨body, after, stands, single, few, rfl⟩ := standing
    exact ⟨⟨body, after, stands, single, rfl⟩, body, stands.slice?_body, few⟩

theorem limited_iff_token_or_cut {found : Span × Captures} :
    (seq (quoted (some limit))).submatchesAt? text position = some found ↔
      (delimitedToken.submatchesAt? text position = some found ∧ BodyWithin limit text found.2) ∨
      ∃ body, CutAt limit text position body ∧ found = quotedMatch position body := by
  rw [submatchesAt?_limited_iff, token_and_bodyWithin_iff]
  constructor
  · intro matched
    obtain ⟨body, after, stands, few, complete, same⟩ := matched
    by_cases single : after.head? = some '"'
    · have full := complete.resolve_left (not_not_intro single)
      obtain ⟨rest, rfl⟩ := List.head?_eq_some_iff.mp single
      exact Or.inr ⟨body, ⟨full, rest, stands⟩, same⟩
    · exact Or.inl ⟨body, after, stands, single, few, same⟩
  · intro found
    rcases found with ⟨body, after, stands, single, few, same⟩ | ⟨body, ⟨full, rest, stands⟩, same⟩
    · exact ⟨body, after, stands, few, Or.inl single, same⟩
    · exact ⟨body, '"' :: rest, stands, Nat.le_of_eq full, Or.inr full, same⟩

/-- What is cut off at the limit is no token: the token, if there is one, goes on behind it. -/
theorem CutAt.not_token (cut : CutAt limit text position body) :
    delimitedToken.submatchesAt? text position ≠ some (quotedMatch position body) := by
  intro matched
  obtain ⟨_, rest, stands⟩ := cut
  obtain ⟨body', after, stands', single, same⟩ := submatchesAt?_token_iff.mp matched
  have behind := (stands.eq_of_match stands' same).2
  rw [← behind] at single
  exact single rfl

/-- The two grammars agree at a place up to the limit exactly if nothing is cut off there. -/
theorem limited_agrees_iff :
    (∀ found, (seq (quoted (some limit))).submatchesAt? text position = some found ↔
      delimitedToken.submatchesAt? text position = some found ∧ BodyWithin limit text found.2) ↔
      ∀ body, ¬ CutAt limit text position body := by
  constructor
  · intro agree body cut
    have matched := limited_iff_token_or_cut.mpr (Or.inr ⟨body, cut, rfl⟩)
    exact cut.not_token ((agree _).mp matched).1
  · intro uncut found
    rw [limited_iff_token_or_cut]
    constructor
    · intro matched
      rcases matched with token | ⟨body, cut, _⟩
      · exact token
      · exact absurd cut (uncut body)
    · exact Or.inl

end Quoted

/-- With the limit of 128 units a delimited identifier is matched exactly where the token grammar
matches one within the limit, and where 128 units are followed by two double quotes. There the match
ends inside of what the token grammar takes as one body, and only there the grammars differ. -/
theorem delimited_submatchesAt?_cases (text : List Char) (position : Nat) :
    (∀ found, delimited.submatchesAt? text position = some found ↔
      (delimitedToken.submatchesAt? text position = some found ∧ BodyWithin 128 text found.2) ∨
      ∃ body, CutAt 128 text position body ∧ found = quotedMatch position body ∧
        delimitedToken.submatchesAt? text position ≠ some found) ∧
    ((∀ found, delimited.submatchesAt? text position = some found ↔
      delimitedToken.submatchesAt? text position = some found ∧ BodyWithin 128 text found.2) ↔
      ¬ ∃ body, CutAt 128 text position body) := by
  refine ⟨?_, limited_agrees_iff.trans not_exists.symm⟩
  intro found
  refine limited_iff_token_or_cut.trans (or_congr_right ⟨?_, ?_⟩)
  · intro part
    obtain ⟨body, cut, rfl⟩ := part
    exact ⟨body, cut, rfl, cut.not_token⟩
  · intro part
    obtain ⟨body, cut, same, _⟩ := part
    exact ⟨body, cut, same⟩

def fullBody : Body where
  units := List.replicate 128 ['q']
  nonempty := by simp
  areUnits := by
    intro unit member
    rw [List.eq_of_mem_replicate member]
    exact Or.inl ⟨'q', by decide, rfl⟩

/-- Of a token with 128 letters and a doubled quote as its units, the letters alone are matched. -/
theorem delimited_matches_part_of_token :
    ¬ ∀ (text : List Char) (position : Nat) (found : Span × Captures),
      delimited.submatchesAt? text position = some found ↔
        delimitedToken.submatchesAt? text position = some found ∧
          BodyWithin 128 text found.2 := by
  intro agree
  let text := '"' :: (fullBody.text ++ '"' :: '"' :: ['"'])
  have cut : CutAt 128 text 0 fullBody := ⟨List.length_replicate, ['"'], [], rfl, rfl⟩
  exact limited_agrees_iff.mp (agree text 0) fullBody cut

end SqlIdentifier.Grammar
