import SqlIdentifier.Proofs.JsonTokens

namespace SqlIdentifier.Json

open Text

section Sequences

variable {α : Type} (readItem? : List Char → Option (α × List Char))

/-- Reads items with commas between them and the closing bracket, for as many items as the limit
says. -/
def readItems? (closing : Char) : (limit : Nat) → List Char → Option (List α × List Char)
  | 0, _ => none
  | limit + 1, text => do
    let (item, rest) ← readItem? (skipBlanks text)
    match skipBlanks rest with
    | [] => none
    | c :: rest =>
      if c = closing then some ([item], rest)
      else if c = ',' then (readItems? closing limit rest).map (Prod.map (item :: ·) id)
      else none

/-- Reads items between two brackets, or none. -/
def readEnclosed? (opening closing : Char) : List Char → Option (List α × List Char)
  | [] => none
  | c :: text =>
    if c = opening then
      match skipBlanks text with
      | [] => none
      | first :: rest =>
        if first = closing then some ([], rest) else readItems? readItem? closing text.length text
    else none

end Sequences

def readMember? (readValue? : List Char → Option (Json × List Char)) (text : List Char) :
    Option ((String × Json) × List Char) := do
  let (name, rest) ← readString? text
  match skipBlanks rest with
  | ':' :: rest => (readValue? (skipBlanks rest)).map (Prod.map (String.ofList name, ·) id)
  | _ => none

/-- Reads a value that is no deeper than the given depth. Its first code point tells what it is. -/
def readValue? : (depth : Nat) → List Char → Option (Json × List Char)
  | 0, _ => none
  | depth + 1, text =>
    match text with
    | [] => none
    | c :: _ =>
      if c = '"' then (readString? text).map (Prod.map .string id)
      else if c = '[' then (readEnclosed? (readValue? depth) '[' ']' text).map (Prod.map .array id)
      else if c = '\x7b' then
        (readEnclosed? (readMember? (readValue? depth)) '\x7b' '\x7d' text).map (Prod.map .object id)
      else if c = 'n' then readWord? "null".toList .null text
      else if c = 't' then readWord? "true".toList (.bool true) text
      else if c = 'f' then readWord? "false".toList (.bool false) text
      else (readNumber? text).map (Prod.map .number id)

/-- The value that a document spells. -/
def read? (text : List Char) : Option Json :=
  match readValue? text.length (skipBlanks text) with
  | some (value, rest) => if (skipBlanks rest).isEmpty then some value else none
  | none => none

/-- Blanks end a number, and so does what may stand behind them. -/
theorem Blank.stops_isDigit {after rest : List Char} (blank : Blank after)
    (stops : Stops Char.isDigit rest) : Stops Char.isDigit (after ++ rest) := by
  cases after with
  | nil => exact stops
  | cons c after =>
    have isBlank := blank c List.mem_cons_self
    simp only [Json.isBlank, List.contains_iff_mem, List.mem_cons, List.not_mem_nil, or_false]
      at isBlank
    rcases isBlank with rfl | rfl | rfl | rfl <;> exact stops_cons_iff.mpr rfl

/-- What a value or a member can start with: neither a blank nor what closes an array or object. -/
def startsItem (c : Char) : Bool :=
  !isBlank c && c != ']' && c != '\x7d'

def Opens (text : List Char) : Prop :=
  ∃ c later, text = c :: later ∧ startsItem c = true

theorem Opens.stops_isBlank {text : List Char} (opens : Opens text) (more : List Char) :
    Stops isBlank (text ++ more) := by
  obtain ⟨c, later, rfl, starts⟩ := opens
  simp only [startsItem, Bool.and_eq_true, Bool.not_eq_true'] at starts
  exact stops_cons_iff.mpr starts.1.1

theorem Sequence.exists_first {α : Type} {Item : List Char → α → Prop} {inside : List Char}
    {values : List α} (sequence : Sequence Item inside values)
    (opens : ∀ {item value}, Item item value → Opens item) (more : List Char) :
    ∃ c later, skipBlanks (inside ++ more) = c :: later ∧ startsItem c = true := by
  have first {before item : List Char} {value : α} (front : Blank before) (spelled : Item item value)
      (behind : List Char) :
      ∃ c later, skipBlanks (before ++ (item ++ behind)) = c :: later ∧ startsItem c = true := by
    have opening := opens spelled
    rw [skipBlanks_append front (opening.stops_isBlank behind)]
    obtain ⟨c, later, rfl, starts⟩ := opening
    exact ⟨c, later ++ behind, rfl, starts⟩
  cases sequence with
  | one front spelled back => simpa using first front spelled _
  | more front spelled back _ => simpa using first front spelled _

/-- The reader takes the texts of a relation, up to a length and where no digit follows, and it
takes nothing else. -/
structure Reads {α : Type} (bound : Nat) (read? : List Char → Option (α × List Char))
    (Item : List Char → α → Prop) : Prop where
  opens {spelled : List Char} {value : α} (item : Item spelled value) : Opens spelled
  sound {text rest : List Char} {value : α} (read : read? text = some (value, rest)) :
    ∃ spelled, text = spelled ++ rest ∧ Item spelled value
  complete {spelled rest : List Char} {value : α} (item : Item spelled value)
    (short : spelled.length ≤ bound) (stops : Stops Char.isDigit rest) :
    read? (spelled ++ rest) = some (value, rest)

/-- What may follow an item and the blanks behind it. -/
structure Separates (c : Char) : Prop where
  notBlank : isBlank c = false
  notDigit : c.isDigit = false

theorem Separates.stops {c : Char} (separates : Separates c) (rest : List Char) :
    Stops isBlank (c :: rest) ∧ Stops Char.isDigit (c :: rest) :=
  ⟨stops_cons_iff.mpr separates.notBlank, stops_cons_iff.mpr separates.notDigit⟩

theorem separates_comma : Separates ',' := ⟨by decide, by decide⟩

/-- What ends the items of an array or object. -/
structure Closes (c : Char) : Prop extends Separates c where
  notComma : c ≠ ','
  noItem : startsItem c = false

theorem closes_bracket : Closes ']' := ⟨⟨by decide, by decide⟩, by decide, by decide⟩

theorem closes_brace : Closes '\x7d' := ⟨⟨by decide, by decide⟩, by decide, by decide⟩

namespace Reads

variable {α : Type} {bound : Nat} {readItem? : List Char → Option (α × List Char)}
  {Item : List Char → α → Prop} {closing : Char}

theorem readItem?_between_blanks (reads : Reads bound readItem? Item)
    {before item after : List Char} {value : α} (front : Blank before) (spelled : Item item value)
    (back : Blank after) (short : item.length ≤ bound) {c : Char} (separates : Separates c)
    (rest : List Char) :
    readItem? (skipBlanks (before ++ item ++ after ++ c :: rest)) =
        some (value, after ++ c :: rest) ∧
      skipBlanks (after ++ c :: rest) = c :: rest := by
  have stops := separates.stops rest
  refine ⟨?_, skipBlanks_append back stops.1⟩
  rw [List.append_assoc, List.append_assoc,
    skipBlanks_append front ((reads.opens spelled).stops_isBlank _)]
  exact reads.complete spelled short (back.stops_isDigit stops.2)

theorem readItems?_of_sequence (reads : Reads bound readItem? Item) (closes : Closes closing)
    {inside : List Char} {values : List α} (sequence : Sequence Item inside values) {limit : Nat}
    (short : inside.length ≤ bound) (few : inside.length < limit) (rest : List Char) :
    readItems? readItem? closing limit (inside ++ closing :: rest) = some (values, rest) := by
  obtain ⟨limit, rfl⟩ : ∃ less, limit = less + 1 := ⟨limit - 1, by omega⟩
  induction sequence generalizing limit with
  | one front spelled back =>
    obtain ⟨read, skipped⟩ := reads.readItem?_between_blanks front spelled back
      (by simp only [List.length_append] at short; omega) closes.toSeparates rest
    rw [readItems?, read]
    simp [skipped]
  | @more before item after later value values front spelled back sequence ih =>
    simp only [List.length_append, List.length_cons] at short few
    obtain ⟨read, skipped⟩ := reads.readItem?_between_blanks front spelled back (by omega)
      separates_comma (later ++ closing :: rest)
    obtain ⟨limit, rfl⟩ : ∃ less, limit = less + 1 := ⟨limit - 1, by omega⟩
    have following := ih (by omega) limit (by omega)
    rw [List.append_assoc, List.cons_append, readItems?, read]
    simp [skipped, closes.notComma.symm, following]

theorem exists_sequence (reads : Reads bound readItem? Item) {limit : Nat} {text rest : List Char}
    {values : List α} (read : readItems? readItem? closing limit text = some (values, rest)) :
    ∃ inside, text = inside ++ closing :: rest ∧ Sequence Item inside values := by
  induction limit generalizing text values with
  | zero => simp [readItems?] at read
  | succ limit ih =>
    rw [readItems?] at read
    obtain ⟨⟨value, behind⟩, found, reading⟩ := Option.bind_eq_some_iff.mp read
    obtain ⟨before, front, parts⟩ := exists_blank_skipBlanks text
    obtain ⟨item, itemParts, spelled⟩ := reads.sound found
    obtain ⟨after, back, behindParts⟩ := exists_blank_skipBlanks behind
    simp only at reading
    split at reading
    next => simp at reading
    next c rest' isNext =>
    rw [isNext] at behindParts
    split at reading
    next isClosing =>
      obtain ⟨rfl, rfl⟩ := Prod.mk.inj (Option.some.inj reading)
      exact ⟨before ++ item ++ after, by rw [parts, itemParts, behindParts, isClosing]; simp,
        .one front spelled back⟩
    split at reading
    next isComma =>
      obtain ⟨later, following, rfl⟩ := exists_of_map reading
      obtain ⟨inside, rfl, sequence⟩ := ih following
      exact ⟨before ++ item ++ after ++ ',' :: inside,
        by rw [parts, itemParts, behindParts, isComma]; simp, .more front spelled back sequence⟩
    next => simp at reading

theorem enclosed (reads : Reads bound readItem? Item) {opening : Char}
    (opens : startsItem opening = true) (closes : Closes closing) :
    Reads (bound + 1) (readEnclosed? readItem? opening closing) (Enclosed opening closing Item) where
  opens item := by cases item <;> exact ⟨opening, _, rfl, opens⟩
  sound {text rest values} read := by
    unfold readEnclosed? at read
    split at read
    next => simp at read
    next c text =>
    split at read
    next isOpening =>
      subst isOpening
      split at read
      next => simp at read
      next first rest' isFirst =>
      split at read
      next closed =>
        obtain ⟨rfl, rfl⟩ := Prod.mk.inj (Option.some.inj read)
        obtain ⟨before, blank, parts⟩ := exists_blank_skipBlanks text
        rw [parts, isFirst, closed]
        exact ⟨c :: before ++ [closing], by simp, .none blank⟩
      next =>
        obtain ⟨inside, rfl, sequence⟩ := reads.exists_sequence read
        exact ⟨c :: inside ++ [closing], by simp, .some sequence⟩
    next => simp at read
  complete {spelled rest values} item short _ := by
    cases item with
    | none blank =>
      have skipped := skipBlanks_append blank (closes.stops rest).1
      simp [readEnclosed?, skipped]
    | @some inside values sequence =>
      obtain ⟨c, later, skipped, starts⟩ := sequence.exists_first reads.opens (closing :: rest)
      have unclosed : c ≠ closing := by
        rintro rfl
        simp [closes.noItem] at starts
      have read : readItems? readItem? closing (inside ++ closing :: rest).length
          (inside ++ closing :: rest) = some (values, rest) := by
        simp only [List.length_append, List.length_cons] at short
        exact reads.readItems?_of_sequence closes sequence (by omega) (by simp) rest
      have regroup :
          opening :: inside ++ [closing] ++ rest = opening :: (inside ++ closing :: rest) := by simp
      simp only [regroup, readEnclosed?, skipped, unclosed, if_true, if_false]
      exact read

end Reads

theorem SpellsString.opens {text value : List Char} (spelled : SpellsString text value) :
    Opens text := by
  obtain ⟨inside, rfl, _⟩ := spelled
  exact ⟨'"', inside ++ ['"'], rfl, by decide⟩

theorem separates_colon : Separates ':' := ⟨by decide, by decide⟩

theorem Reads.member {bound : Nat} {readValue? : List Char → Option (Json × List Char)}
    {Value : List Char → Json → Prop} (reads : Reads bound readValue? Value) :
    Reads bound (readMember? readValue?) (Member Value) where
  opens item := by
    obtain @⟨nameText, before, after, valueText, name, value, named, front, back, spelled⟩ := item
    obtain ⟨c, later, rfl, starts⟩ := named.opens
    exact ⟨c, _, rfl, starts⟩
  sound {text rest value} read := by
    obtain ⟨⟨name, behind⟩, readName, reading⟩ := Option.bind_eq_some_iff.mp read
    obtain ⟨nameText, rfl, named⟩ := readString?_eq_some_iff.mp readName
    simp only at reading
    split at reading
    next rest' isColon =>
      obtain ⟨value, found, rfl⟩ := exists_of_map reading
      obtain ⟨before, front, frontParts⟩ := exists_blank_skipBlanks behind
      obtain ⟨after, back, backParts⟩ := exists_blank_skipBlanks rest'
      obtain ⟨valueText, valueParts, spelled⟩ := reads.sound found
      rw [frontParts, isColon, backParts, valueParts]
      exact ⟨nameText ++ before ++ ':' :: after ++ valueText, by simp,
        .colon (by simpa using named) front back spelled⟩
    next => simp at reading
  complete {spelled rest value} item short stops := by
    obtain @⟨nameText, before, after, valueText, name, value, named, front, back, spelled⟩ := item
    have readName : readString? (nameText ++ (before ++ ':' :: (after ++ (valueText ++ rest)))) =
        some (name.toList, before ++ ':' :: (after ++ (valueText ++ rest))) :=
      readString?_eq_some_iff.mpr ⟨nameText, rfl, named⟩
    have skipped := skipBlanks_append front (separates_colon.stops (after ++ (valueText ++ rest))).1
    have skipped' := skipBlanks_append back ((reads.opens spelled).stops_isBlank rest)
    simp only [List.length_append, List.length_cons] at short
    have readsValue := reads.complete spelled (by omega) stops
    have regroup : nameText ++ before ++ ':' :: after ++ valueText ++ rest =
        nameText ++ (before ++ ':' :: (after ++ (valueText ++ rest))) := by simp
    rw [regroup]
    simp [readMember?, readName, skipped, skipped', readsValue]

theorem ne_of_isDigit {c d : Char} (digit : c.isDigit = true) (other : d.isDigit = false) :
    c ≠ d := by
  rintro rfl
  simp [digit] at other

theorem SpellsNumber.exists_digit {text : List Char} {value : Nat}
    (spelled : SpellsNumber text value) : ∃ c later, text = c :: later ∧ c.isDigit = true := by
  obtain ⟨c, later, rfl⟩ := List.exists_cons_of_ne_nil spelled.nonempty
  exact ⟨c, later, rfl, spelled.areDigits c List.mem_cons_self⟩

theorem Enclosed.exists_opening {α : Type} {opening closing : Char} {Item : List Char → α → Prop}
    {text : List Char} {values : List α} (enclosed : Enclosed opening closing Item text values) :
    ∃ later, text = opening :: later := by
  cases enclosed <;> exact ⟨_, rfl⟩

theorem Spells.opens {text : List Char} {value : Json} (spelled : Spells text value) :
    Opens text := by
  cases spelled with
  | null => exact ⟨'n', _, rfl, by decide⟩
  | true => exact ⟨'t', _, rfl, by decide⟩
  | false => exact ⟨'f', _, rfl, by decide⟩
  | number spelled =>
    obtain ⟨c, later, rfl, digit⟩ := spelled.exists_digit
    refine ⟨c, later, rfl, ?_⟩
    simp [startsItem, isBlank, ne_of_isDigit digit]
  | string spelled => exact spelled.opens
  | array enclosed =>
    obtain ⟨later, rfl⟩ := enclosed.exists_opening
    exact ⟨'[', later, rfl, by decide⟩
  | object enclosed =>
    obtain ⟨later, rfl⟩ := enclosed.exists_opening
    exact ⟨'\x7b', later, rfl, by decide⟩

section Values

variable {depth : Nat} (reads : Reads depth (readValue? depth) Spells)
include reads

theorem reads_array :
    Reads (depth + 1) (readEnclosed? (readValue? depth) '[' ']') (Enclosed '[' ']' Spells) :=
  reads.enclosed (by decide) closes_bracket

theorem reads_object :
    Reads (depth + 1) (readEnclosed? (readMember? (readValue? depth)) '\x7b' '\x7d')
      (Enclosed '\x7b' '\x7d' (Member Spells)) :=
  reads.member.enclosed (by decide) closes_brace

theorem exists_spells_of_readValue? {text rest : List Char} {value : Json}
    (read : readValue? (depth + 1) text = some (value, rest)) :
    ∃ spelled, text = spelled ++ rest ∧ Spells spelled value := by
  unfold readValue? at read
  split at read
  next => simp at read
  next c behind =>
  split at read
  next =>
    obtain ⟨source, found, rfl⟩ := exists_of_map read
    obtain ⟨spelled, parts, isString⟩ := readString?_eq_some_iff.mp found
    exact ⟨spelled, parts, .string isString⟩
  split at read
  next =>
    obtain ⟨items, found, rfl⟩ := exists_of_map read
    obtain ⟨spelled, parts, enclosed⟩ := (reads_array reads).sound found
    exact ⟨spelled, parts, .array enclosed⟩
  split at read
  next =>
    obtain ⟨fields, found, rfl⟩ := exists_of_map read
    obtain ⟨spelled, parts, enclosed⟩ := (reads_object reads).sound found
    exact ⟨spelled, parts, .object enclosed⟩
  split at read
  next =>
    obtain ⟨parts, rfl⟩ := parts_of_readWord? read
    exact ⟨_, parts, .null⟩
  split at read
  next =>
    obtain ⟨parts, rfl⟩ := parts_of_readWord? read
    exact ⟨_, parts, .true⟩
  split at read
  next =>
    obtain ⟨parts, rfl⟩ := parts_of_readWord? read
    exact ⟨_, parts, .false⟩
  next =>
    obtain ⟨number, found, rfl⟩ := exists_of_map read
    obtain ⟨spelled, parts, isNumber⟩ := exists_spells_of_readNumber? found
    exact ⟨spelled, parts, .number isNumber⟩

theorem readValue?_of_spells {text rest : List Char} {value : Json} (spelled : Spells text value)
    (short : text.length ≤ depth + 1) (stops : Stops Char.isDigit rest) :
    readValue? (depth + 1) (text ++ rest) = some (value, rest) := by
  cases spelled with
  | null => exact readWord?_append "null".toList .null rest
  | true => exact readWord?_append "true".toList (.bool true) rest
  | false => exact readWord?_append "false".toList (.bool false) rest
  | number spelled =>
    have read := readNumber?_of_spells spelled stops
    obtain ⟨c, later, rfl, digit⟩ := spelled.exists_digit
    rw [List.cons_append] at read ⊢
    simp [readValue?, ne_of_isDigit digit, read]
  | @string _ value spelled =>
    have read : readString? (text ++ rest) = some (value, rest) :=
      readString?_eq_some_iff.mpr ⟨text, rfl, spelled⟩
    obtain ⟨inside, rfl, _⟩ := spelled
    simpa [readValue?] using read
  | array enclosed =>
    have read := (reads_array reads).complete enclosed short stops
    obtain ⟨later, rfl⟩ := enclosed.exists_opening
    rw [List.cons_append] at read ⊢
    simp [readValue?, read]
  | object enclosed =>
    have read := (reads_object reads).complete enclosed short stops
    obtain ⟨later, rfl⟩ := enclosed.exists_opening
    rw [List.cons_append] at read ⊢
    simp [readValue?, read]

end Values

/-- The reader of values takes every value that is not longer than its depth. -/
theorem reads_value (depth : Nat) : Reads depth (readValue? depth) Spells := by
  -- What is nested is shorter than what encloses it, so that the length bounds the depth.
  induction depth with
  | zero =>
    refine ⟨Spells.opens, fun read => by simp [readValue?] at read, fun spelled short _ => ?_⟩
    obtain ⟨c, later, rfl, _⟩ := spelled.opens
    simp at short
  | succ depth ih =>
    exact ⟨Spells.opens, exists_spells_of_readValue? ih, readValue?_of_spells ih⟩

theorem skipBlanks_eq_nil_iff {text : List Char} : skipBlanks text = [] ↔ Blank text := by
  constructor
  · intro ended
    obtain ⟨before, blank, parts⟩ := exists_blank_skipBlanks text
    rw [ended, List.append_nil] at parts
    rwa [parts]
  · intro blank
    simpa using skipBlanks_append blank (stops_nil isBlank)

/-- The reader accepts exactly the documents. -/
theorem read?_eq_some_iff {text : List Char} {value : Json} :
    read? text = some value ↔ IsDocument text value := by
  have reads := reads_value text.length
  constructor
  · intro read
    unfold read? at read
    split at read
    next value' rest found =>
      split at read
      next ended =>
        cases Option.some.inj read
        obtain ⟨before, front, parts⟩ := exists_blank_skipBlanks text
        obtain ⟨core, coreParts, spelled⟩ := reads.sound found
        have back := skipBlanks_eq_nil_iff.mp (List.isEmpty_iff.mp ended)
        exact ⟨before, core, rest, by rw [parts, coreParts, List.append_assoc], front, spelled, back⟩
      next => simp at read
    next => simp at read
  · rintro ⟨before, core, after, rfl, front, spelled, back⟩
    have skipped : skipBlanks (before ++ core ++ after) = core ++ after := by
      rw [List.append_assoc]
      exact skipBlanks_append front (spelled.opens.stops_isBlank after)
    have stops : Stops Char.isDigit after := by
      simpa using back.stops_isDigit (stops_nil Char.isDigit)
    have found := reads.complete spelled (by simp only [List.length_append]; omega) stops
    rw [read?, skipped, found]
    simp [skipBlanks_eq_nil_iff.mpr back]

/-- A document spells one value. -/
theorem IsDocument.unique {text : List Char} {value value' : Json} (first : IsDocument text value)
    (second : IsDocument text value') : value = value' :=
  Option.some.inj ((read?_eq_some_iff.mpr first).symm.trans (read?_eq_some_iff.mpr second))

end SqlIdentifier.Json
