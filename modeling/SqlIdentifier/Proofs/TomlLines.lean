import Mathlib.Data.Option.Basic
import SqlIdentifier.Proofs.HexDigits
import SqlIdentifier.Toml.Reader

namespace SqlIdentifier.Toml

open Text (SpellsEach Stops)

def Blanks (text : List Char) : Prop :=
  ∀ c ∈ text, isBlank c = true

structure IsBareKey (key : List Char) : Prop where
  nonempty : key ≠ []
  chars : ∀ c ∈ key, isBareKeyChar c = true

/-- The texts of a code point inside of a basic string: itself, or its number in four digits. -/
inductive SpellsChar : List Char → Char → Prop
  | plain {c : Char} (visible : ' ' ≤ c) (noDelete : c ≠ '\x7f') (noQuote : c ≠ '"')
      (noBackslash : c ≠ '\\') : SpellsChar [c] c
  | number {digits : List Char} {c : Char} (length : digits.length = 4)
      (areDigits : ∀ d ∈ digits, Hex.isDigit d = true) (value : Hex.placeValue digits = c.toNat) :
      SpellsChar ('\\' :: 'u' :: digits) c

/-- The texts of strings and booleans. -/
inductive Spells : List Char → Value → Prop
  | boolean (value : Bool) : Spells (toString value).toList (.boolean value)
  | string {inside text : List Char} (spelled : SpellsEach SpellsChar inside text) :
      Spells ('"' :: inside ++ ['"']) (.string text)

/-- A code point as its number if it is a quotation mark, a backslash or a control, and as itself
otherwise. -/
def writeChar (c : Char) : List Char :=
  if c = '"' ∨ c = '\\' ∨ c < ' ' ∨ ('\x7f' ≤ c ∧ c ≤ '\x9f') then
    '\\' :: 'u' :: Hex.write 4 c.toNat
  else [c]

def writeString (text : List Char) : List Char :=
  '"' :: text.flatMap writeChar ++ ['"']

/-- The lines of a document, as the statements that they make. -/
inductive Lines : List Char → List Statement → Prop
  | nil : Lines [] []
  | blank {front later : List Char} {statements : List Statement} (blanks : Blanks front)
      (rest : Lines later statements) : Lines (front ++ '\n' :: later) statements
  | entry {indent before after written behind later : List Char} {key : String} {value : Value}
      {statements : List Statement} (indented : Blanks indent) (bare : IsBareKey key.toList)
      (beforeSign : Blanks before) (afterSign : Blanks after) (spelled : Spells written value)
      (ended : Blanks behind) (rest : Lines later statements) :
      Lines (indent ++ (key.toList ++ (before ++ '=' :: (after ++ (written ++
        (behind ++ '\n' :: later)))))) (.assign [] key value :: statements)
  | header {name : String} {later : List Char} {statements : List Statement}
      (bare : IsBareKey name.toList) (rest : Lines later statements) :
      Lines ('[' :: (name.toList ++ ']' :: '\n' :: later)) (.table [] name :: statements)

def DistinctKeys {α : Type} (entries : List (String × α)) : Prop :=
  (entries.map Prod.fst).Nodup

def assign (entry : String × Value) : Statement :=
  .assign [] entry.1 entry.2

/-- The header of a table and its entries. -/
def tableStatements (table : String × Entries) : List Statement :=
  .table [] table.1 :: table.2.map assign

/-- The entries of the root table that they define. -/
def rootEntries (top : Entries) (tables : List (String × Entries)) : Entries :=
  top ++ tables.map fun (name, entries) => (name, .table .header entries)

/-- A document of entries and of tables behind them, with no key twice in one table. -/
structure IsDocument (text : List Char) (top : Entries) (tables : List (String × Entries)) :
    Prop where
  lines : Lines text (top.map assign ++ tables.flatMap tableStatements)
  distinct : DistinctKeys (rootEntries top tables)
  each : ∀ table ∈ tables, DistinctKeys table.2

section Blanks

theorem isBlank_iff {c : Char} : isBlank c = true ↔ c = ' ' ∨ c = '\t' := by
  simp [isBlank]

theorem dropBlanks_append {front rest : List Char} (blanks : Blanks front)
    (stops : Stops isBlank rest) : dropBlanks (front ++ rest) = rest :=
  stops.dropWhile_append blanks

theorem dropBlanks_of_stops {rest : List Char} (stops : Stops isBlank rest) :
    dropBlanks rest = rest :=
  dropBlanks_append (List.forall_mem_nil _) stops

theorem dropLineRest?_of_blanks {front rest : List Char} (blanks : Blanks front) :
    dropLineRest? (front ++ '\n' :: rest) = some rest := by
  have ends : Stops isBlank ('\n' :: rest) := by simp [Stops, isBlank]
  simp [dropLineRest?, dropBlanks_append blanks ends]

/-- What stands behind a value begins with a blank or ends the line. -/
theorem exists_lineEnd {behind : List Char} (blanks : Blanks behind) (rest : List Char) :
    ∃ c later, behind ++ '\n' :: rest = c :: later ∧ (c = ' ' ∨ c = '\t' ∨ c = '\n') := by
  cases behind with
  | nil => exact ⟨'\n', rest, rfl, by simp⟩
  | cons c later =>
    have blank := isBlank_iff.mp (blanks c List.mem_cons_self)
    exact ⟨c, later ++ '\n' :: rest, rfl, by simp [← or_assoc, blank]⟩

end Blanks

section Keys

variable {key : List Char}

/-- No sign that ends a key or that a line can begin with is a part of a bare key. -/
theorem ne_of_isBareKeyChar {c sign : Char} (bare : isBareKeyChar c = true)
    (noKey : isBareKeyChar sign = false) : c ≠ sign := by
  rintro rfl
  simp [bare] at noKey

theorem isBareKey_of_all (nonempty : key ≠ []) (checked : key.all isBareKeyChar = true) :
    IsBareKey key :=
  ⟨nonempty, List.all_eq_true.mp checked⟩

theorem IsBareKey.exists_first (bare : IsBareKey key) :
    ∃ c later, key = c :: later ∧ isBareKeyChar c = true := by
  cases key with
  | nil => exact absurd rfl bare.nonempty
  | cons c later => exact ⟨c, later, rfl, bare.chars c List.mem_cons_self⟩

theorem IsBareKey.stops_isBlank (bare : IsBareKey key) (rest : List Char) :
    Stops isBlank (key ++ rest) := by
  obtain ⟨c, later, rfl, first⟩ := bare.exists_first
  have space : c ≠ ' ' := ne_of_isBareKeyChar first (by decide)
  have tab : c ≠ '\t' := ne_of_isBareKeyChar first (by decide)
  simp [Stops, isBlank, space, tab]

theorem IsBareKey.simpleKey?_append (bare : IsBareKey key) {rest : List Char}
    (stops : Stops isBareKeyChar rest) :
    simpleKey? (key ++ rest) = some (String.ofList key, rest) := by
  have taken := stops.takeWhile_append bare.chars
  have left := stops.dropWhile_append bare.chars
  obtain ⟨c, later, rfl, first⟩ := bare.exists_first
  have quote : c ≠ '"' := ne_of_isBareKeyChar first (by decide)
  have apostrophe : c ≠ '\'' := ne_of_isBareKeyChar first (by decide)
  unfold simpleKey?
  split
  next same => simp_all
  next same => simp_all
  next => rw [taken, left]

/-- A key is read up to the sign that stands behind it and blanks. -/
theorem IsBareKey.dottedKey?_append {key : String} (bare : IsBareKey key.toList)
    {behind : List Char} (blanks : Blanks behind) {sign : Char} (ends : sign = '=' ∨ sign = ']')
    (rest : List Char) :
    dottedKey? nestingLimit (key.toList ++ (behind ++ sign :: rest)) =
      some (([], key), sign :: rest) := by
  have noBlank : Stops isBlank (sign :: rest) := by
    rcases ends with rfl | rfl <;> simp [Stops, isBlank]
  have noKey : Stops isBareKeyChar (behind ++ sign :: rest) := by
    cases behind with
    | nil => rcases ends with rfl | rfl <;> simp [Stops] <;> decide
    | cons c later =>
      have blank := isBlank_iff.mp (blanks c List.mem_cons_self)
      rcases blank with rfl | rfl <;> simp [Stops] <;> decide
  have noDot : sign ≠ '.' := by rcases ends with rfl | rfl <;> decide
  rw [nestingLimit, dottedKey?, dropBlanks_of_stops (bare.stops_isBlank _),
    bare.simpleKey?_append noKey]
  simp [dropBlanks_append blanks noBlank, noDot]

end Keys

section Strings

/-- Strings on one line between quotation marks. -/
def basic : Quoting := ⟨'"', true, false⟩

theorem Quoting.read?_of_step {quoting : Quoting} {state next : StringState} {c : Char}
    {text : List Char} (stepped : quoting.step state c = some (.next text next))
    (rest : List Char) :
    quoting.read? state (c :: rest) = (quoting.read? next rest).map (Prod.map (text ++ ·) id) := by
  rw [read?, stepped]
  rfl

/-- A step that adds nothing to the text. -/
theorem Quoting.read?_of_silent {quoting : Quoting} {state next : StringState} {c : Char}
    (stepped : quoting.step state c = some (.next [] next)) (rest : List Char) :
    quoting.read? state (c :: rest) = quoting.read? next rest := by
  rw [read?_of_step stepped]
  exact Option.map_id_apply

theorem step_digit {left value : Nat} {d : Char} (digit : Hex.isDigit d = true) :
    basic.step (.number (left + 1) value) d =
      some (.next [] (.number left (16 * value + Hex.rank d))) := by
  simp [Quoting.step, Quoting.stepNumber, Hex.digitValue?_eq_rank digit]

/-- The last digit completes the code point. -/
theorem step_lastDigit {value : Nat} {c d : Char} (digit : Hex.isDigit d = true)
    (number : 16 * value + Hex.rank d = c.toNat) :
    basic.step (.number 0 value) d = some (.next [c] (.text 0)) := by
  simp [Quoting.step, Quoting.stepNumber, Hex.digitValue?_eq_rank digit, number,
    Unicode.scalar?_toNat]

theorem SpellsChar.read? {written : List Char} {c : Char} (spelled : SpellsChar written c)
    (rest : List Char) :
    basic.read? (.text 0) (written ++ rest) =
      (basic.read? (.text 0) rest).map (Prod.map ([c] ++ ·) id) := by
  cases spelled with
  | plain visible noDelete noQuote noBackslash =>
    have plain : isPlain c = true := by simp [isPlain, visible, noDelete]
    have stepped : basic.step (.text 0) c = some (.next [c] (.text 0)) := by
      simp [Quoting.step, Quoting.stepQuotes, Quoting.stepText, basic, noQuote, noBackslash, plain]
    exact Quoting.read?_of_step stepped rest
  | @number digits _ length areDigits value =>
    match digits, length with
    | [first, second, third, last], _ =>
      have number : 16 * (16 * (16 * (16 * 0 + Hex.rank first) + Hex.rank second) +
          Hex.rank third) + Hex.rank last = c.toNat := by
        simp [Hex.placeValue] at value
        omega
      have backslash : basic.step (.text 0) '\\' = some (.next [] .escape) := rfl
      have letter : basic.step .escape 'u' = some (.next [] (.number 3 0)) := rfl
      simp only [List.cons_append, List.nil_append]
      rw [Quoting.read?_of_silent backslash, Quoting.read?_of_silent letter,
        Quoting.read?_of_silent (step_digit (areDigits first (by simp))),
        Quoting.read?_of_silent (step_digit (areDigits second (by simp))),
        Quoting.read?_of_silent (step_digit (areDigits third (by simp))),
        Quoting.read?_of_step (step_lastDigit (areDigits last (by simp)) number)]
      rfl

theorem read?_of_spells {inside text : List Char} (spelled : SpellsEach SpellsChar inside text)
    (rest : List Char) : basic.read? (.text 0) (inside ++ '"' :: rest) = some (text, rest) := by
  induction spelled with
  | nil =>
    rw [List.nil_append, Quoting.read?]
    simp [Quoting.step, Quoting.stepQuotes, basic]
  | cons first _ ih => rw [List.append_assoc, first.read?, ih]; rfl

theorem head?_ne_quote_of_spells {inside text : List Char}
    (spelled : SpellsEach SpellsChar inside text) : inside.head? ≠ some '"' := by
  cases spelled with
  | nil => simp
  | cons first _ =>
    cases first with
    | plain _ _ noQuote => simpa using noQuote
    | number => simp

/-- Behind an empty string no third quotation mark follows, so that it is not taken for the opening
of a string of several lines. -/
theorem string?_of_spells {inside text : List Char} (spelled : SpellsEach SpellsChar inside text)
    {rest : List Char} (ends : rest.head? ≠ some '"') :
    string? ('"' :: (inside ++ '"' :: rest)) = some (text, rest) := by
  have noQuote := head?_ne_quote_of_spells spelled
  have read : oneLineString? ('"' :: (inside ++ '"' :: rest)) = some (text, rest) :=
    read?_of_spells spelled rest
  unfold Toml.string?
  split
  next opened =>
    cases inside with
    | nil => simp_all
    | cons c inside => simp_all
  next opened => simp at opened
  next => exact read

end Strings

section Writing

theorem spellsChar_writeChar (c : Char) : SpellsChar (writeChar c) c := by
  unfold writeChar
  split
  next special =>
    have small : c.toNat < Nat.pow 16 4 := by
      rcases special with rfl | rfl | control | ⟨_, control⟩
      · decide
      · decide
      · have bound : c.toNat < ' '.toNat := UInt32.lt_iff_toNat_lt.mp control
        exact Nat.lt_trans bound (by decide)
      · have bound : c.toNat ≤ '\x9f'.toNat := UInt32.le_iff_toNat_le.mp control
        exact Nat.lt_of_le_of_lt bound (by decide)
    exact .number (Hex.length_write (by decide) small) (Hex.isDigit_of_mem_write 4 c.toNat)
      (Hex.placeValue_write 4 c.toNat)
  next ordinary =>
    simp only [not_or, not_and, Char.not_lt] at ordinary
    obtain ⟨noQuote, noBackslash, visible, noControl⟩ := ordinary
    have noDelete : c ≠ '\x7f' := fun same => by simp [same] at noControl
    exact .plain visible noDelete noQuote noBackslash

theorem spells_writeString (text : List Char) : Spells (writeString text) (.string text) := by
  exact .string (Text.spellsEach_flatMap spellsChar_writeChar text)

end Writing

section Values

theorem Spells.stops_isBlank {written : List Char} {value : Value} (spelled : Spells written value)
    (rest : List Char) : Stops isBlank (written ++ rest) := by
  cases spelled with
  | boolean value => cases value <;> exact Text.stops_cons_iff.mpr (by decide)
  | string => exact Text.stops_cons_iff.mpr (by decide)

theorem plainValue?_word {word rest : List Char} {value : Value} {c : Char}
    (token : ∀ d ∈ word, isTokenChar d = true) (noDate : isDate word = false)
    (named : token? word = some value) (ends : isTokenChar c = false) :
    plainValue? (word ++ c :: rest) = some (value, c :: rest) := by
  have stops : Stops isTokenChar (c :: rest) := Text.stops_cons_iff.mpr ends
  unfold plainValue?
  rw [stops.takeWhile_append token, stops.dropWhile_append token]
  simp only [noDate, named]
  by_cases space : c = ' ' <;> simp [space]

/-- A value is read up to the blanks or the end of the line behind it. -/
theorem Spells.value?_append {written behind : List Char} {value : Value}
    (spelled : Spells written value) (blanks : Blanks behind) (rest : List Char) (depth : Nat) :
    value? depth (written ++ (behind ++ '\n' :: rest)) = some (value, behind ++ '\n' :: rest) := by
  obtain ⟨c, later, ends, sign⟩ := exists_lineEnd blanks rest
  have noToken : isTokenChar c = false := by rcases sign with rfl | rfl | rfl <;> decide
  rw [ends]
  cases spelled with
  | boolean value =>
    have areToken : (toString value).toList.all isTokenChar = true := by cases value <;> decide
    have noDate : isDate (toString value).toList = false := by cases value <;> decide
    have named : token? (toString value).toList = some (.boolean value) := by cases value <;> rfl
    have read : plainValue? ((toString value).toList ++ c :: later) =
        some (.boolean value, c :: later) :=
      plainValue?_word (List.all_eq_true.mp areToken) noDate named noToken
    cases value <;> cases depth <;> exact read
  | string inside =>
    have noQuote : (c :: later).head? ≠ some '"' := by rcases sign with rfl | rfl | rfl <;> simp
    have read := string?_of_spells inside noQuote
    simp only [List.cons_append, List.append_assoc, List.nil_append] at read ⊢
    cases depth <;> simp [value?, read]

end Values

section Lines

theorem IsBareKey.dropLineRest?_append {key : List Char} (bare : IsBareKey key) (rest : List Char) :
    dropLineRest? (key ++ rest) = none := by
  have blanks := dropBlanks_of_stops (bare.stops_isBlank rest)
  obtain ⟨c, later, rfl, first⟩ := bare.exists_first
  have comment : c ≠ '#' := ne_of_isBareKeyChar first (by decide)
  have lineFeed : c ≠ '\n' := ne_of_isBareKeyChar first (by decide)
  have carriageReturn : c ≠ '\r' := ne_of_isBareKeyChar first (by decide)
  simp_all [dropLineRest?]

theorem IsBareKey.statement?_assign {key : String} {before after written behind later : List Char}
    {value : Value} (bare : IsBareKey key.toList) (beforeSign : Blanks before)
    (afterSign : Blanks after) (spelled : Spells written value) (ended : Blanks behind) :
    statement? (key.toList ++ (before ++ '=' :: (after ++ (written ++ (behind ++ '\n' :: later))))) =
      some (.assign [] key value, later) := by
  have keyRead := bare.dottedKey?_append beforeSign (.inl rfl)
  have noBlank := dropBlanks_append afterSign (spelled.stops_isBlank (behind ++ '\n' :: later))
  obtain ⟨c, others, start, first⟩ := bare.exists_first
  have bracket : c ≠ '[' := ne_of_isBareKeyChar first (by decide)
  unfold statement?
  split
  next same => simp_all
  next same => simp_all
  next =>
    simp [keyRead, entry?, noBlank, spelled.value?_append ended,
      dropLineRest?_of_blanks ended]

theorem IsBareKey.statement?_table {name : String} {later : List Char}
    (bare : IsBareKey name.toList) :
    statement? ('[' :: (name.toList ++ ']' :: '\n' :: later)) = some (.table [] name, later) := by
  have nameRead : dottedKey? nestingLimit (name.toList ++ ']' :: '\n' :: later) =
      some (([], name), ']' :: '\n' :: later) :=
    bare.dottedKey?_append (List.forall_mem_nil _) (.inr rfl) ('\n' :: later)
  have ended : dropLineRest? ('\n' :: later) = some later :=
    dropLineRest?_of_blanks (List.forall_mem_nil _)
  obtain ⟨c, others, start, first⟩ := bare.exists_first
  have bracket : c ≠ '[' := ne_of_isBareKeyChar first (by decide)
  unfold statement?
  split
  next same => simp_all
  next same => simp_all
  next noHeader => simp_all

/-- A line with a statement, behind blanks. -/
theorem statements?_step {front text later : List Char} {made : Statement} {limit : Nat}
    (indented : Blanks front) (stops : Stops isBlank text) (nonempty : text ≠ [])
    (noLineEnd : dropLineRest? text = none) (read : statement? text = some (made, later)) :
    statements? (limit + 1) (front ++ text) = (statements? limit later).map (made :: ·) := by
  obtain ⟨c, others, rfl⟩ := List.exists_cons_of_ne_nil nonempty
  conv => lhs; unfold statements?
  rw [dropBlanks_append indented stops]
  simp only [noLineEnd, read, Option.bind_eq_bind, Option.bind_some]
  exact Option.map_eq_bind.symm

/-- No text has more lines than code points, so that the limit is never what ends the reading. -/
theorem Lines.statements?_eq {text : List Char} {made : List Statement} (lines : Lines text made)
    {limit : Nat} (enough : text.length ≤ limit) : statements? limit text = some made := by
  induction lines generalizing limit with
  | nil => cases limit <;> rfl
  | @blank front later made blanks _ ih =>
    obtain ⟨limit, rfl⟩ := Nat.exists_eq_add_one_of_ne_zero (n := limit) (by simp at enough; omega)
    have stops : Stops isBlank ('\n' :: later) := by simp [Stops, isBlank]
    have ended : dropLineRest? ('\n' :: later) = some later :=
      dropLineRest?_of_blanks (List.forall_mem_nil _)
    conv => lhs; unfold statements?
    rw [dropBlanks_append blanks stops]
    simp only [ended]
    exact ih (by simp at enough; omega)
  | @entry indent before after written behind later key value made indented bare beforeSign afterSign
      spelled ended _ ih =>
    obtain ⟨limit, rfl⟩ := Nat.exists_eq_add_one_of_ne_zero (n := limit) (by simp at enough; omega)
    have nonempty := List.append_ne_nil_of_left_ne_nil bare.nonempty
    rw [statements?_step indented (bare.stops_isBlank _) (nonempty _) (bare.dropLineRest?_append _)
      (bare.statement?_assign beforeSign afterSign spelled ended), ih (by simp at enough; omega)]
    rfl
  | @header name later made bare _ ih =>
    obtain ⟨limit, rfl⟩ := Nat.exists_eq_add_one_of_ne_zero (n := limit) (by simp at enough; omega)
    have stops : Stops isBlank ('[' :: (name.toList ++ ']' :: '\n' :: later)) := by
      simp [Stops, isBlank]
    have step : statements? (limit + 1) ([] ++ '[' :: (name.toList ++ ']' :: '\n' :: later)) =
        (statements? limit later).map (.table [] name :: ·) :=
      statements?_step (List.forall_mem_nil _) stops (List.cons_ne_nil _ _) rfl bare.statement?_table
    rw [ih (by simp at enough; omega)] at step
    exact step

end Lines

section Documents

theorem lookup_eq_none_iff {α : Type} {entries : List (String × α)} {key : String} :
    entries.lookup key = none ↔ key ∉ entries.map Prod.fst := by
  simp only [List.lookup_eq_none_iff, bne_iff_ne, List.mem_map, not_exists, not_and]
  exact ⟨fun absent entry member same => absent entry member same.symm,
    fun absent entry member same => absent entry member same.symm⟩

theorem DistinctKeys.lookup_eq_none {α : Type} {before later : List (String × α)}
    {entry : String × α} (distinct : DistinctKeys (before ++ entry :: later)) :
    before.lookup entry.1 = none := by
  rw [lookup_eq_none_iff]
  simp only [DistinctKeys, List.map_append, List.map_cons, List.nodup_append] at distinct
  exact fun member => distinct.2.2 _ member _ List.mem_cons_self rfl

theorem DistinctKeys.lookup_eq_some {α : Type} {entries : List (String × α)} {key : String}
    {value : α} (distinct : DistinctKeys entries) (member : (key, value) ∈ entries) :
    entries.lookup key = some value := by
  obtain ⟨before, later, rfl⟩ := List.append_of_mem member
  have absent : before.lookup key = none := distinct.lookup_eq_none
  simp [List.lookup_append, absent]

@[simp]
theorem keys_rootEntries (top : Entries) (tables : List (String × Entries)) :
    (rootEntries top tables).map Prod.fst = top.map Prod.fst ++ tables.map Prod.fst := by
  simp [rootEntries]

theorem lookup_rootEntries {top : Entries} {tables : List (String × Entries)} {key : String}
    (noTable : key ∉ tables.map Prod.fst) :
    (rootEntries top tables).lookup key = top.lookup key := by
  have absent : (rootEntries [] tables).lookup key = none := by
    rwa [lookup_eq_none_iff, keys_rootEntries, List.map_nil, List.nil_append]
  rw [rootEntries, List.nil_append] at absent
  rw [rootEntries, List.lookup_append, absent, Option.or_none]

theorem Entries.set_append {before : Entries} {key : String} (value : Value) (later : Entries)
    (absent : before.lookup key = none) :
    set key value (before ++ later) = before ++ set key value later := by
  induction before with
  | nil => rfl
  | cons entry before ih =>
    obtain ⟨other, current⟩ := entry
    simp only [List.lookup_eq_none_iff, List.mem_cons, forall_eq_or_imp] at absent ih
    have different : other ≠ key := fun same => by simp [same] at absent
    simp [set, different, ih absent.2]

namespace Table

/-- An entry under one key goes to the end of the table itself. -/
theorem assign?_nil {entries : Entries} {key : String} (value : Value)
    (absent : entries.lookup key = none) :
    assign? [] key value ⟨.header, entries⟩ = some ⟨.header, entries ++ [(key, value)]⟩ := by
  have added : entries.add? key value = some (entries ++ [(key, value)]) := by
    rw [Entries.add?, absent]
  show (entries.add? key value).bind (fun entries => some (Table.mk .header entries)) = _
  rw [added]
  rfl

/-- A change in a table that has a header is a change of its entry. -/
theorem changeAt?_header {change : Table → Option Table} {name : String} {root inner : Entries}
    {changed : Table} (found : root.lookup name = some (.table .header inner))
    (made : change ⟨.header, inner⟩ = some changed) :
    changeAt? [.header, .implied, .dotted] .implied change [name] ⟨.header, root⟩ =
      some ⟨.header, Entries.set name (.table changed.definition changed.entries) root⟩ := by
  have mayEnter : guard (Definition.header ∈ [.header, .implied, .dotted]) = some () :=
    (Option.guard_eq_some' ()).mpr (by decide)
  rw [changeAt?, found]
  simp only [mayEnter, changeAt?, made]
  rfl

end Table

namespace Document

variable {before entries : Entries}

theorem add?_assign {key : String} {value : Value} (absent : entries.lookup key = none) :
    add? ⟨⟨.header, entries⟩, []⟩ (.assign [] key value) =
      some ⟨⟨.header, entries ++ [(key, value)]⟩, []⟩ := by
  show (Table.assign? [] key value ⟨.header, entries⟩).bind _ = _
  rw [Table.assign?_nil value absent]
  rfl

/-- A header opens an empty table at the end. -/
theorem add?_table {name : String} (current : List String) (absent : before.lookup name = none) :
    add? ⟨⟨.header, before⟩, current⟩ (.table [] name) =
      some ⟨⟨.header, before ++ [(name, .table .header [])]⟩, [name]⟩ := by
  have created : Entries.set name (.table .header []) before =
      before ++ [(name, .table .header [])] := by
    have added := Entries.set_append (.table .header []) [] absent
    rwa [List.append_nil] at added
  simp [add?, Table.open?, Table.changeAt?, absent, created]

/-- Behind a header, an entry goes to the end of the table that stands last. -/
theorem add?_assign_table {name key : String} {value : Value} (opened : before.lookup name = none)
    (absent : entries.lookup key = none) :
    add? ⟨⟨.header, before ++ [(name, .table .header entries)]⟩, [name]⟩ (.assign [] key value) =
      some ⟨⟨.header, before ++ [(name, .table .header (entries ++ [(key, value)]))]⟩, [name]⟩ := by
  have changed : Entries.set name (.table .header (entries ++ [(key, value)]))
      (before ++ [(name, .table .header entries)]) =
        before ++ [(name, .table .header (entries ++ [(key, value)]))] := by
    rw [Entries.set_append _ _ opened]
    simp [Entries.set]
  have found : (before ++ [(name, Value.table .header entries)]).lookup name =
      some (.table .header entries) := by simp [List.lookup_append, opened]
  rw [add?, Table.changeAt?_header found (Table.assign?_nil value absent), changed]
  rfl

theorem foldlM_assign {later : Entries} (distinct : DistinctKeys (entries ++ later)) :
    (later.map assign).foldlM add? ⟨⟨.header, entries⟩, []⟩ =
      some ⟨⟨.header, entries ++ later⟩, []⟩ := by
  induction later generalizing entries with
  | nil => simp
  | cons entry later ih =>
    rw [List.map_cons, List.foldlM_cons, assign, add?_assign distinct.lookup_eq_none]
    rw [List.append_cons entries entry later] at distinct ⊢
    exact ih distinct

/-- A table grows by its entries. What stands before it in the root table does not matter, as long
as its name is new there. -/
theorem foldlM_assign_table {name : String} {later : Entries} (opened : before.lookup name = none)
    (distinct : DistinctKeys (entries ++ later)) :
    (later.map assign).foldlM add? ⟨⟨.header, before ++ [(name, .table .header entries)]⟩, [name]⟩ =
      some ⟨⟨.header, before ++ [(name, .table .header (entries ++ later))]⟩, [name]⟩ := by
  induction later generalizing entries with
  | nil => simp
  | cons entry later ih =>
    rw [List.map_cons, List.foldlM_cons, assign, add?_assign_table opened distinct.lookup_eq_none]
    rw [List.append_cons entries entry later] at distinct ⊢
    exact ih distinct

theorem foldlM_tables {tables : List (String × Entries)} (current : List String)
    (distinct : DistinctKeys (rootEntries before tables))
    (each : ∀ table ∈ tables, DistinctKeys table.2) :
    ∃ last, (tables.flatMap tableStatements).foldlM add? ⟨⟨.header, before⟩, current⟩ =
      some ⟨⟨.header, rootEntries before tables⟩, last⟩ := by
  -- Each table joins what stands before the later ones, and its header becomes the last.
  induction tables generalizing before current with
  | nil => exact ⟨current, by simp [rootEntries]⟩
  | cons table tables ih =>
    obtain ⟨name, entries⟩ := table
    obtain ⟨inside, others⟩ := List.forall_mem_cons.mp each
    have opened : before.lookup name = none := distinct.lookup_eq_none
    have filled : (entries.map assign).foldlM add?
          ⟨⟨.header, before ++ [(name, .table .header [])]⟩, [name]⟩ =
        some ⟨⟨.header, before ++ [(name, .table .header entries)]⟩, [name]⟩ :=
      foldlM_assign_table opened inside
    have moved : rootEntries before ((name, entries) :: tables) =
        rootEntries (before ++ [(name, .table .header entries)]) tables := by simp [rootEntries]
    rw [moved] at distinct ⊢
    obtain ⟨last, run⟩ := ih [name] distinct others
    refine ⟨last, ?_⟩
    rw [List.flatMap_cons, tableStatements, List.cons_append, List.foldlM_cons,
      add?_table current opened, Option.bind_eq_bind, Option.bind_some, List.foldlM_append, filled, Option.bind_eq_bind,
      Option.bind_some, run]

theorem entries?_statements {top : Entries} {tables : List (String × Entries)}
    (distinct : DistinctKeys (rootEntries top tables))
    (each : ∀ table ∈ tables, DistinctKeys table.2) :
    entries? (top.map assign ++ tables.flatMap tableStatements) = some (rootEntries top tables) := by
  have distinctTop : DistinctKeys ([] ++ top) := by
    rw [DistinctKeys, keys_rootEntries] at distinct
    exact (List.nodup_append.mp distinct).1
  have front := foldlM_assign distinctTop
  obtain ⟨last, behind⟩ := foldlM_tables [] distinct each
  simp [entries?, List.foldlM_append, front, behind]

end Document

theorem Lines.head?_ne_byteOrderMark {text : List Char} {made : List Statement}
    (lines : Lines text made) : text.head? ≠ some '\ufeff' := by
  have skip {member : Char → Bool} {front rest : List Char} (inside : ∀ c ∈ front, member c = true)
      (outside : member '\ufeff' = false) (behind : rest.head? ≠ some '\ufeff') :
      (front ++ rest).head? ≠ some '\ufeff' := by
    rw [List.head?_append]
    intro mark
    rcases Option.or_eq_some_iff.mp mark with first | later
    · simp [inside _ (List.mem_of_head? first)] at outside
    · exact behind later.2
  cases lines with
  | nil => simp
  | blank blanks => exact skip blanks (by decide) (by simp)
  | entry indented bare beforeSign =>
    exact skip indented (by decide) (skip bare.chars (by decide)
      (skip beforeSign (by decide) (by simp)))
  | header => simp

/-- A document with its own keys at each level is read as the entries of its lines. -/
theorem IsDocument.read?_eq {text : List Char} {top : Entries} {tables : List (String × Entries)}
    (document : IsDocument text top tables) : read? text = some (rootEntries top tables) := by
  obtain ⟨lines, distinct, each⟩ := document
  have noMark := lines.head?_ne_byteOrderMark
  have made := lines.statements?_eq (Nat.le_refl _)
  unfold read?
  split
  next => simp at noMark
  next => simp [made, Document.entries?_statements distinct each]

end Documents

end SqlIdentifier.Toml
