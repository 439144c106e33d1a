import SqlIdentifier.Json
import SqlIdentifier.Proofs.HexDigits

namespace SqlIdentifier.Json

/-- The white space of JSON: space, tab, line feed and carriage return. -/
def isBlank (c : Char) : Bool :=
  [' ', '\t', '\n', '\r'].contains c

def Blank (text : List Char) : Prop :=
  ∀ c ∈ text, isBlank c = true

/-- The letters that make an escape together with a backslash, each with what it stands for. -/
def shortEscapes : List (Char × Char) :=
  [('"', '"'), ('\\', '\\'), ('/', '/'), ('b', '\x08'), ('f', '\x0c'), ('n', '\n'), ('r', '\r'),
    ('t', '\t')]

/-- Four hexadecimal digits of either case, as the number that they write. -/
structure CodeUnit (digits : List Char) (value : Nat) : Prop where
  length : digits.length = 4
  areDigits : ∀ c ∈ digits, Hex.isDigit c = true
  value : value = Hex.placeValue digits

def isHighSurrogate (unit : Nat) : Bool :=
  0xD800 ≤ unit && unit ≤ 0xDBFF

def isLowSurrogate (unit : Nat) : Bool :=
  0xDC00 ≤ unit && unit ≤ 0xDFFF

/-- The number of the code point that two surrogates stand for. -/
def joinSurrogates (high low : Nat) : Nat :=
  0x10000 + (high - 0xD800) * 0x400 + (low - 0xDC00)

/-- The texts of a code point inside of a string. -/
inductive SpellsChar : List Char → Char → Prop
  | plain {c : Char} (visible : ' ' ≤ c) (quote : c ≠ '"') (backslash : c ≠ '\\') : SpellsChar [c] c
  | short {letter c : Char} (listed : (letter, c) ∈ shortEscapes) : SpellsChar ['\\', letter] c
  | unit {digits : List Char} {c : Char} (unit : CodeUnit digits c.toNat) :
      SpellsChar ('\\' :: 'u' :: digits) c
  | pair {digits digits' : List Char} {high low : Nat} {c : Char} (first : CodeUnit digits high)
      (second : CodeUnit digits' low) (isHigh : isHighSurrogate high = true)
      (isLow : isLowSurrogate low = true) (joined : c.toNat = joinSurrogates high low) :
      SpellsChar ('\\' :: 'u' :: digits ++ '\\' :: 'u' :: digits') c

def SpellsString (text value : List Char) : Prop :=
  ∃ inside, text = '"' :: inside ++ ['"'] ∧ Text.SpellsEach SpellsChar inside value

/-- The texts of a natural number: decimal digits, with no zero in front of others. -/
structure SpellsNumber (text : List Char) (value : Nat) : Prop where
  nonempty : text ≠ []
  areDigits : ∀ c ∈ text, c.isDigit = true
  noLeadingZero : text.head? = some '0' → text = ['0']
  value : value = Nat.ofDigitChars 10 text 0

/-- One item or more, with commas between them and blanks around each. -/
inductive Sequence {α : Type} (Item : List Char → α → Prop) : List Char → List α → Prop
  | one {before item after : List Char} {value : α} (front : Blank before)
      (spelled : Item item value) (back : Blank after) :
      Sequence Item (before ++ item ++ after) [value]
  | more {before item after later : List Char} {value : α} {values : List α} (front : Blank before)
      (spelled : Item item value) (back : Blank after) (rest : Sequence Item later values) :
      Sequence Item (before ++ item ++ after ++ ',' :: later) (value :: values)

/-- Any number of items between two brackets. -/
inductive Enclosed {α : Type} (opening closing : Char) (Item : List Char → α → Prop) :
    List Char → List α → Prop
  | none {inside : List Char} (blank : Blank inside) :
      Enclosed opening closing Item (opening :: inside ++ [closing]) []
  | some {inside : List Char} {values : List α} (sequence : Sequence Item inside values) :
      Enclosed opening closing Item (opening :: inside ++ [closing]) values

/-- A name and a value with a colon between them. -/
inductive Member (Value : List Char → Json → Prop) : List Char → String × Json → Prop
  | colon {nameText before after valueText : List Char} {name : String} {value : Json}
      (named : SpellsString nameText name.toList) (front : Blank before) (back : Blank after)
      (spelled : Value valueText value) :
      Member Value (nameText ++ before ++ ':' :: after ++ valueText) (name, value)

/-- The texts of a value. -/
inductive Spells : List Char → Json → Prop
  | null : Spells "null".toList .null
  | true : Spells "true".toList (.bool true)
  | false : Spells "false".toList (.bool false)
  | number {text : List Char} {value : Nat} (spelled : SpellsNumber text value) :
      Spells text (.number value)
  | string {text value : List Char} (spelled : SpellsString text value) : Spells text (.string value)
  | array {text : List Char} {items : List Json} (enclosed : Enclosed '[' ']' Spells text items) :
      Spells text (.array items)
  | object {text : List Char} {fields : List (String × Json)}
      (enclosed : Enclosed '\x7b' '\x7d' (Member Spells) text fields) : Spells text (.object fields)

/-- A text that is one value and blanks around it. -/
def IsDocument (text : List Char) (value : Json) : Prop :=
  ∃ before core after,
    text = before ++ core ++ after ∧ Blank before ∧ Spells core value ∧ Blank after

theorem Blank.nil : Blank [] := by simp [Blank]

theorem Spells.isDocument {text : List Char} {value : Json} (spelled : Spells text value) :
    IsDocument text value :=
  ⟨[], text, [], by simp, .nil, spelled, .nil⟩

theorem blank_newLine (depth : Nat) : Blank (newLine depth) := by
  intro c member
  rcases List.mem_cons.mp member with rfl | member
  · rfl
  · rw [List.eq_of_mem_replicate member]
    rfl

/-- The escape of a code point below the space. -/
theorem codeUnit_control {value : Nat} (control : value < 32) :
    CodeUnit ((Nat.toDigits 16 value).leftpad 4 '0') value := by
  have checked : (List.range 32).all (fun value =>
      let digits := (Nat.toDigits 16 value).leftpad 4 '0'
      digits.length == 4 && digits.all Hex.isDigit && value == Hex.placeValue digits) = true := by
    decide +kernel
  have found := List.all_eq_true.mp checked value (List.mem_range.mpr control)
  simp only [Bool.and_eq_true, beq_iff_eq, List.all_eq_true] at found
  obtain ⟨⟨length, areDigits⟩, value⟩ := found
  exact ⟨length, areDigits, value⟩

theorem spellsChar_writeChar (c : Char) : SpellsChar (writeChar c) c := by
  unfold writeChar
  split
  next is => subst is; exact .short (by decide)
  next quote =>
  split
  next is => subst is; exact .short (by decide)
  next backslash =>
  -- The five controls with letters of their own.
  iterate 5
    split
    next is => subst is; exact .short (by decide)
  split
  next control => exact .unit (codeUnit_control (UInt32.lt_iff_toNat_lt.mp control))
  next visible => exact .plain (Char.not_lt.mp visible) quote backslash

theorem spellsString_writeString (text : List Char) : SpellsString (writeString text) text :=
  ⟨text.flatMap writeChar, rfl, Text.spellsEach_flatMap spellsChar_writeChar text⟩

/-- No zero is written in front of other digits. -/
theorem toDigits_of_head?_zero {value : Nat} (zero : (Nat.toDigits 10 value).head? = some '0') :
    Nat.toDigits 10 value = ['0'] := by
  induction value using Nat.strongRecOn with
  | _ value ih =>
    rw [Nat.toDigits_eq_if (by decide)] at zero ⊢
    split at zero
    next small => simpa [small] using zero
    next large =>
    rw [List.head?_append, Option.or_of_isSome (List.isSome_head?.mpr Nat.toDigits_ne_nil)] at zero
    have front := congrArg (Nat.ofDigitChars 10 · 0) (ih (value / 10) (by omega) zero)
    have none : value / 10 = 0 := by
      rw [Nat.ofDigitChars_ten_toDigits] at front
      exact front
    omega

theorem spellsNumber_toDigits (value : Nat) : SpellsNumber (Nat.toDigits 10 value) value where
  nonempty := Nat.toDigits_ne_nil
  areDigits _ member := Nat.isDigit_of_mem_toDigits (by decide) (by decide) member
  noLeadingZero := toDigits_of_head?_zero
  value := Nat.ofDigitChars_ten_toDigits.symm

/-- Items on lines of their own are a sequence. -/
theorem sequence_lines {α : Type} {Item : List Char → α → Prop} {items : List α}
    {text : α → List Char} {margin last : List Char} (margined : Blank margin) (ended : Blank last)
    (nonempty : items ≠ []) (spelled : ∀ item ∈ items, Item (text item) item) :
    Sequence Item ([','].intercalate (items.map fun item => margin ++ text item) ++ last) items := by
  induction items with
  | nil => exact absurd rfl nonempty
  | cons first later ih =>
    have head := spelled first List.mem_cons_self
    cases later with
    | nil => simpa using Sequence.one margined head ended
    | cons second later =>
      have tail := ih (by simp) fun item member => spelled item (List.mem_cons_of_mem first member)
      simpa [List.intercalate_cons_cons] using Sequence.more margined head .nil tail

theorem writeItems_cons (depth : Nat) (separator : List Char) (item : Json) (later : List Json) :
    writeItems depth separator (item :: later) =
      separator ++
        [','].intercalate ((item :: later).map fun item => newLine depth ++ write depth item) := by
  induction later generalizing separator item with
  | nil => simp [writeItems]
  | cons next later ih =>
    rw [writeItems, ih]
    simp [List.intercalate_cons_cons]

/-- A field on its line, without the margin. -/
def writeField (depth : Nat) (field : String × Json) : List Char :=
  writeString field.1.toList ++ [':', ' '] ++ write depth field.2

theorem writeFields_cons (depth : Nat) (separator : List Char) (field : String × Json)
    (later : List (String × Json)) :
    writeFields depth separator (field :: later) =
      separator ++
        [','].intercalate
          ((field :: later).map fun field => newLine depth ++ writeField depth field) := by
  induction later generalizing separator field with
  | nil => simp [writeFields, writeField]
  | cons next later ih =>
    rw [writeFields, ih]
    simp [List.intercalate_cons_cons, writeField]

theorem member_writeField {depth : Nat} {field : String × Json}
    (spelled : Spells (write depth field.2) field.2) :
    Member Spells (writeField depth field) field := by
  have space : Blank [' '] := by simp [Blank, isBlank]
  simpa [writeField] using Member.colon (spellsString_writeString field.1.toList) .nil space spelled

theorem sizeOf_lt_of_mem_fields {fields : List (String × Json)} {name : String} {value : Json}
    (member : (name, value) ∈ fields) : sizeOf value < sizeOf (object fields) := by
  have inside := List.sizeOf_lt_of_mem member
  simp only [Prod.mk.sizeOf_spec, object.sizeOf_spec] at inside ⊢
  omega

/-- The indented form of a value is one of its texts. -/
theorem spells_write (depth : Nat) (value : Json) : Spells (write depth value) value := by
  match value with
  | .null => exact .null
  | .bool true => exact .true
  | .bool false => exact .false
  | .number value => exact .number (spellsNumber_toDigits value)
  | .string value => exact .string (spellsString_writeString value)
  | .array [] => exact .array (.none .nil)
  | .array (first :: later) =>
    have lines := sequence_lines (blank_newLine (depth + 1)) (blank_newLine depth)
      (List.cons_ne_nil first later) fun item _ => spells_write (depth + 1) item
    simpa [write, writeItems_cons] using Spells.array (.some lines)
  | .object [] => exact .object (.none .nil)
  | .object (first :: later) =>
    have spelled : ∀ field ∈ first :: later, Member Spells (writeField (depth + 1) field) field := by
      intro (name, value) member
      exact member_writeField (spells_write (depth + 1) value)
    have lines := sequence_lines (blank_newLine (depth + 1)) (blank_newLine depth)
      (List.cons_ne_nil first later) spelled
    simpa [write, writeFields_cons] using Spells.object (.some lines)
termination_by sizeOf value
decreasing_by
  · decreasing_tactic
  · exact sizeOf_lt_of_mem_fields member

end SqlIdentifier.Json
