import SqlIdentifier.Program
import SqlIdentifier.Proofs.TomlLines

namespace SqlIdentifier.Config

open Toml (Value Entries)

/-- What a configuration file can set. -/
inductive Setting where
  | verbose
  | grammar
  | format
  | escape
  deriving DecidableEq

namespace Setting

def all : List Setting :=
  [verbose, grammar, format, escape]

/-- The table in which a setting stands, if it does not stand at the top. -/
def table? : Setting → Option String
  | verbose | grammar => none
  | format => some "output"
  | escape => some "quote"

def key : Setting → String
  | verbose => "verbose"
  | grammar => "grammar"
  | format => "format"
  | escape => "escape"

def value (config : Config) : Setting → Value
  | verbose => .boolean config.verbose
  | grammar => .string config.dialect.name.toList
  | format => .string config.format.name.toList
  | escape => .string [config.escape]

/-- The chosen settings of one table, or of the top. -/
def chosenIn (chosen : Setting → Bool) (table? : Option String) : List Setting :=
  all.filter fun setting => chosen setting && setting.table? = table?

def entry (config : Config) (setting : Setting) : String × Value :=
  (setting.key, setting.value config)

/-- The text of a value. -/
def written (config : Config) : Setting → List Char
  | verbose => (toString config.verbose).toList
  | grammar => Toml.writeString config.dialect.name.toList
  | format => Toml.writeString config.format.name.toList
  | escape => Toml.writeString [config.escape]

def line (config : Config) (setting : Setting) : List Char :=
  setting.key.toList ++ ' ' :: '=' :: ' ' :: (setting.written config ++ ['\n'])

end Setting

def tableNames : List String :=
  ["output", "quote"]

/-- The keys that mean something in some table. -/
def knownKeys : List String :=
  tableNames ++ Setting.all.map Setting.key

/-- The configuration with its own values for the chosen settings only. -/
def only (config : Config) (chosen : Setting → Bool) : Config :=
  let initial : Config := {}
  { verbose := if chosen .verbose then config.verbose else initial.verbose
    dialect := if chosen .grammar then config.dialect else initial.dialect
    format := if chosen .format then config.format else initial.format
    escape := if chosen .escape then config.escape else initial.escape }

/-- The entries of a table, in any order: the chosen settings that stand in it, and booleans under
keys that are not known. -/
def Holds (config : Config) (chosen : Setting → Bool) (table? : Option String) (entries : Entries) :
    Prop :=
  ∃ extras : List (String × Bool),
    entries.Perm ((Setting.chosenIn chosen table?).map (Setting.entry config) ++
      extras.map fun (key, value) => (key, .boolean value)) ∧
    (extras.map Prod.fst).Nodup ∧ ∀ extra ∈ extras, extra.1 ∉ knownKeys

/-- Tables, in any order, in which there is a place for all chosen settings. -/
structure HasPlaces (chosen : Setting → Bool) (names : List String) : Prop where
  distinct : names.Nodup
  known : ∀ name ∈ names, name ∈ tableNames
  places : ∀ setting name, chosen setting = true → setting.table? = some name → name ∈ names

/-- A file that writes the chosen settings of a configuration, as the entries at its top and the
tables behind them. -/
structure WritesEntries (config : Config) (chosen : Setting → Bool) (text : List Char)
    (top : Entries) (tables : List (String × Entries)) : Prop where
  lines : Toml.Lines text (top.map Toml.assign ++ tables.flatMap Toml.tableStatements)
  names : HasPlaces chosen (tables.map Prod.fst)
  top : Holds config chosen none top
  tables : ∀ table ∈ tables, Holds config chosen (some table.1) table.2

def Writes (config : Config) (chosen : Setting → Bool) (text : List Char) : Prop :=
  ∃ top tables, WritesEntries config chosen text top tables

/-- The chosen settings of a configuration, each on a line, with the tables in the given order. -/
def document (config : Config) (chosen : Setting → Bool) (names : List String) : List Char :=
  let lines (table? : Option String) := (Setting.chosenIn chosen table?).flatMap (Setting.line config)
  lines none ++ names.flatMap fun name => '[' :: (name.toList ++ ']' :: '\n' :: lines (some name))

namespace Setting

theorem mem_all (setting : Setting) : setting ∈ all := by
  cases setting <;> decide

theorem mem_chosenIn_iff {chosen : Setting → Bool} {table? : Option String} {setting : Setting} :
    setting ∈ chosenIn chosen table? ↔ chosen setting = true ∧ setting.table? = table? := by
  simp [chosenIn, mem_all]

theorem key_injective {setting other : Setting} (same : setting.key = other.key) :
    setting = other := by
  cases setting <;> cases other <;> first | rfl | exact absurd same (by decide)

theorem key_known (setting : Setting) : setting.key ∈ knownKeys := by
  cases setting <;> decide

theorem table?_listed (setting : Setting) {name : String} (inside : setting.table? = some name) :
    name ∈ tableNames := by
  cases setting with
  | verbose | grammar => simp [table?] at inside
  | format | escape =>
    obtain rfl := Option.some.inj inside
    decide

theorem key_not_tableName (setting : Setting) : setting.key ∉ tableNames := by
  cases setting <;> decide

section Decoded

variable (config : Config)

theorem verbose_decoded : boolean? (verbose.value config) = some config.verbose := rfl

theorem grammar_decoded :
    choice? Dialect.ofName? (grammar.value config) = some config.dialect := by
  rw [value, choice?, String.ofList_toList, Dialect.ofName?_name]

theorem format_decoded :
    choice? Report.Format.ofName? (format.value config) = some config.format := by
  rw [value, choice?, String.ofList_toList, Report.Format.ofName?_name]

theorem escape_decoded : char? (escape.value config) = some config.escape := rfl

end Decoded

end Setting

theorem tableName_known {name : String} (table : name ∈ tableNames) : name ∈ knownKeys :=
  List.mem_append_left _ table

namespace Holds

variable {config : Config} {chosen : Setting → Bool} {table? : Option String} {entries : Entries}

/-- A known key of a table is that of a chosen setting. -/
theorem exists_setting (holds : Holds config chosen table? entries) {key : String}
    (member : key ∈ entries.map Prod.fst) (known : key ∈ knownKeys) :
    ∃ setting, key = setting.key ∧ chosen setting = true ∧ setting.table? = table? := by
  obtain ⟨extras, permuted, _, unknown⟩ := holds
  rw [(permuted.map Prod.fst).mem_iff, List.map_append, List.mem_append] at member
  rcases member with own | extra
  · simp only [List.map_map, List.mem_map, Setting.mem_chosenIn_iff] at own
    obtain ⟨setting, inside, rfl⟩ := own
    exact ⟨setting, rfl, inside⟩
  · simp only [List.map_map, List.mem_map] at extra
    obtain ⟨extra, member, rfl⟩ := extra
    exact absurd known (unknown extra member)

theorem distinct (holds : Holds config chosen table? entries) : Toml.DistinctKeys entries := by
  obtain ⟨extras, permuted, distinctExtras, unknown⟩ := holds
  have allKeys : (Setting.all.map Setting.key).Nodup := by decide
  have ownKeys : ((Setting.chosenIn chosen table?).map Setting.key).Nodup :=
    allKeys.sublist (List.filter_sublist.map Setting.key)
  rw [Toml.DistinctKeys, (permuted.map Prod.fst).nodup_iff, List.map_append, List.map_map,
    List.map_map, List.nodup_append]
  refine ⟨ownKeys, distinctExtras, ?_⟩
  rintro key own other isExtra rfl
  obtain ⟨setting, _, rfl⟩ := List.mem_map.mp own
  obtain ⟨extra, member, same⟩ := List.mem_map.mp isExtra
  have sameKey : extra.1 = setting.key := same
  have unknownKey := unknown extra member
  rw [sameKey] at unknownKey
  exact unknownKey setting.key_known

theorem lookup_chosen (holds : Holds config chosen table? entries) {setting : Setting}
    (isChosen : chosen setting = true) (inside : setting.table? = table?) :
    entries.lookup setting.key = some (setting.value config) := by
  have distinct := holds.distinct
  obtain ⟨extras, permuted, _, _⟩ := holds
  have member := Setting.mem_chosenIn_iff.mpr ⟨isChosen, inside⟩
  refine distinct.lookup_eq_some (permuted.mem_iff.mpr (List.mem_append_left _ ?_))
  exact List.mem_map_of_mem member

theorem lookup_not_chosen (holds : Holds config chosen table? entries) {setting : Setting}
    (notChosen : chosen setting = false) : entries.lookup setting.key = none := by
  refine Toml.lookup_eq_none_iff.mpr fun member => ?_
  obtain ⟨other, same, isChosen, _⟩ := holds.exists_setting member setting.key_known
  rw [Setting.key_injective same, isChosen] at notChosen
  contradiction

/-- A setting is read from its table, or is missing there. -/
theorem get?_eq (holds : Holds config chosen table? entries) {setting : Setting}
    (inside : setting.table? = table?) {α : Type} {decode? : Value → Option α} {value : α}
    (decoded : decode? (setting.value config) = some value) (default : α) :
    get? entries setting.key default decode? = some (if chosen setting then value else default) := by
  cases isChosen : chosen setting with
  | true => simp [get?, holds.lookup_chosen isChosen inside, decoded]
  | false => simp [get?, holds.lookup_not_chosen isChosen]

theorem not_mem_tableNames (holds : Holds config chosen table? entries) {name : String}
    (table : name ∈ tableNames) : name ∉ entries.map Prod.fst := by
  intro member
  obtain ⟨setting, rfl, _⟩ := holds.exists_setting member (tableName_known table)
  exact setting.key_not_tableName table

end Holds

namespace WritesEntries

variable {config : Config} {chosen : Setting → Bool} {text : List Char} {top : Entries}
  {tables : List (String × Entries)}

theorem distinct (writes : WritesEntries config chosen text top tables) :
    Toml.DistinctKeys (Toml.rootEntries top tables) := by
  rw [Toml.DistinctKeys, Toml.keys_rootEntries, List.nodup_append]
  refine ⟨writes.top.distinct, writes.names.distinct, ?_⟩
  rintro key own name table rfl
  exact writes.top.not_mem_tableNames (writes.names.known key table) own

theorem isDocument (writes : WritesEntries config chosen text top tables) :
    Toml.IsDocument text top tables :=
  ⟨writes.lines, writes.distinct, fun table member => (writes.tables table member).distinct⟩

/-- A setting at the top does not stand among the tables. -/
theorem get?_top (writes : WritesEntries config chosen text top tables) (setting : Setting)
    (inside : setting.table? = none) {α : Type} {decode? : Value → Option α} {value : α}
    (decoded : decode? (setting.value config) = some value) (default : α) :
    get? (Toml.rootEntries top tables) setting.key default decode? =
      some (if chosen setting then value else default) := by
  have noTable : setting.key ∉ tables.map Prod.fst := fun member =>
    setting.key_not_tableName (writes.names.known _ member)
  rw [get?, Toml.lookup_rootEntries noTable]
  exact writes.top.get?_eq inside decoded default

/-- Both a table that is missing and a table without the setting leave the default. -/
theorem get?_table (writes : WritesEntries config chosen text top tables) (setting : Setting)
    {tableName : String} (inside : setting.table? = some tableName) {α : Type}
    {decode? : Value → Option α} {value : α}
    (decoded : decode? (setting.value config) = some value) (default : α) :
    get? (Toml.rootEntries top tables) tableName default (setting? setting.key default decode?) =
      some (if chosen setting then value else default) := by
  by_cases present : tableName ∈ tables.map Prod.fst
  · obtain ⟨⟨name, entries⟩, member, rfl⟩ := List.mem_map.mp present
    have found : (Toml.rootEntries top tables).lookup name = some (.table .header entries) :=
      writes.distinct.lookup_eq_some (List.mem_append_right _ (List.mem_map_of_mem member))
    rw [get?, found]
    exact (writes.tables _ member).get?_eq inside decoded default
  · have notChosen : chosen setting = false :=
      Bool.eq_false_iff.mpr fun isChosen => present (writes.names.places setting _ isChosen inside)
    have isTable : tableName ∈ tableNames := setting.table?_listed inside
    have missing : (Toml.rootEntries top tables).lookup tableName = none := by
      rw [Toml.lookup_rootEntries present, Toml.lookup_eq_none_iff]
      exact writes.top.not_mem_tableNames isTable
    simp [get?, missing, notChosen]

theorem ofEntries?_eq (writes : WritesEntries config chosen text top tables) :
    ofEntries? (Toml.rootEntries top tables) = some (config.only chosen) := by
  let initial : Config := {}
  have verbose := writes.get?_top .verbose rfl (Setting.verbose_decoded config) initial.verbose
  have dialect := writes.get?_top .grammar rfl (Setting.grammar_decoded config) initial.dialect
  have format := writes.get?_table .format rfl (Setting.format_decoded config) initial.format
  have escape := writes.get?_table .escape rfl (Setting.escape_decoded config) initial.escape
  simp only [Setting.key] at verbose dialect format escape
  simp only [ofEntries?, initial, verbose, dialect, format, escape]
  rfl

end WritesEntries

theorem Writes.ofToml?_eq {config : Config} {chosen : Setting → Bool} {text : List Char}
    (writes : Writes config chosen text) :
    ofToml? (String.ofList text) = some (config.only chosen) := by
  obtain ⟨top, tables, writes⟩ := writes
  have read := writes.isDocument.read?_eq
  simp [ofToml?, String.toList_ofList, read, writes.ofEntries?_eq]

section Document

variable {config : Config} {chosen : Setting → Bool}

theorem holds_chosenIn (config : Config) (chosen : Setting → Bool) (table? : Option String) :
    Holds config chosen table? ((Setting.chosenIn chosen table?).map (Setting.entry config)) :=
  ⟨[], by simp, by simp, by simp⟩

theorem Setting.isBareKey_key (setting : Setting) : Toml.IsBareKey setting.key.toList := by
  cases setting <;> exact Toml.isBareKey_of_all (by decide) (by decide)

theorem isBareKey_tableName {name : String} (table : name ∈ tableNames) :
    Toml.IsBareKey name.toList := by
  rcases List.mem_cons.mp table with rfl | table
  · exact Toml.isBareKey_of_all (by decide) (by decide)
  · obtain rfl := List.mem_singleton.mp table
    exact Toml.isBareKey_of_all (by decide) (by decide)

theorem Setting.spells_written (config : Config) (setting : Setting) :
    Toml.Spells (setting.written config) (setting.value config) := by
  cases setting with
  | verbose => exact .boolean config.verbose
  | grammar => exact Toml.spells_writeString _
  | format => exact Toml.spells_writeString _
  | escape => exact Toml.spells_writeString _

theorem lines_settings (config : Config) (settings : List Setting) {later : List Char}
    {made : List Toml.Statement} (rest : Toml.Lines later made) :
    Toml.Lines (settings.flatMap (Setting.line config) ++ later)
      ((settings.map (Setting.entry config)).map Toml.assign ++ made) := by
  have noBlanks : Toml.Blanks [] := List.forall_mem_nil _
  have oneBlank : Toml.Blanks [' '] := by simp [Toml.Blanks, Toml.isBlank]
  induction settings with
  | nil => exact rest
  | cons setting settings ih =>
    have first := Toml.Lines.entry noBlanks setting.isBareKey_key oneBlank oneBlank
      (setting.spells_written config) noBlanks ih
    simpa [Setting.line, Toml.assign, Setting.entry] using first

theorem lines_document {names : List String} (known : ∀ name ∈ names, name ∈ tableNames) :
    Toml.Lines (document config chosen names)
      (((Setting.chosenIn chosen none).map (Setting.entry config)).map Toml.assign ++
        (names.map fun name => (name, (Setting.chosenIn chosen (some name)).map
          (Setting.entry config))).flatMap Toml.tableStatements) := by
  refine lines_settings config _ ?_
  induction names with
  | nil => exact .nil
  | cons name names ih =>
    obtain ⟨first, others⟩ := List.forall_mem_cons.mp known
    have inside := lines_settings config (Setting.chosenIn chosen (some name)) (ih others)
    have table := Toml.Lines.header (isBareKey_tableName first) inside
    simpa [Toml.tableStatements] using table

/-- The settings without anything else are such a file, with the tables in any order, also without
a table that holds no setting. -/
theorem writes_document {names : List String} (places : HasPlaces chosen names) :
    Writes config chosen (document config chosen names) := by
  refine ⟨_, _, lines_document places.known, ?_, holds_chosenIn config chosen none, ?_⟩
  · simpa [Function.comp_def] using places
  · intro table member
    obtain ⟨name, _, rfl⟩ := List.mem_map.mp member
    exact holds_chosenIn config chosen (some name)

end Document

/-- A file that writes the chosen settings of a configuration loads, to these settings and the
defaults of all others. Among such files are those with nothing else in them, with the tables in
either order. -/
theorem settings_file_loads (config : Config) (chosen : Setting → Bool) :
    (∀ names, HasPlaces chosen names → Writes config chosen (document config chosen names)) ∧
      ∀ text, Writes config chosen text →
        read? (.file (String.ofList text)) = some (.ok (config.only chosen)) := by
  refine ⟨fun names places => writes_document places, fun text writes => ?_⟩
  simp [read?, ofFile, writes.ofToml?_eq]

/-- A file with two settings of four, and with a key at its top and one in a table that mean
nothing. -/
theorem settings_file_loads_unknownKeys :
    read? (.file
      "debug = true\nverbose = true\n\n[quote]\nescape = \"\\u0022\"\nx-1 = false\n") =
        some (.ok { verbose := true, escape := '"' }) := by
  let config : Config := { verbose := true, dialect := .iso, format := .json, escape := '"' }
  let chosen (setting : Setting) : Bool := setting = .verbose || setting = .escape
  have noBlanks : Toml.Blanks [] := List.forall_mem_nil _
  have oneBlank : Toml.Blanks [' '] := by simp [Toml.Blanks, Toml.isBlank]
  have debug : Toml.IsBareKey "debug".toList := Toml.isBareKey_of_all (by decide) (by decide)
  have other : Toml.IsBareKey "x-1".toList := Toml.isBareKey_of_all (by decide) (by decide)
  have line {key : String} {value : Value} {written later : List Char}
      {made : List Toml.Statement} (bare : Toml.IsBareKey key.toList)
      (spelled : Toml.Spells written value) (rest : Toml.Lines later made) :=
    Toml.Lines.entry noBlanks bare oneBlank oneBlank spelled noBlanks rest
  have lines := line debug (.boolean true) (line Setting.verbose.isBareKey_key (.boolean true)
    (.blank noBlanks (.header (isBareKey_tableName (by decide : "quote" ∈ tableNames))
      (line Setting.escape.isBareKey_key (Setting.escape.spells_written config)
        (line other (.boolean false) .nil)))))
  have places : HasPlaces chosen ["quote"] := by
    refine ⟨by decide, by decide, fun setting name isChosen inside => ?_⟩
    cases setting <;> simp_all [chosen, Setting.table?]
  have top : Holds config chosen none [("debug", .boolean true), ("verbose", .boolean true)] :=
    ⟨[("debug", true)], List.Perm.swap _ _ _, by decide, by decide⟩
  have quote : Holds config chosen (some "quote")
      [("escape", .string ['"']), ("x-1", .boolean false)] :=
    ⟨[("x-1", false)], List.Perm.refl _, by decide, by decide⟩
  have writes : Writes config chosen _ :=
    ⟨[("debug", .boolean true), ("verbose", .boolean true)],
      [("quote", [("escape", .string ['"']), ("x-1", .boolean false)])], lines, places, top, by
        simpa using quote⟩
  have loaded := (settings_file_loads config chosen).2 _ writes
  have result : config.only chosen = { verbose := true, escape := '"' } := by decide
  rw [result] at loaded
  refine Eq.trans (congrArg (fun text => read? (.file text)) ?_) loaded
  decide

end SqlIdentifier.Config
