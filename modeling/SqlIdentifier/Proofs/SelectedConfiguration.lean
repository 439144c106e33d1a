import SqlIdentifier.Program
import SqlIdentifier.Proofs.FilePaths

namespace SqlIdentifier

namespace CommandLine

theorem Level.allowsEnvironment_none (level : Level) :
    level.allowsEnvironment (fun _ => none) = true := by
  refine List.all_eq_true.mpr fun switch _ => ?_
  cases switch.environment? <;> simp

section Environment

variable {environment : String → Option String} {path : Option String} {request : Request}

theorem Invocation.ofHelp_ne_run (arguments : List String) : ofHelp arguments ≠ .run path request := by
  unfold ofHelp
  split
  · simp
  · split <;> simp
  · simp

theorem Invocation.ofLevels_run {form : CommandForm} {before behind : Level}
    (runs : ofLevels environment form before behind = .run path request) :
    ∃ given, ofLevels (fun _ => none) form before behind = .run given request ∧
      path = (given <|> environment "SQLIDT_CONFIG") := by
  unfold ofLevels at runs ⊢
  simp only at runs ⊢
  split at runs
  · simp at runs
  · rename_i accepted
    have texts : behind.texts.isEmpty = false := by simp_all
    obtain ⟨rfl, rfl⟩ := Invocation.run.inj runs
    refine ⟨_, by rw [texts, behind.allowsEnvironment_none, before.allowsEnvironment_none]; rfl, ?_⟩
    cases behind.value? .config <;> cases before.value? .config <;> rfl

/-- A command that is understood in some environment is the same without the variables. The path is
that of the command line, or else that of the variable. -/
theorem read_run {arguments : List String}
    (parsed : read arguments environment = .run path request) :
    ∃ given, read arguments (fun _ => none) = .run given request ∧
      path = (given <|> environment "SQLIDT_CONFIG") := by
  have stopped (stop : Stop) (command : Option String) :
      stop.invocation command ≠ .run path request := by
    cases stop <;> simp [Stop.invocation]
  unfold read at parsed ⊢
  split at parsed
  · exact absurd parsed (stopped _ _)
  · simp at parsed
  · split at parsed
    · exact absurd parsed (Invocation.ofHelp_ne_run _)
    · rename_i noHelp
      rw [if_neg noHelp]
      split at parsed
      · simp at parsed
      · split at parsed
        · exact absurd parsed (stopped _ _)
        · exact Invocation.ofLevels_run parsed

end Environment

end CommandLine

/-- A file with this configuration. -/
def Found.Loads (found : Found) (config : Config) : Prop :=
  ∃ content, found = .file content ∧ Config.ofToml? content = some config

namespace Config

theorem read?_eq_none_iff {found : Found} : read? found = none ↔ found = .missing := by
  cases found <;> simp [read?]

theorem read?_eq_ok_iff {found : Found} {config : Config} :
    read? found = some (.ok config) ↔ found.Loads config := by
  cases found with
  | missing => simp [read?, Found.Loads]
  | directory => simp [read?, Found.Loads]
  | unreadable error => simp [read?, Found.Loads]
  | file content =>
    simp only [read?, ofFile, Found.Loads, Found.file.injEq, exists_eq_left']
    cases ofToml? content <;> simp

end Config

namespace ConfigPlace

/-- The place of the configuration that counts: the given path, whatever stands there, or else the
first place of the search where something stands. -/
inductive Selects (find : ConfigPlace → Found) : Option String → ConfigPlace → Prop
  | given (path : String) : Selects find (some path) (.given path)
  | first {before after : List ConfigPlace} {place : ConfigPlace} :
      search = before ++ place :: after → (∀ earlier ∈ before, find earlier = .missing) →
      find place ≠ .missing → Selects find none place

section Selects

variable {find find' : ConfigPlace → Found} {path : Option String} {place : ConfigPlace}

/-- One place counts, unless nothing is given and nothing found. -/
theorem selects_or_missing (find : ConfigPlace → Found) (path : Option String) :
    (∃ place, Selects find path place) ∨
      path = none ∧ ∀ place ∈ search, find place = .missing := by
  cases path with
  | some path => exact Or.inl ⟨_, .given path⟩
  | none =>
    cases found : search.find? (fun place => find place ≠ .missing) with
    | some place =>
      obtain ⟨present, before, after, parts, earlier⟩ := List.find?_eq_some_iff_append.mp found
      exact Or.inl ⟨place, .first parts (by simpa using earlier) (by simpa using present)⟩
    | none => exact Or.inr ⟨rfl, by simpa using found⟩

/-- The search reads what stands at the place that counts. -/
theorem Selects.findSome?_eq (selects : Selects find none place) :
    ∃ outcome, Config.read? (find place) = some outcome ∧
      search.findSome? (fun place => Config.read? (find place)) = some outcome := by
  cases selects with
  | first parts earlier present =>
    have isRead := mt Config.read?_eq_none_iff.mp present
    obtain ⟨outcome, read⟩ := Option.ne_none_iff_exists'.mp isRead
    refine ⟨outcome, read, List.findSome?_eq_some_iff.mpr ⟨_, place, _, parts, read, ?_⟩⟩
    exact fun place member => Config.read?_eq_none_iff.mpr (earlier place member)

theorem Selects.load_congr (selects : Selects find path place) (selects' : Selects find' path place)
    (same : find place = find' place) : Config.load find path = Config.load find' path := by
  cases path with
  | some path =>
    cases selects with
    | given => rw [Config.load, Config.load, same]
  | none =>
    obtain ⟨outcome, read, found⟩ := selects.findSome?_eq
    obtain ⟨outcome', read', found'⟩ := selects'.findSome?_eq
    rw [same, read'] at read
    rw [Config.load, Config.load, found, found', read]

theorem Selects.load_eq_ok_iff (selects : Selects find path place) {config : Config} :
    Config.load find path = .ok config ↔ (find place).Loads config := by
  rw [← Config.read?_eq_ok_iff]
  cases path with
  | some path =>
    cases selects with
    | given =>
      rw [Config.load]
      cases Config.read? (find (.given path)) <;> simp
  | none =>
    obtain ⟨outcome, read, found⟩ := selects.findSome?_eq
    simp [Config.load, read, found]

theorem load_of_missing (missing : ∀ place ∈ search, find place = .missing) :
    Config.load find none = .ok {} := by
  have absent : search.findSome? (fun place => Config.read? (find place)) = none :=
    List.findSome?_eq_none_iff.mpr fun place member =>
      Config.read?_eq_none_iff.mpr (missing place member)
  rw [Config.load, absent, Option.getD_none]

end Selects

/-- In an empty tree no place of the search holds anything, wherever the program runs. -/
theorem find_emptyTree (directories : Directories) (working : List String) :
    ∀ place ∈ search, place.find directories (FileTree.emptyTree.findAt working) = .missing := by
  have plain : FileTree.IsPlainName "sqlidt.toml" := by decide
  have behind (front directory : String) :
      FileTree.emptyTree.findAt working (front ++ (directory ++ "/" ++ "sqlidt.toml")) =
        .missing := by
    have ends := FileTree.names_append_slash (front ++ directory) plain.2
    simp only [String.append_assoc] at ends ⊢
    exact FileTree.findAt_emptyTree working plain ends
  intro place member
  cases place with
  | given path => simp [search] at member
  | working =>
    have ends : FileTree.names "sqlidt.toml" = [] ++ ["sqlidt.toml"] := by decide
    exact FileTree.findAt_emptyTree working plain ends
  | home =>
    cases known : directories.home with
    | none => simp [find, path?, known]
    | some home => simpa [find, path?, known] using behind home "/.config/sqlidt"
  | system =>
    cases known : directories.system with
    | none => simp [find, path?, known]
    | some system => simpa [find, path?, known] using behind system "/sqlidt"

end ConfigPlace

namespace Exit

section Run

open ConfigPlace (Selects search)

variable {arguments : List String} {environment : String → Option String} {path : Option String}
  {request : Request}

theorem run_eq (parsed : CommandLine.read arguments environment = .run path request)
    (find : ConfigPlace → Found) :
    run arguments environment find = ofLoaded request (Config.load find path) := by
  rw [run, parsed, ofInvocation]

theorem ofLoaded_of_not_ok {loaded : Except Failure Config}
    (failed : ∀ config, loaded ≠ .ok config) :
    (ofLoaded request loaded).status = 1 ∧ (ofLoaded request loaded).stdout = "" := by
  cases loaded with
  | error failure => exact ⟨rfl, rfl⟩
  | ok config => exact absurd rfl (failed config)

end Run

end Exit

end SqlIdentifier
