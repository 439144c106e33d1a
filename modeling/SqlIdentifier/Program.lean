import SqlIdentifier.CommandLine.Help
import SqlIdentifier.Config.File

namespace SqlIdentifier

/-- The directories where the configurations of a user and of the system stand, if there are any. -/
structure Directories where
  home : Option String
  system : Option String

def Directories.ofEnvironment (environment : String → Option String) : Directories :=
  let home := (environment "HOME").filter (!·.isEmpty)
  { home
    system :=
      (environment "XDG_CONFIG_HOME").filter (·.toList.head? = some '/') <|>
        home.map (· ++ "/.config") }

inductive ConfigPlace where
  | given (path : String)
  | working
  | home
  | system
  deriving DecidableEq, Repr

namespace ConfigPlace

/-- The places where a configuration is looked for if no path is given, the first one first. -/
def search : List ConfigPlace :=
  [working, home, system]

def path? (directories : Directories) : ConfigPlace → Option String
  | given path => some path
  | working => some "sqlidt.toml"
  | home => directories.home.map (· ++ "/.config/sqlidt/sqlidt.toml")
  | system => directories.system.map (· ++ "/sqlidt/sqlidt.toml")

/-- What stands at the place, by what stands at each path. -/
def find (directories : Directories) (findAt : String → Found) (place : ConfigPlace) : Found :=
  match place.path? directories with
  | none => .missing
  | some path => findAt path

end ConfigPlace

namespace Config

def ofFile (content : String) : Except Failure Config :=
  match ofToml? content with
  | none => .error .malformedConfiguration
  | some config => .ok config

/-- Reads a configuration from what was found, if anything was. -/
def read? : Found → Option (Except Failure Config)
  | .missing => none
  | .directory => some (.error (.io .isDirectory))
  | .unreadable error => some (.error (.io error))
  | .file content => some (ofFile content)

/-- The configuration at the path that is given, or else the first that is found in the usual
places, or else the default one. -/
def load (find : ConfigPlace → Found) : (path : Option String) → Except Failure Config
  | some path =>
    (read? (find (.given path))).getD
      (.error (.configuration ("Configuration file not found: " ++ path)))
  | none => (ConfigPlace.search.findSome? fun place => read? (find place)).getD (.ok {})

end Config

structure Exit where
  status : Nat
  stdout : String := ""
  errorLine : Option String := none
  deriving DecidableEq, Repr

namespace Exit

def ofOutcome (outcome : Outcome) : Exit :=
  match outcome.failure with
  | none => { status := 0, stdout := outcome.stdout }
  | some failure => { status := 1, stdout := outcome.stdout, errorLine := some failure.line }

def version (command : Option String) : String :=
  match command with
  | none => "sqlidt 0.1.0\n"
  | some name => "sqlidt-" ++ name ++ " 0.1.0\n"

/-- How the program ends when it has tried to load its configuration, before the command runs. -/
def ofLoaded (request : Request) : Except Failure Config → Exit
  | .error failure => ofOutcome ⟨"", some failure⟩
  | .ok config => ofOutcome (request.run config)

def ofInvocation (find : ConfigPlace → Found) : CommandLine.Invocation → Exit
  | .usage => { status := 2 }
  | .help command => { status := 0, stdout := CommandLine.help command }
  | .version command => { status := 0, stdout := version command }
  | .run path request => ofLoaded request (Config.load find path)

def run (arguments : List String) (environment : String → Option String)
    (find : ConfigPlace → Found) : Exit :=
  ofInvocation find (CommandLine.read arguments environment)

end Exit

end SqlIdentifier
