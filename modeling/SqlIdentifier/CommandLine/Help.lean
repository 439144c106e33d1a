import SqlIdentifier.CommandLine

namespace SqlIdentifier.CommandLine

namespace Switch

def about : Switch → String
  | verbose => "Enable verbose output"
  | config => "Path to configuration file"
  | noColor => "Disable color output"
  | format => "Output format (default: from config)"
  | help => "Print help"
  | version => "Print version"
  | grammar => "Grammar to check against (default: from config)"
  | unicode => "Write U&\"...\" with Unicode escapes outside printable ASCII"
  | escape => "Escape character for --unicode (default: from config)"

def synopsis (switch : Switch) : String :=
  let letter :=
    match switch.short? with
    | none => "    "
    | some letter => String.ofList ['-', letter, ',', ' ']
  let value := if switch.takesValue then " <" ++ switch.long.toUpper ++ ">" else ""
  letter ++ "--" ++ switch.long ++ value

end Switch

/-- A part of the help: a title, and names with what they mean. -/
def helpPart (title : String) (rows : List (String × String)) : List String :=
  let width := (rows.map fun (name, _) => name.length).foldl max 0
  let line (row : String × String) : String :=
    "  " ++ String.ofList (row.1.toList.rightpad width ' ') ++ "  " ++ row.2
  ["", title ++ ":"] ++ rows.map line

def optionsPart (own : List Switch) : List String :=
  helpPart "Options" ((own ++ Switch.global).map fun switch => (switch.synopsis, switch.about))

def aboutHelp : String :=
  "Print this message or the help of the given subcommand(s)"

/-- The help on the program, or on the command that is named. -/
def help (command : Option String) : String :=
  let lines : List String :=
    match command with
    | none =>
      ["Check, decode and quote SQL identifiers", "", "Usage: sqlidt [OPTIONS] <COMMAND>"] ++
        helpPart "Commands" (forms.map (fun form => (form.name, form.about)) ++
          [(helpName, aboutHelp)]) ++
        optionsPart []
    | some name =>
      match forms.find? (·.name = name) with
      | none =>
        [aboutHelp, "", "Usage: sqlidt " ++ name ++ " [COMMAND]..."]
      | some form =>
        [form.about, "", "Usage: sqlidt " ++ name ++ " [OPTIONS] <TEXTS>..."] ++
          helpPart "Arguments" [("<TEXTS>...", form.aboutTexts)] ++ optionsPart form.own
  String.join (lines.map (· ++ "\n"))

end SqlIdentifier.CommandLine
