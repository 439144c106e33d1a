import SqlIdentifier.Command

namespace SqlIdentifier.CommandLine

inductive Switch where
  | verbose
  | config
  | noColor
  | format
  | help
  | version
  | grammar
  | unicode
  | escape
  deriving DecidableEq, Repr

namespace Switch

def long : Switch → String
  | verbose => "verbose"
  | config => "config"
  | noColor => "no-color"
  | format => "format"
  | help => "help"
  | version => "version"
  | grammar => "grammar"
  | unicode => "unicode"
  | escape => "escape"

def short? : Switch → Option Char
  | verbose => some 'v'
  | config => some 'c'
  | noColor => none
  | format => some 'F'
  | help => some 'h'
  | version => some 'V'
  | grammar => some 'g'
  | unicode => some 'u'
  | escape => some 'e'

def takesValue : Switch → Bool
  | config | format | grammar | escape => true
  | verbose | noColor | help | version | unicode => false

def allows : Switch → String → Bool
  | config, value => !value.isEmpty
  | format, value => (Report.Format.ofName? value).isSome
  | grammar, value => (Dialect.ofName? value).isSome
  | escape, value => value.length = 1
  | verbose, _ | noColor, _ | help, _ | version, _ | unicode, _ => true

/-- The options that may stand before a command and behind it, where they win. -/
def global : List Switch :=
  [verbose, config, noColor, format, help, version]

/-- The variable of the environment that stands in for an option, and whether a value of it is
allowed. -/
def environment? : Switch → Option (String × (String → Bool))
  | verbose => some ("SQLIDT_VERBOSE", (· ∈ ["true", "false"]))
  | noColor => some ("SQLIDT_NO_COLOR", (· ∈ ["true", "false"]))
  | config => some ("SQLIDT_CONFIG", fun value => !value.isEmpty)
  | _ => none

end Switch

inductive Stop where
  | usage
  | help
  | version
  deriving DecidableEq, Repr

/-- The options and texts that stand before a command, or behind it. -/
structure Level where
  given : List (Switch × String) := []
  texts : List String := []
  deriving DecidableEq, Repr

namespace Level

def value? (level : Level) (switch : Switch) : Option String :=
  level.given.lookup switch

/-- Adds an option. It must not have been given at this level before. -/
def give (level : Level) (switch : Switch) (value : String) : Except Stop Level :=
  if switch = .help then .error .help
  else if switch = .version then .error .version
  else if (level.value? switch).isSome || !switch.allows value then .error .usage
  else .ok { level with given := level.given ++ [(switch, value)] }

/-- Adds the options of one argument behind its single hyphen, and says whether the last of them
still needs a value. An option with a value takes what is left of the argument. -/
def giveShort (available : List Switch) : Level → List Char → Except Stop (Level × Option Switch)
  | level, [] => .ok (level, none)
  | level, letter :: more =>
    match available.find? (·.short? = some letter) with
    | none => .error .usage
    | some switch =>
      if !switch.takesValue then do giveShort available (← level.give switch "") more
      else
        match more with
        | [] => .ok (level, some switch)
        | '=' :: value => do return (← level.give switch (String.ofList value), none)
        | value => do return (← level.give switch (String.ofList value), none)

/-- Adds the option of one argument behind its two hyphens, and says whether it still needs a
value. -/
def giveLong (available : List Switch) (level : Level) (argument : List Char) :
    Except Stop (Level × Option Switch) :=
  let name := argument.takeWhile (· ≠ '=')
  match available.find? (·.long.toList = name) with
  | none => .error .usage
  | some switch =>
    match switch.takesValue, argument.drop name.length with
    | false, [] => do return (← level.give switch "", none)
    | false, _ => .error .usage
    | true, [] => .ok (level, some switch)
    | true, _ :: value => do return (← level.give switch (String.ofList value), none)

def isValue (argument : String) : Bool :=
  match argument.toList with
  | '-' :: _ :: _ => false
  | _ => true

/-- Reads arguments that may be options. Before a command the reading ends at the first argument
that is none; behind it such arguments are texts, as are all arguments behind two hyphens. The
option that waits for its value, if there is one, takes the next argument. -/
def read (available : List Switch) (takesTexts : Bool) :
    Level → (waiting : Option Switch) → List String → Except Stop (Level × List String)
  | level, none, [] => .ok (level, [])
  | _, some _, [] => .error .usage
  | level, some switch, argument :: later =>
    if isValue argument then do
      read available takesTexts (← level.give switch argument) none later
    else .error .usage
  | level, none, argument :: later =>
    match argument.toList with
    | ['-', '-'] =>
      if takesTexts then .ok ({ level with texts := level.texts ++ later }, [])
      else .error .usage
    | '-' :: '-' :: long => do
      let (level, waiting) ← giveLong available level long
      read available takesTexts level waiting later
    | '-' :: letter :: letters => do
      let (level, waiting) ← giveShort available level (letter :: letters)
      read available takesTexts level waiting later
    | _ =>
      if takesTexts then
        read available takesTexts { level with texts := level.texts ++ [argument] } none later
      else .ok (level, argument :: later)

/-- Whether the variables of the environment are allowed. The variable of an option that is given is
not looked at. -/
def allowsEnvironment (level : Level) (environment : String → Option String) : Bool :=
  Switch.global.all fun switch =>
    (level.value? switch).isSome ||
      match switch.environment? with
      | none => true
      | some (name, allowed) => (environment name).all allowed

end Level

/-- A command by its name, with what the help says of it and of its texts, and the options that
belong to it. -/
structure CommandForm where
  name : String
  about : String
  aboutTexts : String
  own : List Switch
  command : Level → Command

def forms : List CommandForm :=
  [{ name := "check"
     about := "Check texts against a regular-identifier grammar"
     aboutTexts := "Texts to check"
     own := [.grammar]
     command := fun level => .check ((level.value? .grammar).bind Dialect.ofName?) },
    { name := "decode"
      about := "Decode identifiers to their literal text"
      aboutTexts := "Identifiers to decode"
      own := []
      command := fun _ => .decode },
    { name := "quote"
      about := "Quote texts as delimited identifiers"
      aboutTexts := "Texts to quote"
      own := [.unicode, .escape]
      command := fun level =>
        .quote (level.value? .unicode).isSome ((level.value? .escape).bind (·.toList.head?)) }]

/-- The command that shows help instead of taking texts. -/
def helpName : String := "help"

/-- What a command line asks for. Help and version are those of the command that is named, or of the
whole program. -/
inductive Invocation where
  | usage
  | help (command : Option String)
  | version (command : Option String)
  | run (configPath : Option String) (request : Request)
  deriving DecidableEq, Repr

def Stop.invocation (command : Option String) : Stop → Invocation
  | usage => .usage
  | help => .help command
  | version => .version command

/-- What the help command asks for with the arguments behind it, none of which is an option. -/
def Invocation.ofHelp : List String → Invocation
  | [] => help none
  | [name] => if name = helpName ∨ name ∈ forms.map (·.name) then help (some name) else usage
  | _ => usage

/-- What is asked for when the options before the command and what stands behind it are read. An
option behind the command wins over the same before it, and both over the environment. -/
def Invocation.ofLevels (environment : String → Option String) (form : CommandForm)
    (before behind : Level) : Invocation :=
  let value? (switch : Switch) := behind.value? switch <|> before.value? switch
  if behind.texts.isEmpty || !behind.allowsEnvironment environment ||
      !before.allowsEnvironment environment then
    usage
  else
    run (value? .config <|> environment "SQLIDT_CONFIG")
      { command := form.command behind
        texts := behind.texts
        format := (value? .format).bind Report.Format.ofName? }

def read (arguments : List String) (environment : String → Option String) : Invocation :=
  match Level.read Switch.global false {} none arguments with
  | .error stop => stop.invocation none
  | .ok (_, []) => .usage
  | .ok (before, name :: later) =>
    if name = helpName then .ofHelp later
    else
      match forms.find? (·.name = name) with
      | none => .usage
      | some form =>
        match Level.read (Switch.global ++ form.own) true {} none later with
        | .error stop => stop.invocation (some name)
        | .ok (behind, _) => .ofLevels environment form before behind

end SqlIdentifier.CommandLine
