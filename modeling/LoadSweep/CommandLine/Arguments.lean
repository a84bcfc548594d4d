import LoadSweep.Endpoint

/-!
# Arguments

The first argument that is no option names a command; options and operands of the command follow.
An option has a long name and a letter.  Its value is the next argument or is attached to it, with
an equals sign or, after the letter, without one.  Letters without values can be put together, and
after two dashes everything is an operand.  Only an option that collects values may be repeated.
-/

namespace LoadSweep.CommandLine

open LoadSweep.Text

set_option autoImplicit false

/-- The format of built-in settings. -/
inductive SettingsFormat where
  | yaml
  | json
  deriving Repr, DecidableEq

/-- Where the settings come from and which sweeps are selected. -/
structure Source where
  path : Option String := none
  endpoints : List Endpoint := []
  sweeps : List String := []
  deriving Repr, DecidableEq, Inhabited

/-- What a run overrides in the settings. -/
structure RunOptions where
  log : Option String := none
  reportDirectory : Option String := none
  noCharts : Bool := false
  leaveGaps : Bool := false
  deriving Repr, DecidableEq, Inhabited

/-- What the command line asks for. -/
inductive Invocation where
  | run (source : Source) (options : RunOptions)
  | probe (source : Source)
  | plan (source : Source)
  | extract (file : Option String)
  | showSettings (format : SettingsFormat)
  | completion (shell : String) (install : Bool)
  | help
  | version
  deriving Repr, DecidableEq

/-- The path of the file that an invocation reads. -/
def Invocation.path? : Invocation → Option String
  | run source _ => source.path
  | probe source => source.path
  | plan source => source.path
  | extract file => file
  | _ => none

/-- What an option does. -/
inductive OptionKind where
  | flag
  | single
  | repeated
  deriving Repr, DecidableEq

/-- What a value must be. -/
inductive ValueKind where
  | anyText
  | path
  | endpoint
  | format
  deriving Repr, DecidableEq

/-- An option of a command. -/
structure OptionRule where
  name : String
  letter : Option Char
  kind : OptionKind
  value : ValueKind := .anyText
  deriving Repr, DecidableEq

/-- A command with its options and operands. -/
structure CommandRule where
  name : String
  options : List OptionRule
  operands : List ValueKind := []
  /-- Whether an operand must be given. -/
  needsOperand : Bool := false
  deriving Repr, DecidableEq

/-- The option that every command has. -/
def verboseRule : OptionRule := ⟨"verbose", some 'v', .flag, .anyText⟩

/-- The options for the source of settings. -/
def sourceRules : List OptionRule :=
  [⟨"config", some 'c', .single, .path⟩, ⟨"endpoint", some 'e', .repeated, .endpoint⟩,
    ⟨"sweep", some 's', .repeated, .anyText⟩, verboseRule]

/-- Every command. -/
def commandRules : List CommandRule :=
  [{ name := "run"
     options := [⟨"log", none, .single, .path⟩, ⟨"report-dir", none, .single, .path⟩,
       ⟨"no-charts", none, .flag, .anyText⟩, ⟨"omit-missing", none, .flag, .anyText⟩]
       ++ sourceRules },
    { name := "probe", options := sourceRules },
    { name := "plan", options := sourceRules },
    { name := "extract", options := [verboseRule], operands := [.path] },
    { name := "init-config", options := [⟨"format", some 'f', .single, .format⟩, verboseRule] },
    { name := "completion"
      options := [⟨"install", some 'i', .flag, .anyText⟩, verboseRule]
      operands := [.anyText]
      needsOperand := true }]

/-- What was given so far: the values of each option, and the operands. -/
structure Given where
  options : List (String × String)
  operands : List String

/-- Why reading arguments ended early. -/
inductive Stop where
  /-- The arguments cannot be used. -/
  | misuse
  | help
  | version
  deriving Repr, DecidableEq

/-- Whether a value is of a kind. -/
def ValueKind.admits (kind : ValueKind) (value : String) : Bool :=
  match kind with
  | anyText => true
  | path => !value.isEmpty
  | endpoint => match Endpoint.read value with
    | .ok _ => true
    | .error _ => false
  | format => value == "yaml" || value == "json"

/-- The values of an option. -/
def Given.values (given : Given) (name : String) : List String :=
  given.options.filterMap fun option => if option.1 == name then some option.2 else none

/-- Whether an option was given. -/
def Given.has (given : Given) (name : String) : Bool :=
  given.options.any fun option => option.1 == name

/-- Takes an option with its value. -/
def Given.take (given : Given) (rule : OptionRule) (value : String) : Except Stop Given :=
  if rule.kind != .repeated && given.has rule.name then .error .misuse
  else if rule.kind != .flag && !rule.value.admits value then .error .misuse
  else .ok { given with options := given.options ++ [(rule.name, value)] }

/-- Takes an operand. -/
def Given.takeOperand (given : Given) (kinds : List ValueKind) (value : String) :
    Except Stop Given :=
  match kinds[given.operands.length]? with
  | none => .error .misuse
  | some kind =>
    if kind.admits value then .ok { given with operands := given.operands ++ [value] }
    else .error .misuse

/-- The value that follows an option as the next argument: it does not look like an option. -/
def nextValue? : List String → Option (String × List String)
  | [] => none
  | argument :: rest =>
    match argument.toList with
    | '-' :: _ :: _ => none
    | _ => some (argument, rest)

/-- Reads an option by its long name, after the dashes. -/
def readLong (rules : List OptionRule) (given : Given) (text : List Char)
    (rest : List String) : Except Stop (Given × List String) :=
  let (name, attached) := match splitFirst? (· == '=') text with
    | some (name, value) => (name, some (String.ofList value))
    | none => (text, none)
  match rules.find? fun rule => rule.name.toList == name with
  | none =>
    .error (if name == "help".toList && attached.isNone then .help else .misuse)
  | some rule =>
    match rule.kind, attached with
    | .flag, some _ => .error .misuse
    | .flag, none => (given.take rule "").map fun given => (given, rest)
    | _, some value => (given.take rule value).map fun given => (given, rest)
    | _, none =>
      match nextValue? rest with
      | none => .error .misuse
      | some (value, rest) => (given.take rule value).map fun given => (given, rest)

/-- Reads letters that were put together. -/
def readLetters (rules : List OptionRule) (given : Given) (rest : List String) :
    List Char → Except Stop (Given × List String)
  | [] => .ok (given, rest)
  | letter :: letters =>
    match rules.find? fun rule => rule.letter == some letter with
    | none => .error (if letter == 'h' then .help else .misuse)
    | some rule =>
      match rule.kind, letters with
      | .flag, _ => match given.take rule "" with
        | .error stop => .error stop
        | .ok given => readLetters rules given rest letters
      | _, [] =>
        match nextValue? rest with
        | none => .error .misuse
        | some (value, rest) => (given.take rule value).map fun given => (given, rest)
      | _, '=' :: value => (given.take rule (String.ofList value)).map fun given => (given, rest)
      | _, value => (given.take rule (String.ofList value)).map fun given => (given, rest)

/-- Takes operands. -/
def takeOperands (kinds : List ValueKind) (given : Given) (arguments : List String) :
    Except Stop Given :=
  arguments.foldlM (fun given argument => given.takeOperand kinds argument) given

/-- Reads the arguments of a command, with a bound on their number. -/
def readCommand (rule : CommandRule) : Nat → Given → List String → Except Stop Given
  | 0, given, _ => .ok given
  | _ + 1, given, [] => .ok given
  | bound + 1, given, argument :: rest =>
    match argument.toList with
    | ['-', '-'] => takeOperands rule.operands given rest
    | '-' :: '-' :: text =>
      match readLong rule.options given text rest with
      | .error stop => .error stop
      | .ok (given, rest) => readCommand rule bound given rest
    | '-' :: letter :: letters =>
      match readLetters rule.options given rest (letter :: letters) with
      | .error stop => .error stop
      | .ok (given, rest) => readCommand rule bound given rest
    | _ =>
      match given.takeOperand rule.operands argument with
      | .error stop => .error stop
      | .ok given => readCommand rule bound given rest

/-- The endpoint that an admitted value names. -/
def endpointOf? (value : String) : Option Endpoint :=
  match Endpoint.read value with
  | .ok endpoint => some endpoint
  | .error _ => none

/-- The source of settings that was given. -/
def Given.source (given : Given) : Source where
  path := (given.values "config").head?
  endpoints := (given.values "endpoint").filterMap endpointOf?
  sweeps := given.values "sweep"

/-- The invocation of a command with what was given. -/
def Given.invocation (given : Given) (command : String) : Invocation :=
  match command with
  | "run" =>
    .run given.source
      { log := (given.values "log").head?
        reportDirectory := (given.values "report-dir").head?
        noCharts := given.has "no-charts"
        leaveGaps := given.has "omit-missing" }
  | "probe" => .probe given.source
  | "plan" => .plan given.source
  | "extract" => .extract given.operands.head?
  | "init-config" =>
    .showSettings (if (given.values "format").head? == some "json" then .json else .yaml)
  | _ => .completion (given.operands.headD "") (given.has "install")

/-- Reads the command named by an argument, with its arguments. -/
def readNamed (name : String) (arguments : List String) : Except Stop Invocation :=
  match commandRules.find? fun rule => rule.name == name with
  | some rule =>
    match readCommand rule (arguments.length + 1) ⟨[], []⟩ arguments with
    | .error stop => .error stop
    | .ok given =>
      if rule.needsOperand && given.operands.isEmpty then .error .misuse
      else .ok (given.invocation name)
  | none =>
    if name != "help" then .error .misuse
    else match arguments with
      | [] => .error .help
      | [topic] =>
        .error (if topic == "help" || commandRules.any fun rule => rule.name == topic then .help
          else .misuse)
      | _ => .error .misuse

/-- Reads letters in front of the command. -/
def readLeadingLetters (verbose : Bool) : List Char → Except Stop Bool
  | [] => .ok verbose
  | letter :: letters =>
    if letter == 'h' then .error .help
    else if letter == 'V' then .error .version
    else if letter == 'v' && !verbose then readLeadingLetters true letters
    else .error .misuse

/-- Reads the options in front of the command, and then the command. -/
def readFrom (verbose : Bool) : List String → Except Stop Invocation
  | [] => .error .misuse
  | argument :: rest =>
    match argument.toList with
    | '-' :: '-' :: text =>
      if text == "help".toList then .error .help
      else if text == "version".toList then .error .version
      else if text == "verbose".toList && !verbose then readFrom true rest
      else .error .misuse
    | '-' :: letter :: letters =>
      match readLeadingLetters verbose (letter :: letters) with
      | .error stop => .error stop
      | .ok verbose => readFrom verbose rest
    | _ => readNamed argument rest

/-- What the command line asks for; `none` if it cannot be used. -/
def Invocation.ofArguments? (arguments : List String) : Option Invocation :=
  match readFrom false arguments with
  | .ok invocation => some invocation
  | .error .help => some .help
  | .error .version => some .version
  | .error .misuse => none

end LoadSweep.CommandLine
