import DirectiveScan.CommandLine.Arguments

namespace DirectiveScan.CommandLine

/-! The commands of the program. -/

inductive Format where
  | text
  | json
deriving DecidableEq, Repr

inductive Command where
  /-- Extract the components of a project. -/
  | scan (root : Path) (format : Format) (verbose : Bool)
  /-- List the names of the calls of a file. -/
  | calls (file : Path) (verbose : Bool)
  /-- Write a configuration file. -/
  | init
deriving DecidableEq, Repr

def Command.isVerbose : Command → Bool
  | scan _ _ verbose => verbose
  | calls _ verbose => verbose
  | init => false

/-! ## Help -/

def scanSummary : String := "Extract directive components and their template dependencies"

def callsSummary : String := "Print the resolved name of every call expression in a file"

def initSummary : String := "Initialize a new .heklarc.json configuration file"

/-- The name and version of the program. -/
def versionText : String := "hekla 0.4.0\n"

/-- The help on the whole program. -/
def helpText : String :=
  "Extracts AngularJS directive components and their template dependencies " ++
  "from JavaScript sources\n\n" ++
  "Usage: hekla [COMMAND]\n\n" ++
  "Commands:\n" ++
  "  scan   " ++ scanSummary ++ "\n" ++
  "  calls  " ++ callsSummary ++ "\n" ++
  "  init   " ++ initSummary ++ "\n" ++
  "  help   Print this message or the help of the given subcommand(s)\n\n" ++
  "Options:\n" ++
  "  -h, --help     Print help\n" ++
  "  -V, --version  Print version\n"

def scanHelp : String :=
  scanSummary ++ "\n\n" ++
  "Usage: hekla scan [OPTIONS]\n\n" ++
  "Options:\n" ++
  "      --root <ROOT>      Project root directory [default: .]\n" ++
  "      --format <FORMAT>  Output format [default: text] [possible values: text, json]\n" ++
  "  -v, --verbose          Enable verbose output\n" ++
  "  -h, --help             Print help\n"

def callsHelp : String :=
  callsSummary ++ "\n\n" ++
  "Usage: hekla calls [OPTIONS] <FILE>\n\n" ++
  "Arguments:\n" ++
  "  <FILE>  Source file to inspect\n\n" ++
  "Options:\n" ++
  "  -v, --verbose  Enable verbose output\n" ++
  "  -h, --help     Print help\n"

def initHelp : String :=
  initSummary ++ "\n\n" ++
  "Usage: hekla init\n\n" ++
  "Options:\n" ++
  "  -h, --help  Print help\n"

def helpHelp : String :=
  "Print this message or the help of the given subcommand(s)\n\n" ++
  "Usage: hekla help [COMMAND]...\n\n" ++
  "Arguments:\n" ++
  "  [COMMAND]...  Print help for the subcommand(s)\n"

/-! ## Forms -/

def rootKey : String := "root"

def formatKey : String := "format"

def verboseKey : String := "verbose"

def formatOf? : String → Option Format
  | "text" => some .text
  | "json" => some .json
  | _ => none

def helpOption (text : String) : OptionForm := ⟨"help", some 'h', .answer (.help text)⟩

def verboseOption : OptionForm := ⟨verboseKey, some 'v', .flag⟩

def scanForm : CommandForm where
  options :=
    [⟨rootKey, none, .valued isNotEmpty⟩,
     ⟨formatKey, none, .valued fun text => (formatOf? text).isSome⟩,
     verboseOption, helpOption scanHelp]
  needsOperand := false

def callsForm : CommandForm where
  options := [verboseOption, helpOption callsHelp]
  needsOperand := true

def initForm : CommandForm where
  options := [helpOption initHelp]
  needsOperand := false

/-- The options of the program itself. -/
def programForm : CommandForm where
  options := [helpOption helpText, ⟨"version", some 'V', .answer .version⟩]
  needsOperand := false

/-! ## Reading commands -/

/-- The value that is given for a key. -/
def valueOf? (given : List Given) (key : String) : Option String :=
  (given.find? fun given => given.key = key).map Given.value

def scanOf (given : List Given) : Command :=
  .scan ⟨(valueOf? given rootKey).getD "."⟩ (((valueOf? given formatKey).bind formatOf?).getD .text)
    (valueOf? given verboseKey).isSome

def callsOf (given : List Given) : Command :=
  .calls ⟨(valueOf? given operandKey).getD ""⟩ (valueOf? given verboseKey).isSome

def commandNames : List String := ["scan", "calls", "init", "help"]

def helpOn : List String → Refusal
  | [] => .help helpText
  | ["scan"] => .help scanHelp
  | ["calls"] => .help callsHelp
  | ["init"] => .help initHelp
  | ["help"] => .help helpHelp
  | _ => .invalidSubcommand

/-- The command that a name and the words after it stand for. -/
def readCommand (name : String) (words : List String) : Except Refusal (Option Command) :=
  match name with
  | "scan" => (scanForm.read words).map fun given => some (scanOf given)
  | "calls" => (callsForm.read words).map fun given => some (callsOf given)
  | "init" => (initForm.read words).map fun _ => some .init
  | "help" => .error (helpOn words)
  | _ => .error .invalidSubcommand

/-- The command that arguments stand for; no arguments stand for none. -/
def read : List String → Except Refusal (Option Command)
  | [] => .ok none
  | ["--"] => .ok none
  | "--" :: name :: _ =>
      .error (if commandNames.contains name then .unknownArgument else .invalidSubcommand)
  | word :: words =>
      match word.toList with
      | '-' :: _ :: _ =>
          match Progress.readWord programForm {} word with
          | .error refusal => .error refusal
          | .ok _ => .error .unknownArgument
      | _ => readCommand word words

end DirectiveScan.CommandLine
