import DirectiveScan.Path.Basic

namespace DirectiveScan.CommandLine

/-! Arguments of the command line.

A word that starts with two dashes is an option, written with its value after an equals
sign or as the next word. A word that starts with one dash holds options of one letter.
After two dashes alone, no word is an option. -/

/-- Why arguments are not obeyed. Help and version are asked for, and not obeyed
otherwise. -/
inductive Refusal where
  | invalidSubcommand
  | unknownArgument
  | invalidValue
  | missingArgument
  | conflict
  | tooManyValues
  | help (text : String)
  | version
deriving DecidableEq, Repr

/-- What an option is for. -/
inductive Purpose where
  | flag
  /-- An option with a value that satisfies a test. -/
  | valued (isValid : String → Bool)
  /-- An option that is answered on its own. -/
  | answer (answer : Refusal)

structure OptionForm where
  long : String
  short : Option Char
  purpose : Purpose

/-- The words that a command understands. -/
structure CommandForm where
  options : List OptionForm
  /-- Whether a word that is no option is needed. -/
  needsOperand : Bool

/-- The key of the word that is no option. -/
def operandKey : String := ""

/-- Any text but the empty one. -/
def isNotEmpty (text : String) : Bool := text != ""

/-- Something given, with its value. Flags have none. -/
structure Given where
  key : String
  value : String
deriving DecidableEq, Repr

/-- A key that awaits its value, or has it and is still to be checked. -/
structure Pending where
  key : String
  isValid : String → Bool
  value : Option String

/-- How far arguments have been read. -/
structure Progress where
  given : List Given := []
  pending : Option Pending := none
  hasOperand : Bool := false
  /-- Whether two dashes alone have been read. -/
  isEscaped : Bool := false

namespace Progress

/-- Take something that is given, if it has not been given before. -/
def give (progress : Progress) (key value : String) : Except Refusal Progress :=
  if progress.given.any fun given => given.key = key then .error .conflict
  else .ok { progress with given := progress.given ++ [⟨key, value⟩] }

def giveChecked (progress : Progress) (key value : String) (isValid : String → Bool) :
    Except Refusal Progress := do
  let progress ← progress.give key value
  if isValid value then return progress else throw .invalidValue

/-- Check what is pending. -/
def settle (progress : Progress) : Except Refusal Progress :=
  match progress.pending with
  | none => .ok progress
  | some pending =>
      match pending.value with
      | none => .error .invalidValue
      | some value => { progress with pending := none }.giveChecked pending.key value pending.isValid

def readOption (progress : Progress) (form : OptionForm) (attached : Option String) :
    Except Refusal Progress :=
  match form.purpose, attached with
  | .valued isValid, some value => do (← progress.settle).giveChecked form.long value isValid
  | .valued isValid, none => do
      return { (← progress.settle) with pending := some ⟨form.long, isValid, none⟩ }
  | _, some _ => .error .tooManyValues
  | .flag, none => do (← progress.settle).give form.long ""
  | .answer answer, none => do
      let _ ← progress.settle
      throw answer

def readLetters (command : CommandForm) (progress : Progress) :
    List Char → Except Refusal Progress
  | [] => .ok progress
  | letter :: rest =>
      match command.options.find? fun form => form.short = some letter with
      | none => .error .unknownArgument
      | some form => do readLetters command (← progress.readOption form none) rest

/-- Read a word that is no option. -/
def readOperand (command : CommandForm) (progress : Progress) (word : String) :
    Except Refusal Progress :=
  if command.needsOperand && !progress.hasOperand then do
    let progress ← progress.settle
    return { progress with pending := some ⟨operandKey, isNotEmpty, some word⟩, hasOperand := true }
  else .error .unknownArgument

/-- The name and the value in the text of a long option. -/
def splitOption (text : List Char) : String × Option String :=
  let name := text.takeWhile (· != '=')
  match text.drop name.length with
  | [] => (String.ofList name, none)
  | _ :: value => (String.ofList name, some (String.ofList value))

def awaitsValue (progress : Progress) : Bool :=
  progress.pending.any fun pending => pending.value.isNone

def readWord (command : CommandForm) (progress : Progress) (word : String) :
    Except Refusal Progress :=
  if progress.isEscaped then progress.readOperand command word
  else
    match word.toList with
    | ['-', '-'] => .ok { progress with isEscaped := true }
    | '-' :: '-' :: option =>
        let (name, attached) := splitOption option
        match command.options.find? fun form => form.long = name with
        | none => .error .unknownArgument
        | some form => progress.readOption form attached
    | '-' :: letter :: letters => progress.readLetters command (letter :: letters)
    | _ =>
        if progress.awaitsValue then
          .ok { progress with
            pending := progress.pending.map fun pending => { pending with value := some word } }
        else progress.readOperand command word

end Progress

/-- What the words after the name of a command give. -/
def CommandForm.read (command : CommandForm) (words : List String) :
    Except Refusal (List Given) := do
  let progress ← words.foldlM (fun progress word => Progress.readWord command progress word) {}
  let progress ← progress.settle
  if command.needsOperand && !progress.hasOperand then throw .missingArgument
  return progress.given

end DirectiveScan.CommandLine
