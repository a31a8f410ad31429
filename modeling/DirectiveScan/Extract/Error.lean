import DirectiveScan.Source.Text

namespace DirectiveScan

/-! Everything that can go wrong with a source file, and the words for it. -/

/-- Why a file could not be read. -/
inductive ReadFailure where
  | notFound
  | permissionDenied
  | invalidData
  | timedOut
  | isADirectory
  | notADirectory
  | tooManyLinks
  | nameTooLong
  /-- The path holds the character that ends paths. -/
  | endInsidePath
  | other
deriving DecidableEq, Repr

/-- How a file system describes a failure. -/
def ReadFailure.text : ReadFailure → String
  | notFound => "No such file or directory (os error 2)"
  | permissionDenied => "Permission denied (os error 13)"
  | invalidData => "stream did not contain valid UTF-8"
  | timedOut => "Connection timed out (os error 110)"
  | isADirectory => "Is a directory (os error 21)"
  | notADirectory => "Not a directory (os error 20)"
  | tooManyLinks => "Too many levels of symbolic links (os error 40)"
  | nameTooLong => "File name too long (os error 36)"
  | endInsidePath => "file name contained an unexpected NUL byte"
  | other => "other error"

/-- A failed read: its cause, and the text that describes it. -/
structure ReadError where
  failure : ReadFailure
  text : String
deriving DecidableEq, Repr

/-- A failed read, in the words of a file system. -/
def ReadFailure.toError (failure : ReadFailure) : ReadError := ⟨failure, failure.text⟩

/-- The kinds of errors, by which reports class them. -/
inductive ErrorKind where
  | malformed
  | unhandledNodeShape
  | unsupportedNameForm
  | unsupportedScopeForm
  | unsupportedTemplateUrlForm
  | ambiguousScopeDeclaration
  | notFound
  | unreadable
deriving DecidableEq, Repr

def ErrorKind.text : ErrorKind → String
  | malformed => "syntax"
  | unhandledNodeShape => "unhandled-node-shape"
  | unsupportedNameForm => "unsupported-name-form"
  | unsupportedScopeForm => "unsupported-scope-form"
  | unsupportedTemplateUrlForm => "unsupported-template-url-form"
  | ambiguousScopeDeclaration => "ambiguous-scope-declaration"
  | notFound => "not-found"
  | unreadable => "io"

/-- What went wrong with a source file. -/
inductive ExtractError where
  /-- The file is no program; the location is where it stops being one. -/
  | malformed (path : String) (location : Option Location)
  | unhandledNodeShape (shape : String)
  | unsupportedNameForm (found : String)
  | unsupportedScopeForm (found : String)
  | unsupportedTemplateUrlForm (found : String)
  | ambiguousScopeDeclaration (count : Nat)
  | unreadable (path : String) (cause : ReadError)
deriving DecidableEq, Repr

namespace ExtractError

def kind : ExtractError → ErrorKind
  | malformed .. => .malformed
  | unhandledNodeShape _ => .unhandledNodeShape
  | unsupportedNameForm _ => .unsupportedNameForm
  | unsupportedScopeForm _ => .unsupportedScopeForm
  | unsupportedTemplateUrlForm _ => .unsupportedTemplateUrlForm
  | ambiguousScopeDeclaration _ => .ambiguousScopeDeclaration
  | unreadable _ cause => if cause.failure = .notFound then .notFound else .unreadable

def isNotFound (error : ExtractError) : Bool := error.kind = .notFound

/-- The words for what is wrong at a location of a program. -/
def diagnosis : String := "<parser message>"

def locationText : Option Location → String
  | some location => toString location.line ++ ":" ++ toString location.column ++ ": "
  | none => ""

def message : ExtractError → String
  | malformed path location =>
      "syntax error in " ++ path ++ ": " ++ locationText location ++ diagnosis
  | unhandledNodeShape shape => "cannot resolve a name through " ++ shape
  | unsupportedNameForm found => "directive name must be a string literal, found " ++ found
  | unsupportedScopeForm found =>
      "directive scope must be an object literal or a boolean, found " ++ found
  | unsupportedTemplateUrlForm found =>
      "directive templateUrl must be a string literal, found " ++ found
  | ambiguousScopeDeclaration count =>
      "found " ++ toString count ++ " scope declarations in one directive registration"
  | unreadable path cause => "failed to read " ++ path ++ ": " ++ cause.text

end ExtractError

/-- Why something is not carried out: because of an error, which is reported, or because the
program stops, which leaves no report at all. -/
inductive Halt where
  | failed (error : ExtractError)
  | stopped
deriving DecidableEq, Repr

end DirectiveScan
