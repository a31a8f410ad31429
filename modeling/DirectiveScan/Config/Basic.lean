import DirectiveScan.Glob.Pattern
import DirectiveScan.Json.Basic
import DirectiveScan.Template.Lookup
import DirectiveScan.Text.Trim

namespace DirectiveScan

/-! The settings of a scan, and their form in a configuration file. -/

structure Config where
  /-- Directories to look into; none means the whole project. -/
  includes : List String := []
  /-- What is left out: paths, and patterns of paths. -/
  ignores : List String := ["**/node_modules/**", "**/bower_components/**", "**/dist/**"]
  ignoreTestFiles : Bool := true
  templateLookup : TemplateLookup := .companion
  templateExtension : String := defaultTemplateExtension
deriving DecidableEq, Repr

namespace Config

/-- The settings when nothing is configured. -/
def standard : Config := {}

/-! ## Written form -/

def includesKey : String := "includes"

def ignoresKey : String := "ignores"

def ignoreTestFilesKey : String := "ignoreTestFiles"

def templateLookupKey : String := "templateLookup"

def templateExtensionKey : String := "templateExtension"

def lookupText : TemplateLookup → String
  | .companion => "companion"
  | .declared => "declared"

def lookupOfText? (text : String) : Option TemplateLookup :=
  [TemplateLookup.companion, .declared].find? fun lookup => lookupText lookup = text

/-- The members of the written form, in order. -/
def fields (config : Config) : List (String × JsonValue) :=
  [(includesKey, .ofTexts config.includes),
   (ignoresKey, .ofTexts config.ignores),
   (ignoreTestFilesKey, .boolean config.ignoreTestFiles),
   (templateLookupKey, .ofText (lookupText config.templateLookup)),
   (templateExtensionKey, .ofText config.templateExtension)]

def toJson (config : Config) : JsonValue := .ofFields config.fields

/-! ## Reading -/

def textOf? : JsonValue → Option String
  | .string text => text
  | _ => none

def textsOf? : JsonValue → Option (List String)
  | .array items => items.mapM textOf?
  | _ => none

def flagOf? : JsonValue → Option Bool
  | .boolean flag => some flag
  | _ => none

/-- A lookup is written by its name, or as the only key of an object without value. -/
def lookupOf? : JsonValue → Option TemplateLookup
  | .string text => text.bind lookupOfText?
  | .object [(key, .null)] => key.bind lookupOfText?
  | _ => none

/-- The value of a member, or a default where there is none. -/
def valueOr (default : α) (decode : JsonValue → Option α) : Option JsonValue → Option α
  | none => some default
  | some value => decode value

/-- The settings of the given members. -/
def ofValues? (includes ignores ignoreTestFiles templateLookup templateExtension :
    Option JsonValue) : Option Config := do
  return {
    includes := ← valueOr standard.includes textsOf? includes
    ignores := ← valueOr standard.ignores textsOf? ignores
    ignoreTestFiles := ← valueOr standard.ignoreTestFiles flagOf? ignoreTestFiles
    templateLookup := ← valueOr standard.templateLookup lookupOf? templateLookup
    templateExtension := ← valueOr standard.templateExtension textOf? templateExtension }

/-- The value under a key that is not written twice. -/
def member? (members : List (JsonText × JsonValue)) (key : String) : Option (Option JsonValue) :=
  match members.filter fun member => member.1 = some key with
  | [] => some none
  | [member] => some (some member.2)
  | _ => none

/-- The settings that a value stands for. An array holds the members in their order,
without those at its end. Other members of an object are passed over, but their keys
must have a text. -/
def ofJson? : JsonValue → Option Config
  | .object members =>
      if members.all fun member => member.1.isSome then do
        ofValues? (← member? members includesKey) (← member? members ignoresKey)
          (← member? members ignoreTestFilesKey) (← member? members templateLookupKey)
          (← member? members templateExtensionKey)
      else none
  | .array items =>
      if items.length ≤ standard.fields.length then
        ofValues? items[0]? items[1]? items[2]? items[3]? items[4]?
      else none
  | _ => none

/-! ## Validity -/

inductive PatternList where
  | ignores
  | includes
deriving DecidableEq, Repr

def PatternList.key : PatternList → String
  | ignores => ignoresKey
  | includes => includesKey

/-- Why settings cannot be used. -/
inductive Invalid where
  | pattern (list : PatternList) (text : String) (cause : Glob.PatternError)
  | emptyExtension
  | dottedExtension (extension : String)
deriving DecidableEq, Repr

def Invalid.message : Invalid → String
  | pattern list text cause =>
      "Invalid glob pattern in '" ++ list.key ++ "': \"" ++ text ++ "\": " ++ cause.message
  | emptyExtension => "'" ++ templateExtensionKey ++ "' must not be empty"
  | dottedExtension extension =>
      "'" ++ templateExtensionKey ++ "' must not start with a dot: \"" ++ extension ++ "\""

/-- The first text of a list that is no pattern. -/
def invalidPattern? (list : PatternList) (texts : List String) : Option Invalid :=
  texts.findSome? fun text =>
    match Glob.Pattern.read text with
    | .ok _ => none
    | .error cause => some (.pattern list text cause)

/-- The extension of templates, without white space around it. -/
def extension (config : Config) : String := Text.trim config.templateExtension

def invalidExtension? (config : Config) : Option Invalid :=
  match config.extension.toList with
  | [] => some .emptyExtension
  | first :: _ => if first = '.' then some (.dottedExtension config.templateExtension) else none

/-- What is wrong with settings, if something is. Everything to ignore must be a
pattern; of what to include, only what is meant as a pattern. -/
def invalid? (config : Config) : Option Invalid :=
  (invalidPattern? .ignores config.ignores).or
    ((invalidPattern? .includes (config.includes.filter Glob.Pattern.isMeant)).or
      config.invalidExtension?)

end Config

end DirectiveScan
