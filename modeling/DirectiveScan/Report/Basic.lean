import DirectiveScan.Project.Scan
import DirectiveScan.Json.Basic
import DirectiveScan.Report.Style

namespace DirectiveScan.Report

/-! Reports of a scan, as text and as JSON. -/

/-- Totals of a scan. -/
structure Summary where
  files : Nat
  components : Nat
  errors : Nat
deriving DecidableEq, Repr

def summary (reports : List FileReport) : Summary where
  files := reports.length
  components := (reports.flatMap (·.result.components)).length
  errors := (reports.flatMap (·.result.errors)).length

/-! ## JSON -/

def componentType : String := "angular-directive"

def scopeJson : Scope → JsonValue
  | .bindings names => .ofTexts names
  | .isolate flag => .boolean flag

def componentJson (component : Descriptor) : JsonValue :=
  .ofFields
    [("type", .ofText componentType),
     ("path", .ofText component.path),
     ("name", .ofText component.name),
     ("module", .ofOption .ofText component.module),
     ("scope", .ofOption scopeJson component.scope),
     ("templatePath", .ofOption .ofText component.templatePath),
     ("dependencies", .ofTexts component.dependencies)]

def errorJson (error : ExtractError) : JsonValue :=
  .ofFields [("kind", .ofText error.kind.text), ("message", .ofText error.message)]

def fileJson (display : Path → String) (report : FileReport) : JsonValue :=
  .ofFields
    [("path", .ofText (display report.path)),
     ("components", .array (report.result.components.map componentJson)),
     ("errors", .array (report.result.errors.map errorJson))]

/-- Every file in one array. -/
def json (display : Path → String) (reports : List FileReport) : String :=
  (JsonValue.array (reports.map (fileJson display))).write ++ "\n"

/-! ## Text -/

def successMark : String := "\u2713"

def failureMark : String := "\u2718"

section

variable (colored : Bool)

def scopeText : Scope → String
  | .bindings names => "[" ++ ", ".intercalate names ++ "]"
  | .isolate flag => if flag then "true" else "false"

/-- A detail of a component: a word and a value, if there is a value. -/
def detail (word : String) : Option String → String
  | none => ""
  | some value => " " ++ paint colored .dimmed word ++ " " ++ value

/-- The line on the dependencies of a component, if it has any. -/
def usesLine (dependencies : List String) : String :=
  if dependencies.isEmpty then ""
  else "      " ++ paint colored .cyan "uses" ++ " " ++ ", ".intercalate dependencies ++ "\n"

def componentText (component : Descriptor) : String :=
  "  " ++ paint colored .green successMark ++ " " ++ paint colored .bold component.name ++
    detail colored "module" component.module ++
    detail colored "scope" (component.scope.map scopeText) ++
    detail colored "template" component.templatePath ++ "\n" ++
    usesLine colored component.dependencies

def errorText (error : ExtractError) : String :=
  "  " ++ paint colored .red failureMark ++ " " ++ paint colored .boldRed "error" ++ ": " ++
    error.message ++ "\n"

/-- The lines on a file. A file without components and errors has none. -/
def fileText (display : Path → String) (report : FileReport) : String :=
  let result := report.result
  if result.components.isEmpty && result.errors.isEmpty then ""
  else
    paint colored .bold (display report.path) ++ "\n" ++
      String.join (result.components.map (componentText colored)) ++
      String.join (result.errors.map (errorText colored))

/-- A number and the noun that it counts. -/
def counted (count : Nat) (noun : String) : String :=
  toString count ++ " " ++ noun ++ if count = 1 then "" else "s"

def summaryLine (summary : Summary) : String :=
  "Scanned " ++ counted summary.files "file" ++ ": " ++
    counted summary.components "component" ++ ", " ++ counted summary.errors "error"

def summaryText (summary : Summary) : String :=
  let (mark, style) := if summary.errors = 0 then (successMark, Style.green) else (failureMark, .red)
  paint colored style mark ++ " " ++ paint colored style (summaryLine summary) ++ "\n"

/-- What a scan has found, and its totals. -/
def text (display : Path → String) (reports : List FileReport) : String :=
  String.join (reports.map (fileText colored display)) ++ summaryText colored (summary reports)

end

end DirectiveScan.Report
