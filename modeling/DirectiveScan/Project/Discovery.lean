import DirectiveScan.File.Walk
import DirectiveScan.Glob.Expand

namespace DirectiveScan

/-! Finding the source files of a project. -/

namespace Path

def sourceExtensions : List String := ["js", "jsx", "mjs", "cjs", "ts", "tsx"]

def isSourceFile (path : Path) : Bool := path.extension?.any sourceExtensions.contains

/-- Put a path into an ordered list. A path that is there already stays as it is
spelled. -/
def insertOrdered (path : Path) : List Path → List Path
  | [] => [path]
  | first :: rest =>
      match path.compare first with
      | .lt => path :: first :: rest
      | .eq => first :: rest
      | .gt => first :: insertOrdered path rest

/-- Paths in order, without repetitions. Of several spellings the first one stays. -/
def ordered (paths : List Path) : List Path :=
  paths.foldl (fun sorted path => insertOrdered path sorted) []

end Path

namespace Discovery

def testFilePatterns : List String :=
  ["**/*.test.js", "**/*.test.jsx", "**/*.test.mjs", "**/*.test.cjs", "**/*.test.ts",
    "**/*.test.tsx", "**/*.spec.js", "**/*.spec.jsx", "**/*.spec.mjs", "**/*.spec.cjs",
    "**/*.spec.ts", "**/*.spec.tsx", "**/__tests__/**"]

/-- What is left out. -/
structure Exclusion where
  paths : List Path
  patterns : List Glob.Pattern

/-- The patterns among texts; what is no pattern counts for nothing. -/
def patternsOf (texts : List String) : List Glob.Pattern :=
  texts.filterMap fun text => (Glob.Pattern.read text).toOption

/-- What is left out of the files below a directory. -/
def exclusion (base : Path) (ignores : List String) (ignoreTestFiles : Bool) : Exclusion where
  paths := (ignores.filter fun text => !Glob.Pattern.isMeant text).map fun text => base.join ⟨text⟩
  patterns :=
    patternsOf (ignores.filter Glob.Pattern.isMeant) ++
      if ignoreTestFiles then patternsOf testFilePatterns else []

/-- Whether a path is left out. Paths are compared by their components, patterns with
the whole text. -/
def Exclusion.excludes (exclusion : Exclusion) (path : Path) : Bool :=
  exclusion.paths.any path.isBelow ||
    exclusion.patterns.any fun pattern => pattern.accepts path.text

/-- Where to look for one thing to include: at the directories that a pattern stands
for, or at a path. -/
def rootsOf (system : FileSystem) (base : Path) (text : String) : List Path :=
  let path := base.join ⟨text⟩
  if Glob.Pattern.isMeant text then
    ((Glob.expand system path).toOption.getD []).filter system.isDirectory
  else if system.holds path then [path]
  else []

/-- Where to look for files. -/
def roots (system : FileSystem) (base : Path) (includes : List String) : List Path :=
  if includes.isEmpty then [base] else includes.flatMap (rootsOf system base)

/-- The source files at and below a root. -/
def filesBelow (system : FileSystem) (exclusion : Exclusion) (root : Path) : List Path :=
  let found := (system.walk root).filterMap Except.toOption
  (found.filter fun found =>
    !exclusion.excludes found.1 && found.2.isFile && found.1.isSourceFile).map Prod.fst

/-- What a walk from a root cannot access. -/
def errorsBelow (system : FileSystem) (root : Path) : List WalkError :=
  (system.walk root).filterMap Encounter.error?

end Discovery

/-- The source files of a project. -/
structure Discovery where
  /-- The files, in the order of paths. -/
  files : List Path
  /-- How often a walk could not go on. -/
  skipped : Nat
deriving DecidableEq, Repr

/-- Find the source files below a directory. -/
def discover (system : FileSystem) (base : Path) (includes ignores : List String)
    (ignoreTestFiles : Bool) : Discovery :=
  let exclusion := Discovery.exclusion base ignores ignoreTestFiles
  let roots := Discovery.roots system base includes
  { files := Path.ordered (roots.flatMap (Discovery.filesBelow system exclusion))
    skipped := (roots.flatMap (Discovery.errorsBelow system)).length }

namespace Discovery

/-- What is worth a warning about a discovery. -/
def warnings (system : FileSystem) (base : Path) (includes ignores : List String) :
    List String :=
  let malformed := (ignores.filter Glob.Pattern.isMeant).filterMap fun text =>
    match Glob.Pattern.read text with
    | .ok _ => none
    | .error cause => some ("invalid ignore pattern " ++ text ++ ": " ++ cause.message)
  let missing := includes.filterMap fun text =>
    let path := base.join ⟨text⟩
    if Glob.Pattern.isMeant text then
      match Glob.expand system path with
      | .ok _ => none
      | .error cause => some ("invalid include pattern " ++ text ++ ": " ++ cause.message)
    else if system.holds path then none
    else some ("include path does not exist: " ++ path.text)
  let skipped := ((roots system base includes).flatMap (errorsBelow system)).map fun error =>
    "cannot access path: " ++ error.text
  malformed ++ missing ++ skipped

end Discovery

end DirectiveScan
