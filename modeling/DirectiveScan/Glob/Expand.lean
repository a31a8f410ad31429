import DirectiveScan.File.System
import DirectiveScan.Glob.Pattern

namespace DirectiveScan.Glob

/-! The paths of a file system that a pattern stands for.

The pattern is cut at its slashes, and each piece is matched against the names in a
directory. Pieces without wildcards are looked up instead. Links to directories are
followed. -/

namespace Pattern

/-- Whether a piece stands for any number of components. -/
def isRecursive (pattern : Pattern) : Bool := pattern.tokens.contains .anyComponents

def characterOf? : Token → Option Char
  | .character character => some character
  | _ => none

/-- The text of a piece without wildcards. -/
def literal? (pattern : Pattern) : Option String :=
  (pattern.tokens.mapM characterOf?).map String.ofList

end Pattern

/-- A pattern, cut at its slashes. -/
structure PathPattern where
  pieces : List Pattern
  /-- Whether only directories are looked for. -/
  needsDirectory : Bool

/-- Cut a pattern into its pieces. -/
def PathPattern.read (text : Path) : Except PatternError PathPattern := do
  let _ ← Pattern.read text.text
  let pieces := text.body
  let needsDirectory := pieces.getLast? = some ""
  return ⟨← (if needsDirectory then pieces.dropLast else pieces).mapM Pattern.read, needsDirectory⟩

/-- The names that lead to a directory and its parent, where a piece allows them. They
must be asked for by a point. -/
def pointNames (pattern : Pattern) : List String :=
  if pattern.tokens.head? = some (.character '.') then [".", ".."].filter pattern.accepts else []

/-- Where a relative pattern starts. -/
def current : Path := ⟨"."⟩

/-- The path of a name. Names in the current directory stand on their own. -/
def step (path : Path) (name : String) : Path :=
  if path.same current then ⟨name⟩ else path.join ⟨name⟩

section

variable (system : FileSystem) (needsDirectory : Bool)

/-- A path at which all pieces have been matched. -/
def finish (path : Path) : List Path :=
  if needsDirectory && !system.isDirectory path then [] else [path]

/-- The names in a directory, in order. -/
def namesIn (path : Path) : List String :=
  let entries := ((system.node path).toOption.map FileNode.entries).getD []
  (entries.map Prod.fst).mergeSort

/-- Whether a name below a path can be looked up. -/
def leadsOn (path next : Path) (name : String) : Bool :=
  if name = "." || name = ".." then system.isDirectory path
  else system.holds next || (system.entry next).toOption.isSome

mutual

/-- The paths below a path that pieces stand for. -/
def expandBelow : Nat → List Pattern → Path → List Path
  | 0, _, _ => []
  | _, [], path => finish system needsDirectory path
  | bound + 1, pattern :: rest, path =>
      match pattern.literal? with
      | some name =>
          let next := step path name
          if leadsOn system path next name then expandBelow bound rest next else []
      | none =>
          if system.isListable path then
            (pointNames pattern).reverse.flatMap (fun name =>
              expandBelow bound rest (path.join ⟨name⟩)) ++
            (namesIn system path).flatMap fun name =>
              expandAt bound (pattern :: rest) (step path name)
          else []

/-- The paths at and below a path whose name the first piece is to match. -/
def expandAt : Nat → List Pattern → Path → List Path
  | 0, _, _ => []
  | _, [], path => finish system needsDirectory path
  | bound + 1, pattern :: rest, path =>
      if pattern.isRecursive then
        match rest.dropWhile Pattern.isRecursive with
        | [] =>
            if system.isDirectory path then path :: expandBelow bound [pattern] path else []
        | further => expandName bound further path ++ expandBelow bound (pattern :: further) path
      else expandName bound (pattern :: rest) path

/-- The paths at and below a path whose name a piece without recursion is to match. -/
def expandName : Nat → List Pattern → Path → List Path
  | 0, _, _ => []
  | _, [], path => finish system needsDirectory path
  | bound + 1, pattern :: rest, path =>
      if path.fileName?.any pattern.accepts then
        match rest with
        | [] => finish system needsDirectory path
        | further => expandBelow bound further path
      else []

end

end

/-- The paths that a pattern stands for, in order. Every step goes on to the next piece or
further down, and no path is longer than the tree is large and the links are many. -/
def expand (system : FileSystem) (text : Path) : Except PatternError (List Path) := do
  let pattern ← PathPattern.read text
  let bound := 4 * (pattern.pieces.length + 1) * (system.root.size + 1) * (FileSystem.linkLimit + 1)
  let start := if text.isAbsolute then ⟨"/"⟩ else current
  return expandBelow system pattern.needsDirectory bound pattern.pieces start

end DirectiveScan.Glob
