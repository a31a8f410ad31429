import DirectiveScan.Text.Split

namespace DirectiveScan

/-! Paths of files. A path is its text, cut into pieces by slashes. Two paths name
the same place in a tree when their components agree: empty pieces and single
points count for nothing, except a point at the very start. -/

structure Path where
  text : String
deriving DecidableEq, Repr

inductive Component where
  | root
  | current
  | parent
  | name (name : String)
deriving DecidableEq, Repr

namespace Path

def isAbsolute (path : Path) : Bool := path.text.toList.head? = some '/'

/-- The pieces between slashes, without the empty piece before the root. -/
def body (path : Path) : List String :=
  let pieces := Text.split '/' path.text
  if path.isAbsolute then pieces.drop 1 else pieces

/-- The path with the given pieces. -/
def ofBody (isAbsolute : Bool) (body : List String) : Path :=
  ⟨(if isAbsolute then "/" else "") ++ "/".intercalate body⟩

/-- Whether a piece counts. -/
def isSignificant (piece : String) : Bool := piece != "" && piece != "."

def componentOf (piece : String) : Component := if piece = ".." then .parent else .name piece

def components (path : Path) : List Component :=
  let start :=
    if path.isAbsolute then [Component.root]
    else if path.body.head? = some "." then [.current]
    else []
  start ++ (path.body.filter isSignificant).map componentOf

/-- Pieces without those at the end that do not count. -/
def trimEnd (isAbsolute : Bool) (body : List String) : List String :=
  match (body.reverse.dropWhile fun piece => !isSignificant piece).reverse with
  | [] => if !isAbsolute && body.head? = some "." then ["."] else []
  | kept => kept

/-- The pieces up to the last one that counts. -/
def trimmedBody (path : Path) : List String := trimEnd path.isAbsolute path.body

/-- The path without its last component; the root and the empty path have none. -/
def parent? (path : Path) : Option Path :=
  match path.trimmedBody.reverse with
  | [] => none
  | _ :: rest => some (ofBody path.isAbsolute (trimEnd path.isAbsolute rest.reverse))

/-- The last component, if it is a name. -/
def fileName? (path : Path) : Option String :=
  match path.trimmedBody.getLast? with
  | none => none
  | some piece => if piece = ".." || piece = "." then none else some piece

/-- A file name cut at its last point. A name that only starts with a point has
no extension. -/
def splitName (name : String) : String × Option String :=
  let reversed := name.toList.reverse
  let extension := reversed.takeWhile (· != '.')
  match reversed.drop extension.length with
  | [] => (name, none)
  | [_] => (name, none)
  | _ :: stem => (String.ofList stem.reverse, some (String.ofList extension.reverse))

def extension? (path : Path) : Option String := path.fileName?.bind fun name => (splitName name).2

/-- Whether a text can be the extension of a file name. -/
def isExtension (text : String) : Bool := !text.toList.contains '/'

/-- The path with another extension; a path without file name stays as it is. Where
nothing follows the name, it is first cut behind its last point. If two points are left
then, they lead to the parent and take no extension. -/
def withExtension (path : Path) (extension : String) : Path :=
  match path.fileName? with
  | none => path
  | some name =>
      let stem := (splitName name).1
      if stem = "." && path.body.getLast? = some name then
        ofBody path.isAbsolute (path.trimmedBody.dropLast ++ [".."])
      else
        let renamed := if extension = "" then stem else stem ++ "." ++ extension
        ofBody path.isAbsolute (path.trimmedBody.dropLast ++ [renamed])

/-- A path read from another one. An absolute path replaces it. -/
def join (path further : Path) : Path :=
  if further.isAbsolute || path.text = "" then further
  else if path.text.toList.getLast? = some '/' then ⟨path.text ++ further.text⟩
  else ⟨path.text ++ "/" ++ further.text⟩

/-- Whether two paths have the same components. -/
def same (left right : Path) : Bool := left.components = right.components

/-- Whether a path lies at or below another one. -/
def isBelow (path ancestor : Path) : Bool := ancestor.components.isPrefixOf path.components

/-- Drop pieces that count, and those between them. -/
def dropSignificant : Nat → List String → List String
  | _, [] => []
  | count, piece :: rest =>
      if !isSignificant piece then dropSignificant count rest
      else
        match count with
        | 0 => piece :: rest
        | count + 1 => dropSignificant count rest

/-- The path as seen from an absolute path above it; other paths stay. -/
def relativeTo (path ancestor : Path) : Path :=
  if ancestor.isAbsolute && path.isBelow ancestor then
    ofBody false (trimEnd true (dropSignificant (ancestor.components.length - 1) path.body))
  else path

end Path

namespace Component

/-- The place of a component in the order of paths. -/
def rank : Component → Nat
  | root => 0
  | current => 1
  | parent => 2
  | name _ => 3

/-- Components in the order of paths; names by their characters. -/
def compare (left right : Component) : Ordering :=
  match left, right with
  | .name left, .name right => Ord.compare left right
  | _, _ => Ord.compare left.rank right.rank

end Component

namespace Path

/-- Paths in the order of their components. -/
def compareComponents : List Component → List Component → Ordering
  | [], [] => .eq
  | [], _ :: _ => .lt
  | _ :: _, [] => .gt
  | left :: lefts, right :: rights =>
      match left.compare right with
      | .eq => compareComponents lefts rights
      | order => order

def compare (left right : Path) : Ordering := compareComponents left.components right.components

end Path

end DirectiveScan
