import DirectiveScan.Template.Tag

namespace DirectiveScan.Template

/-! Documents as trees. A tree tells where something of the document had to be repaired,
so that names can be taken from its sound tags only. -/

/-- The kinds of nodes that matter for the names of elements. -/
inductive NodeKind where
  | startTag
  | selfClosingTag
  | tagName
  | other
deriving DecidableEq, Repr

/-- A node of a document with everything in it. -/
structure DocumentNode where
  kind : NodeKind
  /-- Whether something in the node had to be repaired. -/
  hasError : Bool
  /-- Whether the node has been put in where the document lacks it. -/
  isMissing : Bool
  /-- What is written in the node, if that is text. -/
  text? : Option String
  children : List DocumentNode

namespace DocumentNode

/-- A well-formed tag that opens an element. -/
def isOpening (node : DocumentNode) : Bool :=
  (node.kind = .startTag || node.kind = .selfClosingTag) && !node.hasError

/-- A tag's name as it is written. -/
def tagName? (node : DocumentNode) : Option String :=
  (node.children.find? fun child => child.kind = .tagName && !child.isMissing).bind text?

mutual

/-- The names of the well-formed opening tags at and below a node. What is in such a tag
does not matter, but a tag with an error may have sound tags in it. -/
def tagNames : DocumentNode → List String
  | ⟨kind, hasError, isMissing, text?, children⟩ =>
      let node : DocumentNode := ⟨kind, hasError, isMissing, text?, children⟩
      if node.isOpening then (node.tagName?.map lowercase).toList else tagNamesOf children

def tagNamesOf : List DocumentNode → List String
  | [] => []
  | child :: rest => child.tagNames ++ tagNamesOf rest

end

end DocumentNode

namespace Tag

/-- A tag as a node. -/
def node (tag : Tag) : DocumentNode where
  kind := if tag.isClosed then .selfClosingTag else .startTag
  hasError := false
  isMissing := false
  text? := none
  children := [⟨.tagName, false, false, some tag.name, []⟩]

end Tag

/-- A parser of documents. It may refuse a document. -/
abbrev DocumentParser := String → Option DocumentNode

/-- The tree of the tags of a document. -/
def parseTags : DocumentParser := fun document =>
  some ⟨.other, false, false, some document, (tags document).map Tag.node⟩

end DirectiveScan.Template
