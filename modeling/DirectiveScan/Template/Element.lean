import DirectiveScan.Template.Document
import DirectiveScan.Template.Lookup

namespace DirectiveScan.Template

/-! The custom elements that a template uses. -/

/-- Whether an element is a custom one: its name has a dash. -/
def isCustom (element : String) : Bool := element.toList.contains '-'

/-- The names that have not been seen yet, each one where it comes up first. -/
def unseen (seen : List String) : List String → List String
  | [] => []
  | name :: rest =>
      if name ∈ seen then unseen seen rest else name :: unseen (name :: seen) rest

/-- The custom elements at and below a node, in the order in which they first appear. -/
def DocumentNode.customElements (root : DocumentNode) : List String :=
  unseen [] (root.tagNames.filter isCustom)

/-- The custom elements of a document. One that the parser refuses has none. -/
def customElementsBy (parse : DocumentParser) (document : String) : List String :=
  ((parse document).map DocumentNode.customElements).getD []

def customElements (document : String) : List String := customElementsBy parseTags document

/-- The scanner for custom elements. Where a document stands does not matter to it. -/
def customElementScanner : MarkupScanner := fun contents _ => customElements contents

end DirectiveScan.Template
