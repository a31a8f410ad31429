namespace DirectiveScan.Template

/-! Opening tags of a template. What a template holds besides them does not matter,
except that comments and the text of scripts and styles hide the tags in them. -/

/-- A well-formed opening tag. -/
structure Tag where
  name : String
  /-- Whether the tag closes its element as well. -/
  isClosed : Bool
deriving DecidableEq, Repr

def isBlank (character : Char) : Bool :=
  character = ' ' || ('\t' ≤ character && character ≤ '\r')

/-- Whether a character can stand in the name of a tag. -/
def isTagCharacter (character : Char) : Bool :=
  character.isAlphanum || character = '-' || character = ':'

/-! ## Attributes

What follows the name of a tag is read character by character. A place says what
has been read so far. -/

inductive Place where
  | between
  | attributeName
  /-- After an attribute and a blank, where a value may still follow. -/
  | afterAttribute
  | beforeValue
  | plainValue
  | quotedValue (quote : Char)
  | slash

/-- What a character leads to. -/
inductive Step where
  | goTo (place : Place)
  | close (isClosed : Bool)
  | refuse

namespace Place

/-- Whether a character can neither start nor go on an attribute or a plain value. -/
def isRefused (character : Char) : Bool :=
  character = '<' || character = '\x22' || character = '\x27'

/-- A step from a place where an attribute may start. A value may only follow an
attribute. -/
def stepToAttribute (blank : Place) (mayHaveValue : Bool) (character : Char) : Step :=
  if isBlank character then .goTo blank
  else if character = '>' then .close false
  else if character = '/' then .goTo slash
  else if character = '=' then if mayHaveValue then .goTo beforeValue else .refuse
  else if isRefused character then .refuse
  else .goTo attributeName

def step (character : Char) : Place → Step
  | between => stepToAttribute between false character
  | attributeName => stepToAttribute afterAttribute true character
  | afterAttribute => stepToAttribute afterAttribute true character
  | beforeValue =>
      if isBlank character then .goTo beforeValue
      else if character = '\x22' || character = '\x27' then .goTo (quotedValue character)
      else if character = '<' || character = '>' || character = '=' then .refuse
      else .goTo plainValue
  | plainValue =>
      if isBlank character then .goTo between
      else if character = '>' then .close false
      else if character = '=' || isRefused character then .refuse
      else .goTo plainValue
  | quotedValue quote => if character = quote then .goTo between else .goTo (quotedValue quote)
  | slash => if character = '>' then .close true else .refuse

end Place

/-- Read to the end of a tag: whether it closes its element, and what follows it. -/
def readTagEnd (place : Place) : List Char → Option (Bool × List Char)
  | [] => none
  | character :: rest =>
      match place.step character with
      | .goTo next => readTagEnd next rest
      | .close isClosed => some (isClosed, rest)
      | .refuse => none

/-- Read a tag from what follows its bracket. -/
def readTag (text : List Char) : Option (Tag × List Char) :=
  let start := text.dropWhile isBlank
  match start.takeWhile isTagCharacter with
  | [] => none
  | name =>
      (readTagEnd .between (start.drop name.length)).map fun tagEnd =>
        (⟨String.ofList name, tagEnd.1⟩, tagEnd.2)

/-! ## Hidden text -/

/-- What follows a comment: the rest after the first closing bracket behind two
dashes. The number counts the dashes just read. -/
def afterComment (dashes : Nat) : List Char → List Char
  | [] => []
  | character :: rest =>
      if character = '>' && 2 ≤ dashes then rest
      else afterComment (if character = '-' then dashes + 1 else 0) rest

/-- Whether a text starts with a word in small letters, written in any case. -/
def startsWithWord : List Char → List Char → Bool
  | [], _ => true
  | _ :: _, [] => false
  | expected :: word, character :: rest =>
      character.toLower = expected && startsWithWord word rest

/-- The text from the first occurrence of a word on, in any case. -/
def fromWord (word : List Char) : List Char → List Char
  | [] => []
  | character :: rest =>
      if startsWithWord word (character :: rest) then character :: rest else fromWord word rest

/-- A name in small letters. Only letters without accents have small ones here. -/
def lowercase (name : String) : String := String.ofList (name.toList.map Char.toLower)

/-- The elements whose text holds no tags. -/
def rawTextElements : List String := ["script", "style"]

namespace Tag

/-- The element of a tag: its name in small letters. -/
def element (tag : Tag) : String := lowercase tag.name

/-- Whether text without tags follows, up to the end tag of the element. -/
def opensRawText (tag : Tag) : Bool := !tag.isClosed && rawTextElements.contains tag.element

end Tag

/-! ## Documents -/

/-- What an opening bracket starts. -/
structure Piece where
  tag? : Option Tag
  /-- How many characters after the bracket belong to the piece. -/
  length : Nat

/-- The piece before a rest of the text. -/
def Piece.upTo (text rest : List Char) (tag? : Option Tag) : Piece :=
  ⟨tag?, text.length - rest.length⟩

/-- The piece at an opening bracket, from what follows the bracket. What is neither
a comment nor a tag is passed over. -/
def pieceAt (text : List Char) : Piece :=
  match text with
  | '!' :: '-' :: '-' :: rest => .upTo text (afterComment 0 rest) none
  | _ =>
      match readTag text with
      | none => ⟨none, 0⟩
      | some (tag, rest) =>
          if tag.opensRawText then
            .upTo text (fromWord ('<' :: '/' :: tag.element.toList) rest) (some tag)
          else .upTo text rest (some tag)

/-- The tags of a text after the given number of characters. -/
def tagsAfter : Nat → List Char → List Tag
  | _, [] => []
  | passed + 1, _ :: rest => tagsAfter passed rest
  | 0, character :: rest =>
      if character = '<' then
        let piece := pieceAt rest
        piece.tag?.toList ++ tagsAfter piece.length rest
      else tagsAfter 0 rest

/-- The tags of a document, in the order in which they stand. -/
def tags (document : String) : List Tag := tagsAfter 0 document.toList

end DirectiveScan.Template
