namespace DirectiveScan.Glob

/-! Patterns of paths.

A star stands for any text, a question mark for any character, and brackets for one
character of a set. Two stars are a path component of their own and stand for any
number of components. -/

/-- One range of a set of characters; a single character is a range of its own. -/
structure CharacterRange where
  first : Char
  last : Char
deriving DecidableEq, Repr

inductive Token where
  | character (character : Char)
  | anyCharacter
  | anyOf (ranges : List CharacterRange)
  | anyExcept (ranges : List CharacterRange)
  /-- Any text, slashes included. -/
  | anyText
  /-- Any number of whole components. -/
  | anyComponents
deriving DecidableEq, Repr

/-- Why a text is no pattern. -/
inductive Mistake where
  | tooManyStars
  | starsInsideComponent
  | unclosedSet
deriving DecidableEq, Repr

/-- A mistake, with the number of characters before it. -/
structure PatternError where
  position : Nat
  mistake : Mistake
deriving DecidableEq, Repr

def Mistake.text : Mistake → String
  | tooManyStars => "wildcards are either regular `*` or recursive `**`"
  | starsInsideComponent => "recursive wildcards must form a single path component"
  | unclosedSet => "invalid range pattern"

def PatternError.message (error : PatternError) : String :=
  "Pattern syntax error near position " ++ toString error.position ++ ": " ++ error.mistake.text

/-! ## Reading patterns -/

/-- The ranges between brackets. -/
def ranges : List Char → List CharacterRange
  | first :: '-' :: last :: rest => ⟨first, last⟩ :: ranges rest
  | single :: rest => ⟨single, single⟩ :: ranges rest
  | [] => []

/-- What stands before the first closing bracket, and how many characters are read
with the bracket. The first character belongs to the set, whatever it is. -/
def readSet : List Char → Option (List Char × Nat)
  | [] => none
  | first :: rest =>
      let others := rest.takeWhile (· != ']')
      if others.length < rest.length then some (first :: others, others.length + 2) else none

/-- A set of characters after its opening bracket, and its length. -/
def readBrackets : List Char → Option (Token × Nat)
  | '!' :: rest => (readSet rest).map fun read => (.anyExcept (ranges read.1), read.2 + 1)
  | rest => (readSet rest).map fun read => (.anyOf (ranges read.1), read.2)

/-- The token of two stars between the character before them, if there is one, and
what follows them. A slash after them belongs to them. -/
def readDoubleStar (before : Option Char) (position : Nat) (after : List Char) :
    Except PatternError Nat :=
  if before.all (· = '/') then
    match after with
    | [] => .ok 2
    | next :: _ => if next = '/' then .ok 3 else .error ⟨position + 2, .starsInsideComponent⟩
  else .error ⟨position - 1, .starsInsideComponent⟩

/-- The token at a position and its length, from the character before it and the
text that starts with it. -/
def readToken (before : Option Char) (position : Nat) (character : Char) (rest : List Char) :
    Except PatternError (Token × Nat) :=
  match character with
  | '?' => .ok (.anyCharacter, 1)
  | '[' =>
      match readBrackets rest with
      | some (token, length) => .ok (token, length + 1)
      | none => .error ⟨position, .unclosedSet⟩
  | '*' =>
      match rest with
      | '*' :: '*' :: _ => .error ⟨position + 2, .tooManyStars⟩
      | '*' :: after =>
          (readDoubleStar before position after).map fun length => (.anyComponents, length)
      | _ => .ok (.anyText, 1)
  | other => .ok (.character other, 1)

/-- The tokens of a text after a number of characters that belong to the token before. -/
def readTokens (before : Option Char) (position : Nat) :
    Nat → List Char → Except PatternError (List Token)
  | _, [] => .ok []
  | passed + 1, character :: rest => readTokens (some character) (position + 1) passed rest
  | 0, character :: rest => do
      let (token, length) ← readToken before position character rest
      let tokens ← readTokens (some character) (position + 1) (length - 1) rest
      return token :: tokens

structure Pattern where
  tokens : List Token
deriving DecidableEq, Repr

namespace Pattern

def read (text : String) : Except PatternError Pattern :=
  (readTokens none 0 0 text.toList).map Pattern.mk

/-- Whether a text is meant as a pattern, and not as a path. -/
def isMeant (text : String) : Bool :=
  text.toList.any fun character => character = '*' || character = '?'

end Pattern

/-! ## Matching -/

def isWithin (ranges : List CharacterRange) (character : Char) : Bool :=
  ranges.any fun range => range.first ≤ character && character ≤ range.last

/-- Whether a token of one character admits a character. -/
def Token.admits (character : Char) : Token → Bool
  | .character expected => character = expected
  | .anyCharacter => true
  | .anyOf ranges => isWithin ranges character
  | .anyExcept ranges => !isWithin ranges character
  | .anyText | .anyComponents => false

/-- The rests of a text, from the whole text to the empty one. -/
def rests : List Char → List (List Char)
  | [] => [[]]
  | character :: rest => (character :: rest) :: rests rest

/-- The rests of a text that follow a slash, and the empty one. -/
def restsAfterSlash : List Char → List (List Char)
  | [] => [[]]
  | character :: rest =>
      if character = '/' then rest :: restsAfterSlash rest else restsAfterSlash rest

/-- Whether tokens stand for a whole text. -/
def matchesTokens : List Token → List Char → Bool
  | [], text => text.isEmpty
  | .anyText :: tokens, text => (rests text).any (matchesTokens tokens)
  | .anyComponents :: tokens, text =>
      matchesTokens tokens text || (restsAfterSlash text).any (matchesTokens tokens)
  | _ :: _, [] => false
  | token :: tokens, character :: rest => token.admits character && matchesTokens tokens rest

def Pattern.accepts (pattern : Pattern) (text : String) : Bool :=
  matchesTokens pattern.tokens text.toList

end DirectiveScan.Glob
