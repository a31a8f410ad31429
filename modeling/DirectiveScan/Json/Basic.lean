namespace DirectiveScan

/-! Values of JSON and their written form. -/

/-- A string of JSON. It has no text when half of a surrogate pair stands alone in
it. -/
abbrev JsonText := Option String

inductive JsonValue where
  | null
  | boolean (flag : Bool)
  /-- Numbers are kept as they are written. -/
  | number (digits : String)
  | string (text : JsonText)
  | array (items : List JsonValue)
  | object (members : List (JsonText × JsonValue))
deriving Repr

namespace JsonValue

/-- A string with a text. -/
def ofText (text : String) : JsonValue := .string (some text)

def ofOption (encode : α → JsonValue) : Option α → JsonValue
  | none => .null
  | some value => encode value

def ofTexts (texts : List String) : JsonValue := .array (texts.map ofText)

/-- An object with the given keys and values. -/
def ofFields (fields : List (String × JsonValue)) : JsonValue :=
  .object (fields.map fun field => (some field.1, field.2))

/-! ## Written form

Items and members stand on lines of their own, two blanks further to the right than
what holds them. Characters outside the control characters are written as they are. -/

def hexDigit (value : Nat) : Char := (Nat.toDigits 16 value).headD '0'

/-- The form of a character inside a string. -/
def escape (character : Char) : List Char :=
  match character with
  | '\x22' => ['\\', '\x22']
  | '\\' => ['\\', '\\']
  | '\x08' => ['\\', 'b']
  | '\x0c' => ['\\', 'f']
  | '\n' => ['\\', 'n']
  | '\r' => ['\\', 'r']
  | '\t' => ['\\', 't']
  | other =>
      if other.toNat < 32 then
        ['\\', 'u', '0', '0', hexDigit (other.toNat / 16), hexDigit (other.toNat % 16)]
      else [other]

/-- A string in its quotes. What has no text is written as the replacement character. -/
def quote (text : JsonText) : String :=
  String.ofList ('\x22' :: (text.getD "\ufffd").toList.flatMap escape ++ ['\x22'])

def newLine (depth : Nat) : String := "\n" ++ String.ofList (List.replicate (2 * depth) ' ')

/-- What stands between two brackets, one thing on a line. -/
def bracketed (depth : Nat) (opening closing : String) : List String → String
  | [] => opening ++ closing
  | things =>
      opening ++ newLine (depth + 1) ++ ("," ++ newLine (depth + 1)).intercalate things ++
        newLine depth ++ closing

mutual

/-- The written form of a value at a depth. -/
def writeAt (depth : Nat) : JsonValue → String
  | null => "null"
  | boolean flag => if flag then "true" else "false"
  | number digits => digits
  | string text => quote text
  | array items => bracketed depth "[" "]" (writeItems (depth + 1) items)
  | object members => bracketed depth "\x7b" "\x7d" (writeMembers (depth + 1) members)

def writeItems (depth : Nat) : List JsonValue → List String
  | [] => []
  | item :: rest => writeAt depth item :: writeItems depth rest

def writeMembers (depth : Nat) : List (JsonText × JsonValue) → List String
  | [] => []
  | (key, value) :: rest => (quote key ++ ": " ++ writeAt depth value) :: writeMembers depth rest

end

def write (value : JsonValue) : String := value.writeAt 0

end JsonValue

end DirectiveScan
