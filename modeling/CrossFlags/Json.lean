/-!
# JSON documents

Resolutions and profiles are printed as JSON. `Json` is the part of JSON that they use: truth
values, strings, arrays and objects. Fields keep the order in which they are given, and no number
ever occurs.

There is one layout: every element and field on a line of its own, two spaces per level, and a
colon followed by one space. Brackets with nothing between them stay together.
-/

set_option autoImplicit false

namespace CrossFlags

/-- A JSON document. -/
inductive Json where
  | bool (b : Bool)
  | string (s : String)
  | array (items : List Json)
  | object (fields : List (String × Json))

namespace Json

/-- An array of strings. -/
def strings (texts : List String) : Json := .array (texts.map .string)

/-! ## Strings -/

/-- One hexadecimal digit, in lower case. -/
def hexDigit (n : Nat) : Char := Nat.digitChar (n % 16)

/-- A character as it stands inside a JSON string: the quote, the backslash and the characters
below the blank are escaped, the common ones by a letter, and all others stand for themselves. -/
def escaped (c : Char) : List Char :=
  if c = '"' then ['\\', '"']
  else if c = '\\' then ['\\', '\\']
  else if c = '\n' then ['\\', 'n']
  else if c = '\r' then ['\\', 'r']
  else if c = '\t' then ['\\', 't']
  else if c = '\x08' then ['\\', 'b']
  else if c = '\x0c' then ['\\', 'f']
  else if c.toNat < 0x20 then
    ['\\', 'u', '0', '0', hexDigit (c.toNat / 16), hexDigit c.toNat]
  else [c]

/-- A string between its quotes. -/
def quoted (s : String) : List Char := '"' :: s.toList.flatMap escaped ++ ['"']

/-! ## Documents -/

/-- The start of a new line at a depth. -/
def newline (depth : Nat) : List Char := '\n' :: List.replicate (2 * depth) ' '

mutual

/-- A document whose first line has already been indented. -/
def layout (depth : Nat) : Json → List Char
  | .bool true => "true".toList
  | .bool false => "false".toList
  | .string s => quoted s
  | .array [] => ['[', ']']
  | .array (item :: rest) =>
    '[' :: newline (depth + 1) ++ layout (depth + 1) item ++ layoutItems depth rest
  | .object [] => ['\x7b', '\x7d']
  | .object (field :: rest) =>
    '\x7b' :: newline (depth + 1) ++ layoutField (depth + 1) field ++ layoutFields depth rest

/-- The further elements of an array, up to its closing bracket. -/
def layoutItems (depth : Nat) : List Json → List Char
  | [] => newline depth ++ [']']
  | item :: rest =>
    ',' :: newline (depth + 1) ++ layout (depth + 1) item ++ layoutItems depth rest

/-- One field of an object. -/
def layoutField (depth : Nat) : String × Json → List Char
  | (name, value) => quoted name ++ [':', ' '] ++ layout depth value

/-- The further fields of an object, up to its closing brace. -/
def layoutFields (depth : Nat) : List (String × Json) → List Char
  | [] => newline depth ++ ['\x7d']
  | field :: rest =>
    ',' :: newline (depth + 1) ++ layoutField (depth + 1) field ++ layoutFields depth rest

end

/-- The document's text. -/
def render (json : Json) : String := String.ofList (layout 0 json)

example : render (.object [("a", strings []), ("b", strings ["x\"\u0001"])]) =
    "\x7b\n  \"a\": [],\n  \"b\": [\n    \"x\\\"\\u0001\"\n  ]\n\x7d" := by decide

end Json
end CrossFlags
