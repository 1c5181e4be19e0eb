import CrossFlags.Json
import CrossFlags.OptionFile.Number

/-!
# Reading JSON

The other side of `Json.render`: a text taken apart by JSON's own rules and not by the one layout
that is written. Blanks may stand between any two signs, and a character of a string may be escaped
whether or not it has to be.

Reading goes one character at a time. The brackets that are open form a stack, each with what is
complete inside it, so a step looks at one character and the innermost bracket, and nothing limits
how deep a document may go. What the library's documents do not hold (numbers, `null`, escapes by
two surrogates) ends the reading, as does everything that is not JSON.
-/

set_option autoImplicit false

namespace CrossFlags.Json

/-- A blank between two signs. -/
def isGap (c : Char) : Bool := c == ' ' || c == '\t' || c == '\n' || c == '\r'

/-- May stand for itself in a string. -/
def isPlain (c : Char) : Bool := 0x20 ≤ c.toNat && c != '"' && c != '\\'

/-- The character that a letter behind a backslash stands for. -/
def letterEscape? : Char → Option Char
  | 'b' => some '\x08'
  | 't' => some '\t'
  | 'n' => some '\n'
  | 'f' => some '\x0c'
  | 'r' => some '\r'
  | '"' => some '"'
  | '\\' => some '\\'
  | '/' => some '/'
  | _ => none

/-- A bracket that is open. -/
inductive Frame where
  | array (items : List Json)
  | object (fields : List (String × Json))
  /-- An object that waits for the value under a name. -/
  | field (fields : List (String × Json)) (name : String)

/-- What the next character is to a reader. -/
inductive Mode where
  | value
  | name
  | colon
  /-- It stands in a string. -/
  | text (cs : List Char)
  /-- It stands behind a backslash. -/
  | escape (cs : List Char)
  /-- It is a digit of a code point. -/
  | code (cs digits : List Char)
  /-- It goes on with a word. -/
  | word (rest : List Char) (b : Bool)
  /-- It comes after a value. -/
  | after (json : Json)

/-- Where a reader stands. The innermost open bracket comes first. -/
structure Reading where
  stack : List Frame := []
  mode : Mode := .value

namespace Reading

/-- A string is complete: it is a name where one was due, else a value. -/
def endString (stack : List Frame) (s : String) : Reading :=
  match stack with
  | .object fields :: outer => ⟨.field fields s :: outer, .colon⟩
  | _ => ⟨stack, .after (.string s)⟩

/-- The first character of a value, or the bracket that closes an empty array. -/
def stepValue (stack : List Frame) : Char → Option Reading
  | '"' => some ⟨stack, .text []⟩
  | '[' => some ⟨.array [] :: stack, .value⟩
  | '\x7b' => some ⟨.object [] :: stack, .name⟩
  | 't' => some ⟨stack, .word "rue".toList true⟩
  | 'f' => some ⟨stack, .word "alse".toList false⟩
  | ']' =>
    match stack with
    | .array [] :: outer => some ⟨outer, .after (.array [])⟩
    | _ => none
  | _ => none

/-- The first character of a name, or the brace that closes an empty object. -/
def stepName (stack : List Frame) : Char → Option Reading
  | '"' => some ⟨stack, .text []⟩
  | '\x7d' =>
    match stack with
    | .object [] :: outer => some ⟨outer, .after (.object [])⟩
    | _ => none
  | _ => none

/-- What comes after a value that an open bracket holds. -/
def stepAfter (json : Json) : List Frame → Char → Option Reading
  | .array items :: outer, ',' => some ⟨.array (items ++ [json]) :: outer, .value⟩
  | .array items :: outer, ']' => some ⟨outer, .after (.array (items ++ [json]))⟩
  | .field fields name :: outer, ',' => some ⟨.object (fields ++ [(name, json)]) :: outer, .name⟩
  | .field fields name :: outer, '\x7d' => some ⟨outer, .after (.object (fields ++ [(name, json)]))⟩
  | _, _ => none

/-- One character read. -/
def step (reading : Reading) (c : Char) : Option Reading :=
  match reading.mode with
  | .value => if isGap c then some reading else stepValue reading.stack c
  | .name => if isGap c then some reading else stepName reading.stack c
  | .colon =>
    if isGap c then some reading
    else if c = ':' then some { reading with mode := .value }
    else none
  | .text cs =>
    if c = '"' then some (endString reading.stack (String.ofList cs))
    else if c = '\\' then some { reading with mode := .escape cs }
    else if isPlain c then some { reading with mode := .text (cs ++ [c]) }
    else none
  | .escape cs =>
    if c = 'u' then some { reading with mode := .code cs [] }
    else (letterEscape? c).map fun d => { reading with mode := .text (cs ++ [d]) }
  | .code cs digits =>
    if digits.length < 3 then some { reading with mode := .code cs (digits ++ [c]) }
    else
      (OptionFile.codePoint? (digits ++ [c])).map fun d =>
        { reading with mode := .text (cs ++ [d]) }
  | .word [] _ => none
  | .word (d :: rest) b =>
    if c = d then
      some { reading with mode := if rest.isEmpty then .after (.bool b) else .word rest b }
    else none
  | .after json => if isGap c then some reading else stepAfter json reading.stack c

/-- Characters read in order. -/
def run (reading : Reading) (cs : List Char) : Option Reading := cs.foldlM step reading

end Reading

/-- The document that a text spells. -/
def read? (text : String) : Option Json :=
  match ({} : Reading).run text.toList with
  | some ⟨[], .after json⟩ => some json
  | _ => none

example : (read? " [\"\\u0041\" ,\ttrue] ").map render = some "[\n  \"A\",\n  true\n]" := by decide
example : (read? "[true,]").isNone := by decide

end CrossFlags.Json
