import CrossFlags.OptionFile

/-!
# Writing option files

A bag as a file that reads back as the same bag: one line per option, in order, the name and
every text in double quotes. Control characters are escaped by their code point, also the ones
for which a letter exists and the ones that a reader would take as they are.
-/

set_option autoImplicit false

namespace CrossFlags.OptionFile

/-- A control character: those of ASCII and the block behind it. -/
def isControl (c : Char) : Bool := c.toNat < 0x20 || (0x7F ≤ c.toNat && c.toNat < 0xA0)

/-- A character inside double quotes. -/
def escaped (c : Char) : List Char :=
  if c = '"' then ['\\', '"']
  else if c = '\\' then ['\\', '\\']
  else if isControl c then
    ['\\', 'u', '0', '0', Nat.digitChar (c.toNat / 16), Nat.digitChar (c.toNat % 16)]
  else [c]

/-- A text in double quotes. -/
def quoted (s : String) : List Char := '"' :: s.toList.flatMap escaped ++ ['"']

/-- A value as it stands behind its name. -/
def valueText : RawValue → List Char
  | .bool true => "true".toList
  | .bool false => "false".toList
  | .integer n => (Text.integerText n).toList
  | .text s => quoted s

/-- The line of one option. -/
def lineText (entry : String × RawValue) : List Char :=
  quoted entry.1 ++ " = ".toList ++ valueText entry.2 ++ ['\n']

/-- The file of a bag. -/
def write (bag : Bag) : String := String.ofList (bag.toList.flatMap lineText)

end CrossFlags.OptionFile
