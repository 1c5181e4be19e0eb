import CrossFlags.Shell

/-!
# How a shell reads text

The other side of `Shell.render`: text taken apart by the quoting rules of a POSIX shell, one
character at a time. Between single quotes every character stands for itself. Outside them a
backslash takes the meaning from the next character (and joins two lines where that is the end of
one), blanks end a word, and the end of a line ends a command.

Nothing is ever carried out. Whatever else means something to a shell (operators, expansions,
patterns, comments, double quotes) ends the reading, so that text which can be read to its end has
none of it outside quotes.
-/

set_option autoImplicit false

namespace CrossFlags.Shell

/-- What means something to a shell unless it is quoted. The quoting characters themselves, blanks
and the end of a line are not listed: reading knows them. -/
def specialChars : List Char := "|&;<>()$`\"*?[]#~!^\x7b\x7d".toList

/-- What the next character is to a reader. -/
inductive Mode where
  | bare
  /-- It stands between single quotes. -/
  | quoted
  /-- It stands behind a backslash. -/
  | escaped
  deriving DecidableEq

/-- Where a reader stands: the commands that are complete, the words of the next one, and the word
that has begun, if one has. -/
structure Reading where
  commands : List (List String) := []
  words : List String := []
  word? : Option (List Char) := none
  mode : Mode := .bare
  deriving DecidableEq

namespace Reading

/-- Characters that stand for themselves. They begin a word if none has begun. -/
def put (reading : Reading) (cs : List Char) : Reading :=
  { reading with word? := some (reading.word?.getD [] ++ cs) }

/-- A blank: the word that has begun is complete. -/
def endWord (reading : Reading) : Reading :=
  match reading.word? with
  | none => reading
  | some cs => { reading with words := reading.words ++ [String.ofList cs], word? := none }

/-- The end of a line: the words so far are a command, if there are any. -/
def endCommand (reading : Reading) : Reading :=
  let reading := reading.endWord
  if reading.words.isEmpty then reading
  else { reading with commands := reading.commands ++ [reading.words], words := [] }

/-- One character read, unless it is special and bare. -/
def step (reading : Reading) (c : Char) : Option Reading :=
  match reading.mode with
  | .quoted => some (if c = quoteMark then { reading with mode := .bare } else reading.put [c])
  | .escaped => some { (if c = '\n' then reading else reading.put [c]) with mode := .bare }
  | .bare =>
    if c = quoteMark then some { reading.put [] with mode := .quoted }
    else if c = '\\' then some { reading with mode := .escaped }
    else if c = '\n' then some reading.endCommand
    else if c = ' ' ∨ c = '\t' then some reading.endWord
    else if c ∈ specialChars then none
    else some (reading.put [c])

/-- Characters read in order. -/
def run (reading : Reading) (cs : List Char) : Option Reading := cs.foldlM step reading

end Reading

/-- The commands of a text, each as its words. There are none where a special character stands bare,
or where the text ends inside quotes or behind a backslash. -/
def commands? (text : String) : Option (List (List String)) := do
  let reading ← ({} : Reading).run text.toList
  if reading.mode = .bare then some reading.endCommand.commands else none

/-- The words of a text, whatever lines they stand in. -/
def words? (text : String) : Option (List String) := (commands? text).map List.flatten

example : commands? "export A='it'\\''s' b\\ c\n\n'' d" =
    some [["export", "A=it's", "b c"], ["", "d"]] := by decide
example : commands? "echo $HOME" = none := by decide

end CrossFlags.Shell
