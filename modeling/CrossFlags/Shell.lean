import CrossFlags.FlagSet

/-!
# Flags as shell variables

A flag set as five `export` lines that a POSIX shell can evaluate. Each argument is quoted on its
own and the arguments are joined by blanks; the joined line is then quoted once more as the value
of its variable. The shell undoes the outer quoting when it evaluates the line, and whoever
expands the variable undoes the inner one.

A word that needs no quotes gets none: flags are read by people too.
-/

set_option autoImplicit false

namespace CrossFlags.Shell

/-- Means itself to a shell, wherever it stands in a word. -/
def isPlain (c : Char) : Bool := c.isAlphanum || "-_=+:,./@%".toList.contains c

/-- The single quote. -/
def quoteMark : Char := '\x27'

/-- A character inside single quotes. The single quote itself cannot stand there: the quotes end,
an escaped one follows, and they begin again. -/
def inQuotes (c : Char) : List Char :=
  if c = quoteMark then [quoteMark, '\\', quoteMark, quoteMark] else [c]

/-- The word needs no quotes. -/
def isSafe (word : List Char) : Bool := !word.isEmpty && word.all isPlain

/-- A word as a shell reads it. The empty word has to be quoted to be seen. -/
def quoteChars (word : List Char) : List Char :=
  if isSafe word then word else quoteMark :: word.flatMap inQuotes ++ [quoteMark]

/-- `quoteChars`, on strings. -/
def quote (word : String) : String := String.ofList (quoteChars word.toList)

/-- Arguments as one line. -/
def line (args : List String) : String := " ".intercalate (args.map quote)

/-- The line that sets a variable to a list of arguments. -/
def assignment (name : String) (args : List String) : String :=
  "export " ++ name ++ "=" ++ quote (line args) ++ "\n"

/-- The variables that a flag set determines. C has its own flags on top of those it shares with
C++. -/
def exports (flags : FlagSet) : List (String × List String) :=
  [("CPPFLAGS", flags.cppArgs),
   ("CFLAGS", flags.compileFlags ++ flags.cFlags),
   ("CXXFLAGS", flags.compileFlags),
   ("LDFLAGS", flags.linkFlags),
   ("LIBS", flags.libraryArgs)]

/-- A flag set as shell text. -/
def render (flags : FlagSet) : String :=
  String.join ((exports flags).map fun (name, args) => assignment name args)

example : quote "-l:libc.dso" = "-l:libc.dso" := by decide
example : quote "" = "''" := by decide
example : quote "it's" = "'it'\\''s'" := by decide

end CrossFlags.Shell
