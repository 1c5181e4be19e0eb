import CrossFlags.Flag.Pair
import CrossFlags.Text.Spelling

/-!
# Reading what a flag tool prints

A tool such as `pkg-config` answers with one line of compiler and linker arguments. `Argument` is
one of them, and `Answer` is the line sorted into what the compiler, the linker and the
preprocessor want.

Reading has two steps that do not know of each other. `Argument.readAll` only groups words: an
option that carries a value takes the next word whatever it looks like, and so do `-D`, `-I`,
`-L` and `-l` where nothing is attached to them; where no word is left, an option stays alone.
`Answer.ofArguments` only sorts: each field is what the arguments contribute to it one by one, so
order inside a field is order in the line.
-/

set_option autoImplicit false

namespace CrossFlags

/-- An option letter whose value is attached or in the next word. -/
inductive Letter where
  | define
  | headerDir
  | libraryDir
  | library
  deriving DecidableEq

namespace Letter

/-- The option as it is written. -/
def text : Letter → String
  | .define => "-D"
  | .headerDir => "-I"
  | .libraryDir => "-L"
  | .library => "-l"

/-- The letter at the front of a word, and what is attached to it. -/
def ofWord? (word : String) : Option (Letter × String) :=
  match word.toList with
  | '-' :: 'D' :: rest => some (.define, String.ofList rest)
  | '-' :: 'I' :: rest => some (.headerDir, String.ofList rest)
  | '-' :: 'L' :: rest => some (.libraryDir, String.ofList rest)
  | '-' :: 'l' :: rest => some (.library, String.ofList rest)
  | _ => none

end Letter

/-- One argument of a compiler or linker. -/
inductive Argument where
  /-- An option that carries a value in the next word, with that word if there was one. -/
  | paired (word : String) (value? : Option String)
  /-- A letter option with its value, attached or not. -/
  | lettered (letter : Letter) (value : String)
  /-- Any other word, and a letter option with nothing after it. -/
  | plain (word : String)
  deriving DecidableEq

namespace Argument

/-- Words grouped into arguments. -/
def readAll : List String → List Argument
  | [] => []
  | [word] =>
    if Flag.takesValue word then [.paired word none]
    else match Letter.ofWord? word with
      | some (letter, value) => if value.isEmpty then [.plain word] else [.lettered letter value]
      | none => [.plain word]
  | word :: next :: rest =>
    if Flag.takesValue word then .paired word (some next) :: readAll rest
    else match Letter.ofWord? word with
      | some (letter, value) =>
        if value.isEmpty then .lettered letter next :: readAll rest
        else .lettered letter value :: readAll (next :: rest)
      | none => .plain word :: readAll (next :: rest)

/-- An option and its value, or an option alone. -/
def pairWords (word : String) : Option String → List String
  | some value => [word, value]
  | none => [word]

/-- The word is an option of some kind. -/
def isDashed (word : String) : Bool := word.toList.head? == some '-'

/-- The word passes something on to the linker. -/
def isLinkerOption (word : String) : Bool := "-Wl,".toList.isPrefixOf word.toList

/-- The word asks both compiler and linker for threads. -/
def isThreads (word : String) : Bool := word == "-pthread"

/-- What the argument adds to the defines. -/
def defines : Argument → List String
  | .lettered .define value => [value]
  | _ => []

/-- What the argument adds to the compile flags. -/
def compileFlags : Argument → List String
  | .paired word value? => if Flag.compilePairs.contains word then pairWords word value? else []
  | .lettered .headerDir value => [Letter.headerDir.text ++ value]
  | .lettered _ _ => []
  | .plain word => if isDashed word && !isLinkerOption word then [word] else []

/-- What the argument adds to the link flags. -/
def linkFlags : Argument → List String
  | .paired word value? => if Flag.compilePairs.contains word then [] else pairWords word value?
  | .lettered .libraryDir value => [Letter.libraryDir.text ++ value]
  | .lettered _ _ => []
  | .plain word => if isThreads word || isLinkerOption word then [word] else []

/-- What the argument adds to the libraries. A word that is no option is a library file. -/
def libraries : Argument → List String
  | .lettered .library value => [value]
  | .plain word => if isDashed word then [] else [word]
  | _ => []

end Argument

/-- The flags that the build environment reports for one query. -/
@[ext] structure Answer where
  defines : List String := []
  compileFlags : List String := []
  linkFlags : List String := []
  linkLibraries : List String := []
  deriving DecidableEq

namespace Answer

/-- Arguments sorted by what they are for. -/
def ofArguments (arguments : List Argument) : Answer where
  defines := arguments.flatMap Argument.defines
  compileFlags := arguments.flatMap Argument.compileFlags
  linkFlags := arguments.flatMap Argument.linkFlags
  linkLibraries := arguments.flatMap Argument.libraries

/-- The answer that a line of arguments gives. -/
def read (line : String) : Answer := ofArguments (Argument.readAll (Text.words line))

/-- One answer after another, field by field. -/
def append (first second : Answer) : Answer where
  defines := first.defines ++ second.defines
  compileFlags := first.compileFlags ++ second.compileFlags
  linkFlags := first.linkFlags ++ second.linkFlags
  linkLibraries := first.linkLibraries ++ second.linkLibraries

instance : Append Answer := ⟨append⟩

/-- Sorting works argument by argument. -/
theorem ofArguments_append (first second : List Argument) :
    ofArguments (first ++ second) = ofArguments first ++ ofArguments second := by
  ext1 <;> exact List.flatMap_append

end Answer

example : Answer.read "-DA -I /i -isystem -l -pthread -Wl,-x -lm /l.a -O2 -L" =
    { defines := ["A"]
      compileFlags := ["-I/i", "-isystem", "-l", "-pthread", "-O2", "-L"]
      linkFlags := ["-pthread", "-Wl,-x"]
      linkLibraries := ["m", "/l.a"] } := by decide

end CrossFlags
