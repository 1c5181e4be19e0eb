import CrossFlags.Environment
import CrossFlags.Loading
import CrossFlags.Render

/-!
# Command line arguments

A command line has two levels: parameters of the program, then a command, then parameters of the
command. Three of them are known at both levels. `Arguments.parse` reads both levels and settles
what they say together, or says why there is nothing to do.

At each level words are read from left to right and the first one that cannot be meant ends the
reading; asking for the version or for help ends it just the same, at its own place in the row.
A parameter may be given once per level, except the one that is counted. Where a level says nothing
the other one's word stands, and the command's own word goes first.
-/

set_option autoImplicit false

namespace CrossFlags.CommandLine

/-! ## What can be written -/

/-- A command. -/
inductive Command where
  | resolve
  | options
  | profile
  deriving DecidableEq

namespace Command

/-- The command's name. -/
def name : Command → String
  | .resolve => "resolve"
  | .options => "options"
  | .profile => "profile"

/-- The command of this name. -/
def ofName? (s : String) : Option Command :=
  [resolve, options, profile].find? fun command => command.name == s

end Command

/-- A parameter of the command line: an option that is written with dashes. -/
inductive Param where
  | config
  | verbose
  | quiet
  | help
  | version
  | format
  | probe
  | sysroot
  | strict
  deriving DecidableEq

namespace Param

/-- The parameter's long name. -/
def long : Param → String
  | .config => "config"
  | .verbose => "verbose"
  | .quiet => "quiet"
  | .help => "help"
  | .version => "version"
  | .format => "format"
  | .probe => "probe"
  | .sysroot => "sysroot"
  | .strict => "strict"

/-- The parameter's letter, if it has one. -/
def short? : Param → Option Char
  | .config => some 'c'
  | .verbose => some 'v'
  | .quiet => some 'q'
  | .help => some 'h'
  | .version => some 'V'
  | _ => none

/-- The parameter carries a value. -/
def takesValue : Param → Bool
  | .config | .format | .sysroot => true
  | _ => false

/-- The parameter may be repeated. -/
def isCounted : Param → Bool
  | .verbose => true
  | _ => false

/-- The value is one that the parameter can carry. -/
def accepts (param : Param) (value : String) : Bool :=
  match param with
  | .config | .sysroot => !value.isEmpty
  | .format => (Format.ofName? value).isSome
  | _ => true

end Param

/-- Where parameters are written: in front of a command, or behind it. -/
inductive Level where
  | program
  | command (command : Command)
  deriving DecidableEq

/-- The parameters known at a level. -/
def Level.params : Level → List Param
  | .program => [.config, .verbose, .quiet, .help, .version]
  | .command .resolve => [.config, .verbose, .quiet, .help, .format, .probe, .sysroot, .strict]
  | .command _ => [.config, .verbose, .quiet, .help]

/-- Why there is nothing to run. -/
inductive Stop where
  /-- The words make no sense. -/
  | misuse
  | help
  | version
  deriving DecidableEq

/-! ## One level -/

/-- Parameters as given at one level, each with its value, if it carries one. -/
abbrev Given := List (Param × String)

namespace Given

/-- The parameter is given. -/
def has (given : Given) (param : Param) : Bool := given.any fun g => g.1 = param

/-- The parameter's value. -/
def value? (given : Given) (param : Param) : Option String :=
  (given.find? fun g => g.1 = param).map Prod.snd

/-- How often the parameter is given. -/
def times (given : Given) (param : Param) : Nat := given.countP fun g => g.1 = param

/-- One more parameter. -/
def add (given : Given) (param : Param) (value : String) : Except Stop Given :=
  if param = .help then .error .help
  else if param = .version then .error .version
  else if (given.has param && !param.isCounted) || !param.accepts value then .error .misuse
  else .ok (given ++ [(param, value)])

end Given

/-- A word by its looks. -/
inductive Word where
  /-- Two dashes: no parameters behind this. -/
  | endOfParams
  | long (name : String) (value? : Option String)
  | shorts (letters : List Char)
  | plain

/-- The word begins with a dash and is not only that. -/
def isDashed (word : String) : Bool :=
  match word.toList with
  | '-' :: _ :: _ => true
  | _ => false

/-- What a word looks like. -/
def Word.ofString (word : String) : Word :=
  match word.toList with
  | ['-', '-'] => .endOfParams
  | '-' :: '-' :: rest =>
    match rest.span (· != '=') with
    | (name, []) => .long (String.ofList name) none
    | (name, _ :: value) => .long (String.ofList name) (some (String.ofList value))
  | '-' :: c :: rest => .shorts (c :: rest)
  | _ => .plain

/-- Reading under way: what is given so far, and the parameter that waits for its value. -/
structure Reading where
  given : Given
  waiting? : Option Param

namespace Reading

/-- A word of letters. The first letter that carries a value takes the rest of the word, with or
without a sign between them; where nothing is left it waits. -/
def letters (level : Level) (given : Given) : List Char → Except Stop Reading
  | [] => .ok ⟨given, none⟩
  | c :: rest =>
    match level.params.find? fun param => param.short? == some c with
    | none => .error .misuse
    | some param =>
      if param.takesValue then
        match rest with
        | [] => .ok ⟨given, some param⟩
        | '=' :: value => do return ⟨← given.add param (String.ofList value), none⟩
        | value => do return ⟨← given.add param (String.ofList value), none⟩
      else do
        let given ← given.add param ""
        letters level given rest

/-- A long name. -/
def longName (level : Level) (given : Given) (name : String) (value? : Option String) :
    Except Stop Reading :=
  match level.params.find? fun param => param.long == name with
  | none => .error .misuse
  | some param =>
    match param.takesValue, value? with
    | true, some value => do return ⟨← given.add param value, none⟩
    | true, none => .ok ⟨given, some param⟩
    | false, some _ => .error .misuse
    | false, none => do return ⟨← given.add param "", none⟩

end Reading

/-- A level read: what is given, and the words from the first one on that is no parameter. -/
def readLevel (level : Level) : Reading → List String → Except Stop (Given × List String)
  | ⟨given, none⟩, [] => .ok (given, [])
  | ⟨_, some _⟩, [] => .error .misuse
  | ⟨given, some param⟩, word :: rest =>
    -- A value in a word of its own does not look like a parameter; a dash alone is a value.
    if isDashed word then .error .misuse
    else do
      let given ← given.add param word
      readLevel level ⟨given, none⟩ rest
  | ⟨given, none⟩, word :: rest =>
    match Word.ofString word with
    | .endOfParams => if rest.isEmpty then .ok (given, []) else .error .misuse
    | .long name value? => do
      let reading ← Reading.longName level given name value?
      readLevel level reading rest
    | .shorts letters => do
      let reading ← Reading.letters level given letters
      readLevel level reading rest
    | .plain => .ok (given, word :: rest)

/-! ## Both levels together -/

/-- What a command line asks for. -/
inductive Task where
  | resolve (format : Format) (probe : Bool) (sysroot? : Option String) (strict : Bool)
  | options
  | profile
  deriving DecidableEq

/-- A command line that makes sense. -/
structure Invocation where
  /-- The option file, if one is named. -/
  config? : Option Octets
  verbosity : Nat
  quiet : Bool
  task : Task
  deriving DecidableEq

/-- The task of a command. A root to look below is of no use without looking. -/
def taskOf (command : Command) (given : Given) : Except Stop Task :=
  match command with
  | .resolve =>
    if given.has .sysroot && !given.has .probe then .error .misuse
    else .ok (.resolve (((given.value? .format).bind Format.ofName?).getD .json)
      (given.has .probe) (given.value? .sysroot) (given.has .strict))
  | .options => .ok .options
  | .profile => .ok .profile

/-- The option file that both levels and the environment name. A file named by the environment
has to have a name wherever the environment has a say. -/
def configOf (vars : Variables) (outer inner : Given) : Except Stop (Option Octets) :=
  if vars.get? fileVariable = some [] ∧ ¬(outer.has .config ∧ inner.has .config) then
    .error .misuse
  else
    .ok ((((inner.value? .config).or (outer.value? .config)).map Utf8.encode).or
      (vars.get? fileVariable))

/-- What asking for help by name comes to: the program's help, or that of one command, to which
asking for help belongs. Nothing may follow. -/
def helpOn : List String → Stop
  | [] => .help
  | [name] => if name = "help" ∨ (Command.ofName? name).isSome then .help else .misuse
  | _ => .misuse

namespace Invocation

/-- What a command line says, or why it says nothing. -/
def parse (vars : Variables) (args : List String) : Except Stop Invocation := do
  let (outer, words) ← readLevel .program ⟨[], none⟩ args
  match words with
  | [] => .error .misuse
  | name :: rest =>
    if name = "help" then .error (helpOn rest)
    match Command.ofName? name with
    | none => .error .misuse
    | some command =>
      let (inner, extra) ← readLevel (.command command) ⟨[], none⟩ rest
      if !extra.isEmpty then .error .misuse
      let task ← taskOf command inner
      let config? ← configOf vars outer inner
      return {
        config?
        verbosity := if inner.has .verbose then inner.times .verbose else outer.times .verbose
        quiet := inner.has .quiet || outer.has .quiet
        task }

end Invocation
end CrossFlags.CommandLine
