import CrossFlags.Library

/-!
# Flag sets

What a build hands to its compiler and linker. Defines and libraries are kept bare, without the
`-D` and `-l` that carry them on a command line; libraries are in link order. `discovery` is what
is still to be asked of the build environment, in dependency order.
-/

set_option autoImplicit false

namespace CrossFlags

/-- A question to the build environment: the flags of one library's packages. -/
structure Query where
  library : Library
  packages : List String
  deriving DecidableEq

/-- The question about a library under its own packages. -/
def Query.ofLibrary (lib : Library) : Query := ⟨lib, lib.packages⟩

/-- The inputs of compiler and linker. -/
@[ext] structure FlagSet where
  defines : List String := []
  /-- Flags for C and C++. -/
  compileFlags : List String := []
  /-- Flags for C alone. -/
  cFlags : List String := []
  linkFlags : List String := []
  linkLibraries : List String := []
  discovery : List Query := []
  deriving DecidableEq

namespace FlagSet

/-- The defines as arguments. -/
def cppArgs (flags : FlagSet) : List String := flags.defines.map ("-D" ++ ·)

/-- The libraries as arguments. -/
def libraryArgs (flags : FlagSet) : List String := flags.linkLibraries.map ("-l" ++ ·)

/-- The define is present exactly as written. -/
def hasDefine (flags : FlagSet) (define : String) : Bool := flags.defines.contains define

/-- The libraries still to be asked about, in order. -/
def pendingLibraries (flags : FlagSet) : List Library := flags.discovery.map Query.library

end FlagSet
end CrossFlags
