import CrossFlags.Flag.Argument
import CrossFlags.FlagSet
import CrossFlags.Log.Event
import CrossFlags.Profile
import CrossFlags.Text.Spelling

/-!
# Merging what the environment reports

Pending queries are asked one after the other and their answers are merged into the flag set. The
merge is a set union that keeps order: what is already there stays in front and is not repeated.
Options that carry a value are compared together with it.

Libraries are the exception to "at the end": newly reported ones go right behind the startup code,
so that they come before the base libraries they need. The first query that fails ends the run
with its error and leaves the flag set as it was.

What answers a query is the caller's choice, and so is what asking can do besides: merging goes by
the answers alone and takes them in any monad (`discoverM`). `discover` asks a probe that can do no
more than fail.
-/

set_option autoImplicit false

namespace CrossFlags

namespace Flag

/-- Two neighbouring entries. -/
def adjacent (word value : String) : List String → Bool
  | [] | [_] => false
  | first :: second :: rest =>
    (first == word && second == value) || adjacent word value (second :: rest)

/-- Reported flags appended where they are not yet present, option and value as one. -/
def mergeUnique (target : List String) : List String → List String
  | [] => target
  | [word] => if target.contains word then target else target ++ [word]
  | word :: next :: rest =>
    if takesValue word then
      mergeUnique (if adjacent word next target then target else target ++ [word, next]) rest
    else
      mergeUnique (if target.contains word then target else target ++ [word]) (next :: rest)

/-- Reported libraries appended where neither list has them yet. -/
def mergeLibraries (base found : List String) : List String → List String
  | [] => found
  | lib :: rest =>
    mergeLibraries base (if found.contains lib || base.contains lib then found else found ++ [lib])
      rest

end Flag

namespace Discovery

variable {ε : Type}

/-- A merge under way: the flags so far, with their libraries untouched, and the libraries found
since. -/
structure Progress where
  flags : FlagSet
  found : List String
  deriving DecidableEq

/-- One answer merged. -/
def Progress.absorb (progress : Progress) (answer : Answer) : Progress where
  flags :=
    { progress.flags with
      defines := Flag.mergeUnique progress.flags.defines answer.defines
      compileFlags := Flag.mergeUnique progress.flags.compileFlags answer.compileFlags
      linkFlags := Flag.mergeUnique progress.flags.linkFlags answer.linkFlags }
  found :=
    Flag.mergeLibraries progress.flags.linkLibraries progress.found answer.linkLibraries

/-- Queries asked in order, each answer merged before the next query is asked. -/
def collect {m : Type → Type} [Monad m] (probe : Query → m Answer) (progress : Progress) :
    List Query → m Progress
  | [] => pure progress
  | query :: rest => do
    let answer ← probe query
    collect probe (progress.absorb answer) rest

/-- The queries that a run asks: all of them up to the first that fails, that one included. -/
def asked (probe : Query → Except ε Answer) : List Query → List Query
  | [] => []
  | query :: rest =>
    match probe query with
    | .ok _ => query :: asked probe rest
    | .error _ => [query]

/-- What a run says: for each query asked, what asking it says, and the size of its answer. -/
def events (probe : Query → Except ε Answer) (asking : Query → List Log.Event) :
    List Query → List Log.Event
  | [] => []
  | query :: rest =>
    asking query ++
      match probe query with
      | .ok answer =>
        { level := .debug, origin := .discovery
          message := query.library.name ++ ": " ++ Text.naturalText answer.defines.length ++
            " defines, " ++ Text.naturalText answer.linkLibraries.length ++ " libraries" } ::
          events probe asking rest
      | .error _ => []

/-- A merge finished: the libraries found are put behind `entryCount` base libraries, or behind
all of them where there are fewer. -/
def Progress.finish (progress : Progress) (entryCount : Nat) : FlagSet :=
  { progress.flags with
    linkLibraries :=
      progress.flags.linkLibraries.take entryCount ++ progress.found ++
        progress.flags.linkLibraries.drop entryCount
    discovery := [] }

end Discovery

namespace FlagSet

variable {ε : Type}

/-- The flag set with every pending query answered and merged, whatever asking does besides. -/
def discoverM {m : Type → Type} [Monad m] (flags : FlagSet) (probe : Query → m Answer)
    (profile : Profile) : m FlagSet := do
  let progress ← Discovery.collect probe ⟨flags, []⟩ flags.discovery
  return progress.finish profile.libraries.entry.length

/-- The flag set with every pending query answered and merged. -/
def discover (flags : FlagSet) (probe : Query → Except ε Answer) (profile : Profile) :
    Except ε FlagSet :=
  flags.discoverM probe profile

end FlagSet
end CrossFlags
