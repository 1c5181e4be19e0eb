import CrossFlags.CommandLine.Arguments
import CrossFlags.Loading
import CrossFlags.Log.Filter
import CrossFlags.PkgConfig
import CrossFlags.Profile.Symbian
import CrossFlags.Render
import CrossFlags.Resolution
import CrossFlags.Text.Spelling

/-!
# Running the command line

`run` takes the host and the arguments to what a run leaves behind: an exit status, the text on
standard output and the lines of its log. It is all or nothing: where anything goes wrong the
status is not zero, standard output stays empty, and the last event says what went wrong.

Resolving loads, resolves, and asks `pkg-config` only where that is asked for and something is
still owed to the build environment. `resolved` is the result, `resolvingEvents` what is said and
`resolvingCalls` what is called on the way to it; all three follow the same steps.
-/

set_option autoImplicit false

namespace CrossFlags.CommandLine

/-- Why a run fails. -/
inductive Failure where
  | loading (path : Octets) (error : LoadError)
  | options (error : OptionError)
  | toolNotFound
  | query (failure : PkgConfig.Failure)
  | profile (fault : ProfileFault)
  deriving DecidableEq

namespace Failure

/-- Why no tool was found. -/
def noBinary : String := "cannot find binary path"

/-- The failure in words, followed by what lies beneath it. -/
def chain : Failure → List String
  | .loading path error =>
    ("Failed to load " ++ Utf8.decodeLossy path) :: error.message :: error.cause?.toList
  | .options error => ["Configuration error", error.message]
  | .toolNotFound => ["pkg-config not found: " ++ noBinary, noBinary]
  | .query failure => [failure.message]
  | .profile fault => [fault.message]

/-- The failure as the log tells it. -/
def event (failure : Failure) : Log.Event where
  level := .error
  origin := .commandLine
  message := ": ".intercalate failure.chain

end Failure

/-! ## Resolving -/

/-- The target that is resolved for. -/
def target : Profile := .symbian

/-- The loader of an invocation. -/
def loaderOf (vars : Variables) (config? : Option Octets) (strict : Bool) : Loader where
  path := config?.getD (Loader.environmentPath vars)
  useDefaults := !strict

/-- The settings that a root makes. -/
def settingsOf (sysroot? : Option String) : PkgConfig.Settings :=
  match sysroot? with
  | some root => .ofSysroot root
  | none => {}

/-- A resolution with what it owes to the build environment paid, if that is asked for. -/
def probed (host : Host) (settings : PkgConfig.Settings) (probe : Bool)
    (resolution : Resolution) : Except Failure Resolution :=
  if probe && !resolution.flags.discovery.isEmpty then
    match PkgConfig.locate? host with
    | none => .error .toolNotFound
    | some binary =>
      (resolution.probe (PkgConfig.ask host binary settings) target).mapError .query
  else .ok resolution

/-- What paying says. -/
def probingEvents (host : Host) (settings : PkgConfig.Settings) (probe : Bool)
    (resolution : Resolution) : List Log.Event :=
  if probe && !resolution.flags.discovery.isEmpty then
    PkgConfig.locateEvents host ++
      match PkgConfig.locate? host with
      | none => []
      | some binary =>
        Discovery.events (PkgConfig.ask host binary settings) PkgConfig.askEvents
          resolution.flags.discovery
  else []

/-- The calls that paying makes, each with the name of the program that is called. -/
def probingCalls (host : Host) (settings : PkgConfig.Settings) (probe : Bool)
    (resolution : Resolution) : List (Octets × Call) :=
  if probe then
    match PkgConfig.locate? host with
    | none => []
    | some binary =>
      (Discovery.asked (PkgConfig.ask host binary settings) resolution.flags.discovery).map
        fun query => (binary, settings.call query)
  else []

/-- The resolution that a loader's options come down to. -/
def resolved (host : Host) (loader : Loader) (settings : PkgConfig.Settings) (probe : Bool) :
    Except Failure Resolution := do
  let bag ← (loader.load host).mapError (.loading loader.path)
  let resolution ← (Resolution.ofBag bag target).mapError .options
  probed host settings probe resolution

/-- What is said on the way to it. -/
def resolvingEvents (host : Host) (loader : Loader) (settings : PkgConfig.Settings)
    (probe : Bool) : List Log.Event :=
  loader.events host ++
    match loader.load host with
    | .error _ => []
    | .ok bag =>
      Resolution.eventsOfBag bag target ++
        match Resolution.ofBag bag target with
        | .error _ => []
        | .ok resolution => probingEvents host settings probe resolution

/-- The calls that are made on the way to it. -/
def resolvingCalls (host : Host) (loader : Loader) (settings : PkgConfig.Settings)
    (probe : Bool) : List (Octets × Call) :=
  match loader.load host with
  | .error _ => []
  | .ok bag =>
    match Resolution.ofBag bag target with
    | .error _ => []
    | .ok resolution => probingCalls host settings probe resolution

/-! ## Descriptions -/

/-- A text filled up with blanks. -/
def padded (width : Nat) (s : String) : String :=
  s ++ String.ofList (List.replicate (width - s.length) ' ')

/-- The two lines about an option. -/
def optionLines (key : Key) : String :=
  "  " ++ padded 22 key.name ++ " " ++ padded 10 (key.default?.getD "(required)") ++ " " ++
    key.help ++ "\n" ++
  "  " ++ padded 22 "" ++ " " ++ " | ".intercalate key.domain.allowed ++ "\n"

/-- All options, described. -/
def optionsText : String :=
  "Recognized options\n" ++
  "Values other than paths match in any case.\n" ++
  "\"default\" or \"auto\" selects the declared default.\n\n" ++
  String.join (Key.all.map optionLines)

/-- A profile, described in short and in full. -/
def profileText (profile : Profile) : String :=
  profile.name ++ " profile\n" ++
  "  Target:        " ++ profile.triplet.text ++ "\n" ++
  "  Compiler:      " ++ profile.triplet.tool "g++" ++ " (" ++ profile.gccVersion ++ ")\n" ++
  "  Base defines:  " ++ Text.naturalText profile.defines.length ++ "\n" ++
  "  Entry libs:    " ++ " ".intercalate profile.libraries.entry ++ "\n" ++
  "  Support libs:  " ++ " ".intercalate profile.libraries.toolchainSupport ++ "\n\n" ++
  profile.toJson.render ++ "\n"

/-- The program's name and version. -/
def versionText : String := "symconf 0.0.1\n"

/-- How the program is called. -/
def helpText : String :=
  "Usage: symconf [-c FILE] [-v...] [-q] <COMMAND>\n\n" ++
  "Commands:\n" ++
  "  resolve [--format json|shell] [--probe [--sysroot DIR]] [--strict]\n" ++
  "  options\n" ++
  "  profile\n"

/-! ## Running -/

/-- What a run leaves behind. -/
structure Outcome where
  status : UInt32
  stdout : String
  log : List String
  deriving DecidableEq

namespace Outcome

/-- A task's text, or its failure, under a filter. -/
def ofTask (filter : Log.Filter) (events : List Log.Event) :
    Except Failure String → Outcome
  | .ok text => ⟨0, text, (filter.select events).map Log.Event.line⟩
  | .error failure => ⟨1, "", (filter.select (events ++ [failure.event])).map Log.Event.line⟩

/-- What is left where there is nothing to run. -/
def ofStop : Stop → Outcome
  | .misuse => ⟨2, "", helpText.splitOn "\n"⟩
  | .help => ⟨0, helpText, []⟩
  | .version => ⟨0, versionText, []⟩

end Outcome

/-- The text of a task. -/
def taskText (host : Host) (invocation : Invocation) : Except Failure String :=
  match invocation.task with
  | .resolve format probe sysroot? strict => do
    let loader := loaderOf host.environment invocation.config? strict
    let resolution ← resolved host loader (settingsOf sysroot?) probe
    return resolution.render format ++ "\n"
  | .options => .ok optionsText
  | .profile =>
    match target.fault? with
    | some fault => .error (.profile fault)
    | none => .ok (profileText target)

/-- What a task says besides. -/
def taskEvents (host : Host) (invocation : Invocation) : List Log.Event :=
  match invocation.task with
  | .resolve _ probe sysroot? strict =>
    resolvingEvents host (loaderOf host.environment invocation.config? strict)
      (settingsOf sysroot?) probe
  | .options | .profile => []

/-- The calls that a task makes. -/
def taskCalls (host : Host) (invocation : Invocation) : List (Octets × Call) :=
  match invocation.task with
  | .resolve _ probe sysroot? strict =>
    resolvingCalls host (loaderOf host.environment invocation.config? strict)
      (settingsOf sysroot?) probe
  | .options | .profile => []

/-- A run of an invocation. -/
def runInvocation (host : Host) (invocation : Invocation) : Outcome :=
  .ofTask (.ofRun host.environment invocation.verbosity invocation.quiet)
    (taskEvents host invocation) (taskText host invocation)

/-- The calls that a run makes, in order. -/
def calls (host : Host) (args : List String) : List (Octets × Call) :=
  match Invocation.parse host.environment args with
  | .error _ => []
  | .ok invocation => taskCalls host invocation

/-- A run of the program. -/
def run (host : Host) (args : List String) : Outcome :=
  match Invocation.parse host.environment args with
  | .error stop => .ofStop stop
  | .ok invocation => runInvocation host invocation

end CrossFlags.CommandLine
