import CrossFlags.Flag.Argument
import CrossFlags.FlagSet
import CrossFlags.Host
import CrossFlags.Log.Event
import CrossFlags.Text.Spelling

/-!
# Asking pkg-config

One query is one run of `pkg-config`: it is told where to look through variables, and what it
prints is read as a line of arguments. Cross builds need it told, since a host's own packages are
never the target's; `Settings.ofSysroot` looks only below one root.

Everything here is a function of the host, also the search for the tool itself.
-/

set_option autoImplicit false

namespace CrossFlags.PkgConfig

/-! ## Settings -/

/-- Where `pkg-config` looks. -/
structure Settings where
  /-- The directories of package descriptions. -/
  path : List String := []
  /-- What stands in front of every path that a package reports. -/
  sysroot : Option String := none
  /-- Look nowhere else. -/
  disableDefault : Bool := false
  deriving DecidableEq

namespace Settings

/-- A path below a root. A root that is empty or ends in a slash needs none. -/
def below (root relative : String) : String :=
  match root.toList.getLast? with
  | none => relative
  | some '/' => root ++ relative
  | some _ => root ++ "/" ++ relative

/-- The settings that see one root and nothing else. -/
def ofSysroot (root : String) : Settings where
  path := [below root "usr/lib/pkgconfig", below root "usr/share/pkgconfig"]
  sysroot := some root
  disableDefault := true

/-- The search directories as one variable's value. -/
def pathText (settings : Settings) : String := ":".intercalate settings.path

/-- The variables that carry the settings, by name. Without search directories neither of the two
lists is there. -/
def environment (settings : Settings) : List (String × String) :=
  (if settings.path.isEmpty then []
    else
      (if settings.disableDefault then [("PKG_CONFIG_LIBDIR", settings.pathText)] else []) ++
        [("PKG_CONFIG_PATH", settings.pathText)]) ++
  (match settings.sysroot with
    | some root => [("PKG_CONFIG_SYSROOT_DIR", root)]
    | none => [])

/-- The call for a query. -/
def call (settings : Settings) (query : Query) : Call where
  args := "--cflags" :: "--libs" :: query.packages
  environment := settings.environment

end Settings

/-! ## Finding the tool -/

/-- The tool's name. -/
def toolName : String := "pkg-config"

/-- The home directory, as far as the environment names one. -/
def home? (environment : Variables) : Option Octets :=
  (environment.get? "HOME").filter fun home => !home.isEmpty

/-- A directory of the search list. One that begins with a tilde is below the home directory, and
nowhere where that is not known. -/
def expanded (environment : Variables) (directory : Octets) : Option Octets :=
  match Text.pieces (· == pathSlash) directory with
  | first :: rest =>
    if first = Utf8.encode "~" then
      (home? environment).map fun home =>
        (rest.filter fun name => !name.isEmpty && name != Utf8.encode ".").foldl inDirectory home
    else some directory
  | [] => some directory

/-- The places where the tool may be, in the order in which they are tried. -/
def candidates (environment : Variables) : List Octets :=
  match environment.get? "PATH" with
  | none => []
  | some list =>
    (searchDirectories list).filterMap fun directory =>
      (expanded environment directory).map fun directory =>
        inDirectory directory (Utf8.encode toolName)

/-- The tool: what `PKG_CONFIG` says, whether or not it is there, else the first candidate that is
a program. -/
def locate? (host : Host) : Option Octets :=
  (host.environment.get? "PKG_CONFIG").or
    ((candidates host.environment).find? fun path => (host.executableAt path).isOk)

/-- What looking for the tool says. -/
def locateEvents (host : Host) : List Log.Event :=
  match locate? host with
  | some binary =>
    [{ level := .debug, origin := .discovery
       message := "using " ++ Utf8.decodeLossy binary }]
  | none => []

/-! ## Asking it -/

/-- A query that failed. -/
structure Failure where
  library : Library
  /-- Why, in the words of the tool or of the host. -/
  reason : String
  deriving DecidableEq

/-- The failure in words. -/
def Failure.message (failure : Failure) : String :=
  "Failed to query build environment for " ++ failure.library.name ++ ": " ++ failure.reason

/-- What a run of the tool says about a query. A run that ends badly says why on its error
stream. -/
def answerOf (query : Query) (reply : Reply) : Except Failure Answer :=
  if reply.status = 0 then .ok (.read (Utf8.decodeLossy reply.stdout))
  else .error ⟨query.library, Text.trim (Utf8.decodeLossy reply.stderr)⟩

/-- The answer to a query. -/
def ask (host : Host) (binary : Octets) (settings : Settings) (query : Query) :
    Except Failure Answer :=
  match host.run binary (settings.call query) with
  | .ok reply => answerOf query reply
  | .error refusal =>
    .error ⟨query.library,
      "failed to run " ++ Utf8.decodeLossy binary ++ ": " ++ refusal.message⟩

/-- What asking says, before the answer is known. -/
def askEvents (query : Query) : List Log.Event :=
  [{ level := .debug, origin := .discovery
     message := "pkg-config --cflags --libs " ++ " ".intercalate query.packages }]

end CrossFlags.PkgConfig
