import CrossFlags.Host
import CrossFlags.OptionFile

/-!
# Loading supplied values

What a run is supplied with comes from an option file, then from the environment, whose values win.
A file that is not there may count as an empty one; whatever is there has to be a file, and readable
as a whole. Loading does not look at what the values mean, except that it warns about roots that do
not exist on this host: they may well exist where the build is going to run.
-/

set_option autoImplicit false

namespace CrossFlags

/-- The variable that names the option file. -/
def fileVariable : String := "SYMCONF_CONFIG"

/-- The option file where none is named. -/
def defaultFile : String := "symconf.toml"

/-- Why nothing could be loaded. -/
inductive LoadError where
  | notFound (path : Octets)
  | isDirectory
  | refused (why : Refusal)
  | notText
  | malformed
  | notUtf8 (key : Key)
  deriving DecidableEq

namespace LoadError

/-- What lies beneath the error, where that is not all there is to it. -/
def cause? : LoadError → Option String
  | .isDirectory => some "Is a directory (os error 21)"
  | .refused why => some why.message
  | .notText => some "stream did not contain valid UTF-8"
  | .notFound _ | .malformed | .notUtf8 _ => none

/-- The error in words. What is wrong with a malformed file is not told. -/
def message : LoadError → String
  | .notFound path => "Configuration file not found: " ++ Utf8.decodeLossy path
  | .isDirectory => "IO error: Is a directory (os error 21)"
  | .refused why => "IO error: " ++ why.message
  | .notText => "IO error: stream did not contain valid UTF-8"
  | .malformed => "TOML parse error"
  | .notUtf8 key => "Environment variable " ++ variableOf key.name ++ " is not valid UTF-8"

end LoadError

/-- How to load. -/
structure Loader where
  path : Octets
  /-- A file that is not there counts as empty. -/
  useDefaults : Bool := true
  /-- The environment is asked too. -/
  useEnvironment : Bool := true
  /-- Roots that do not exist are warned about. -/
  checkRoots : Bool := true
  deriving DecidableEq

namespace Loader

/-- The file that the environment names, as far as the name is text. -/
def environmentPath (vars : Variables) : Octets :=
  match (vars.get? fileVariable).bind Utf8.decode? with
  | some path => Utf8.encode path
  | none => Utf8.encode defaultFile

/-- The options that the file supplies. -/
def readFile (loader : Loader) (host : Host) : Except LoadError Bag :=
  match host.look loader.path with
  | .error _ => if loader.useDefaults then .ok .empty else .error (.notFound loader.path)
  | .ok .directory => .error .isDirectory
  | .ok (.closed why _ _) => .error (.refused why)
  | .ok (.file content _) =>
    match Utf8.decode? content with
    | none => .error .notText
    | some text =>
      match OptionFile.read? text with
      | none => .error .malformed
      | some bag => .ok bag

/-- The overrides that count. -/
def overrides (loader : Loader) (host : Host) : Overrides :=
  if loader.useEnvironment then .ofVariables host.environment else ⟨[], none⟩

/-- The file's options under the environment's. -/
def load (loader : Loader) (host : Host) : Except LoadError Bag := do
  let bag ← loader.readFile host
  match (loader.overrides host).unreadable? with
  | some key => .error (.notUtf8 key)
  | none => .ok (bag.override (loader.overrides host))

theorem overrides_of_asked {loader : Loader} {host : Host} (h : loader.useEnvironment = true) :
    loader.overrides host = .ofVariables host.environment := if_pos h

theorem overrides_of_unasked {loader : Loader} {host : Host}
    (h : loader.useEnvironment = false) : loader.overrides host = ⟨[], none⟩ :=
  if_neg (by simp [h])

theorem load_of_readFile {loader : Loader} {host : Host} {bag : Bag}
    (h : loader.readFile host = .ok bag) :
    loader.load host =
      match (loader.overrides host).unreadable? with
      | some key => .error (.notUtf8 key)
      | none => .ok (bag.override (loader.overrides host)) := by
  unfold load
  rw [h]
  rfl

/-! ## What loading says -/

/-- The options that are roots of directory trees. -/
def rootKeys : List Key := [.sdkRoot, .companionRoot]

/-- The roots of a bag, as far as they are supplied. -/
def roots (bag : Bag) : List (Key × String) :=
  rootKeys.filterMap fun key => (bag.get? key.name).map fun value => (key, value.asText)

/-- A warning for each root that does not exist. -/
def rootEvents (host : Host) (bag : Bag) : List Log.Event :=
  ((roots bag).filter fun root => !host.exists? (Utf8.encode root.2)).map fun root =>
    { level := .warn, origin := .loading
      message := root.1.name ++ " does not exist: " ++ root.2 }

/-- What opening the file says. -/
def openingEvents (loader : Loader) (host : Host) : List Log.Event :=
  let name := Utf8.decodeLossy loader.path
  if host.exists? loader.path then
    [{ level := .debug, origin := .loading, message := "loading options from " ++ name }]
  else if loader.useDefaults then
    [{ level := .debug, origin := .loading
       message := name ++ " not found, using declared defaults" }]
  else []

/-- What loading says: about the file, about each override, and about roots at the end. Where it
fails it has said what came before. -/
def events (loader : Loader) (host : Host) : List Log.Event :=
  loader.openingEvents host ++
    match loader.readFile host with
    | .error _ => []
    | .ok _ =>
      (loader.overrides host).events ++
        match loader.load host with
        | .error _ => []
        | .ok bag => if loader.checkRoots then rootEvents host bag else []

end Loader
end CrossFlags
