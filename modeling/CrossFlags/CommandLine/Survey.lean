import CrossFlags.CommandLine.Run

/-!
# Surveying a host

A run takes its host as a value, so whoever runs it on a real machine has to look at that machine
first. `lookups` lists the paths that matter for a run, as far as what is already known shows
them, and `Host.ofFacts` is the host that answers from what has been seen. Two rounds are enough:
the second one sees the option file, and nothing that is found later names another path.
-/

set_option autoImplicit false

namespace CrossFlags

/-- What has been seen at paths. -/
abbrev Facts := List (Octets × Except Refusal Node)

/-- The host that knows these variables and what has been seen. It runs no programs. -/
def Host.ofFacts (environment : Variables) (facts : Facts) : Host where
  environment
  look path :=
    match facts.find? fun fact => fact.1 == path with
    | some fact => fact.2
    | none => .error .notFound
  execute _ _ := none

namespace CommandLine

/-- The variables that any run may ask for. -/
def variableNames : List String :=
  fileVariable :: Log.Filter.filterVariable :: "PKG_CONFIG" :: "PATH" :: "HOME" ::
    Key.all.map fun key => variableOf key.name

/-- The paths that matter for a run: the option file, the roots, and where the tool may be. -/
def lookups (host : Host) (args : List String) : List Octets :=
  match Invocation.parse host.environment args with
  | .ok { config?, task := .resolve _ _ _ strict, .. } =>
    let loader := loaderOf host.environment config? strict
    let roots := match loader.load host with
      | .ok bag => (Loader.roots bag).map fun root => Utf8.encode root.2
      | .error _ => []
    loader.path :: (roots ++ (host.environment.get? "PKG_CONFIG").toList ++
      PkgConfig.candidates host.environment)
  | _ => []

end CommandLine
end CrossFlags
