/-!
# Log events

What a run has to say besides its result: each stage of the library has a function that lists its
events for given inputs, next to the function that computes its result. Nothing is emitted while
a result is being computed, so results and logs can be reasoned about apart.
-/

set_option autoImplicit false

namespace CrossFlags.Log

/-- How much an event matters, most severe first. -/
inductive Level where
  | error
  | warn
  | info
  | debug
  | trace
  deriving DecidableEq

namespace Level

/-- The level's name in log lines. -/
def name : Level → String
  | .error => "ERROR"
  | .warn => "WARN"
  | .info => "INFO"
  | .debug => "DEBUG"
  | .trace => "TRACE"

/-- The position, most severe first. -/
def rank : Level → Nat
  | .error => 0
  | .warn => 1
  | .info => 2
  | .debug => 3
  | .trace => 4

/-- At least as severe as a limit. -/
def atLeast (limit level : Level) : Bool := level.rank ≤ limit.rank

end Level

/-- The stage that an event comes from. -/
inductive Origin where
  | loading
  | normalization
  | rules
  | assembly
  | discovery
  | commandLine
  deriving DecidableEq

/-- The name by which a log filter knows the stage. -/
def Origin.target : Origin → String
  | .loading => "symconf_config::loader"
  | .normalization => "symconf_config::normalize"
  | .rules => "symconf_resolver::rules"
  | .assembly => "symconf_resolver::assemble"
  | .discovery => "symconf_resolver::discovery"
  | .commandLine => "symconf"

/-- One thing said. -/
structure Event where
  level : Level
  origin : Origin
  message : String
  /-- Named values that belong to the message, as text. -/
  fields : List (String × String) := []
  deriving DecidableEq

end CrossFlags.Log
