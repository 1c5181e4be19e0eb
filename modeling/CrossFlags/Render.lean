import CrossFlags.Json.Encode
import CrossFlags.Shell

/-!
# Output formats

A resolution can be printed in full, as JSON, or as the shell variables that its flags make.
-/

set_option autoImplicit false

namespace CrossFlags

/-- An output format. -/
inductive Format where
  | json
  | shell
  deriving DecidableEq

namespace Format

/-- The format's name on the command line. -/
def name : Format → String
  | .json => "json"
  | .shell => "shell"

/-- The format with this exact name. -/
def ofName? (s : String) : Option Format := [json, shell].find? fun format => format.name == s

end Format

/-- The resolution's text in a format. -/
def Resolution.render (resolution : Resolution) : Format → String
  | .json => resolution.toJson.render
  | .shell => Shell.render resolution.flags

end CrossFlags
