import CrossFlags.Bag
import CrossFlags.Key
import CrossFlags.Options

/-!
# Options as supplied text

The way back from typed options to the entries of a bag: every option under its name, keywords
by their spelling, truth values as `yes` and `no`, paths as they are. Options that went through
reading and the dependency rules come back unchanged when their entries are read again.
-/

set_option autoImplicit false

namespace CrossFlags

/-- The spelling of a truth value. -/
def switchWord (b : Bool) : String := if b then "yes" else "no"

namespace Options

/-- The text of one option. -/
def textOf (options : Options) : Key → String
  | .buildMode => options.buildMode.name
  | .abiVariant => options.abiVariant.name
  | .bits => options.wordSize.name
  | .force32Bits => switchWord options.force32Bits
  | .sdkRoot => options.sdkRoot
  | .companionRoot => options.companionRoot
  | .cxx => options.cxx
  | .mapFile => options.mapFile
  | .useSystem lib => switchWord (options.sources.isSystem lib)

/-- The listed options as supplied texts. -/
def toEntries (options : Options) (keys : List Key) : Entries :=
  keys.map fun key => (key.name, .text (options.textOf key))

end Options
end CrossFlags
