import CrossFlags.Assembly
import CrossFlags.Discovery
import CrossFlags.Options.Read
import CrossFlags.Rule

/-!
# Resolutions

The whole way from a bag of supplied values to flags: read the options, close the choice of
libraries under their dependencies, assemble. Only the first step can fail, so a resolution can
fail only with an `OptionError`.

What a resolution still owes to the build environment stands in `flags.discovery`; `probe` pays
it. Probing has no say in the options: they are what they were.
-/

set_option autoImplicit false

namespace CrossFlags

/-- Options with the flags that follow from them. -/
structure Resolution where
  options : Options
  flags : FlagSet
  deriving DecidableEq

namespace Resolution

/-- The resolution of typed options. -/
def ofOptions (options : Options) (profile : Profile) : Resolution where
  options := options.closed
  flags := .assemble options.closed profile

/-- The resolution of a bag of supplied values. -/
def ofBag (bag : Bag) (profile : Profile) : Except OptionError Resolution := do
  let options ← Options.ofBag bag
  return ofOptions options profile

/-- What resolving a bag says, stage by stage. A bag that cannot be read says only what reading
it says. -/
def eventsOfBag (bag : Bag) (profile : Profile) : List Log.Event :=
  Options.eventsOfBag bag ++
    match Options.ofBag bag with
    | .error _ => []
    | .ok options =>
      options.sources.ruleEvents Rule.dependencies ++
        FlagSet.assemblyEvents options.closed profile

variable {ε : Type}

/-- The resolution with its pending queries answered. -/
def probe (resolution : Resolution) (answer : Query → Except ε Answer) (profile : Profile) :
    Except ε Resolution := do
  let flags ← resolution.flags.discover answer profile
  return { resolution with flags }

end Resolution
end CrossFlags
