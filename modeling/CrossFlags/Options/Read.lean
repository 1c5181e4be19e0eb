import CrossFlags.Bag
import CrossFlags.Key
import CrossFlags.Log.Event
import CrossFlags.Options

/-!
# Reading options from a bag

`Options.ofBag` reads a whole bag or names the first thing wrong with it. First means: an
undeclared name comes before everything else, and after that the order is fixed and not the
bag's — the three axes and the width switch, the eight sources, the four paths.

How an option is read depends only on its own entry. A value that asks for the default counts as
not supplied. Keywords fold their ASCII letters; paths are taken as written between the blanks
around them, and a truth value is never a path. Forcing 32 bits overrules the word size after
both have been read, so a bad word size is an error even where it would not have counted.
-/

set_option autoImplicit false

namespace CrossFlags

/-- What is wrong with a bag. -/
inductive OptionError where
  /-- A name that no option has. -/
  | undeclared (name : String)
  /-- An option without a default that is not supplied. -/
  | missing (key : Key)
  /-- A value outside the option's domain, and what is allowed in its place. -/
  | illegal (key : Key) (got : String) (allowed : List String)
  /-- No build mode of this name, or no name at all. -/
  | unknownBuildMode (got : Option String)
  /-- A path of blanks only. -/
  | emptyPath (key : Key)
  deriving DecidableEq

/-- The error in words. -/
def OptionError.message : OptionError → String
  | .undeclared name => "Unknown option: " ++ name
  | .missing key => "Missing value for option: " ++ key.name
  | .illegal key got allowed =>
    "Invalid value '" ++ got ++ "' for option '" ++ key.name ++ "' (allowed: " ++
      ", ".intercalate allowed ++ ")"
  | .unknownBuildMode got => "Unknown build mode: " ++ got.getD "(unset)"
  | .emptyPath key => "Invalid path for option '" ++ key.name ++ "': path is empty"

namespace Bag

/-- The text supplied for an option, unless it asks for the default. -/
def supplied? (bag : Bag) (key : Key) : Option String :=
  ((bag.get? key.name).map RawValue.asText).filter fun text => !asksForDefault text

/-- The text that counts for an option: what is supplied, else the default. -/
def effective? (bag : Bag) (key : Key) : Option String := (bag.supplied? key).or key.default?

/-- The text that counts, where there has to be one. -/
def required (bag : Bag) (key : Key) : Except OptionError String :=
  match bag.effective? key with
  | some text => .ok text
  | none => .error (.missing key)

/-- The first supplied name that no option has. -/
def undeclared? (bag : Bag) : Option String :=
  bag.names.find? fun name => (Key.ofName? name).isNone

/-- Every supplied name is an option's. -/
def checkDeclared (bag : Bag) : Except OptionError Unit :=
  match bag.undeclared? with
  | some name => .error (.undeclared name)
  | none => .ok ()

/-- A keyword option, read by what its folded text means. Where that is nothing, the error lists
what is allowed. -/
def readKeyword {α : Type} (bag : Bag) (key : Key) (allowed : List String)
    (meaning : String → Option α) : Except OptionError α := do
  let text ← bag.required key
  match meaning (Text.lower text) with
  | some value => .ok value
  | none => .error (.illegal key text allowed)

/-- An option that takes one of the words it declares. -/
def readChoice {α : Type} (bag : Bag) (key : Key) (meaning : String → Option α) :
    Except OptionError α :=
  bag.readKeyword key key.domain.allowed meaning

/-- What a spelling of yes or no means. -/
def switchMeaning : String → Option Bool
  | "yes" | "true" => some true
  | "no" | "false" => some false
  | _ => none

/-- A yes-or-no option. -/
def readSwitch (bag : Bag) (key : Key) : Except OptionError Bool :=
  bag.readKeyword key Domain.switch.allowed switchMeaning

/-- The build mode, which has to be supplied and has an error of its own. -/
def readBuildMode (bag : Bag) : Except OptionError BuildMode :=
  match bag.effective? .buildMode with
  | none => .error (.unknownBuildMode none)
  | some text =>
    match BuildMode.ofName? (Text.lower text) with
    | some mode => .ok mode
    | none => .error (.unknownBuildMode (some text))

/-- A path option. -/
def readPath (bag : Bag) (key : Key) : Except OptionError String :=
  match bag.get? key.name with
  | some (.bool b) => .error (.illegal key (RawValue.bool b).asText Domain.path.allowed)
  | _ => do
    let path ← bag.required key
    if path.isEmpty then .error (.emptyPath key) else .ok path

/-- The sources of the listed libraries, read one after the other over `sources`. -/
def readSources (bag : Bag) : List Library → Sources → Except OptionError Sources
  | [], sources => .ok sources
  | lib :: rest, sources => do
    let useSystem ← bag.readSwitch (.useSystem lib)
    bag.readSources rest (sources.set lib (.ofUseSystem useSystem))

end Bag

/-- The axes as they are supplied, before forcing a width has its say. -/
structure Axes where
  buildMode : BuildMode
  abiVariant : AbiVariant
  force32Bits : Bool
  wordSize : WordSize
  deriving DecidableEq

namespace Axes

/-- The axes of a bag of declared options. -/
def ofBag (bag : Bag) : Except OptionError Axes := do
  bag.checkDeclared
  let buildMode ← bag.readBuildMode
  let abiVariant ← bag.readChoice .abiVariant AbiVariant.ofName?
  let force32Bits ← bag.readSwitch .force32Bits
  let wordSize ← bag.readChoice .bits WordSize.ofName?
  return { buildMode, abiVariant, force32Bits, wordSize }

/-- Forcing 32 bits changes the word size. -/
def isNarrowed (axes : Axes) : Bool := axes.force32Bits && axes.wordSize != .bits32

/-- The word size that is built. -/
def builtWordSize (axes : Axes) : WordSize := if axes.isNarrowed then .bits32 else axes.wordSize

end Axes

namespace Options

/-- The options that a bag supplies, or the first thing wrong with it. -/
def ofBag (bag : Bag) : Except OptionError Options := do
  let axes ← Axes.ofBag bag
  let sources ← bag.readSources Library.all .bundled
  let sdkRoot ← bag.readPath .sdkRoot
  let companionRoot ← bag.readPath .companionRoot
  let cxx ← bag.readPath .cxx
  let mapFile ← bag.readPath .mapFile
  return {
    buildMode := axes.buildMode
    abiVariant := axes.abiVariant
    wordSize := axes.builtWordSize
    force32Bits := axes.force32Bits
    sources, sdkRoot, companionRoot, cxx, mapFile }

/-- What reading a bag says: a warning where the word size is overruled (also when a later option
turns out bad), and the axes at the end where all went well. -/
def eventsOfBag (bag : Bag) : List Log.Event :=
  (match Axes.ofBag bag with
    | .ok axes =>
      if axes.isNarrowed then
        [{ level := .warn, origin := .normalization
           message := "force_32_bits is set, building " ++ WordSize.bits32.name ++
             "-bit instead of " ++ axes.wordSize.name ++ "-bit" }]
      else []
    | .error _ => []) ++
  (match ofBag bag with
    | .ok options =>
      [{ level := .debug, origin := .normalization, message := "normalized options"
         fields := [("build_mode", options.buildMode.name),
           ("abi_variant", options.abiVariant.name), ("word_size", options.wordSize.name)] }]
    | .error _ => [])

end Options
end CrossFlags
