import CrossFlags.Axis
import CrossFlags.Library
import CrossFlags.Path

/-!
# Typed options

What a bag of supplied values comes down to once every option has been read: one value per
option, with the type that option has. Nothing here is optional any more.
-/

set_option autoImplicit false

namespace CrossFlags

/-- A value for every declared option. -/
@[ext] structure Options where
  buildMode : BuildMode
  abiVariant : AbiVariant
  wordSize : WordSize
  force32Bits : Bool
  sources : Sources
  /-- The root of the target's SDK. -/
  sdkRoot : String
  /-- The root of the companion project whose headers every build sees. -/
  companionRoot : String
  /-- The compiler, as far as it is needed to find the libraries beside it. -/
  cxx : String
  /-- Where the linker writes its map. -/
  mapFile : String
  deriving DecidableEq

/-- The root of the toolchain that the compiler belongs to, where its path shows it. -/
def Options.toolchainRoot? (options : Options) : Option String :=
  Path.installationRoot? options.cxx

end CrossFlags
