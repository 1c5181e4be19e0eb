import CrossFlags.Axis
import CrossFlags.Path

/-!
# Platform profiles

A profile describes a target once and for all: what each build mode and each ABI variant
contributes, the SDK's layout, the flags every build gets and the libraries every program is
linked with, group by group in link order. Everything relative in it is relative to the SDK.

`Profile.fault?` checks what assembly relies on. Its three conditions are independent, and where
several fail the first one is reported.
-/

set_option autoImplicit false

namespace CrossFlags

/-- The three-part name of a target. -/
structure Triplet where
  arch : String
  vendor : String
  os : String
  deriving DecidableEq

namespace Triplet

/-- The name as one word. -/
def text (triplet : Triplet) : String := "-".intercalate [triplet.arch, triplet.vendor, triplet.os]

/-- A tool of the target's toolchain. -/
def tool (triplet : Triplet) (name : String) : String := triplet.text ++ "-" ++ name

end Triplet

/-- What a build mode contributes. -/
structure ModePart where
  compileFlags : List String
  defines : List String
  deriving DecidableEq

/-- What an ABI variant contributes. -/
structure AbiPart where
  defines : List String
  graphicsDefines : List String
  /-- The headers of the variant's C++ library, relative to the SDK. -/
  stlInclude : String
  cxxRuntime : List String
  realtimeLibs : List String
  graphicsLibs : List String
  deriving DecidableEq

/-- Both kinds of defines of a variant. -/
def AbiPart.allDefines (part : AbiPart) : List String := part.defines ++ part.graphicsDefines

/-- The libraries of every program that do not depend on the variant. -/
structure LinkGroups where
  /-- Startup code, which comes first. -/
  entry : List String
  posix : List String
  framework : List String
  utility : List String
  /-- The compiler's support libraries, which come last. -/
  toolchainSupport : List String
  deriving DecidableEq

/-- A target. -/
structure Profile where
  name : String
  triplet : Triplet
  gccVersion : String
  release : ModePart
  releaseDebug : ModePart
  debug : ModePart
  legacy : AbiPart
  current : AbiPart
  /-- Defines of every build. -/
  defines : List String
  /-- The header that `__PRODUCT_INCLUDE__` names. -/
  productInclude : String
  /-- Header directories before the variant's own. -/
  sdkIncludes : List String
  /-- Header directories after the variant's own. -/
  sdkIncludesTail : List String
  /-- The header that every translation unit begins with. -/
  forcedInclude : String
  /-- Flags for C and C++. -/
  compileFlags : List String
  /-- Flags for C alone. -/
  cFlags : List String
  linkFlags : List String
  /-- Directories of import libraries. -/
  sdkLibDirs : List String
  libraries : LinkGroups
  deriving DecidableEq

/-- Why a profile cannot be used. -/
inductive ProfileFault where
  /-- The two ABI variants share a define. -/
  | sharedDefine
  /-- There is no startup code or no compiler support. -/
  | missingGroup
  /-- Two build modes contribute the same. -/
  | sameModes
  deriving DecidableEq

/-- The fault in words. -/
def ProfileFault.message (fault : ProfileFault) : String :=
  "Platform profile invariant violated: " ++
    match fault with
    | .sharedDefine => "legacy and current ABI defines overlap"
    | .missingGroup => "entry and toolchain support libraries are required"
    | .sameModes => "build modes must contribute distinct bundles"

namespace Profile

/-- What a build mode contributes. -/
def mode (profile : Profile) : BuildMode → ModePart
  | .release => profile.release
  | .releaseDebug => profile.releaseDebug
  | .debug => profile.debug

/-- What an ABI variant contributes. -/
def abi (profile : Profile) : AbiVariant → AbiPart
  | .legacy => profile.legacy
  | .current => profile.current

/-- The library directories of a toolchain installed at `root`. -/
def toolchainLibDirs (profile : Profile) (root : String) : List String :=
  [Path.join root ("lib/gcc/" ++ profile.triplet.text ++ "/" ++ profile.gccVersion),
   Path.join root (profile.triplet.text ++ "/lib")]

/-- No define tells of both ABI variants. -/
def abiDefinesDisjoint (profile : Profile) : Bool :=
  profile.current.allDefines.all fun define => !profile.legacy.allDefines.contains define

/-- What is wrong with the profile, if anything. -/
def fault? (profile : Profile) : Option ProfileFault :=
  if !profile.abiDefinesDisjoint then some .sharedDefine
  else if profile.libraries.entry.isEmpty || profile.libraries.toolchainSupport.isEmpty then
    some .missingGroup
  else if profile.release = profile.releaseDebug ∨ profile.release = profile.debug ∨
      profile.releaseDebug = profile.debug then
    some .sameModes
  else none

theorem abiDefinesDisjoint_iff {profile : Profile} :
    profile.abiDefinesDisjoint = true ↔
      ∀ define ∈ profile.current.allDefines, define ∉ profile.legacy.allDefines := by
  simp [abiDefinesDisjoint]

end Profile
end CrossFlags
