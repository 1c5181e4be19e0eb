import CrossFlags.FlagSet
import CrossFlags.Log.Event
import CrossFlags.Options
import CrossFlags.Profile
import CrossFlags.Text.Spelling

/-!
# Assembling a flag set

Typed options and a profile determine a flag set. Each list is written as one concatenation, in
the order in which its parts have to stand:

* defines: build mode, ABI variant, the profile's own, and last the product header;
* compile flags: build mode, header directories, the forced header, the profile's own;
* link flags: the profile's own, the map, the toolchain's directories, the SDK's;
* libraries: eight groups from the startup code to the compiler's support.

Word size does not occur. The toolchain's directories are left out where the compiler's path does
not show where it is installed.
-/

set_option autoImplicit false

namespace CrossFlags

namespace Profile

/-- The define that names the product header, quoted for the preprocessor. -/
def productDefine (profile : Profile) (sdkRoot : String) : String :=
  "__PRODUCT_INCLUDE__=\"" ++ Path.join sdkRoot profile.productInclude ++ "\""

/-- The header directories of a build, in search order. -/
def includeDirs (profile : Profile) (options : Options) : List String :=
  options.companionRoot ::
    (profile.sdkIncludes ++ [(profile.abi options.abiVariant).stlInclude] ++
      profile.sdkIncludesTail).map (Path.join options.sdkRoot)

/-- The linker arguments for the toolchain's library directories. -/
def toolchainArgs (profile : Profile) (options : Options) : List String :=
  match options.toolchainRoot? with
  | some root => (profile.toolchainLibDirs root).map ("-L" ++ ·)
  | none => []

/-- The base libraries of an ABI variant, in link order. -/
def linkOrder (profile : Profile) (variant : AbiVariant) : List String :=
  let groups := profile.libraries
  let abi := profile.abi variant
  groups.entry ++ abi.cxxRuntime ++ groups.posix ++ abi.realtimeLibs ++ groups.framework ++
    abi.graphicsLibs ++ groups.utility ++ groups.toolchainSupport

end Profile

namespace FlagSet

/-- The flag set of a build. -/
def assemble (options : Options) (profile : Profile) : FlagSet where
  defines :=
    (profile.mode options.buildMode).defines ++
      (profile.abi options.abiVariant).allDefines ++
      profile.defines ++ [profile.productDefine options.sdkRoot]
  compileFlags :=
    (profile.mode options.buildMode).compileFlags ++
      (profile.includeDirs options).flatMap (fun dir => ["-isystem", dir]) ++
      ["-include", Path.join options.sdkRoot profile.forcedInclude] ++ profile.compileFlags
  cFlags := profile.cFlags
  linkFlags :=
    profile.linkFlags ++ ["-Wl,-Map=" ++ options.mapFile] ++ profile.toolchainArgs options ++
      profile.sdkLibDirs.map (fun dir => "-L" ++ Path.join options.sdkRoot dir)
  linkLibraries := profile.linkOrder options.abiVariant
  discovery := options.sources.system.map Query.ofLibrary

/-- What assembling says: each part as it is applied, a warning where the toolchain's place is
unknown, and the sizes at the end. -/
def assemblyEvents (options : Options) (profile : Profile) : List Log.Event :=
  let flags := assemble options profile
  [{ level := .trace, origin := .assembly, message := "applied build mode"
     fields := [("build_mode", options.buildMode.name)] },
   { level := .trace, origin := .assembly, message := "applied ABI variant"
     fields := [("abi_variant", options.abiVariant.name)] }] ++
  options.sources.system.map (fun lib =>
    { level := .trace, origin := .assembly
      message := lib.name ++ " taken from the build environment" }) ++
  (match options.toolchainRoot? with
    | some _ => []
    | none =>
      [{ level := .warn, origin := .assembly
         message := "cannot derive toolchain root from '" ++ options.cxx ++
           "', toolchain library paths omitted" }]) ++
  [{ level := .debug, origin := .assembly, message := "assembled flag set"
     fields := [("defines", Text.naturalText flags.defines.length),
       ("compile_flags", Text.naturalText flags.compileFlags.length),
       ("link_libraries", Text.naturalText flags.linkLibraries.length),
       ("discovery", Text.naturalText flags.discovery.length)] }]

end FlagSet
end CrossFlags
