import CrossFlags.Json
import CrossFlags.Profile
import CrossFlags.Resolution

/-!
# The library's values as JSON

Which fields a printed resolution or profile has, in which order and under which names. Sources
stand under their library's name, so no reader has to know the declaration order.
-/

set_option autoImplicit false

namespace CrossFlags

namespace Sources

/-- The source of every library, under the library's name. -/
def toJson (sources : Sources) : Json :=
  .object (Library.all.map fun lib => (lib.name, .string (sources.get lib).name))

end Sources

namespace Options

/-- Every option's value. -/
def toJson (options : Options) : Json :=
  .object
    [("build_mode", .string options.buildMode.name),
     ("abi_variant", .string options.abiVariant.name),
     ("word_size", .string options.wordSize.name),
     ("force_32_bits", .bool options.force32Bits),
     ("libraries", options.sources.toJson),
     ("sdk_root", .string options.sdkRoot),
     ("companion_root", .string options.companionRoot),
     ("cxx", .string options.cxx),
     ("map_file", .string options.mapFile)]

end Options

/-- A pending query. -/
def Query.toJson (query : Query) : Json :=
  .object [("library", .string query.library.name), ("packages", .strings query.packages)]

namespace FlagSet

/-- The six lists of a flag set. -/
def toJson (flags : FlagSet) : Json :=
  .object
    [("defines", .strings flags.defines),
     ("compile_flags", .strings flags.compileFlags),
     ("c_flags", .strings flags.cFlags),
     ("link_flags", .strings flags.linkFlags),
     ("link_libraries", .strings flags.linkLibraries),
     ("discovery", .array (flags.discovery.map Query.toJson))]

end FlagSet

namespace Resolution

/-- Options and flags side by side. -/
def toJson (resolution : Resolution) : Json :=
  .object [("options", resolution.options.toJson), ("flags", resolution.flags.toJson)]

end Resolution

/-- The three parts of a target's name. -/
def Triplet.toJson (triplet : Triplet) : Json :=
  .object
    [("arch", .string triplet.arch), ("vendor", .string triplet.vendor),
     ("os", .string triplet.os)]

/-- The contribution of a build mode. -/
def ModePart.toJson (part : ModePart) : Json :=
  .object [("compile_flags", .strings part.compileFlags), ("defines", .strings part.defines)]

/-- The contribution of an ABI variant. -/
def AbiPart.toJson (part : AbiPart) : Json :=
  .object
    [("defines", .strings part.defines),
     ("graphics_defines", .strings part.graphicsDefines),
     ("stl_include", .string part.stlInclude),
     ("cxx_runtime", .strings part.cxxRuntime),
     ("realtime_libs", .strings part.realtimeLibs),
     ("graphics_libs", .strings part.graphicsLibs)]

/-- The link groups in link order. -/
def LinkGroups.toJson (groups : LinkGroups) : Json :=
  .object
    [("entry", .strings groups.entry),
     ("posix", .strings groups.posix),
     ("framework", .strings groups.framework),
     ("utility", .strings groups.utility),
     ("toolchain_support", .strings groups.toolchainSupport)]

/-- The whole profile. -/
def Profile.toJson (profile : Profile) : Json :=
  .object
    [("name", .string profile.name),
     ("triplet", profile.triplet.toJson),
     ("gcc_version", .string profile.gccVersion),
     ("release", profile.release.toJson),
     ("release_debug", profile.releaseDebug.toJson),
     ("debug", profile.debug.toJson),
     ("legacy", profile.legacy.toJson),
     ("current", profile.current.toJson),
     ("defines", .strings profile.defines),
     ("product_include", .string profile.productInclude),
     ("sdk_includes", .strings profile.sdkIncludes),
     ("sdk_includes_tail", .strings profile.sdkIncludesTail),
     ("forced_include", .string profile.forcedInclude),
     ("compile_flags", .strings profile.compileFlags),
     ("c_flags", .strings profile.cFlags),
     ("link_flags", .strings profile.linkFlags),
     ("sdk_lib_dirs", .strings profile.sdkLibDirs),
     ("libraries", profile.libraries.toJson)]

end CrossFlags
