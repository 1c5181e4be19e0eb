import CrossFlags.Profile

/-!
# The Symbian Belle profile

The one target this library ships: Symbian Belle, built with GCC for an ARMv5 Thumb core. Every
build mode links against the import libraries of the debug release; the link groups stand in the
order the target's linker needs.
-/

set_option autoImplicit false

namespace CrossFlags

/-- Symbian Belle under GCC. -/
def Profile.symbian : Profile where
  name := "Symbian"
  triplet := ⟨"arm", "none", "symbianelf"⟩
  gccVersion := "12.1.0"
  release :=
    { compileFlags := ["-Os", "-ffast-math", "-fomit-frame-pointer"], defines := [] }
  releaseDebug := { compileFlags := ["-Os", "-ffast-math"], defines := ["DEBUG_ENABLED"] }
  debug :=
    { compileFlags := ["-Os", "-g2", "-gdwarf-2"]
      defines := ["DEBUG_ENABLED", "DEBUG_MEMORY_ENABLED", "DEBUG_SHADER", "DEBUG_OPENGL"] }
  legacy :=
    { defines := []
      graphicsDefines := ["GLES1_ENABLED"]
      stlInclude := "epoc32/include/stdapis/stlport"
      cxxRuntime := [":libstdcpp.dso"]
      realtimeLibs := []
      graphicsLibs := [] }
  current :=
    { defines := ["__SERIES60_3X__", "SYMBIAN_S60V3_ENABLED"]
      graphicsDefines := ["GLES2_ENABLED"]
      stlInclude := "epoc32/include/stdapis/stlportv5"
      cxxRuntime := [":stdnew.dso", ":libstdcppv5.dso"]
      realtimeLibs := [":librt.dso"]
      graphicsLibs := [":libGLESv2.dso", ":libegl.dso"] }
  defines :=
    ["UNIX_SOCKET_UNAVAILABLE", "NO_NETWORK", "NO_SYSLOG", "SYMBIAN_ENABLED", "UNIX_ENABLED",
     "NO_STATVFS", "NO_THREADS", "_POSIX_C_SOURCE=200112", "__ARM_ARCH_5__", "NDEBUG", "_UNICODE",
     "__SYMBIAN32__", "__SERIES60_31__", "__GCCE__", "__EPOC32__", "__MARM__", "__EABI__",
     "__MARM_ARMV5__", "__MARM_THUMB__", "__MARM_INTERWORK__", "__EXE__",
     "__SUPPORT_CPP_EXCEPTIONS__"]
  productInclude := "epoc32/include/variant/symbian_os.hrh"
  sdkIncludes :=
    ["epoc32/include/platform/mw", "epoc32/include/platform", "epoc32/include/mw",
     "epoc32/include/stdapis"]
  sdkIncludesTail := ["epoc32/include"]
  forcedInclude := "epoc32/include/gcce/gcce.h"
  compileFlags :=
    ["-fvisibility=hidden", "-fvisibility-inlines-hidden", "-fpermissive", "-Wno-error=narrowing",
     "-msoft-float", "-mthumb", "-mapcs", "-mthumb-interwork", "-march=armv5t",
     "-fno-optimize-sibling-calls", "-fno-unit-at-a-time", "-fno-threadsafe-statics",
     "-std=gnu++14"]
  cFlags := ["-fno-common"]
  linkFlags :=
    ["-fwhole-program", "-Wl,--default-symver", "-Wl,--fatal-warnings", "-Wl,--no-relax",
     "-Wl,--no-undefined", "-Wl,--target1-abs", "-Wl,--demangle", "-Wl,--pic-veneer",
     "-Ttext", "0x8000", "-Tdata", "0xe00000", "--entry", "_E32Startup", "-u", "_E32Startup",
     "-nostdlib", "-msoft-float", "-mthumb", "-mapcs", "-mthumb-interwork",
     "-fno-optimize-sibling-calls", "-march=armv5t"]
  sdkLibDirs := ["epoc32/release/armv5/lib", "epoc32/release/armv5/udeb"]
  libraries :=
    { entry := [":eexe.lib", ":usrt2_2.lib", ":libcrt0.lib"]
      posix :=
        [":libc.dso", ":libm.dso", ":libpthread.dso", ":euser.dso", ":dfpaeabi.dso",
         ":dfprvct2_2.dso", ":drtaeabi.dso", ":scppnwdl.dso", ":drtrvct2_2.dso"]
      framework :=
        [":libdl.dso", ":bafl.dso", ":estor.dso", ":eikcore.dso", ":apparc.dso", ":avkon.dso",
         ":cone.dso", ":hal.dso", ":libGLES_CM.dso"]
      utility :=
        [":ws32.dso", ":gdi.dso", ":mediaclientaudiostream.dso", ":inetprotutil.dso",
         ":etext.dso", ":efsrv.dso"]
      toolchainSupport := ["supc++", "gcc"] }

example : Profile.symbian.fault? = none := by decide

end CrossFlags
