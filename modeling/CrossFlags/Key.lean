import CrossFlags.Axis
import CrossFlags.Library
import CrossFlags.Text.Spelling

/-!
# The declared options

Sixteen options exist and no others. `Key` is the option itself; its name, its help line, the
values it takes and its default hang on the constructor, so a function that is total on `Key`
covers the whole table and cannot name an option that is not in it.

`build_mode` is the one option without a default: how a build is optimized is never guessed.
-/

set_option autoImplicit false

namespace CrossFlags

/-- What values an option takes. -/
inductive Domain where
  /-- Yes or no, in one of the spellings of `Domain.switchWords`. -/
  | switch
  /-- One of the listed words. -/
  | choice (values : List String)
  /-- A path, which is any text but a blank one; a truth value is none. -/
  | path
  deriving DecidableEq

namespace Domain

/-- The accepted spellings of yes and no. -/
def switchWords : List String := ["yes", "no", "true", "false"]

/-- The legal values, as an error message lists them. -/
def allowed : Domain → List String
  | .switch => switchWords
  | .choice values => values
  | .path => ["<path>"]

end Domain

/-- A declared option. -/
inductive Key where
  | buildMode
  | abiVariant
  | bits
  | force32Bits
  | sdkRoot
  | companionRoot
  | cxx
  | mapFile
  | useSystem (lib : Library)
  deriving DecidableEq

namespace Key

/-- Every option, in declaration order. -/
def all : List Key :=
  [.buildMode, .abiVariant, .bits, .force32Bits, .sdkRoot, .companionRoot, .cxx, .mapFile] ++
    Library.all.map .useSystem

/-- The option's name in bags and files. -/
def name : Key → String
  | .buildMode => "build_mode"
  | .abiVariant => "abi_variant"
  | .bits => "bits"
  | .force32Bits => "force_32_bits"
  | .sdkRoot => "sdk_root"
  | .companionRoot => "companion_root"
  | .cxx => "cxx"
  | .mapFile => "map_file"
  | .useSystem lib => lib.optionName

/-- One line about the option, for people. -/
def help : Key → String
  | .buildMode => "Build mode (release, release_debug, debug)"
  | .abiVariant => "OS ABI variant (legacy, current)"
  | .bits => "Target word size"
  | .force32Bits => "Force 32 bits binary"
  | .sdkRoot => "EPOC root"
  | .companionRoot => "Project Sympathy root"
  | .cxx => "C++ compiler, used to locate the toolchain libraries"
  | .mapFile => "Linker map output"
  | .useSystem .openssl => "Use the system OpenSSL library"
  | .useSystem .libwebp => "Use the system libwebp library"
  | .useSystem .freetype2 => "Use the system FreeType library"
  | .useSystem .libpng => "Use the system libpng library"
  | .useSystem .theora => "Use the system libtheora library"
  | .useSystem .vorbis => "Use the system libvorbis library"
  | .useSystem .opus => "Use the system Opus library"
  | .useSystem .ogg => "Use the system libogg library"

/-- What values the option takes. -/
def domain : Key → Domain
  | .buildMode => .choice BuildMode.names
  | .abiVariant => .choice AbiVariant.names
  | .bits => .choice WordSize.names
  | .force32Bits | .useSystem _ => .switch
  | .sdkRoot | .companionRoot | .cxx | .mapFile => .path

/-- The value of an option that is not supplied; `none` where one has to be. -/
def default? : Key → Option String
  | .buildMode => none
  | .abiVariant => some "current"
  | .bits => some "32"
  | .force32Bits => some "yes"
  | .sdkRoot => some "C:/Nokia/devices/Nokia_Symbian_Belle_SDK_v1.0"
  | .companionRoot => some "C:/Projects/sympathy"
  | .cxx => some "arm-none-symbianelf-g++"
  | .mapFile => some "bin/app.exe.map"
  | .useSystem _ => some "no"

/-- The option with this name. -/
def ofName? (s : String) : Option Key := all.find? fun key => key.name == s

@[simp] theorem mem_all (key : Key) : key ∈ all := by
  cases key with
  | useSystem lib => simp [all]
  | _ => simp [all]

theorem nodup_all : all.Nodup := by decide

@[simp] theorem ofName?_name (key : Key) : ofName? key.name = some key := by
  cases key with
  | useSystem lib => cases lib <;> decide
  | _ => decide

theorem name_injective {a b : Key} (h : a.name = b.name) : a = b := by
  have := congrArg ofName? h
  simpa using this

theorem name_of_ofName? {s : String} {key : Key} (h : ofName? s = some key) : key.name = s := by
  simpa using List.find?_some h

/-- Only the build mode has to be supplied. -/
theorem default?_eq_none_iff {key : Key} : key.default? = none ↔ key = .buildMode := by
  cases key <;> simp [default?]

end Key

/-! ## Words that ask for the default -/

/-- The words that stand for an option's declared default. -/
def defaultWords : List String := ["default", "auto"]

/-- A text that asks for the default, in any letter case. -/
def asksForDefault (s : String) : Bool := defaultWords.any fun word => Text.sameKeyword word s

theorem asksForDefault_iff {s : String} :
    asksForDefault s = true ↔ Text.lower s ∈ defaultWords := by
  have hwords : defaultWords.map Text.lower = defaultWords := by decide
  rw [← hwords, List.mem_map, asksForDefault, List.any_eq_true]
  simp only [Text.sameKeyword_iff]

/-! ## Environment variables -/

/-- What the name of every variable that overrides an option begins with. -/
def variableStem : String := "SYMCONF_"

/-- The environment variable that overrides the option of this name: the stem, then the name in
upper case. Names of options are ASCII, and so is the folding. -/
def variableOf (optionName : String) : String := variableStem ++ Text.upper optionName

example : variableOf Key.sdkRoot.name = "SYMCONF_SDK_ROOT" := by decide

end CrossFlags
