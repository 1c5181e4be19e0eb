import CrossFlags.Json.Encode

/-!
# The library's values from JSON

The other side of `Json.Encode`, for a resolution and what is in it. Fields are looked up by name,
so neither their order nor further fields matter, and every library's source is looked up under the
library's name.
-/

set_option autoImplicit false

namespace CrossFlags

namespace Json

def bool? : Json → Option Bool
  | .bool b => some b
  | _ => none

def string? : Json → Option String
  | .string s => some s
  | _ => none

def array? : Json → Option (List Json)
  | .array items => some items
  | _ => none

/-- The value of the first field of this name. -/
def field? (name : String) : Json → Option Json
  | .object fields => (fields.find? fun field => field.1 == name).map Prod.snd
  | _ => none

/-- The elements of the array under a name, each decoded. -/
def listAt? {α : Type} (decode : Json → Option α) (name : String) (json : Json) :
    Option (List α) := do
  let items ← (← json.field? name).array?
  items.mapM decode

/-- The string under a name. -/
def stringAt? (name : String) (json : Json) : Option String := do (← json.field? name).string?

end Json

/-- A source for every library, if each of them has one. -/
def Sources.ofJson? (json : Json) : Option Sources :=
  let source? (lib : Library) : Option Source := do Source.ofName? (← json.stringAt? lib.name)
  if Library.all.all fun lib => (source? lib).isSome then
    some ⟨fun lib => (source? lib).getD .bundled⟩
  else none

def Options.ofJson? (json : Json) : Option Options := do
  let buildMode ← BuildMode.ofName? (← json.stringAt? "build_mode")
  let abiVariant ← AbiVariant.ofName? (← json.stringAt? "abi_variant")
  let wordSize ← WordSize.ofName? (← json.stringAt? "word_size")
  let force32Bits ← (← json.field? "force_32_bits").bool?
  let sources ← Sources.ofJson? (← json.field? "libraries")
  let sdkRoot ← json.stringAt? "sdk_root"
  let companionRoot ← json.stringAt? "companion_root"
  let cxx ← json.stringAt? "cxx"
  let mapFile ← json.stringAt? "map_file"
  return { buildMode, abiVariant, wordSize, force32Bits, sources, sdkRoot, companionRoot, cxx,
           mapFile }

def Query.ofJson? (json : Json) : Option Query := do
  let library ← Library.ofName? (← json.stringAt? "library")
  let packages ← json.listAt? Json.string? "packages"
  return { library, packages }

def FlagSet.ofJson? (json : Json) : Option FlagSet := do
  let defines ← json.listAt? Json.string? "defines"
  let compileFlags ← json.listAt? Json.string? "compile_flags"
  let cFlags ← json.listAt? Json.string? "c_flags"
  let linkFlags ← json.listAt? Json.string? "link_flags"
  let linkLibraries ← json.listAt? Json.string? "link_libraries"
  let discovery ← json.listAt? Query.ofJson? "discovery"
  return { defines, compileFlags, cFlags, linkFlags, linkLibraries, discovery }

def Resolution.ofJson? (json : Json) : Option Resolution := do
  let options ← Options.ofJson? (← json.field? "options")
  let flags ← FlagSet.ofJson? (← json.field? "flags")
  return { options, flags }

end CrossFlags
