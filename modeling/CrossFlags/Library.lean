/-!
# Third-party libraries and where they come from

Eight libraries can be taken either from the copies bundled with the project or from the system
the build runs against. `Library` names them, `Source` is the choice for one of them, and
`Sources` is the choice for all of them at once.

`Sources` is a function and not a table: equality is pointwise, `set` is function update, and no
statement about it ever has to say "at this index".
-/

set_option autoImplicit false

namespace CrossFlags

/-- A third-party library whose copy can be chosen. -/
inductive Library where
  | openssl
  | libwebp
  | freetype2
  | libpng
  | theora
  | vorbis
  | opus
  | ogg
  deriving DecidableEq

namespace Library

/-- Every library, in declaration order. -/
def all : List Library := [.openssl, .libwebp, .freetype2, .libpng, .theora, .vorbis, .opus, .ogg]

/-- The position in `all`. -/
def index (lib : Library) : Nat := all.idxOf lib

/-- The library's name in messages and output. -/
def name : Library → String
  | .openssl => "openssl"
  | .libwebp => "libwebp"
  | .freetype2 => "freetype2"
  | .libpng => "libpng"
  | .theora => "theora"
  | .vorbis => "vorbis"
  | .opus => "opus"
  | .ogg => "ogg"

/-- The library of this name. -/
def ofName? (s : String) : Option Library := all.find? fun lib => lib.name == s

/-- The option that chooses this library's source. -/
def optionName (lib : Library) : String := "use_system_" ++ lib.name

/-- The packages under which the system knows the library; the first one names the library, any
further one a companion that is always wanted with it. -/
def packages : Library → List String
  | .theora => ["theora", "theoradec"]
  | .vorbis => ["vorbis", "vorbisfile"]
  | .opus => ["opus", "opusfile"]
  | lib => [lib.name]

/-- The library that an option name belongs to. -/
def ofOptionName? (s : String) : Option Library := all.find? fun lib => lib.optionName == s

@[simp] theorem mem_all (lib : Library) : lib ∈ all := by cases lib <;> decide

theorem nodup_all : all.Nodup := by decide

@[simp] theorem ofName?_name (lib : Library) : ofName? lib.name = some lib := by
  cases lib <;> decide

@[simp] theorem ofOptionName?_optionName (lib : Library) :
    ofOptionName? lib.optionName = some lib := by
  cases lib <;> decide

end Library

/-- Where one library is taken from. -/
inductive Source where
  | bundled
  | system
  deriving DecidableEq

namespace Source

/-- The source's spelling in output. -/
def name : Source → String
  | .bundled => "bundled"
  | .system => "system"

/-- The source with this exact spelling. -/
def ofName? (s : String) : Option Source := [bundled, system].find? fun source => source.name == s

/-- The source that answers the question "use the system copy?". -/
def ofUseSystem : Bool → Source
  | true => .system
  | false => .bundled

@[simp] theorem ofName?_name (source : Source) : ofName? source.name = some source := by
  cases source <;> decide

end Source

/-- The source of every library. -/
@[ext] structure Sources where
  /-- The source of one library. -/
  get : Library → Source

namespace Sources

/-- Every library bundled. -/
def bundled : Sources := ⟨fun _ => .bundled⟩

/-- One library's source changed. -/
def set (sources : Sources) (lib : Library) (source : Source) : Sources :=
  ⟨fun other => if other = lib then source else sources.get other⟩

/-- The library is taken from the system. -/
def isSystem (sources : Sources) (lib : Library) : Bool := sources.get lib == .system

/-- The libraries taken from the system, in declaration order. -/
def system (sources : Sources) : List Library := Library.all.filter sources.isSystem

theorem get_set (sources : Sources) (lib other : Library) (source : Source) :
    (sources.set lib source).get other = if other = lib then source else sources.get other := rfl

@[simp] theorem get_set_self (sources : Sources) (lib : Library) (source : Source) :
    (sources.set lib source).get lib = source := by
  simp [get_set]

@[simp] theorem get_set_of_ne {sources : Sources} {lib other : Library} {source : Source}
    (h : other ≠ lib) : (sources.set lib source).get other = sources.get other := by
  simp [get_set, h]

theorem isSystem_iff {sources : Sources} {lib : Library} :
    sources.isSystem lib = true ↔ sources.get lib = .system := by
  simp [isSystem]

/-- `system` lists exactly the libraries on the system. -/
theorem mem_system {sources : Sources} {lib : Library} :
    lib ∈ sources.system ↔ sources.get lib = .system := by
  simp [system, isSystem]

theorem nodup_system (sources : Sources) : sources.system.Nodup :=
  Library.nodup_all.filter _

/-- Two choices that put the same libraries on the system are the same choice. -/
theorem ext_system {a b : Sources} (h : a.system = b.system) : a = b := by
  ext lib
  have hmem : a.get lib = .system ↔ b.get lib = .system := by
    rw [← mem_system, ← mem_system, h]
  cases ha : a.get lib <;> cases hb : b.get lib <;> simp_all

instance : DecidableEq Sources := fun a b =>
  if h : a.system = b.system then isTrue (ext_system h)
  else isFalse fun hab => h (by rw [hab])

end Sources
end CrossFlags
