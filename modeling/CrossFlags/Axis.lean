/-!
# The axes of a build

Three choices that every build makes once: how much debugging it carries, which system ABI it is
compiled for, and how wide a word is. Each axis is a small enumeration with a fixed spelling per
value; `ofName?` matches a spelling exactly, letter case included, so folding is left to whoever
reads a user's text.

The spellings stand in three places, for three readers: `names` is what an option declares and an
error message lists, `name` is what is printed, and `ofName?` is what is understood. That all three
say the same is a matter of two lemmas for each axis, `ofName?_name` and `ofName?_eq_none_iff`.
-/

set_option autoImplicit false

namespace CrossFlags

/-- How far a build is optimized for release or prepared for debugging. -/
inductive BuildMode where
  | release
  | releaseDebug
  | debug
  deriving DecidableEq

namespace BuildMode

/-- The spellings that an option declares. -/
def names : List String := ["release", "release_debug", "debug"]

/-- The mode's spelling in options and output. -/
def name : BuildMode → String
  | .release => "release"
  | .releaseDebug => "release_debug"
  | .debug => "debug"

/-- The mode with this exact spelling. -/
def ofName? : String → Option BuildMode
  | "release" => some .release
  | "release_debug" => some .releaseDebug
  | "debug" => some .debug
  | _ => none

/-- Every mode but `release` carries debugging aids. -/
def isDebug : BuildMode → Bool
  | .release => false
  | .releaseDebug | .debug => true

@[simp] theorem ofName?_name (mode : BuildMode) : ofName? mode.name = some mode := by
  cases mode <;> rfl

theorem ofName?_eq_none_iff {word : String} : ofName? word = none ↔ word ∉ names := by
  unfold ofName?
  split <;> simp_all [names]

end BuildMode

/-- Which generation of the target's system ABI a build is compiled for. -/
inductive AbiVariant where
  | legacy
  | current
  deriving DecidableEq

namespace AbiVariant

/-- The spellings that an option declares. -/
def names : List String := ["legacy", "current"]

/-- The variant's spelling in options and output. -/
def name : AbiVariant → String
  | .legacy => "legacy"
  | .current => "current"

/-- The variant with this exact spelling. -/
def ofName? : String → Option AbiVariant
  | "legacy" => some .legacy
  | "current" => some .current
  | _ => none

/-- The one of the two that this is not. -/
def other : AbiVariant → AbiVariant
  | .legacy => .current
  | .current => .legacy

@[simp] theorem ofName?_name (variant : AbiVariant) : ofName? variant.name = some variant := by
  cases variant <;> rfl

theorem ofName?_eq_none_iff {word : String} : ofName? word = none ↔ word ∉ names := by
  unfold ofName?
  split <;> simp_all [names]

end AbiVariant

/-- How many bits a word of the target has. -/
inductive WordSize where
  | bits32
  | bits64
  deriving DecidableEq

namespace WordSize

/-- The spellings that an option declares. -/
def names : List String := ["32", "64"]

/-- The size's spelling in options and output. -/
def name : WordSize → String
  | .bits32 => "32"
  | .bits64 => "64"

/-- The size with this exact spelling. -/
def ofName? : String → Option WordSize
  | "32" => some .bits32
  | "64" => some .bits64
  | _ => none

@[simp] theorem ofName?_name (size : WordSize) : ofName? size.name = some size := by
  cases size <;> rfl

theorem ofName?_eq_none_iff {word : String} : ofName? word = none ↔ word ∉ names := by
  unfold ofName?
  split <;> simp_all [names]

end WordSize
end CrossFlags
