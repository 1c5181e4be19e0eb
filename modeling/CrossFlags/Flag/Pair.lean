/-!
# Options that carry a value

Seven compiler and linker options take their value as the next entry of the flag list. Such an
option and its value are one thing: taken apart, reordered or deduplicated separately they mean
something else. `units` reads a flat list as the things it is made of, from left to right; an
option that stands last is left waiting for its value.
-/

set_option autoImplicit false

namespace CrossFlags.Flag

/-- Compiler options whose value is the next entry. -/
def compilePairs : List String := ["-isystem", "-include", "-idirafter", "-iquote", "-imacros"]

/-- Linker options whose value is the next entry. -/
def linkPairs : List String := ["-framework", "-Xlinker"]

/-- The next entry belongs to this one. -/
def takesValue (word : String) : Bool := compilePairs.contains word || linkPairs.contains word

/-- One thing in a flag list. -/
inductive Unit where
  /-- An entry that stands for itself. -/
  | single (word : String)
  /-- An option with its value. -/
  | pair (word value : String)
  /-- An option at the end of the list, still waiting for its value. -/
  | waiting (word : String)
  deriving DecidableEq

/-- The entries of a unit. -/
def Unit.words : Unit → List String
  | .single word => [word]
  | .pair word value => [word, value]
  | .waiting word => [word]

/-- A flag list as units, from left to right. -/
def units : List String → List Unit
  | [] => []
  | [word] => [if takesValue word then .waiting word else .single word]
  | word :: next :: rest =>
    if takesValue word then .pair word next :: units rest
    else .single word :: units (next :: rest)

/-- Reading a list as units loses nothing. -/
theorem flatMap_words_units (flags : List String) : (units flags).flatMap Unit.words = flags := by
  fun_induction units flags with
  | case1 => rfl
  | case2 word => split <;> simp [Unit.words]
  | case3 word next rest h ih => simp [Unit.words, ih]
  | case4 word next rest h ih => simp [Unit.words, ih]

/-- The list ends in an option that still waits for its value. -/
def endsWaiting (flags : List String) : Bool :=
  (units flags).any fun unit => match unit with
    | .waiting _ => true
    | _ => false

end CrossFlags.Flag
