import CrossFlags.Rule

/-!
# One pass settles an ordered table

A rule table is applied in one pass, and `Rule.ordered` is what makes one pass enough. This file
says so for every table that passes the check, whatever its length and whichever sources its rules
imply: **applying the table again changes nothing**.

The statement is not about rules that only ever add libraries to the system. An ordered table may
hold rules that contradict each other about one library, so a second pass can move a library away
from where the first one left it and back again before it is over. An invariant that says "the
state no longer moves" is therefore false in the middle of the second pass. What holds there is
weaker and enough: every library stands either where the first pass had it at the same rule, or
where the first pass left it in the end (`Blend`). The premise of the rule whose turn it is stands
in the same place in both, because no rule from there on decides about it; so the rule fires in
both passes or in neither, and the blend is kept.
-/

set_option autoImplicit false

namespace CrossFlags

namespace Rule

theorem ordered_cons_iff {rule : Rule} {later : List Rule} :
    ordered (rule :: later) = true ↔
      (∀ other ∈ rule :: later, other.implied ≠ rule.premise) ∧ ordered later = true := by
  simp only [ordered, Bool.and_eq_true, bne_iff_ne, List.all_eq_true, List.mem_cons,
    forall_eq_or_imp]
  constructor
  · rintro ⟨⟨hself, hlater⟩, hrest⟩
    exact ⟨⟨hself.symm, hlater⟩, hrest⟩
  · rintro ⟨⟨hself, hlater⟩, hrest⟩
    exact ⟨⟨hself.symm, hlater⟩, hrest⟩

end Rule

namespace Sources

/-! ## A rule's premise at its turn -/

/-- When a rule of an ordered table has its turn, its premise already stands where the pass will
leave it. -/
theorem get_premise_applyRules {rule : Rule} {later : List Rule}
    (h : Rule.ordered (rule :: later) = true) (sources : Sources) :
    (sources.applyRules (rule :: later)).get rule.premise = sources.get rule.premise := by
  refine get_applyRules_of_forall_ne ?_ sources
  intro other hother
  exact ((Rule.ordered_cons_iff.mp h).1 other hother).symm

theorem isSystem_congr {a b : Sources} {lib : Library} (h : a.get lib = b.get lib) :
    a.isSystem lib = b.isSystem lib := by
  rw [isSystem, isSystem, h]

/-! ## The blend of a pass with its outcome -/

/-- Every library stands as in `current` or as in `final`. -/
def Blend (current final mixed : Sources) : Prop :=
  ∀ lib, mixed.get lib = current.get lib ∨ mixed.get lib = final.get lib

theorem Blend.final (current final : Sources) : Blend current final final := by
  intro _
  exact Or.inr rfl

/-- Where the two sides of a blend agree, the blend agrees with them. -/
theorem Blend.get_eq {current final mixed : Sources} {lib : Library}
    (h : Blend current final mixed) (hagree : final.get lib = current.get lib) :
    mixed.get lib = current.get lib := by
  rcases h lib with hlib | hlib
  · exact hlib
  · rw [hlib, hagree]

/-- **One rule keeps the blend**, provided its premise has come to rest. -/
theorem Blend.applyRule {current final mixed : Sources} {rule : Rule}
    (h : Blend current final mixed) (hrest : final.get rule.premise = current.get rule.premise) :
    Blend (current.applyRule rule) final (mixed.applyRule rule) := by
  have hfires : mixed.isSystem rule.premise = current.isSystem rule.premise :=
    isSystem_congr (h.get_eq hrest)
  intro lib
  unfold Sources.applyRule
  rw [hfires]
  split
  · -- Both fire: the implied library is written the same way, the others are left alone.
    by_cases hlib : lib = rule.implied
    · subst hlib
      exact Or.inl (by rw [get_set_self, get_set_self])
    · rw [get_set_of_ne hlib, get_set_of_ne hlib]
      exact h lib
  · exact h lib

/-- **A pass over a blend ends where the pass itself ends.** -/
theorem Blend.applyRules_eq {rules : List Rule} (ho : Rule.ordered rules = true)
    {current mixed : Sources} (h : Blend current (current.applyRules rules) mixed) :
    mixed.applyRules rules = current.applyRules rules := by
  induction rules generalizing current mixed with
  | nil =>
    -- No rules left: both sides of the blend are the same state.
    exact Sources.ext (funext fun _ => h.get_eq rfl)
  | cons rule later ih =>
    -- The premise rests from its own turn on, so both passes agree on whether the rule fires.
    have hrest := get_premise_applyRules ho current
    rw [applyRules_cons] at h hrest ⊢
    rw [applyRules_cons]
    exact ih (Rule.ordered_cons_iff.mp ho).2 (h.applyRule hrest)

/-- A second pass over an ordered table changes nothing. -/
theorem applyRules_applyRules {rules : List Rule} (ho : Rule.ordered rules = true)
    (sources : Sources) :
    (sources.applyRules rules).applyRules rules = sources.applyRules rules :=
  Blend.applyRules_eq ho (Blend.final sources _)

end Sources

namespace Options

/-- Applying an ordered table twice is applying it once. -/
theorem ordered_pass_is_fixpoint {rules : List Rule} (ho : Rule.ordered rules = true)
    (options : Options) :
    (options.applyRules rules).applyRules rules = options.applyRules rules := by
  unfold applyRules
  rw [Sources.applyRules_applyRules ho]

/-- Two rules contradict each other about Vorbis, and a third hangs on it: the second pass takes
Vorbis off the bundle and puts it back before the third rule has its turn. -/
theorem ordered_pass_is_fixpoint_of_contradiction :
    let rules : List Rule :=
      [⟨.theora, .vorbis, .system⟩, ⟨.opus, .vorbis, .bundled⟩, ⟨.vorbis, .ogg, .system⟩]
    let options : Options :=
      { buildMode := .debug, abiVariant := .legacy, wordSize := .bits64, force32Bits := false
        sources := ((Sources.bundled.set .theora .system).set .opus .system).set .vorbis .system
        sdkRoot := "/sdk", companionRoot := "/proj", cxx := "g++", mapFile := "a.map" }
    Rule.ordered rules = true ∧ options.applyRules rules ≠ options ∧
      (options.applyRules rules).applyRules rules = options.applyRules rules :=
  ⟨by decide, by decide, ordered_pass_is_fixpoint (by decide) _⟩

end Options
end CrossFlags
