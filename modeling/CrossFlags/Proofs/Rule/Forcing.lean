import Mathlib.Logic.Relation
import CrossFlags.Proofs.Rule.Deciding

/-!
# Forcing is closing under dependencies

The tables that a build uses only ever force libraries onto the system. For such a table the pass
has a meaning that mentions neither the pass nor the order of the rules: **a library ends on the
system exactly if a chain of rules leads to it from a library that was there in the beginning**
(`Options.forced_iff_needed`).

The two halves need different things. That nothing is forced without need holds of every table,
ordered or not, and is an induction along the pass: each rule that fires adds one link to a chain
that is there already (`Sources.Within.applyRule`). That no need is left open at any depth is where
the order comes in. Along a chain the induction has to step from a premise that is on the system *in
the end* to an implied library that is, and it is the verdict of the last applicable rule that
allows the step (`Sources.get_applyRules_eq_system_iff`). In an unordered table the rule may have
had its turn before its premise came to stand there.
-/

set_option autoImplicit false

namespace CrossFlags

open Relation (ReflTransGen)

namespace Rule

/-- Some rule of the table has this premise and is about that library. -/
def Links (rules : List Rule) (premise implied : Library) : Prop :=
  ∃ rule ∈ rules, rule.premise = premise ∧ rule.implied = implied

end Rule

namespace Sources

variable {rules table : List Rule} {sources start : Sources} {lib : Library}

/-- A chain of rules, each about the premise of the next, leads to the library from one that is on
the system. The chain may be empty. -/
def Needed (start : Sources) (rules : List Rule) (lib : Library) : Prop :=
  ∃ first, start.get first = .system ∧ ReflTransGen (Rule.Links rules) first lib

theorem Needed.of_rule {rule : Rule} (hmem : rule ∈ rules) (h : start.Needed rules rule.premise) :
    start.Needed rules rule.implied := by
  obtain ⟨first, hfirst, hchain⟩ := h
  exact ⟨first, hfirst, hchain.tail ⟨rule, hmem, rfl, rfl⟩⟩

/-! ## Nothing is forced without need -/

/-- Whatever is on the system is needed. -/
def Within (start : Sources) (table : List Rule) (sources : Sources) : Prop :=
  ∀ lib, sources.get lib = .system → start.Needed table lib

theorem Within.refl (start : Sources) (table : List Rule) : start.Within table start := by
  intro lib hlib
  exact ⟨lib, hlib, .refl⟩

theorem Within.applyRule {rule : Rule} (h : start.Within table sources) (hmem : rule ∈ table) :
    start.Within table (sources.applyRule rule) := by
  intro lib hlib
  rw [get_applyRule] at hlib
  by_cases happlies : rule.appliesTo sources lib = true
  · -- The rule fires, so its premise is needed, and the rule is one more link.
    obtain ⟨himplied, hfires⟩ := Bool.and_eq_true_iff.mp happlies
    have hpremise : start.Needed table rule.premise := h _ (isSystem_iff.mp hfires)
    rw [← beq_iff_eq.mp himplied]
    exact hpremise.of_rule hmem
  · rw [if_neg happlies] at hlib
    exact h lib hlib

theorem Within.applyRules (h : start.Within table sources) (hsub : ∀ rule ∈ rules, rule ∈ table) :
    start.Within table (sources.applyRules rules) := by
  induction rules generalizing sources with
  | nil => exact h
  | cons rule later ih =>
    rw [applyRules_cons]
    apply ih (h.applyRule (hsub rule List.mem_cons_self))
    intro other hother
    exact hsub other (List.mem_cons_of_mem _ hother)

/-! ## No need is left open -/

/-- In the outcome of an ordered table that only forces, a library is on the system if it was there
or if some rule about it fires. -/
theorem get_applyRules_eq_system_iff (ho : Rule.ordered rules = true)
    (hsystem : ∀ rule ∈ rules, rule.value = .system) :
    (start.applyRules rules).get lib = .system ↔
      start.get lib = .system ∨
        ∃ rule ∈ rules, rule.implied = lib ∧
          (start.applyRules rules).get rule.premise = .system := by
  rw [get_applyRules ho, verdict]
  cases hlast : Rule.deciding? rules (start.applyRules rules) lib with
  | some last =>
    obtain ⟨hmem, himplied, hpremise⟩ := Rule.of_deciding?_eq_some hlast
    show last.value = .system ↔ _
    exact iff_of_true (hsystem last hmem) (Or.inr ⟨last, hmem, himplied, hpremise⟩)
  | none =>
    show start.get lib = .system ↔ _
    constructor
    · intro h
      exact Or.inl h
    · rintro (h | ⟨rule, hmem, rfl, hpremise⟩)
      · exact h
      · obtain ⟨last, hsome⟩ := Rule.exists_deciding? hmem hpremise
        rw [hlast] at hsome
        cases hsome

/-- The outcome obeys every rule. -/
theorem get_implied_applyRules {rule : Rule} (ho : Rule.ordered rules = true)
    (hsystem : ∀ rule ∈ rules, rule.value = .system) (hmem : rule ∈ rules)
    (hpremise : (start.applyRules rules).get rule.premise = .system) :
    (start.applyRules rules).get rule.implied = .system :=
  (get_applyRules_eq_system_iff ho hsystem).mpr (Or.inr ⟨rule, hmem, rfl, hpremise⟩)

theorem Needed.get_applyRules (h : start.Needed rules lib) (ho : Rule.ordered rules = true)
    (hsystem : ∀ rule ∈ rules, rule.value = .system) :
    (start.applyRules rules).get lib = .system := by
  obtain ⟨first, hfirst, hchain⟩ := h
  induction hchain with
  | refl => exact (get_applyRules_eq_system_iff ho hsystem).mpr (Or.inl hfirst)
  | tail _ hlink ih =>
    obtain ⟨rule, hmem, rfl, rfl⟩ := hlink
    exact get_implied_applyRules ho hsystem hmem ih

end Sources

namespace Options

/-- **One pass over an ordered table that only forces is the closure under its dependencies.** -/
theorem forced_iff_needed {rules : List Rule} (ho : Rule.ordered rules = true)
    (hsystem : ∀ rule ∈ rules, rule.value = .system) (options : Options) (lib : Library) :
    (options.applyRules rules).sources.get lib = .system ↔ options.sources.Needed rules lib := by
  constructor
  · intro h
    exact (Sources.Within.refl options.sources rules).applyRules (fun _ hrule => hrule) lib h
  · intro h
    exact h.get_applyRules ho hsystem

/-- A chain of three links and a shortcut of it. Openssl is asked for, and the whole chain is
needed; ogg leads into it and is not. -/
theorem forced_iff_needed_of_chain :
    let rules : List Rule :=
      [⟨.openssl, .libpng, .system⟩, ⟨.ogg, .libwebp, .system⟩, ⟨.openssl, .libwebp, .system⟩,
       ⟨.libwebp, .freetype2, .system⟩, ⟨.freetype2, .libpng, .system⟩]
    let options : Options :=
      { buildMode := .debug, abiVariant := .legacy, wordSize := .bits64, force32Bits := false
        sources := Sources.bundled.set .openssl .system
        sdkRoot := "/sdk", companionRoot := "/proj", cxx := "g++", mapFile := "a.map" }
    Rule.ordered rules = true ∧ (∀ rule ∈ rules, rule.value = .system) ∧
      (options.applyRules rules).sources.system = [.openssl, .libwebp, .freetype2, .libpng] ∧
      options.sources.Needed rules .freetype2 ∧ ¬ options.sources.Needed rules .ogg := by
  intro rules options
  have ho : Rule.ordered rules = true := by decide
  have hsystem : ∀ rule ∈ rules, rule.value = .system := by decide
  have hforced (lib : Library) := forced_iff_needed ho hsystem options lib
  refine ⟨ho, hsystem, by decide, ?_, ?_⟩
  · exact (hforced .freetype2).mp (by decide)
  · intro hogg
    have hget := (hforced .ogg).mpr hogg
    revert hget
    decide

end Options
end CrossFlags
