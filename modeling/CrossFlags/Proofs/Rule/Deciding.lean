import CrossFlags.Proofs.Rule.Settling

/-!
# The last applicable rule decides

A pass is a loop, and each of its rules looks at the state the rules before it have left. What an
ordered table *means* can be said without the loop and without any state but the last one: **a
library comes from where the last rule says that is about it and whose premise is on the system, and
stays where it was if there is no such rule** (`Sources.verdict`).

That sentence speaks of the outcome on both sides, so it is an equation and not a definition. What
makes it a description of the pass is that it has one solution (`applyRules_eq_iff`): whatever
choice satisfies it is the one that the pass computes. Both directions rest on the same fact, that
nothing in an ordered table is about the premise of its first rule. The pass leaves that premise
alone, and so does every solution; hence the first rule can be taken off the table and applied to
the start, and the equation is the same equation about the rest.

Rules may contradict each other about one library here. Only the last of them counts, but it is the
last among those that fire *in the outcome*, which the middle of the pass does not show yet.
-/

set_option autoImplicit false

namespace CrossFlags

namespace Rule

/-- The rule is about this library and fires where the choice is this one. -/
def appliesTo (sources : Sources) (lib : Library) (rule : Rule) : Bool :=
  rule.implied == lib && sources.isSystem rule.premise

/-- The rule that decides about the library: the last one of the table that applies. -/
def deciding? (rules : List Rule) (sources : Sources) (lib : Library) : Option Rule :=
  (rules.filter (appliesTo sources lib)).getLast?

theorem deciding?_cons (rule : Rule) (later : List Rule) (sources : Sources) (lib : Library) :
    deciding? (rule :: later) sources lib =
      (deciding? later sources lib).or
        (if rule.appliesTo sources lib then some rule else none) := by
  unfold deciding?
  by_cases h : rule.appliesTo sources lib = true
  · rw [List.filter_cons_of_pos h, List.getLast?_cons, if_pos h]
    cases (later.filter (appliesTo sources lib)).getLast? with
    | none => rfl
    | some last => rfl
  · rw [List.filter_cons_of_neg h, if_neg h, Option.or_none]

theorem deciding?_of_forall_ne {rules : List Rule} {lib : Library}
    (h : ∀ rule ∈ rules, rule.implied ≠ lib) (sources : Sources) :
    deciding? rules sources lib = none := by
  have hnone : rules.filter (appliesTo sources lib) = [] := by
    apply List.filter_eq_nil_iff.mpr
    intro rule hrule
    simp [appliesTo, h rule hrule]
  rw [deciding?, hnone]
  rfl

theorem of_deciding?_eq_some {rules : List Rule} {sources : Sources} {lib : Library} {rule : Rule}
    (h : deciding? rules sources lib = some rule) :
    rule ∈ rules ∧ rule.implied = lib ∧ sources.get rule.premise = .system := by
  obtain ⟨hmem, happlies⟩ := List.mem_filter.mp (List.mem_of_getLast? h)
  simp only [appliesTo, Bool.and_eq_true, beq_iff_eq, Sources.isSystem_iff] at happlies
  exact ⟨hmem, happlies⟩

theorem exists_deciding? {rules : List Rule} {sources : Sources} {rule : Rule} (hmem : rule ∈ rules)
    (hpremise : sources.get rule.premise = .system) :
    ∃ last, deciding? rules sources rule.implied = some last := by
  have hkept : rule ∈ rules.filter (appliesTo sources rule.implied) := by
    apply List.mem_filter.mpr
    exact ⟨hmem, by simp [appliesTo, Sources.isSystem_iff.mpr hpremise]⟩
  exact ⟨_, List.getLast?_eq_some_getLast (List.ne_nil_of_mem hkept)⟩

end Rule

namespace Sources

theorem get_applyRule (sources : Sources) (rule : Rule) (lib : Library) :
    (sources.applyRule rule).get lib =
      if rule.appliesTo sources lib then rule.value else sources.get lib := by
  unfold applyRule Rule.appliesTo
  by_cases hfires : sources.isSystem rule.premise = true
  · rw [if_pos hfires, get_set, hfires, Bool.and_true]
    by_cases hlib : lib = rule.implied
    · rw [if_pos hlib, if_pos (beq_iff_eq.mpr hlib.symm)]
    · rw [if_neg hlib, if_neg fun h => hlib (beq_iff_eq.mp h).symm]
  · rw [if_neg hfires, if_neg fun h => hfires (Bool.and_eq_true_iff.mp h).2]

/-- Where a library comes from when the last applicable rule decides, and `start` where none does.
Which rules apply is read off `final`. -/
def verdict (rules : List Rule) (start final : Sources) (lib : Library) : Source :=
  match Rule.deciding? rules final lib with
  | some rule => rule.value
  | none => start.get lib

theorem verdict_of_forall_ne {rules : List Rule} {lib : Library}
    (h : ∀ rule ∈ rules, rule.implied ≠ lib) (start final : Sources) :
    verdict rules start final lib = start.get lib := by
  rw [verdict, Rule.deciding?_of_forall_ne h]

/-- The first rule of a table may be applied to the start instead, if its premise stands in the end
where it stood in the beginning. -/
theorem verdict_cons {rule : Rule} {later : List Rule} {start final : Sources}
    (h : final.get rule.premise = start.get rule.premise) (lib : Library) :
    verdict (rule :: later) start final lib = verdict later (start.applyRule rule) final lib := by
  have happlies : rule.appliesTo final lib = rule.appliesTo start lib := by
    rw [Rule.appliesTo, Rule.appliesTo, isSystem_congr h]
  unfold verdict
  rw [Rule.deciding?_cons, happlies]
  cases Rule.deciding? later final lib with
  | some last => rfl
  | none =>
    show (match (if rule.appliesTo start lib then some rule else none) with
      | some rule => rule.value
      | none => start.get lib) = (start.applyRule rule).get lib
    rw [get_applyRule]
    by_cases hstart : rule.appliesTo start lib = true
    · rw [if_pos hstart, if_pos hstart]
    · rw [if_neg hstart, if_neg hstart]

/-- **The outcome of a pass is the one choice that agrees with its own verdicts.** -/
theorem applyRules_eq_iff {rules : List Rule} (ho : Rule.ordered rules = true)
    {start final : Sources} :
    start.applyRules rules = final ↔ ∀ lib, final.get lib = verdict rules start final lib := by
  induction rules generalizing start with
  | nil =>
    constructor
    · intro h lib
      rw [← h]
      rfl
    · intro h
      exact Sources.ext (funext fun lib => (h lib).symm)
  | cons rule later ih =>
    obtain ⟨hpremise, hlater⟩ := Rule.ordered_cons_iff.mp ho
    rw [applyRules_cons, ih hlater]
    -- Either way the premise of `rule` stands in the end where it stood: no rule is about it.
    constructor
    · intro h lib
      have hrest : final.get rule.premise = start.get rule.premise := by
        rw [h, verdict_of_forall_ne fun other hother =>
          hpremise other (List.mem_cons_of_mem _ hother)]
        exact get_applyRule_of_ne (hpremise rule List.mem_cons_self).symm
      rw [verdict_cons hrest]
      exact h lib
    · intro h lib
      have hrest : final.get rule.premise = start.get rule.premise := by
        rw [h, verdict_of_forall_ne hpremise]
      rw [← verdict_cons hrest]
      exact h lib

theorem get_applyRules {rules : List Rule} (ho : Rule.ordered rules = true) (start : Sources)
    (lib : Library) :
    (start.applyRules rules).get lib = verdict rules start (start.applyRules rules) lib :=
  (applyRules_eq_iff ho).mp rfl lib

end Sources

namespace Options

/-- The last applicable rule decides about every library, and nothing else has changed. -/
structure DecidedBy (rules : List Rule) (options final : Options) : Prop where
  source : ∀ lib, final.sources.get lib = Sources.verdict rules options.sources final.sources lib
  others : { options with sources := final.sources } = final

/-- **What an ordered table means.** Applying it gives the options in which every library is where
the last rule says that is about it and whose premise is on the system in these same options, and
where it was if there is no such rule; all else is as it was. No other options are like that. -/
theorem last_applicable_rule_decides {rules : List Rule} (ho : Rule.ordered rules = true)
    (options final : Options) :
    options.applyRules rules = final ↔ options.DecidedBy rules final := by
  constructor
  · intro h
    subst h
    exact ⟨Sources.get_applyRules ho options.sources, rfl⟩
  · intro h
    rw [← h.others, applyRules, (Sources.applyRules_eq_iff ho).mpr h.source]

/-- Theora and opus disagree about vorbis. Opus' rule comes last, so vorbis is bundled, and the rule
that hangs on vorbis does not count for ogg: the one before it does. -/
theorem last_applicable_rule_decides_of_disagreement :
    let rules : List Rule :=
      [⟨.theora, .vorbis, .system⟩, ⟨.opus, .ogg, .system⟩, ⟨.opus, .vorbis, .bundled⟩,
       ⟨.vorbis, .ogg, .bundled⟩]
    let options : Options :=
      { buildMode := .debug, abiVariant := .legacy, wordSize := .bits64, force32Bits := false
        sources := ((Sources.bundled.set .theora .system).set .opus .system).set .vorbis .system
        sdkRoot := "/sdk", companionRoot := "/proj", cxx := "g++", mapFile := "a.map" }
    Rule.ordered rules = true ∧
      (options.applyRules rules).sources.system = [.theora, .opus, .ogg] ∧
      options.DecidedBy rules (options.applyRules rules) ∧ ¬ options.DecidedBy rules options := by
  intro rules options
  have ho : Rule.ordered rules = true := by decide
  refine ⟨ho, by decide, (last_applicable_rule_decides ho options _).mp rfl, ?_⟩
  intro h
  have hsame : options.applyRules rules = options :=
    (last_applicable_rule_decides ho options options).mpr h
  revert hsame
  decide

end Options
end CrossFlags
