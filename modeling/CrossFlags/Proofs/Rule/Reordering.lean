import CrossFlags.Proofs.Rule.Deciding

/-!
# Tables in another order

The order of a table means two things at once. Among the rules about one library it says who has the
last word, and that is meant. Between rules about different libraries it says which premise is
settled when a rule has its turn, and that is there only to make one pass enough: whoever adds a
rule has to find it some place that passes the check, and there may be several. **It does not matter
which** (`reordered_tables_agree`): two tables that pass, and that differ only in how rules about
different libraries are interleaved, do the same to all options.

The passes themselves are no help here. They go through different states, and no two states of
theirs need to be equal before the end. What they have in common is the equation that their outcomes
solve (`Sources.applyRules_eq_iff`). It asks about each library for the last rule that is about it
and applies, so it sees of a table only the rules about that library, in their order.
-/

set_option autoImplicit false

namespace CrossFlags

namespace Rule

/-- The rules of the table that are about this library, in table order. -/
def about (rules : List Rule) (lib : Library) : List Rule :=
  rules.filter fun rule => rule.implied == lib

/-- The second table has the rules of the first one in another order, in which the rules about any
one library stand as they stood. -/
structure Reordered (first second : List Rule) : Prop where
  perm : first.Perm second
  about_eq : ∀ lib, about first lib = about second lib

theorem filter_appliesTo_eq (rules : List Rule) (sources : Sources) (lib : Library) :
    rules.filter (appliesTo sources lib) =
      (about rules lib).filter fun rule => sources.isSystem rule.premise := by
  rw [about, List.filter_filter]
  apply List.filter_congr
  intro rule _
  rw [appliesTo, Bool.and_comm]

theorem deciding?_congr {first second : List Rule} {lib : Library}
    (h : about first lib = about second lib) (sources : Sources) :
    deciding? first sources lib = deciding? second sources lib := by
  rw [deciding?, deciding?, filter_appliesTo_eq, filter_appliesTo_eq, h]

end Rule

namespace Sources

theorem verdict_congr {first second : List Rule} {lib : Library}
    (h : Rule.about first lib = Rule.about second lib) (start final : Sources) :
    verdict first start final lib = verdict second start final lib := by
  rw [verdict, verdict, Rule.deciding?_congr h]

theorem applyRules_eq_of_about_eq {first second : List Rule} (hfirst : Rule.ordered first = true)
    (hsecond : Rule.ordered second = true)
    (h : ∀ lib, Rule.about first lib = Rule.about second lib) (start : Sources) :
    start.applyRules first = start.applyRules second := by
  -- The outcome of the second table solves the equation of the first one, which has one solution.
  apply (applyRules_eq_iff hfirst).mpr
  intro lib
  rw [verdict_congr (h lib)]
  exact get_applyRules hsecond start lib

end Sources

namespace Options

/-- **Reordering a checked table is safe**, as long as rules about one library keep their order and
the new table passes the check too. -/
theorem reordered_tables_agree {first second : List Rule} (hreordered : Rule.Reordered first second)
    (hfirst : Rule.ordered first = true) (hsecond : Rule.ordered second = true)
    (options : Options) : options.applyRules first = options.applyRules second := by
  unfold applyRules
  rw [Sources.applyRules_eq_of_about_eq hfirst hsecond hreordered.about_eq]

/-- Vorbis and ogg have two rules each that contradict each other, and one of those about ogg hangs
on vorbis. The second table takes ogg off the system before it looks at vorbis at all. -/
theorem reordered_tables_agree_of_interleaved :
    let first : List Rule :=
      [⟨.theora, .vorbis, .system⟩, ⟨.opus, .vorbis, .bundled⟩, ⟨.theora, .ogg, .bundled⟩,
       ⟨.vorbis, .ogg, .system⟩]
    let second : List Rule :=
      [⟨.theora, .ogg, .bundled⟩, ⟨.theora, .vorbis, .system⟩, ⟨.opus, .vorbis, .bundled⟩,
       ⟨.vorbis, .ogg, .system⟩]
    let options : Options :=
      { buildMode := .debug, abiVariant := .legacy, wordSize := .bits64, force32Bits := false
        sources := (Sources.bundled.set .theora .system).set .ogg .system
        sdkRoot := "/sdk", companionRoot := "/proj", cxx := "g++", mapFile := "a.map" }
    Rule.Reordered first second ∧ Rule.ordered first = true ∧ Rule.ordered second = true ∧
      options.applyRules (first.take 1) ≠ options.applyRules (second.take 1) ∧
      (options.applyRules second).sources.system = [.theora, .vorbis, .ogg] ∧
      options.applyRules first = options.applyRules second := by
  intro first second options
  have hreordered : Rule.Reordered first second := by
    refine ⟨by decide, ?_⟩
    intro lib
    cases lib <;> rfl
  have hfirst : Rule.ordered first = true := by decide
  have hsecond : Rule.ordered second = true := by decide
  exact ⟨hreordered, hfirst, hsecond, by decide, by decide,
    reordered_tables_agree hreordered hfirst hsecond options⟩

-- Rules about one library must not change places: the last of them has the say.
example :
    let rules : List Rule := [⟨.theora, .ogg, .system⟩, ⟨.opus, .ogg, .bundled⟩]
    let sources := (Sources.bundled.set .theora .system).set .opus .system
    sources.applyRules rules ≠ sources.applyRules rules.reverse := by
  decide

end Options
end CrossFlags
