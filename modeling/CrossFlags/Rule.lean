import CrossFlags.Library
import CrossFlags.Log.Event
import CrossFlags.Options

/-!
# Dependency rules between libraries

A system library was built against system copies of the libraries below it; a bundled copy of
those cannot stand in. A rule says what follows for one library when another is taken from the
system.

Rules are applied in one pass, in table order. One pass settles everything exactly when no rule
can change the premise of an earlier one, which is what `Rule.ordered` checks: from each rule on,
no rule decides about that rule's premise. A rule about its own premise and a cycle of any length
are ruled out with it. Where several rules decide about one library, the last one that fires has
the say.
-/

set_option autoImplicit false

namespace CrossFlags

/-- If `premise` is taken from the system, `implied` is taken from `value`. -/
structure Rule where
  premise : Library
  implied : Library
  value : Source
  deriving DecidableEq

namespace Rule

/-- The dependencies among the media libraries. Theora decides about Vorbis before Vorbis' own
rule has its turn. -/
def dependencies : List Rule :=
  [⟨.theora, .ogg, .system⟩, ⟨.theora, .vorbis, .system⟩, ⟨.vorbis, .ogg, .system⟩,
   ⟨.opus, .ogg, .system⟩]

/-- No rule decides about its own premise or about the premise of a rule before it. -/
def ordered : List Rule → Bool
  | [] => true
  | rule :: later =>
    rule.premise != rule.implied && later.all (fun other => other.implied != rule.premise) &&
      ordered later

theorem ordered_dependencies : ordered dependencies = true := by decide

end Rule

namespace Sources

/-- One rule applied: it fires where its premise is on the system. -/
def applyRule (sources : Sources) (rule : Rule) : Sources :=
  if sources.isSystem rule.premise then sources.set rule.implied rule.value else sources

/-- One pass over a table. -/
def applyRules (sources : Sources) (rules : List Rule) : Sources := rules.foldl applyRule sources

@[simp] theorem applyRules_cons (sources : Sources) (rule : Rule) (rules : List Rule) :
    sources.applyRules (rule :: rules) = (sources.applyRule rule).applyRules rules := rfl

/-- A rule changes no library but the one it is about. -/
theorem get_applyRule_of_ne {sources : Sources} {rule : Rule} {lib : Library}
    (h : lib ≠ rule.implied) : (sources.applyRule rule).get lib = sources.get lib := by
  unfold applyRule
  split
  · exact get_set_of_ne h
  · rfl

/-- A pass changes no library that its rules are not about. -/
theorem get_applyRules_of_forall_ne {rules : List Rule} {lib : Library}
    (h : ∀ rule ∈ rules, lib ≠ rule.implied) (sources : Sources) :
    (sources.applyRules rules).get lib = sources.get lib := by
  induction rules generalizing sources with
  | nil => rfl
  | cons rule rules ih =>
    rw [applyRules_cons, ih (fun r hr => h r (List.mem_cons_of_mem _ hr)),
      get_applyRule_of_ne (h rule List.mem_cons_self)]

/-- What a pass says: each firing that changes something. -/
def ruleEvents : List Rule → Sources → List Log.Event
  | [], _ => []
  | rule :: rules, sources =>
    (if sources.isSystem rule.premise && sources.get rule.implied != rule.value then
      [{ level := .debug, origin := .rules
         message := rule.premise.optionName ++ " forces " ++ rule.implied.optionName ++ " to " ++
           label rule.value ++ " (was " ++ label (sources.get rule.implied) ++ ")" }]
    else []) ++ ruleEvents rules (sources.applyRule rule)
where
  /-- The source as this message spells it. -/
  label : Source → String
    | .bundled => "Bundled"
    | .system => "System"

end Sources

namespace Options

/-- One pass over a table, on whole options. -/
def applyRules (options : Options) (rules : List Rule) : Options :=
  { options with sources := options.sources.applyRules rules }

/-- The options closed under the dependencies among libraries. -/
def closed (options : Options) : Options := options.applyRules Rule.dependencies

end Options
end CrossFlags
