import Mathlib.Logic.Relation
import CrossFlags.Proofs.Discovery.Answers
import CrossFlags.Proofs.Resolution.Fixpoint
import CrossFlags.Proofs.Rule.Forcing

/-!
# What holds of every resolution

A resolution is made from a bag and then, at most, probed. This file lists what can be relied on at
either moment, whatever the bag was and whoever answered (`ofBag_invariant`). The facts come from
three stages, and the list is theirs only together:

* reading fixes the word size and the paths, each from a value, a default or a number;
* closing the choice of libraries leaves both alone and makes the choice obey the dependencies,
  since the dependency table is ordered and only forces;
* assembling turns the closed choice into questions, and probing answers them.

Probing is a step that may be repeated, with other answers or for another target. A step keeps the
options and the flags for C, and leaves no question open (`Probes.frame`), so any number of steps
does.
-/

set_option autoImplicit false

namespace CrossFlags

open scoped List

namespace Options

/-- The options that are paths. -/
def paths (options : Options) : List String :=
  [options.sdkRoot, options.companionRoot, options.cxx, options.mapFile]

/-- What the options of a resolution satisfy. -/
structure Settled (options : Options) : Prop where
  narrow : options.force32Bits = true → options.wordSize = .bits32
  path_nonempty : ∀ path ∈ options.paths, path ≠ ""
  path_trimmed : ∀ path ∈ options.paths,
    Text.NoBlankFirst path.toList ∧ Text.NoBlankLast path.toList
  path_not_default : ∀ path ∈ options.paths, Text.lower path ∉ defaultWords
  dependencies : ∀ rule ∈ Rule.dependencies,
    options.sources.get rule.premise = .system → options.sources.get rule.implied = .system

theorem Normal.verbatim_of_mem_paths {options : Options} (h : options.Normal) {path : String}
    (hpath : path ∈ options.paths) : Verbatim path := by
  simp only [paths, List.mem_cons, List.not_mem_nil, or_false] at hpath
  rcases hpath with rfl | rfl | rfl | rfl
  · exact h.path .sdkRoot rfl
  · exact h.path .companionRoot rfl
  · exact h.path .cxx rfl
  · exact h.path .mapFile rfl

theorem get_implied_closed {rule : Rule} (hmem : rule ∈ Rule.dependencies) (options : Options)
    (hpremise : options.closed.sources.get rule.premise = .system) :
    options.closed.sources.get rule.implied = .system :=
  Sources.get_implied_applyRules Rule.ordered_dependencies (by decide) hmem hpremise

end Options

theorem Verbatim.lower_not_mem {text : String} (h : Verbatim text) :
    Text.lower text ∉ defaultWords := by
  intro hmem
  -- A word for the default is its own folding, so the folded text is that word in any case.
  have hfolded : ∀ word ∈ defaultWords, Text.lower word = word := by decide
  have hasks : asksForDefault text = true := by
    apply List.any_eq_true.mpr
    exact ⟨Text.lower text, hmem, Text.sameKeyword_iff.mpr (hfolded _ hmem)⟩
  rw [h.not_default] at hasks
  cases hasks

theorem Options.Normal.settled {options : Options} (h : options.Normal)
    (hclosed : options.closed = options) : options.Settled where
  narrow := h.wordSize
  path_nonempty path hpath := (h.verbatim_of_mem_paths hpath).nonempty
  path_trimmed path hpath := Text.trim_eq_self_iff.mp (h.verbatim_of_mem_paths hpath).trim_eq
  path_not_default path hpath := (h.verbatim_of_mem_paths hpath).lower_not_mem
  dependencies rule hmem hpremise := by
    rw [← hclosed] at hpremise ⊢
    exact options.get_implied_closed hmem hpremise

namespace FlagSet

/-- The open questions are about the libraries on the system: about each of them, once, in
declaration order, under the library's own packages. -/
structure Awaits (flags : FlagSet) (sources : Sources) : Prop where
  exactly : ∀ lib, lib ∈ flags.pendingLibraries ↔ sources.get lib = .system
  once : flags.pendingLibraries.Nodup
  in_order : flags.pendingLibraries <+ Library.all
  packages : flags.discovery = flags.pendingLibraries.map Query.ofLibrary

theorem pendingLibraries_assemble (options : Options) (profile : Profile) :
    (assemble options profile).pendingLibraries = options.sources.system := by
  show (options.sources.system.map Query.ofLibrary).map Query.library = options.sources.system
  rw [List.map_map]
  exact List.map_id _

theorem awaits_assemble (options : Options) (profile : Profile) :
    (assemble options profile).Awaits options.sources := by
  have hpending := pendingLibraries_assemble options profile
  refine ⟨?_, ?_, ?_, ?_⟩
  · intro lib
    rw [hpending]
    exact Sources.mem_system
  · rw [hpending]
    exact options.sources.nodup_system
  · rw [hpending]
    exact List.filter_sublist
  · rw [hpending]
    rfl

end FlagSet

namespace Resolution

/-! ## Probing -/

theorem probe_eq_ok_iff {ε : Type} {answer : Query → Except ε Answer} {profile : Profile}
    {resolution probed : Resolution} :
    resolution.probe answer profile = .ok probed ↔
      ∃ answers, resolution.flags.discovery.mapM answer = .ok answers ∧
        { resolution with flags := resolution.flags.withAnswers profile answers } = probed := by
  unfold probe
  simp only [bind_eq_ok_iff, pure_eq_ok_iff, FlagSet.discover_eq_ok_iff]
  constructor
  · rintro ⟨_, ⟨answers, hanswers, rfl⟩, hprobed⟩
    exact ⟨answers, hanswers, hprobed⟩
  · rintro ⟨answers, hanswers, hprobed⟩
    exact ⟨_, ⟨answers, hanswers, rfl⟩, hprobed⟩

/-- Somebody answers all open questions, for some target. -/
def Probes (before after : Resolution) : Prop :=
  ∃ (ε : Type) (answer : Query → Except ε Answer) (profile : Profile),
    before.probe answer profile = .ok after

theorem Probes.frame {before after : Resolution} (h : Probes before after) :
    after.options = before.options ∧ after.flags.cFlags = before.flags.cFlags ∧
      after.flags.discovery = [] := by
  obtain ⟨ε, answer, profile, hprobe⟩ := h
  obtain ⟨answers, -, rfl⟩ := probe_eq_ok_iff.mp hprobe
  exact ⟨rfl, FlagSet.cFlags_withAnswers _ _ _, FlagSet.discovery_withAnswers _ _ _⟩

theorem frame_of_transGen {before after : Resolution} (h : Relation.TransGen Probes before after) :
    after.options = before.options ∧ after.flags.cFlags = before.flags.cFlags ∧
      after.flags.discovery = [] := by
  induction h with
  | single hstep => exact hstep.frame
  | tail _ hstep ih =>
    obtain ⟨hoptions, hcFlags, hdiscovery⟩ := hstep.frame
    exact ⟨hoptions.trans ih.1, hcFlags.trans ih.2.1, hdiscovery⟩

/-! ## Every resolution -/

theorem settled_of_ofBag {bag : Bag} {profile : Profile} {resolution : Resolution}
    (h : ofBag bag profile = .ok resolution) : resolution.options.Settled := by
  obtain ⟨options, -, rfl⟩ := ofBag_eq_ok_iff.mp h
  exact (normal_of_ofBag h).settled options.closed_closed

theorem awaits_of_ofBag {bag : Bag} {profile : Profile} {resolution : Resolution}
    (h : ofBag bag profile = .ok resolution) :
    resolution.flags.Awaits resolution.options.sources := by
  obtain ⟨options, -, rfl⟩ := ofBag_eq_ok_iff.mp h
  exact FlagSet.awaits_assemble options.closed profile

/-- **What holds of every resolution**: its options are settled; until it is probed it awaits the
flags of exactly its system libraries; and probing, once or more often, keeps the options and the
flags for C and leaves nothing to await. -/
theorem ofBag_invariant {bag : Bag} {profile : Profile} {first : Resolution}
    (h : ofBag bag profile = .ok first) :
    first.options.Settled ∧ first.flags.Awaits first.options.sources ∧
      ∀ probed, Relation.TransGen Probes first probed →
        probed.options.Settled ∧ probed.options = first.options ∧
          probed.flags.cFlags = first.flags.cFlags ∧ probed.flags.discovery = [] := by
  refine ⟨settled_of_ofBag h, awaits_of_ofBag h, ?_⟩
  intro probed hprobed
  obtain ⟨hoptions, hcFlags, hdiscovery⟩ := frame_of_transGen hprobed
  refine ⟨?_, hoptions, hcFlags, hdiscovery⟩
  rw [hoptions]
  exact settled_of_ofBag h

/-- A path that begins like a word for the default, one that is a number, an overruled word size and
two forced libraries, probed twice. -/
theorem ofBag_invariant_probed_twice :
    let bag := Bag.ofList
      [("map_file", .integer 7), ("bits", .text "64"), ("use_system_theora", .bool true),
       ("sdk_root", .text "\u00a0/Default "), ("cxx", .text "autos"), ("build_mode", .text "DEBUG")]
    let answer : Query → Except String Answer := fun query =>
      .ok { defines := query.packages, linkLibraries := query.packages }
    ∃ first second third, ofBag bag .symbian = .ok first ∧
      first.probe answer .symbian = .ok second ∧ second.probe answer .symbian = .ok third ∧
      first.options.paths = ["/Default", "C:/Projects/sympathy", "autos", "7"] ∧
      first.flags.pendingLibraries = [.theora, .vorbis, .ogg] ∧
      first.options.Settled ∧ first.flags.Awaits first.options.sources ∧
      third.options.Settled ∧ third.options = first.options ∧
      third.flags.cFlags = first.flags.cFlags ∧ third.flags.discovery = [] := by
  intro bag answer
  have hfirst : ofBag bag .symbian = .ok _ := rfl
  obtain ⟨hsettled, hawaits, hprobes⟩ := ofBag_invariant hfirst
  refine ⟨_, _, _, hfirst, rfl, rfl, by decide, by decide, hsettled, hawaits, ?_⟩
  apply hprobes
  exact .tail (.single ⟨_, answer, .symbian, rfl⟩) ⟨_, answer, .symbian, rfl⟩

end Resolution
end CrossFlags
