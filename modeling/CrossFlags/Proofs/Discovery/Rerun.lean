import CrossFlags.Proofs.Discovery.LinkOrder
import CrossFlags.Proofs.Flag.Units

/-!
# Running discovery again

Whoever asks the build environment the same questions a second time gets the same flag set:
**discovery on its own result, with the queries put back, changes nothing** (`discover_again`). No
list has to be well formed for that. A base that ends in an option without its value, an answer that
does, defines that look like options: all of it is merged by what stands side by side, and what
stands side by side after a merge stands so after every later one.

So the second run finds everything it reports. It finds some of it for the wrong reason (an entry
that is only the value of an option counts as present), and that is harmless here, because the first
run did not append it for the same reason.

The libraries are the other half. They are put into the middle of the list, but the second run has
nothing new to put there: it cuts the list behind the startup code and closes it again.
-/

set_option autoImplicit false

namespace CrossFlags

open scoped List

namespace Flag

/-- Merging the same reports again changes nothing. -/
theorem foldl_mergeUnique_again (reports : List (List String)) (base : List String) :
    reports.foldl mergeUnique (reports.foldl mergeUnique base) =
      reports.foldl mergeUnique base := by
  rw [foldl_mergeUnique, foldl_mergeUnique]
  apply foldl_mergeUnit_eq_self_iff.mpr
  intro unit hunit
  exact isInfix_foldl_mergeUnit hunit base

end Flag

namespace FlagSet

/-- A merge leaves no library of its answers to be inserted by the next one. -/
theorem linkLibraries_withAnswers_of_mem {flags : FlagSet} {answers : List Answer}
    (h : ∀ lib ∈ answers.flatMap Answer.linkLibraries, lib ∈ flags.linkLibraries)
    (profile : Profile) :
    (flags.withAnswers profile answers).linkLibraries = flags.linkLibraries := by
  rw [linkLibraries_withAnswers, Flag.newLibraries_eq_nil h, List.append_nil,
    List.take_append_drop]

theorem withAnswers_again (flags : FlagSet) (profile : Profile) (answers : List Answer)
    (queries : List Query) :
    withAnswers { flags.withAnswers profile answers with discovery := queries } profile answers =
      flags.withAnswers profile answers := by
  ext1
  case defines =>
    rw [defines_withAnswers, defines_withAnswers]
    exact Flag.foldl_mergeUnique_again _ _
  case compileFlags =>
    rw [compileFlags_withAnswers, compileFlags_withAnswers]
    exact Flag.foldl_mergeUnique_again _ _
  case cFlags => rw [cFlags_withAnswers]
  case linkFlags =>
    rw [linkFlags_withAnswers, linkFlags_withAnswers]
    exact Flag.foldl_mergeUnique_again _ _
  case linkLibraries =>
    apply linkLibraries_withAnswers_of_mem
    intro lib hlib
    exact mem_linkLibraries_withAnswers.mpr (Or.inr hlib)
  case discovery => rfl

/-- **Discovery run again changes nothing.** -/
theorem discover_again {ε : Type} {flags merged : FlagSet} {profile : Profile}
    {probe : Query → Except ε Answer} (h : flags.discover probe profile = .ok merged) :
    discover { merged with discovery := flags.discovery } probe profile = .ok merged := by
  obtain ⟨answers, hanswers, rfl⟩ := discover_eq_ok_iff.mp h
  apply discover_eq_ok_iff.mpr
  exact ⟨answers, hanswers, withAnswers_again flags profile answers flags.discovery⟩

/-- Opus is asked twice, and both its answers and the base end in options without a value: the first
answer closes an option of the base, and a flag is taken for the value of another. -/
theorem discover_again_of_dangling_options :
    let flags : FlagSet :=
      { defines := ["-include"], compileFlags := ["-O2", "-isystem"], cFlags := ["-std=c99"]
        linkFlags := ["-Xlinker", "-L/opt"], linkLibraries := [":eexe.lib", "gcc"]
        discovery := [.ofLibrary .opus, .ofLibrary .ogg, .ofLibrary .opus] }
    let probe : Query → Except String Answer := fun query =>
      if query.library = .opus then
        .ok { defines := ["A", "-include", "A", "-isystem"]
              compileFlags := ["/usr/include", "-isystem"]
              linkFlags := ["-L/opt", "-Xlinker"], linkLibraries := ["opus", "ogg", "opus"] }
      else
        .ok { defines := ["A", "B"], compileFlags := ["-isystem", "/usr/include", "-O2"]
              linkFlags := ["-Xlinker", "-Xlinker", "-L/opt"]
              linkLibraries := ["gcc", "ogg", "m"] }
    ∃ merged, flags.discover probe .symbian = .ok merged ∧
      merged.defines = ["-include", "A", "-isystem", "B"] ∧
      merged.compileFlags = ["-O2", "-isystem", "/usr/include"] ∧
      merged.linkFlags = ["-Xlinker", "-L/opt", "-Xlinker", "-Xlinker"] ∧
      merged.linkLibraries = [":eexe.lib", "gcc", "opus", "ogg", "m"] ∧
      discover { merged with discovery := flags.discovery } probe .symbian = .ok merged := by
  intro flags probe
  have hmerged : flags.discover probe .symbian = .ok _ := rfl
  exact ⟨_, hmerged, by decide, by decide, by decide, by decide, discover_again hmerged⟩

end FlagSet
end CrossFlags
