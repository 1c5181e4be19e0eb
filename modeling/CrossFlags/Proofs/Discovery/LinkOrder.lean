import CrossFlags.Assembly
import CrossFlags.Profile.Symbian
import CrossFlags.Proofs.Discovery.Answers
import CrossFlags.Proofs.FirstOccurrence

/-!
# The link list after discovery

Libraries are the one part of a flag set whose order the linker sees. Discovery puts what it finds
in the middle of the list: behind the startup code, in front of the base libraries that the found
ones need. This file says exactly what the list is then (`linkLibraries_withAnswers`): **the base
list, cut at the startup code, with the newly reported libraries in between**, where newly reported
means `Flag.newLibraries`, all reports end to end, less what the base has, each library once and
where it comes first.

First occurrence is also what goes wrong. Each answer lists dependents before what they depend on,
but when a library that several answers share is reported first by one that does not need the
others, it keeps that early place, and dependents that are reported later end up behind it. So the
order of the answers survives discovery for some pairs of libraries only, and
`discover_keeps_order_iff` says for which.
-/

set_option autoImplicit false

namespace CrossFlags

open scoped List

namespace Flag

/-! ## The libraries that are found -/

/-- The reported libraries that the base does not have, each where it is reported first. -/
def newLibraries (base reported : List String) : List String :=
  (reported.filter fun lib => !base.contains lib).eraseDups

section

variable {base reported : List String} {lib : String}

theorem mem_newLibraries : lib ∈ newLibraries base reported ↔ lib ∈ reported ∧ lib ∉ base := by
  rw [newLibraries, List.mem_eraseDups, List.mem_filter]
  simp

theorem nodup_newLibraries : (newLibraries base reported).Nodup :=
  nodup_eraseDups _

theorem newLibraries_eq_nil (h : ∀ lib ∈ reported, lib ∈ base) :
    newLibraries base reported = [] := by
  apply List.eq_nil_iff_forall_not_mem.mpr
  intro lib hlib
  obtain ⟨hreported, hnew⟩ := mem_newLibraries.mp hlib
  exact hnew (h lib hreported)

theorem newLibraries_append_singleton (base reported : List String) (lib : String) :
    newLibraries base (reported ++ [lib]) =
      if (newLibraries base reported).contains lib || base.contains lib then
        newLibraries base reported
      else newLibraries base reported ++ [lib] := by
  unfold newLibraries
  rw [List.filter_append]
  by_cases hbase : lib ∈ base
  · rw [List.filter_cons_of_neg (by simpa using hbase), List.filter_nil, List.append_nil, if_pos]
    simp [hbase]
  · rw [List.filter_cons_of_pos (by simpa using hbase), List.filter_nil,
      eraseDups_append_singleton]
    simp [hbase]

theorem mergeLibraries_newLibraries (base reported libs : List String) :
    mergeLibraries base (newLibraries base reported) libs =
      newLibraries base (reported ++ libs) := by
  induction libs generalizing reported with
  | nil => rw [mergeLibraries, List.append_nil]
  | cons lib rest ih =>
    rw [mergeLibraries, ← newLibraries_append_singleton, ih, List.append_assoc,
      List.singleton_append]

end

end Flag

namespace Discovery.Progress

/-- What a run of answers has found is a function of all reports so far. -/
theorem found_foldl_absorb (answers : List Answer) (flags : FlagSet) (reported : List String) :
    (answers.foldl absorb ⟨flags, Flag.newLibraries flags.linkLibraries reported⟩).found =
      Flag.newLibraries flags.linkLibraries
        (reported ++ answers.flatMap Answer.linkLibraries) := by
  induction answers generalizing flags reported with
  | nil => rw [List.foldl_nil, List.flatMap_nil, List.append_nil]
  | cons answer rest ih =>
    rw [List.foldl_cons, List.flatMap_cons, ← List.append_assoc]
    unfold absorb
    rw [Flag.mergeLibraries_newLibraries]
    exact ih _ _

end Discovery.Progress

namespace FlagSet

/-! ## The merged list -/

/-- **The link list after discovery**: the base, cut behind the startup code, with the newly
reported libraries in between. -/
theorem linkLibraries_withAnswers (flags : FlagSet) (profile : Profile) (answers : List Answer) :
    (flags.withAnswers profile answers).linkLibraries =
      flags.linkLibraries.take profile.libraries.entry.length ++
        Flag.newLibraries flags.linkLibraries (answers.flatMap Answer.linkLibraries) ++
          flags.linkLibraries.drop profile.libraries.entry.length := by
  have hbase : (answers.foldl Discovery.Progress.absorb ⟨flags, []⟩).flags.linkLibraries =
      flags.linkLibraries :=
    Discovery.Progress.foldl_absorb_untouched FlagSet.linkLibraries (fun _ _ => rfl) answers
      ⟨flags, []⟩
  have hfound : (answers.foldl Discovery.Progress.absorb ⟨flags, []⟩).found =
      Flag.newLibraries flags.linkLibraries (answers.flatMap Answer.linkLibraries) :=
    Discovery.Progress.found_foldl_absorb answers flags []
  unfold withAnswers Discovery.Progress.finish
  rw [hbase, hfound]

theorem mem_linkLibraries_withAnswers {flags : FlagSet} {profile : Profile}
    {answers : List Answer} {lib : String} :
    lib ∈ (flags.withAnswers profile answers).linkLibraries ↔
      lib ∈ flags.linkLibraries ∨ lib ∈ answers.flatMap Answer.linkLibraries := by
  have hcut : lib ∈ flags.linkLibraries ↔
      lib ∈ flags.linkLibraries.take profile.libraries.entry.length ∨
        lib ∈ flags.linkLibraries.drop profile.libraries.entry.length := by
    rw [← List.mem_append, List.take_append_drop]
  rw [linkLibraries_withAnswers, List.mem_append, List.mem_append, Flag.mem_newLibraries,
    or_right_comm, ← hcut]
  by_cases hbase : lib ∈ flags.linkLibraries
  · simp [hbase]
  · simp [hbase]

/-- The base libraries keep their order, and nothing else of the merged list is a base library. -/
theorem filter_linkLibraries_withAnswers (flags : FlagSet) (profile : Profile)
    (answers : List Answer) :
    (flags.withAnswers profile answers).linkLibraries.filter flags.linkLibraries.contains =
      flags.linkLibraries := by
  have hkeep (l : List String) (h : ∀ lib ∈ l, lib ∈ flags.linkLibraries) :
      l.filter flags.linkLibraries.contains = l := by
    refine List.filter_eq_self.mpr ?_
    intro lib hlib
    exact List.contains_iff_mem.mpr (h lib hlib)
  have hdrop : (Flag.newLibraries flags.linkLibraries
      (answers.flatMap Answer.linkLibraries)).filter flags.linkLibraries.contains = [] := by
    refine List.filter_eq_nil_iff.mpr ?_
    intro lib hlib hbase
    exact (Flag.mem_newLibraries.mp hlib).2 (List.contains_iff_mem.mp hbase)
  rw [linkLibraries_withAnswers, List.filter_append, List.filter_append, hdrop, List.append_nil,
    hkeep _ fun lib => List.mem_of_mem_take, hkeep _ fun lib => List.mem_of_mem_drop,
    List.take_append_drop]

theorem count_linkLibraries_withAnswers {flags : FlagSet} {profile : Profile}
    {answers : List Answer} {lib : String} (hreported : lib ∈ answers.flatMap Answer.linkLibraries)
    (hnew : lib ∉ flags.linkLibraries) :
    (flags.withAnswers profile answers).linkLibraries.count lib = 1 := by
  have hfound : lib ∈ Flag.newLibraries flags.linkLibraries
      (answers.flatMap Answer.linkLibraries) :=
    Flag.mem_newLibraries.mpr ⟨hreported, hnew⟩
  rw [linkLibraries_withAnswers, List.count_append, List.count_append,
    List.count_eq_zero.mpr fun h => hnew (List.mem_of_mem_take h),
    List.count_eq_zero.mpr fun h => hnew (List.mem_of_mem_drop h),
    Flag.nodup_newLibraries.count, if_pos hfound]

/-! ## Discovery on an assembled flag set -/

/-- The base libraries begin with the startup code and end with the compiler's support. -/
theorem linkLibraries_assemble_eq (options : Options) (profile : Profile) :
    ∃ middle, (assemble options profile).linkLibraries =
      profile.libraries.entry ++ (middle ++ profile.libraries.toolchainSupport) := by
  refine ⟨(profile.abi options.abiVariant).cxxRuntime ++ profile.libraries.posix ++
    (profile.abi options.abiVariant).realtimeLibs ++ profile.libraries.framework ++
    (profile.abi options.abiVariant).graphicsLibs ++ profile.libraries.utility, ?_⟩
  simp only [assemble, Profile.linkOrder, List.append_assoc]

/-- The reported libraries are spliced into the base list behind the startup code, and nothing else
has happened to it. -/
structure Spliced (groups : LinkGroups) (base reported merged : List String) : Prop where
  splice : ∃ rest, base = groups.entry ++ rest ∧ merged = groups.entry ++
    (reported.filter fun lib => !(groups.entry ++ rest).contains lib).eraseDups ++ rest
  entry_first : groups.entry <+: merged
  support_last : groups.toolchainSupport <:+ merged
  base_in_order : merged.filter base.contains = base
  none_lost : ∀ lib ∈ reported, lib ∈ merged
  none_repeated : ∀ lib ∈ reported, lib ∉ base → merged.count lib = 1

/-- **Discovery on an assembled flag set** splices the reported libraries, in query order, into the
assembled link list. -/
theorem discover_assemble_spliced {ε : Type} {options : Options} {profile : Profile}
    {probe : Query → Except ε Answer} {merged : FlagSet}
    (h : (assemble options profile).discover probe profile = .ok merged) :
    ∃ answers, (assemble options profile).discovery.mapM probe = .ok answers ∧
      Spliced profile.libraries (assemble options profile).linkLibraries
        (answers.flatMap Answer.linkLibraries) merged.linkLibraries := by
  obtain ⟨answers, hanswers, rfl⟩ := discover_eq_ok_iff.mp h
  obtain ⟨middle, hbase⟩ := linkLibraries_assemble_eq options profile
  have hmerged := linkLibraries_withAnswers (assemble options profile) profile answers
  have hfilter := filter_linkLibraries_withAnswers (assemble options profile) profile answers
  rw [hbase, List.take_left, List.drop_left] at hmerged
  refine ⟨answers, hanswers, ⟨⟨_, hbase, hmerged⟩, ?_, ?_, hfilter, ?_,
    fun lib => count_linkLibraries_withAnswers⟩⟩
  · rw [hmerged, List.append_assoc]
    exact List.prefix_append _ _
  · rw [hmerged, ← List.append_assoc]
    exact List.suffix_append _ _
  · -- A reported library is in the base or new; the base is in the merged list, and so is the new.
    intro lib hlib
    by_cases hmem : lib ∈ (assemble options profile).linkLibraries
    · rw [← hfilter] at hmem
      exact (List.mem_filter.mp hmem).1
    · exact List.count_pos_iff.mp (by rw [count_linkLibraries_withAnswers hlib hmem]; decide)

/-- Two answers share a library, one of them repeats itself, and both report a base library. -/
theorem discover_assemble_spliced_symbian :
    let options : Options :=
      { buildMode := .release, abiVariant := .legacy, wordSize := .bits32, force32Bits := true
        sources := (Sources.bundled.set .opus .system).set .ogg .system
        sdkRoot := "/sdk", companionRoot := "/proj", cxx := "g++", mapFile := "a.map" }
    let probe : Query → Except String Answer := fun query =>
      if query.library = .opus then .ok { linkLibraries := ["opus", "ogg", ":libm.dso", "opus"] }
      else .ok { linkLibraries := ["gcc", "ogg", "winmm"] }
    ∃ merged, (assemble options .symbian).discover probe .symbian = .ok merged ∧
      merged.linkLibraries.take 7 =
        [":eexe.lib", ":usrt2_2.lib", ":libcrt0.lib", "opus", "ogg", "winmm", ":libstdcpp.dso"] ∧
      ∃ answers, (assemble options .symbian).discovery.mapM probe = .ok answers ∧
        Spliced Profile.symbian.libraries (assemble options .symbian).linkLibraries
          (answers.flatMap Answer.linkLibraries) merged.linkLibraries := by
  intro options probe
  have hmerged : (assemble options .symbian).discover probe .symbian = .ok _ := rfl
  exact ⟨_, hmerged, by decide, discover_assemble_spliced hmerged⟩

end FlagSet

/-! ## The order that the answers ask for -/

namespace Discovery

/-- The answers can be satisfied together: there is one order of library names, dependents first,
that every answer follows, and no answer repeats itself. -/
def Compatible (answers : List Answer) : Prop :=
  ∃ before : String → String → Prop, (∀ lib, ¬ before lib lib) ∧
    (∀ lib mid other, before lib mid → before mid other → before lib other) ∧
    ∀ answer ∈ answers, answer.linkLibraries.Nodup ∧ answer.linkLibraries.Pairwise before

theorem compatible_of_rank {answers : List Answer} (rank : String → Nat)
    (h : ∀ answer ∈ answers, answer.linkLibraries.Pairwise (rank · < rank ·)) :
    Compatible answers := by
  refine ⟨(rank · < rank ·), fun lib => Nat.lt_irrefl _, fun _ _ _ => Nat.lt_trans,
    fun answer hanswer => ⟨(h answer hanswer).imp ?_, h answer hanswer⟩⟩
  intro lib other hlt he
  exact Nat.lt_irrefl _ (he ▸ hlt)

/-- Who comes first in all reports is decided by the answers as wholes, provided no answer that has
`a` has `b` in front of it. -/
theorem leads_flatMap_iff {a b : String} {answers : List Answer}
    (horder : ∀ answer ∈ answers, a ∈ answer.linkLibraries →
      Leads (· = a) (· = b) answer.linkLibraries) :
    Leads (· = a) (· = b) (answers.flatMap Answer.linkLibraries) ↔
      Leads (a ∈ ·.linkLibraries) (b ∈ ·.linkLibraries) answers := by
  induction answers with
  | nil => simp [leads_nil]
  | cons answer rest ih =>
    obtain ⟨hanswer, hrest⟩ := List.forall_mem_cons.mp horder
    rw [List.flatMap_cons, leads_append_iff, leads_cons_iff, ih hrest]
    by_cases ha : a ∈ answer.linkLibraries
    · simp [ha, hanswer ha]
    · -- An answer without `a` must be without `b`, or `b` is there first.
      have hnone : ∀ lib ∈ answer.linkLibraries, ¬ lib = a := by
        intro lib hlib he
        exact ha (he ▸ hlib)
      have hfree : (∀ lib ∈ answer.linkLibraries, ¬ lib = b) ↔ b ∉ answer.linkLibraries := by
        constructor
        · intro h hb
          exact h b hb rfl
        · intro h lib hlib he
          exact h (he ▸ hlib)
      rw [leads_iff_of_forall_not hnone, hfree]
      simp [ha]

/-- Compatible answers never have `b` in front of `a` once one of them has `a` in front of `b`. -/
theorem Compatible.leads {a b : String} {answers : List Answer} (h : Compatible answers)
    (hab : ∃ answer ∈ answers, [a, b] <+ answer.linkLibraries) :
    a ≠ b ∧ ∀ answer ∈ answers, a ∈ answer.linkLibraries →
      Leads (· = a) (· = b) answer.linkLibraries := by
  obtain ⟨before, hirrefl, htrans, hfollow⟩ := h
  obtain ⟨answer, hanswer, hsub⟩ := hab
  have hbefore : before a b := by
    simpa using (hfollow answer hanswer).2.sublist hsub
  refine ⟨?_, ?_⟩
  · intro he
    exact hirrefl a (he ▸ hbefore)
  · intro other hother ha
    exact leads_of_pairwise hirrefl htrans (hfollow other hother).2 hbefore ha

end Discovery

namespace FlagSet

/-- Among newly reported libraries the merged list has the order of first reports. -/
theorem sublist_linkLibraries_withAnswers_iff {flags : FlagSet} {profile : Profile}
    {answers : List Answer} {a b : String} (hne : a ≠ b) (ha : a ∉ flags.linkLibraries)
    (hb : b ∉ flags.linkLibraries) :
    [a, b] <+ (flags.withAnswers profile answers).linkLibraries ↔
      b ∈ answers.flatMap Answer.linkLibraries ∧
        Leads (· = a) (· = b) (answers.flatMap Answer.linkLibraries) := by
  rw [linkLibraries_withAnswers, sublist_append_iff_of_not_mem
    ⟨fun h => ha (List.mem_of_mem_take h), fun h => hb (List.mem_of_mem_take h)⟩
    ⟨fun h => ha (List.mem_of_mem_drop h), fun h => hb (List.mem_of_mem_drop h)⟩,
    Flag.newLibraries, sublist_eraseDups_iff hne, leads_filter_iff (by simpa using ha)
    (by simpa using hb), List.mem_filter]
  simp [hb]

/-- **When discovery keeps the order of the answers.** Let the answers be compatible, and let one of
them list `a` before `b`, both new. Then `a` stands before `b` in the merged list exactly when no
answer lists `b` before `a` has been listed: the first answer that has `b` has `a` too, or comes
after one that has. -/
theorem discover_keeps_order_iff {ε : Type} {flags : FlagSet} {profile : Profile}
    {probe : Query → Except ε Answer} {answers : List Answer}
    (hanswers : flags.discovery.mapM probe = .ok answers)
    (hcompatible : Discovery.Compatible answers) :
    ∃ merged, flags.discover probe profile = .ok merged ∧
      ∀ a b, a ∉ flags.linkLibraries → b ∉ flags.linkLibraries →
        (∃ answer ∈ answers, [a, b] <+ answer.linkLibraries) →
        ([a, b] <+ merged.linkLibraries ↔
          Leads (a ∈ ·.linkLibraries) (b ∈ ·.linkLibraries) answers) := by
  refine ⟨_, discover_eq_ok_iff.mpr ⟨answers, hanswers, rfl⟩, ?_⟩
  intro a b ha hb hab
  obtain ⟨hne, horder⟩ := hcompatible.leads hab
  have hreported : b ∈ answers.flatMap Answer.linkLibraries := by
    obtain ⟨answer, hanswer, hsub⟩ := hab
    exact List.mem_flatMap.mpr ⟨answer, hanswer, hsub.subset (by simp)⟩
  rw [sublist_linkLibraries_withAnswers_iff hne ha hb, Discovery.leads_flatMap_iff horder]
  exact and_iff_right hreported

/-- Theora and vorbis both need ogg. Theora is asked first, so that its own ogg stays behind it, and
stands in front of the vorbis that is reported next. -/
theorem discover_keeps_order_iff_shared_ogg :
    let flags : FlagSet :=
      { linkLibraries := [":eexe.lib", ":usrt2_2.lib", ":libcrt0.lib", "gcc"]
        discovery := [.ofLibrary .theora, .ofLibrary .vorbis] }
    let probe : Query → Except String Answer := fun query =>
      .ok { linkLibraries := [query.library.name, "ogg"] }
    let answers : List Answer :=
      [{ linkLibraries := ["theora", "ogg"] }, { linkLibraries := ["vorbis", "ogg"] }]
    flags.discovery.mapM probe = .ok answers ∧ Discovery.Compatible answers ∧
      ∃ merged, flags.discover probe .symbian = .ok merged ∧
        ["theora", "ogg"] <+ merged.linkLibraries ∧
          ¬ ["vorbis", "ogg"] <+ merged.linkLibraries := by
  intro flags probe answers
  have hanswers : flags.discovery.mapM probe = .ok answers := rfl
  have hcompatible : Discovery.Compatible answers :=
    Discovery.compatible_of_rank ["theora", "vorbis", "ogg"].idxOf (by decide)
  obtain ⟨merged, hmerged, horder⟩ :=
    @discover_keeps_order_iff String flags .symbian probe answers hanswers hcompatible
  refine ⟨hanswers, hcompatible, merged, hmerged, ?_, ?_⟩
  · rw [horder "theora" "ogg" (by decide) (by decide) (by decide)]
    simp [answers, leads_cons_iff]
  · rw [horder "vorbis" "ogg" (by decide) (by decide) (by decide)]
    simp [answers, leads_cons_iff]

/-- Compatible answers alone do not keep their order. An answer for theora that names ogg only puts
ogg in front of vorbis, whose answer says that it needs ogg. -/
theorem discover_reorders_compatible_answers :
    ¬ ∀ (flags : FlagSet) (profile : Profile) (probe : Query → Except String Answer)
        (answers : List Answer) (merged : FlagSet),
      flags.discovery.mapM probe = .ok answers → Discovery.Compatible answers →
      flags.discover probe profile = .ok merged →
      ∀ a b, a ∉ flags.linkLibraries → b ∉ flags.linkLibraries →
        (∃ answer ∈ answers, [a, b] <+ answer.linkLibraries) → [a, b] <+ merged.linkLibraries := by
  intro h
  let flags : FlagSet := { discovery := [.ofLibrary .theora, .ofLibrary .vorbis] }
  let probe : Query → Except String Answer := fun query =>
    .ok { linkLibraries := if query.library = .theora then ["ogg"] else ["vorbis", "ogg"] }
  have hcompatible : Discovery.Compatible
      [{ linkLibraries := ["ogg"] }, { linkLibraries := ["vorbis", "ogg"] }] :=
    Discovery.compatible_of_rank ["vorbis", "ogg"].idxOf (by decide)
  have hkept : ["vorbis", "ogg"] <+ ["ogg", "vorbis"] :=
    h flags .symbian probe _ _ rfl hcompatible rfl "vorbis" "ogg"
      (by decide) (by decide) (by decide)
  revert hkept
  decide

end FlagSet
end CrossFlags
