import Mathlib.Data.List.Induction
import Mathlib.Data.List.Nodup
import CrossFlags.Profile.Symbian
import CrossFlags.Proofs.Discovery.Answers
import CrossFlags.Proofs.FirstOccurrence
import CrossFlags.Proofs.Flag.Units

/-!
# Defines after discovery

A define is a name and stands for itself, so merging defines ought to be a set union that keeps
order: the old ones, and behind them what is new, each once. Discovery merges them by the same rule
as flags, though, and that rule takes a define that is spelled like an option together with the one
behind it. Of such a pair neither is looked up by itself. **The merge is the set union exactly as
long as every pair is met whole**: its two defines stand side by side already, or both are new
(`discover_merges_defines_as_set_iff`). A pair that is half known brings the known half along a
second time (`discover_doubles_a_define`).

Either way nothing is lost: the old defines stay in front, and every reported one is there.
-/

set_option autoImplicit false

namespace CrossFlags

open scoped List

namespace Flag

/-! ## Units that are met whole -/

/-- The entries of the unit stand side by side in the list, or are all new to it and to each
other. -/
def Unit.MetWhole (flags : List String) (unit : Unit) : Prop :=
  unit.words <:+: flags ∨ (unit.words.Nodup ∧ ∀ word ∈ unit.words, word ∉ flags)

/-- One entry is there or is new. -/
theorem Unit.metWhole_of_words_eq {unit : Unit} {word : String} (h : unit.words = [word])
    (flags : List String) : unit.MetWhole flags := by
  rw [Unit.MetWhole, h, List.singleton_infix_iff]
  by_cases hword : word ∈ flags
  · exact Or.inl hword
  · exact Or.inr ⟨List.nodup_singleton word, by simpa using hword⟩

/-- Merging a unit leaves a list without repeats exactly if there were none and the unit is met
whole. -/
theorem nodup_mergeUnit_iff {flags : List String} {unit : Unit} :
    (mergeUnit flags unit).Nodup ↔ flags.Nodup ∧ unit.MetWhole flags := by
  unfold mergeUnit Unit.MetWhole
  rw [← Unit.present_iff]
  split
  · rename_i hpresent
    simp [hpresent]
  · rename_i hpresent
    rw [List.nodup_append']
    simp only [hpresent, Bool.false_eq_true, false_or, List.disjoint_right]

/-- A unit that is met whole is merged as its entries would be one by one. -/
theorem mergeUnit_eq_eraseDups {flags : List String} {unit : Unit}
    (h : (mergeUnit flags unit).Nodup) :
    mergeUnit flags unit = (flags ++ unit.words).eraseDups := by
  unfold mergeUnit at h ⊢
  split at h
  · rename_i hpresent
    have hsubset : ∀ word ∈ unit.words, word ∈ flags := fun word hword =>
      (Unit.present_iff.mp hpresent).subset hword
    rw [if_pos hpresent, eraseDups_append_of_subset hsubset, eraseDups_of_nodup h]
  · rename_i hpresent
    rw [if_neg hpresent, eraseDups_of_nodup h]

/-! ## Runs of units -/

/-- When their turn comes, the reported units are met whole by what there is of the base and the
reports before. -/
def AllMetWhole (base : List String) (reported : List Unit) : Prop :=
  ∀ before unit, before ++ [unit] <+: reported →
    unit.MetWhole (base ++ before.flatMap Unit.words).eraseDups

theorem allMetWhole_append_singleton_iff {base : List String} {reported : List Unit}
    {unit : Unit} :
    AllMetWhole base (reported ++ [unit]) ↔
      AllMetWhole base reported ∧
        unit.MetWhole (base ++ reported.flatMap Unit.words).eraseDups := by
  constructor
  · intro h
    refine ⟨fun before next hbegin => ?_, h reported unit List.prefix_rfl⟩
    exact h before next (hbegin.trans (List.prefix_append reported [unit]))
  · rintro ⟨hreported, hunit⟩ before next hbegin
    rcases List.prefix_concat_iff.mp hbegin with hwhole | hbegin
    · obtain ⟨rfl, hlast⟩ := List.append_inj' hwhole rfl
      obtain rfl := List.singleton_inj.mp hlast
      exact hunit
    · exact hreported before next hbegin

section

variable {base : List String} {reported : List Unit}

theorem nodup_of_nodup_foldl {front back : List Unit}
    (h : ((front ++ back).foldl mergeUnit base).Nodup) : (front.foldl mergeUnit base).Nodup := by
  rw [List.foldl_append] at h
  exact h.sublist (prefix_foldl_mergeUnit back _).sublist

/-- A merge that repeats nothing is the set union. -/
theorem foldl_mergeUnit_eq_eraseDups (h : (reported.foldl mergeUnit base).Nodup) :
    reported.foldl mergeUnit base = (base ++ reported.flatMap Unit.words).eraseDups := by
  -- From the end, so that the list a unit is merged into is the outcome of what came before.
  induction reported using List.reverseRecOn with
  | nil =>
    rw [List.flatMap_nil, List.append_nil]
    exact (eraseDups_of_nodup h).symm
  | append_singleton front unit ih =>
    have hfront := ih (nodup_of_nodup_foldl h)
    rw [List.foldl_append] at h ⊢
    rw [List.foldl_cons, List.foldl_nil] at h ⊢
    rw [mergeUnit_eq_eraseDups h, hfront, eraseDups_eraseDups_append, List.flatMap_append,
      ← List.append_assoc]
    simp

/-- **A merge repeats nothing exactly if every unit is met whole.** -/
theorem nodup_foldl_mergeUnit_iff (hbase : base.Nodup) :
    (reported.foldl mergeUnit base).Nodup ↔ AllMetWhole base reported := by
  induction reported using List.reverseRecOn with
  | nil =>
    refine iff_of_true hbase fun before unit hbegin => ?_
    simp at hbegin
  | append_singleton front unit ih =>
    rw [allMetWhole_append_singleton_iff, ← ih, List.foldl_append, List.foldl_cons, List.foldl_nil,
      nodup_mergeUnit_iff]
    refine and_congr_right fun hfront => ?_
    rw [foldl_mergeUnit_eq_eraseDups hfront]

theorem foldl_mergeUnit_eq_eraseDups_iff :
    reported.foldl mergeUnit base = (base ++ reported.flatMap Unit.words).eraseDups ↔
      (reported.foldl mergeUnit base).Nodup := by
  constructor
  · intro h
    rw [h]
    exact nodup_eraseDups _
  · exact foldl_mergeUnit_eq_eraseDups

theorem allMetWhole_of_forall_words_eq (h : ∀ unit ∈ reported, ∃ word, unit.words = [word]) :
    AllMetWhole base reported := by
  intro before unit hbegin
  obtain ⟨word, hword⟩ := h unit (hbegin.subset (List.mem_append_right before List.mem_cons_self))
  exact Unit.metWhole_of_words_eq hword _

end

/-! ## Merging reports -/

theorem flatMap_words_flatMap_units (reports : List (List String)) :
    (reports.flatMap units).flatMap Unit.words = reports.flatten := by
  rw [List.flatMap_assoc, List.flatMap_congr fun flags _ => flatMap_words_units flags,
    List.flatMap_id']

/-- How the outcome of a merge compares with the set union of a base and all that is reported. -/
structure ComparesWithUnion (base : List String) (reports : List (List String))
    (merged : List String) : Prop where
  base_isPrefix : base <+: merged
  mem_of_reported : ∀ flags ∈ reports, ∀ flag ∈ flags, flag ∈ merged
  /-- The outcome is the base, followed by what is new in the order of its first report. -/
  eq_union_iff : merged = base ++ (reports.flatten.removeAll base).eraseDups ↔
    AllMetWhole base (reports.flatMap units)
  nodup_iff : merged.Nodup ↔ AllMetWhole base (reports.flatMap units)
  /-- Reports that are not spelled like an option with a value are met whole. -/
  allMetWhole_of_plain : (∀ flags ∈ reports, ∀ flag ∈ flags, takesValue flag = false) →
    AllMetWhole base (reports.flatMap units)

theorem comparesWithUnion_foldl {base : List String} (hbase : base.Nodup)
    (reports : List (List String)) :
    ComparesWithUnion base reports (reports.foldl mergeUnique base) := by
  have hunion : base ++ (reports.flatten.removeAll base).eraseDups =
      (base ++ (reports.flatMap units).flatMap Unit.words).eraseDups := by
    rw [flatMap_words_flatMap_units, eraseDups_append_of_nodup hbase]
  rw [foldl_mergeUnique]
  refine ⟨prefix_foldl_mergeUnit _ base, ?_, ?_, nodup_foldl_mergeUnit_iff hbase, ?_⟩
  · intro flags hflags flag hflag
    rw [← flatMap_words_units flags] at hflag
    obtain ⟨unit, hunit, hword⟩ := List.mem_flatMap.mp hflag
    have hreported : unit ∈ reports.flatMap units := List.mem_flatMap.mpr ⟨flags, hflags, hunit⟩
    exact (isInfix_foldl_mergeUnit hreported base).subset hword
  · rw [hunion, foldl_mergeUnit_eq_eraseDups_iff, nodup_foldl_mergeUnit_iff hbase]
  · intro hplain
    refine allMetWhole_of_forall_words_eq fun unit hunit => ?_
    obtain ⟨flags, hflags, hunit⟩ := List.mem_flatMap.mp hunit
    rw [units_of_forall (hplain flags hflags)] at hunit
    obtain ⟨flag, -, rfl⟩ := List.mem_map.mp hunit
    exact ⟨flag, rfl⟩

end Flag

/-! ## Discovery -/

namespace Discovery

/-- What the probe answers it has read in a line. -/
def Reads {ε : Type} (probe : Query → Except ε Answer) : Prop :=
  ∀ query answer, probe query = .ok answer → ∃ line, Answer.read line = answer

end Discovery

namespace FlagSet

/-- **Defines after discovery.** The old ones stay in front and every reported one is there. They
are the set union, and without repeats, exactly if every reported unit is met whole. For that it is
enough that no define is spelled like an option with a value. -/
theorem discover_merges_defines_as_set_iff {ε : Type} {flags merged : FlagSet} {profile : Profile}
    {probe : Query → Except ε Answer} (hnodup : flags.defines.Nodup)
    (h : flags.discover probe profile = .ok merged) :
    ∃ answers, flags.discovery.mapM probe = .ok answers ∧
      Flag.ComparesWithUnion flags.defines (answers.map Answer.defines) merged.defines := by
  obtain ⟨answers, hanswers, rfl⟩ := discover_eq_ok_iff.mp h
  refine ⟨answers, hanswers, ?_⟩
  rw [defines_withAnswers]
  exact Flag.comparesWithUnion_foldl hnodup _

/-- Opus reports a pair that is new and a define twice; ogg reports the pair again, and one of its
two by itself. -/
theorem discover_merges_defines_as_set_iff_of_pair :
    let flags : FlagSet :=
      { defines := ["NDEBUG"], discovery := [.ofLibrary .opus, .ofLibrary .ogg] }
    let probe : Query → Except String Answer := fun query =>
      .ok (Answer.read (if query.library = .opus then "-DOPUS -D -include -Dopus.h -DOPUS -lopus"
        else "-DNDEBUG -Dopus.h -DOGG -D -include -D opus.h -logg"))
    flags.defines.Nodup ∧
      ∃ merged, flags.discover probe .symbian = .ok merged ∧
        merged.defines = ["NDEBUG", "OPUS", "-include", "opus.h", "OGG"] ∧
        ∃ answers, flags.discovery.mapM probe = .ok answers ∧
          Flag.AllMetWhole flags.defines ((answers.map Answer.defines).flatMap Flag.units) := by
  intro flags probe
  have hnodup : flags.defines.Nodup := by decide
  have hmerged : flags.discover probe .symbian = .ok _ := rfl
  obtain ⟨answers, hanswers, hcompares⟩ := discover_merges_defines_as_set_iff hnodup hmerged
  exact ⟨hnodup, _, hmerged, by decide, answers, hanswers, hcompares.nodup_iff.mp (by decide)⟩

/-- A define that is spelled like an option brings the one behind it along, also where that one is
there already. -/
theorem discover_doubles_a_define :
    ¬ ∀ (flags merged : FlagSet) (profile : Profile) (probe : Query → Except String Answer),
      flags.defines.Nodup → Discovery.Reads probe →
        flags.discover probe profile = .ok merged → merged.defines.Nodup := by
  intro h
  let flags : FlagSet := { defines := ["A"], discovery := [.ofLibrary .ogg] }
  let probe : Query → Except String Answer := fun _ => .ok (Answer.read "-D -isystem -DA\n")
  have hread : Discovery.Reads probe := by
    intro query answer hquery
    cases hquery
    exact ⟨_, rfl⟩
  have hdistinct : FlagSet.defines _ |>.Nodup := h flags _ .symbian probe (by decide) hread rfl
  revert hdistinct
  decide

end FlagSet
end CrossFlags
