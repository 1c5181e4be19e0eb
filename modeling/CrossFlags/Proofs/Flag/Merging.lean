import CrossFlags.Proofs.Flag.Units

/-!
# What a merge adds to a flag list

`mergeUnique` works on entries and never looks at units, except to take the value of an option along
with it. Its effect is on units all the same: **a merged list reads as the units it had, followed by
some of the reported ones, each of them new and none of them twice** (`mergeUnique_appends`).

The one thing to look at is alignment. A value may be spelled like an option, so the flat list has
readings besides the one from the left: after `-Xlinker -isystem` a bare `-O2` stands behind an
`-isystem` that it does not belong to. Appending never changes the reading of what is there, because
nothing in front is left waiting (`units_append`). The presence test does go wrong on such
neighbours, but in one direction only. What is a unit stands side by side, so a unit is never taken
for new when it is there; what stands side by side need not be a unit, so a unit can be taken for
present when it is not, and is then left out.
-/

set_option autoImplicit false

namespace CrossFlags.Flag

open scoped List

/-! ## Units and their entries -/

theorem units_flatMap_words {us : List Unit} (h : ∀ unit ∈ us, unit.Complete) :
    units (us.flatMap Unit.words) = us := by
  induction us with
  | nil => rfl
  | cons unit rest ih =>
    obtain ⟨hunit, hrest⟩ := List.forall_mem_cons.mp h
    rw [List.flatMap_cons, units_append hunit.endsWaiting_words, hunit.units_words, ih hrest,
      List.singleton_append]

theorem isInfix_of_mem_units {unit : Unit} {flags : List String} (h : unit ∈ units flags) :
    unit.words <:+: flags := by
  obtain ⟨before, after, hsplit⟩ := List.append_of_mem h
  have hflags := flatMap_words_units flags
  rw [hsplit, List.flatMap_append, List.flatMap_cons, ← List.append_assoc] at hflags
  exact ⟨_, _, hflags⟩

/-! ## The units that are added -/

/-- Of the reported units those that are not present when their turn comes. -/
def added (base : List String) : List Unit → List Unit
  | [] => []
  | unit :: rest =>
    if unit.present base then added base rest else unit :: added (base ++ unit.words) rest

section

variable {base : List String} {reported : List Unit} {unit : Unit}

theorem foldl_mergeUnit_eq_append (base : List String) (reported : List Unit) :
    reported.foldl mergeUnit base = base ++ (added base reported).flatMap Unit.words := by
  induction reported generalizing base with
  | nil => simp [added]
  | cons unit rest ih =>
    by_cases hpresent : unit.present base = true
    · simp [added, mergeUnit, hpresent, ih]
    · simp [added, mergeUnit, hpresent, ih]

theorem added_sublist (base : List String) (reported : List Unit) :
    added base reported <+ reported := by
  induction reported generalizing base with
  | nil => exact List.Sublist.refl []
  | cons unit rest ih =>
    rw [added]
    split
    · exact (ih base).cons unit
    · exact (ih (base ++ unit.words)).cons_cons unit

theorem not_isInfix_of_mem_added (h : unit ∈ added base reported) : ¬ unit.words <:+: base := by
  induction reported generalizing base with
  | nil => simp [added] at h
  | cons next rest ih =>
    by_cases hpresent : next.present base = true
    · rw [added, if_pos hpresent] at h
      exact ih h
    · rw [added, if_neg hpresent] at h
      rcases List.mem_cons.mp h with rfl | h
      · rwa [Unit.present_iff] at hpresent
      · -- What is new to the longer list is new to the shorter one.
        intro hold
        exact ih h (hold.trans (List.prefix_append base next.words).isInfix)

theorem nodup_added (base : List String) (reported : List Unit) : (added base reported).Nodup := by
  induction reported generalizing base with
  | nil => exact List.nodup_nil
  | cons unit rest ih =>
    rw [added]
    split
    · exact ih base
    · -- From here on the list ends in `unit`, so it is not new a second time.
      refine List.nodup_cons.mpr ⟨?_, ih _⟩
      intro hagain
      exact not_isInfix_of_mem_added hagain (List.suffix_append base unit.words).isInfix

/-- **The units after a merge** are those before it and those that are added. -/
theorem units_foldl_mergeUnit (hbase : endsWaiting base = false)
    (hreported : ∀ unit ∈ reported, unit.Complete) :
    units (reported.foldl mergeUnit base) = units base ++ added base reported := by
  have hadded : ∀ unit ∈ added base reported, unit.Complete := fun unit hunit =>
    hreported unit ((added_sublist base reported).mem hunit)
  rw [foldl_mergeUnit_eq_append, units_append hbase, units_flatMap_words hadded]

end

/-! ## Merging a report -/

/-- **A merge takes no unit apart and adds none twice.** What is there stays; behind it come reported
units in the order of the report, all different and all new. What the report has besides is in the
list already, side by side. -/
theorem mergeUnique_appends {target items : List String} (htarget : endsWaiting target = false)
    (hitems : endsWaiting items = false) :
    ∃ fresh, units (mergeUnique target items) = units target ++ fresh ∧
      fresh <+ units items ∧ fresh.Nodup ∧ (∀ unit ∈ fresh, unit ∉ units target) ∧
      ∀ unit ∈ units items, unit.words <:+: mergeUnique target items := by
  rw [mergeUnique_eq_foldl]
  refine ⟨added target (units items), ?_, ?_, ?_, ?_, ?_⟩
  · exact units_foldl_mergeUnit htarget (endsWaiting_eq_false_iff.mp hitems)
  · exact added_sublist target (units items)
  · exact nodup_added target (units items)
  · intro unit hnew hold
    exact not_isInfix_of_mem_added hnew (isInfix_of_mem_units hold)
  · intro unit hunit
    exact isInfix_foldl_mergeUnit hunit target

/-- The target has `-isystem` for a value and a plain flag behind it. The report has the same two as
option and value, which are taken for present; a pair twice, which is added once; and an option that
is its own value. -/
theorem mergeUnique_appends_behind_misaligned_flags :
    let target := ["-Xlinker", "-isystem", "-O2", "-L/opt"]
    let items := ["-isystem", "-O2", "-Xlinker", "-L/opt", "-Xlinker", "-L/opt", "-isystem",
      "-isystem", "-O2"]
    endsWaiting target = false ∧ endsWaiting items = false ∧
      units target = [.pair "-Xlinker" "-isystem", .single "-O2", .single "-L/opt"] ∧
      units (mergeUnique target items) =
        units target ++ [.pair "-Xlinker" "-L/opt", .pair "-isystem" "-isystem"] ∧
      ∃ fresh, units (mergeUnique target items) = units target ++ fresh ∧
        fresh <+ units items ∧ fresh.Nodup ∧ (∀ unit ∈ fresh, unit ∉ units target) ∧
        ∀ unit ∈ units items, unit.words <:+: mergeUnique target items := by
  intro target items
  have htarget : endsWaiting target = false := by decide
  have hitems : endsWaiting items = false := by decide
  exact ⟨htarget, hitems, by decide, by decide, mergeUnique_appends htarget hitems⟩

end CrossFlags.Flag
