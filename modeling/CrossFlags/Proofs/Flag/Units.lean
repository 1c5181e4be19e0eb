import Mathlib.Data.List.Infix
import CrossFlags.Discovery

/-!
# Flag lists and their units

A merge appends flags to a list and looks for them by their entries: a single flag is present when
it stands anywhere in the list, an option with its value when the two stand side by side. What it
means to append are units. This file ties the two together: **a merge is a fold over the reported
units, and a reported unit becomes a unit of the list exactly if, at one of its reports, its entries
do not stand side by side in the list so far** (`mem_units_foldl_mergeUnit_iff`).

All of it is about lists whose last unit is complete. Behind an option that waits for its value, the
next flag would be that value.
-/

set_option autoImplicit false

namespace CrossFlags.Flag

open scoped List

/-! ## Complete units -/

/-- The unit is read as it is written, and waits for nothing. -/
def Unit.Complete : Unit → Prop
  | .single word => takesValue word = false
  | .pair word _ => takesValue word = true
  | .waiting _ => False

theorem endsWaiting_eq_false_iff {flags : List String} :
    endsWaiting flags = false ↔ ∀ unit ∈ units flags, unit.Complete := by
  unfold endsWaiting
  fun_induction units flags with
  | case1 => simp
  | case2 word =>
    by_cases hword : takesValue word = true
    · simp [hword, Unit.Complete]
    · simp [hword, Unit.Complete]
  | case3 word next rest hword ih => simpa [Unit.Complete, hword] using ih
  | case4 word next rest hword ih => simpa [Unit.Complete, hword] using ih

theorem units_append {front back : List String} (h : endsWaiting front = false) :
    units (front ++ back) = units front ++ units back := by
  rw [endsWaiting_eq_false_iff] at h
  fun_induction units front with
  | case1 => rfl
  | case2 word =>
    cases hword : takesValue word with
    | true => simp [hword, Unit.Complete] at h
    | false =>
      cases back with
      | nil => simp [units, hword]
      | cons next rest => simp [units, hword]
  | case3 word next rest hword ih =>
    rw [List.cons_append, List.cons_append, units, if_pos hword, List.cons_append,
      ih (List.forall_mem_cons.mp h).2]
  | case4 word next rest hword ih =>
    have hrest := ih (List.forall_mem_cons.mp h).2
    rw [List.cons_append, List.cons_append, units, if_neg hword, List.cons_append, ← hrest,
      List.cons_append]

theorem endsWaiting_append {front back : List String} (hfront : endsWaiting front = false)
    (hback : endsWaiting back = false) : endsWaiting (front ++ back) = false := by
  rw [endsWaiting_eq_false_iff] at hback ⊢
  rw [units_append hfront]
  intro unit hunit
  rcases List.mem_append.mp hunit with hunit | hunit
  · exact endsWaiting_eq_false_iff.mp hfront unit hunit
  · exact hback unit hunit

theorem endsWaiting_flatMap {α : Type} {parts : List α} {flags : α → List String}
    (h : ∀ part ∈ parts, endsWaiting (flags part) = false) :
    endsWaiting (parts.flatMap flags) = false := by
  induction parts with
  | nil => rfl
  | cons part rest ih =>
    obtain ⟨hpart, hrest⟩ := List.forall_mem_cons.mp h
    exact endsWaiting_append hpart (ih hrest)

theorem endsWaiting_singleton (word : String) : endsWaiting [word] = takesValue word := by
  unfold endsWaiting units
  cases takesValue word <;> rfl

theorem endsWaiting_pair {word : String} (h : takesValue word = true) (value : String) :
    endsWaiting [word, value] = false := by
  simp [endsWaiting, units, h]

theorem endsWaiting_of_forall {flags : List String}
    (h : ∀ word ∈ flags, takesValue word = false) : endsWaiting flags = false := by
  have hparts : flags.flatMap (fun word => [word]) = flags := by simp
  rw [← hparts]
  refine endsWaiting_flatMap fun word hword => ?_
  rw [endsWaiting_singleton]
  exact h word hword

/-- Flags that take no value are units by themselves. -/
theorem units_of_forall {flags : List String} (h : ∀ flag ∈ flags, takesValue flag = false) :
    units flags = flags.map Unit.single := by
  fun_induction units flags with
  | case1 => rfl
  | case2 word => simp_all
  | case3 word next rest hword => simp_all
  | case4 word next rest hword ih =>
    rw [ih (List.forall_mem_cons.mp h).2]
    rfl

theorem Unit.Complete.units_words {unit : Unit} (h : unit.Complete) :
    units unit.words = [unit] := by
  cases unit with
  | single word => simp_all [Unit.Complete, Unit.words, units]
  | pair word value => simp_all [Unit.Complete, Unit.words, units]
  | waiting word => exact h.elim

theorem Unit.Complete.endsWaiting_words {unit : Unit} (h : unit.Complete) :
    endsWaiting unit.words = false := by
  rw [endsWaiting_eq_false_iff, h.units_words]
  intro other hother
  rw [List.mem_singleton.mp hother]
  exact h

/-! ## Entries that stand side by side -/

/-- The first entry of a unit. -/
def Unit.front : Unit → String
  | .single word => word
  | .pair word _ => word
  | .waiting word => word

theorem Unit.words_ne_nil (unit : Unit) : unit.words ≠ [] := by
  cases unit <;> exact List.cons_ne_nil _ _

theorem Unit.front_eq_of_isPrefix {unit : Unit} {first : String} {rest : List String}
    (h : unit.words <+: first :: rest) : first = unit.front := by
  cases unit with
  | single word => exact (List.cons_prefix_cons.mp h).1.symm
  | pair word value => exact (List.cons_prefix_cons.mp h).1.symm
  | waiting word => exact (List.cons_prefix_cons.mp h).1.symm

theorem Unit.Complete.mem_units_of_isPrefix {unit : Unit} {flags : List String}
    (hunit : unit.Complete) (h : unit.words <+: flags) : unit ∈ units flags := by
  obtain ⟨rest, rfl⟩ := h
  rw [units_append hunit.endsWaiting_words, hunit.units_words]
  exact List.mem_cons_self

/-- Entries that stand side by side are a unit of the list, unless the first of them is the value of
an option there. -/
theorem mem_units_of_isInfix {unit : Unit} {flags : List String} (hunit : unit.Complete)
    (hfree : ∀ option value, Unit.pair option value ∈ units flags → value ≠ unit.front)
    (h : unit.words <:+: flags) : unit ∈ units flags := by
  fun_induction units flags with
  | case1 => exact absurd (List.infix_nil.mp h) unit.words_ne_nil
  | case2 word =>
    rcases List.infix_cons_iff.mp h with hprefix | hinfix
    · exact hunit.mem_units_of_isPrefix hprefix
    · exact absurd (List.infix_nil.mp hinfix) unit.words_ne_nil
  | case3 option value rest hoption ih =>
    rcases List.infix_cons_iff.mp h with hprefix | hinfix
    · have hmem := hunit.mem_units_of_isPrefix hprefix
      rwa [units, if_pos hoption] at hmem
    · rcases List.infix_cons_iff.mp hinfix with hprefix | hinfix
      · exact absurd (Unit.front_eq_of_isPrefix hprefix) (hfree option value List.mem_cons_self)
      · refine List.mem_cons_of_mem _ (ih (fun option value hpair => ?_) hinfix)
        exact hfree option value (List.mem_cons_of_mem _ hpair)
  | case4 first next rest hfirst ih =>
    rcases List.infix_cons_iff.mp h with hprefix | hinfix
    · have hmem := hunit.mem_units_of_isPrefix hprefix
      rwa [units, if_neg hfirst] at hmem
    · refine List.mem_cons_of_mem _ (ih (fun option value hpair => ?_) hinfix)
      exact hfree option value (List.mem_cons_of_mem _ hpair)

/-! ## Merging unit by unit -/

theorem adjacent_iff {word value : String} {flags : List String} :
    adjacent word value flags = true ↔ [word, value] <:+: flags := by
  fun_induction adjacent word value flags with
  | case1 => simp
  | case2 => simp [List.infix_cons_iff, List.cons_prefix_cons]
  | case3 first second rest ih =>
    rw [List.infix_cons_iff, ← ih, List.cons_prefix_cons, List.cons_prefix_cons]
    simp [eq_comm (a := word), eq_comm (a := value)]

/-- The entries of the unit stand side by side in the list. -/
def Unit.present (flags : List String) : Unit → Bool
  | .single word => flags.contains word
  | .pair word value => adjacent word value flags
  | .waiting word => flags.contains word

theorem contains_iff_isInfix {word : String} {flags : List String} :
    flags.contains word = true ↔ [word] <:+: flags := by
  rw [List.contains_iff_mem, List.singleton_infix_iff]

theorem Unit.present_iff {flags : List String} {unit : Unit} :
    unit.present flags = true ↔ unit.words <:+: flags := by
  cases unit with
  | single word => exact contains_iff_isInfix
  | pair word value => exact adjacent_iff
  | waiting word => exact contains_iff_isInfix

/-- One unit merged. -/
def mergeUnit (flags : List String) (unit : Unit) : List String :=
  if unit.present flags then flags else flags ++ unit.words

theorem mergeUnique_eq_foldl (target flags : List String) :
    mergeUnique target flags = (units flags).foldl mergeUnit target := by
  fun_induction mergeUnique target flags with
  | case1 => rfl
  | case2 target word h =>
    unfold units
    split
    · exact (if_pos h).symm
    · exact (if_pos h).symm
  | case3 target word h =>
    unfold units
    split
    · exact (if_neg h).symm
    · exact (if_neg h).symm
  | case4 target word next rest hword ih =>
    rw [units, if_pos hword, List.foldl_cons, ih]
    rfl
  | case5 target word next rest hword ih =>
    rw [units, if_neg hword, List.foldl_cons, ih]
    rfl

theorem foldl_mergeUnique (reports : List (List String)) (base : List String) :
    reports.foldl mergeUnique base = (reports.flatMap units).foldl mergeUnit base := by
  induction reports generalizing base with
  | nil => rfl
  | cons flags rest ih =>
    rw [List.foldl_cons, List.flatMap_cons, List.foldl_append, ih, mergeUnique_eq_foldl]

/-! ### What a merge leaves in the list

Lists only grow at the end, so entries that stand side by side once stand so for good, whether or
not they are a unit there. -/

theorem prefix_foldl_mergeUnit (reported : List Unit) (base : List String) :
    base <+: reported.foldl mergeUnit base := by
  induction reported generalizing base with
  | nil => exact List.prefix_rfl
  | cons unit rest ih =>
    have hstep : base <+: mergeUnit base unit := by
      unfold mergeUnit
      split
      · exact List.prefix_rfl
      · exact List.prefix_append base unit.words
    rw [List.foldl_cons]
    exact hstep.trans (ih (mergeUnit base unit))

theorem Unit.isInfix_mergeUnit (unit : Unit) (base : List String) :
    unit.words <:+: mergeUnit base unit := by
  unfold mergeUnit
  split
  · rename_i hpresent
    exact Unit.present_iff.mp hpresent
  · exact (List.suffix_append base unit.words).isInfix

theorem isInfix_foldl_mergeUnit {reported : List Unit} {unit : Unit} (h : unit ∈ reported)
    (base : List String) : unit.words <:+: reported.foldl mergeUnit base := by
  obtain ⟨before, after, rfl⟩ := List.append_of_mem h
  rw [List.foldl_append, List.foldl_cons]
  -- What is merged after `unit` goes behind it and takes nothing apart.
  have hlater := prefix_foldl_mergeUnit after (mergeUnit (before.foldl mergeUnit base) unit)
  exact (unit.isInfix_mergeUnit _).trans hlater.isInfix

/-- A merge changes nothing exactly if all that is reported stands in the list already. -/
theorem foldl_mergeUnit_eq_self_iff {reported : List Unit} {base : List String} :
    reported.foldl mergeUnit base = base ↔ ∀ unit ∈ reported, unit.words <:+: base := by
  constructor
  · intro h unit hunit
    rw [← h]
    exact isInfix_foldl_mergeUnit hunit base
  · intro h
    induction reported with
    | nil => rfl
    | cons unit rest ih =>
      obtain ⟨hunit, hrest⟩ := List.forall_mem_cons.mp h
      have hstep : mergeUnit base unit = base := if_pos (Unit.present_iff.mpr hunit)
      rw [List.foldl_cons, hstep]
      exact ih hrest

/-! ### What a merge does to the units -/

section

variable {base : List String} {reported : List Unit} {unit : Unit}

theorem endsWaiting_mergeUnit (hbase : endsWaiting base = false) (hunit : unit.Complete) :
    endsWaiting (mergeUnit base unit) = false := by
  unfold mergeUnit
  split
  · exact hbase
  · exact endsWaiting_append hbase hunit.endsWaiting_words

theorem units_mergeUnit (hbase : endsWaiting base = false) (hunit : unit.Complete) :
    units (mergeUnit base unit) =
      if unit.present base then units base else units base ++ [unit] := by
  unfold mergeUnit
  split
  · rfl
  · rw [units_append hbase, hunit.units_words]

/-- **The units of a merged list** are those of the base and those that were reported at a moment
when their entries did not stand side by side. -/
theorem mem_units_foldl_mergeUnit_iff (hbase : endsWaiting base = false)
    (hreported : ∀ unit ∈ reported, unit.Complete) :
    unit ∈ units (reported.foldl mergeUnit base) ↔
      unit ∈ units base ∨ ∃ before after, reported = before ++ unit :: after ∧
        ¬ unit.words <:+: before.foldl mergeUnit base := by
  induction reported generalizing base with
  | nil => simp
  | cons next rest ih =>
    obtain ⟨hnext, hrest⟩ := List.forall_mem_cons.mp hreported
    have hone : unit ∈ units (mergeUnit base next) ↔
        unit ∈ units base ∨ unit = next ∧ ¬ unit.words <:+: base := by
      rw [units_mergeUnit hbase hnext, ← Unit.present_iff]
      split
      · rename_i hpresent
        constructor
        · intro h
          exact Or.inl h
        · rintro (h | ⟨rfl, hnot⟩)
          · exact h
          · exact absurd hpresent hnot
      · rename_i hpresent
        rw [List.mem_append, List.mem_singleton]
        constructor
        · rintro (h | rfl)
          · exact Or.inl h
          · exact Or.inr ⟨rfl, hpresent⟩
        · rintro (h | ⟨h, -⟩)
          · exact Or.inl h
          · exact Or.inr h
    rw [List.foldl_cons, ih (endsWaiting_mergeUnit hbase hnext) hrest, hone, or_assoc]
    refine or_congr_right ?_
    constructor
    · rintro (⟨rfl, hnot⟩ | ⟨before, after, rfl, hnot⟩)
      · exact ⟨[], rest, rfl, hnot⟩
      · exact ⟨next :: before, after, rfl, hnot⟩
    · rintro ⟨before, after, hsplit, hnot⟩
      cases before with
      | nil =>
        obtain ⟨rfl, -⟩ := List.cons.inj hsplit
        exact Or.inl ⟨rfl, hnot⟩
      | cons first before =>
        obtain ⟨rfl, rfl⟩ := List.cons.inj hsplit
        exact Or.inr ⟨before, after, rfl, hnot⟩

/-- A reported unit becomes a unit of the merged list if no option anywhere has its first entry as
a value. -/
theorem mem_units_foldl_mergeUnit_of_free (hbase : endsWaiting base = false)
    (hreported : ∀ unit ∈ reported, unit.Complete) (hmem : unit ∈ reported)
    (hfree : ∀ option value, Unit.pair option value ∈ units base ++ reported →
      value ≠ unit.front) :
    unit ∈ units (reported.foldl mergeUnit base) := by
  obtain ⟨before, after, rfl⟩ := List.append_of_mem hmem
  have hbefore : ∀ unit ∈ before, unit.Complete := fun unit h =>
    hreported unit (List.mem_append_left _ h)
  rw [mem_units_foldl_mergeUnit_iff hbase hreported]
  by_cases hpresent : unit.words <:+: before.foldl mergeUnit base
  · have hunit : unit ∈ units (before.foldl mergeUnit base) := by
      refine mem_units_of_isInfix (hreported unit hmem) (fun option value hpair => ?_) hpresent
      refine hfree option value (List.mem_append.mpr ?_)
      rcases (mem_units_foldl_mergeUnit_iff hbase hbefore).mp hpair with h | ⟨_, _, rfl, -⟩
      · exact Or.inl h
      · exact Or.inr (by simp)
    rcases (mem_units_foldl_mergeUnit_iff hbase hbefore).mp hunit with h | ⟨first, rest, rfl, hnot⟩
    · exact Or.inl h
    · exact Or.inr ⟨first, rest ++ unit :: after, by simp, hnot⟩
  · exact Or.inr ⟨before, after, rfl, hpresent⟩

end

end CrossFlags.Flag
