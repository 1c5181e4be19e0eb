import CrossFlags.Bag

/-!
# Runs of writes to a bag

`Bag.insertAll` writes pairs one after the other, and a whole bag, a layer or a file comes about
that way. Seen through `get?` a run is simple: a name holds what was last written to it, and what it
held before where the run does not mention it.
-/

set_option autoImplicit false

namespace CrossFlags

namespace Entries

theorem get?_nil (name : String) : get? [] name = none := rfl

theorem get?_cons (entry : String × RawValue) (rest : Entries) (name : String) :
    get? (entry :: rest) name = if entry.1 = name then some entry.2 else get? rest name := by
  unfold get?
  by_cases h : entry.1 = name
  · rw [List.find?_cons_of_pos (by simpa using h), if_pos h]
    rfl
  · rw [List.find?_cons_of_neg (by simpa using h), if_neg h]

theorem get?_append (first second : Entries) (name : String) :
    get? (first ++ second) name = (get? first name).or (get? second name) := by
  induction first with
  | nil => rfl
  | cons entry rest ih =>
    rw [List.cons_append, get?_cons, get?_cons, ih]
    split <;> rfl

/-- Entries that things make, each under a name of its own, are found by their names. -/
theorem get?_filterMap {α : Type} [DecidableEq α] {name : α → String}
    (hname : ∀ a b, name a = name b → a = b) (value? : α → Option RawValue) (as : List α) (a : α) :
    get? (as.filterMap fun b => (value? b).map (name b, ·)) (name a) =
      if a ∈ as then value? a else none := by
  induction as with
  | nil => rfl
  | cons b rest ih =>
    by_cases hab : a = b
    · subst hab
      rw [if_pos List.mem_cons_self]
      cases hvalue : value? a with
      | none => rw [List.filterMap_cons_none (by rw [hvalue]; rfl), ih, hvalue, ite_self]
      | some value =>
        rw [List.filterMap_cons_some (by rw [hvalue]; rfl), get?_cons, if_pos rfl]
    · simp only [List.mem_cons, hab, false_or]
      rw [← ih]
      cases hvalue : value? b with
      | none => rw [List.filterMap_cons_none (by rw [hvalue]; rfl)]
      | some value =>
        rw [List.filterMap_cons_some (by rw [hvalue]; rfl), get?_cons,
          if_neg fun h => hab (hname b a h).symm]

theorem names_filterMap {α : Type} (name : α → String) (value? : α → Option RawValue)
    (as : List α) :
    names (as.filterMap fun b => (value? b).map (name b, ·)) =
      (as.filter fun b => (value? b).isSome).map name := by
  induction as with
  | nil => rfl
  | cons b rest ih =>
    cases hvalue : value? b with
    | none =>
      rw [List.filterMap_cons_none (by rw [hvalue]; rfl), List.filter_cons_of_neg (by simp [hvalue]),
        ih]
    | some value =>
      rw [List.filterMap_cons_some (by rw [hvalue]; rfl), List.filter_cons_of_pos (by simp [hvalue]),
        List.map_cons, ← ih]
      rfl

end Entries

namespace Bag

theorem insertAll_cons (bag : Bag) (entry : String × RawValue) (rest : Entries) :
    bag.insertAll (entry :: rest) = (bag.insert entry.1 entry.2).insertAll rest := rfl

/-- After a run a name holds its last write, or what it held before the run. -/
theorem get?_insertAll (bag : Bag) (entries : Entries) (name : String) :
    (bag.insertAll entries).get? name = (Entries.get? entries.reverse name).or (bag.get? name) := by
  induction entries generalizing bag with
  | nil => rfl
  | cons entry rest ih =>
    rw [insertAll_cons, ih, get?_insert, List.reverse_cons, Entries.get?_append, Option.or_assoc,
      Entries.get?_cons, Entries.get?_nil]
    by_cases h : name = entry.1
    · rw [if_pos h, if_pos h.symm]
      rfl
    · rw [if_neg h, if_neg (Ne.symm h)]
      rfl

theorem get?_ofList (entries : Entries) (name : String) :
    (ofList entries).get? name = Entries.get? entries.reverse name := by
  rw [ofList, get?_insertAll, get?_empty, Option.or_none]

/-- A run leaves the names that are there where they are, and adds those it mentions besides behind
them, each where it is first mentioned. -/
theorem names_insertAll (bag : Bag) (entries : Entries) :
    (bag.insertAll entries).names =
      bag.names ++ (entries.names.filter fun name => name ∉ bag.names).eraseDups := by
  induction entries generalizing bag with
  | nil => simp [insertAll, Entries.names]
  | cons entry rest ih =>
    have hnames : Entries.names (entry :: rest) = entry.1 :: Entries.names rest := rfl
    rw [insertAll_cons, ih, names_insert, hnames]
    by_cases h : entry.1 ∈ bag.names
    · rw [if_pos h, List.filter_cons_of_neg (by simpa using h)]
    · -- Behind the new name the rest is filtered twice: for what was there, and for the name.
      rw [if_neg h, List.filter_cons_of_pos (by simpa using h), List.eraseDups_cons,
        List.filter_filter, List.append_assoc, List.singleton_append]
      congr 3
      apply List.filter_congr
      intro name _
      simp [Bool.beq_eq_decide_eq, and_comm]

/-- A run adds the names it mentions and no others. -/
theorem mem_names_insertAll {bag : Bag} {entries : Entries} {name : String} :
    name ∈ (bag.insertAll entries).names ↔ name ∈ bag.names ∨ name ∈ entries.names := by
  rw [names_insertAll, List.mem_append, List.mem_eraseDups, List.mem_filter]
  by_cases h : name ∈ bag.names
  · simp [h]
  · simp [h]

theorem mem_names_ofList {entries : Entries} {name : String} :
    name ∈ (ofList entries).names ↔ name ∈ entries.names := by
  rw [ofList, mem_names_insertAll, names_empty]
  simp

end Bag
end CrossFlags
