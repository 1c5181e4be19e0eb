import Mathlib.Data.List.Nodup
import CrossFlags.Proofs.Bag.Runs
import CrossFlags.Proofs.FirstOccurrence

/-!
# Layers of bags

Bags can be laid over one another, the general one below and the special one above, and then it must
not matter in which order the laying is done, only which layer is above which.
**`Bag.merge` is associative, with the empty bag on either side, and a layer that is laid twice is
laid once** (`merge_associative`). All of this is equality of bags, so it is about the order of the
names as well as about the values: a name stands where the lowest layer that has it put it, and holds
what the highest layer says.

A bag is determined by its names and its look-ups (`ext_get?`), so each law is two laws, one about
`Option.or` and one about lists without repeats. That the names of a layer do not repeat is what lets
look-up in it ignore the order in which its entries are written (`get?_reverse`).
-/

set_option autoImplicit false

namespace CrossFlags

namespace Entries

variable {entries : Entries}

/-- Where no name repeats, the value under a name is the one beside it. -/
theorem get?_eq_some_iff (h : entries.names.Nodup) {name : String} {value : RawValue} :
    entries.get? name = some value ↔ (name, value) ∈ entries := by
  induction entries with
  | nil => simp [get?_nil]
  | cons entry rest ih =>
    obtain ⟨hnot, hrest⟩ := List.nodup_cons.mp h
    rw [get?_cons, List.mem_cons]
    by_cases hname : entry.1 = name
    · subst hname
      have habsent : (entry.1, value) ∉ rest := fun hmem => hnot (List.mem_map.mpr ⟨_, hmem, rfl⟩)
      simp [habsent, Prod.ext_iff, eq_comm]
    · have hother : (name, value) ≠ entry := fun he => hname (congrArg Prod.fst he).symm
      rw [if_neg hname, ih hrest]
      simp [hother]

theorem get?_reverse (h : entries.names.Nodup) (name : String) :
    get? entries.reverse name = entries.get? name := by
  have hreverse : (names entries.reverse).Nodup := by
    rw [names, List.map_reverse]
    exact List.nodup_reverse.mpr h
  apply Option.ext
  intro value
  rw [get?_eq_some_iff hreverse, get?_eq_some_iff h, List.mem_reverse]

/-- Entries are put together from their names and their look-ups. -/
theorem eq_filterMap_names (h : entries.names.Nodup) :
    entries = entries.names.filterMap fun name => (entries.get? name).map (name, ·) := by
  rw [names, List.filterMap_map]
  calc entries = entries.filterMap some := (List.filterMap_some).symm
    _ = _ := List.filterMap_congr fun entry hentry => by
      rw [Function.comp_apply, (get?_eq_some_iff h).mpr hentry]
      rfl

end Entries

namespace Bag

/-- Bags with the same names in the same order and the same look-ups are the same. -/
theorem ext_get? {a b : Bag} (hnames : a.names = b.names)
    (hget : ∀ name, a.get? name = b.get? name) : a = b := by
  apply Bag.ext
  have hlookup : a.toList.get? = b.toList.get? := funext hget
  rw [Entries.eq_filterMap_names a.nodup, Entries.eq_filterMap_names b.nodup, hlookup]
  exact congrArg _ hnames

/-! ## One layer -/

/-- The upper layer's value where it has one. -/
theorem get?_merge (a b : Bag) (name : String) :
    (a.merge b).get? name = (b.get? name).or (a.get? name) := by
  rw [merge, get?_insertAll, Entries.get?_reverse b.nodup]
  rfl

/-- The lower layer's names where they were, and behind them those that only the upper layer has. -/
theorem names_merge (a b : Bag) :
    (a.merge b).names = a.names ++ b.names.filter fun name => name ∉ a.names := by
  rw [merge, names_insertAll, eraseDups_of_nodup (b.nodup.filter _)]
  rfl

theorem mem_names_merge {a b : Bag} {name : String} :
    name ∈ (a.merge b).names ↔ name ∈ a.names ∨ name ∈ b.names :=
  mem_names_insertAll

theorem names_merge_of_subset {a b : Bag} (h : ∀ name ∈ b.names, name ∈ a.names) :
    (a.merge b).names = a.names := by
  rw [names_merge, List.filter_eq_nil_iff.mpr, List.append_nil]
  intro name hname
  simpa using h name hname

/-! ## Several layers -/

theorem merge_assoc (a b c : Bag) : (a.merge b).merge c = a.merge (b.merge c) := by
  apply ext_get?
  · -- Of `c` both sides keep the names that neither `a` nor `b` has.
    rw [names_merge, names_merge a (b.merge c), names_merge, names_merge, List.filter_append,
      List.filter_filter, List.append_assoc]
    congr 2
    apply List.filter_congr
    intro name _
    by_cases ha : name ∈ a.names
    · simp [ha]
    · simp [ha]
  · intro name
    rw [get?_merge, get?_merge, get?_merge, get?_merge, Option.or_assoc]

theorem empty_merge (a : Bag) : empty.merge a = a := by
  apply ext_get?
  · rw [names_merge, names_empty, List.nil_append, List.filter_eq_self.mpr]
    intro name _
    simp
  · intro name
    rw [get?_merge, get?_empty, Option.or_none]

theorem merge_empty (a : Bag) : a.merge empty = a := rfl

/-- A layer that is there already changes nothing. -/
theorem merge_again (a b : Bag) : (a.merge b).merge b = a.merge b := by
  apply ext_get?
  · exact names_merge_of_subset fun name hname => mem_names_merge.mpr (.inr hname)
  · intro name
    rw [get?_merge, get?_merge, ← Option.or_assoc, Option.or_self]

/-- **Layers can be laid in any grouping**, an empty one changes nothing, neither does one that was
just laid, and what is looked up comes from the highest layer that has it. -/
theorem merge_associative (a b c : Bag) :
    (a.merge b).merge c = a.merge (b.merge c) ∧
      empty.merge a = a ∧ a.merge empty = a ∧ (a.merge b).merge b = a.merge b ∧
      ∀ name, (a.merge b).get? name = (b.get? name).or (a.get? name) :=
  ⟨merge_assoc a b c, empty_merge a, merge_empty a, merge_again a b, get?_merge a b⟩

-- The position is the lower layer's, the value the upper layer's.
example :
    ((ofList [("bits", .integer 64), ("cxx", .text "g++")]).merge
      (ofList [("colour", .text "red"), ("bits", .integer 32)])).toList =
      [("bits", .integer 32), ("cxx", .text "g++"), ("colour", .text "red")] := by
  decide

end Bag
end CrossFlags
