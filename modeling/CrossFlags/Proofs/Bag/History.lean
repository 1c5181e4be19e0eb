import Mathlib.Data.Set.Card
import CrossFlags.Proofs.Environment.Layering

/-!
# A bag and its history

A bag comes about by changes of four kinds: an option is supplied or taken back, another bag is laid
over it, or the environment is. What a bag holds after any number of them is said without running
them (`run_keeps_history`), by its history: a change is a list of *edits*, each of which writes one
name or removes one, and the history is all edits in a row.

* A name holds what it was last written with, unless it was removed after that.
* The names that stand in the bag are those with a first write since their last removal, and they
  stand in the order of these first writes. Writing to a name that is there does not move it;
  removing it and writing it again does.

So the place of a name and its value are decided by two different edits, which is why there are two
relations to the history, `Edit.LastAt` and `Edit.FirstAt`. What one more edit does to either is said
before bags are mentioned at all, and the run is then an induction from the back.
-/

set_option autoImplicit false

namespace CrossFlags

/-- One name written, or removed. -/
inductive Edit where
  | write (name : String) (value : RawValue)
  | remove (name : String)

namespace Edit

/-- The name it is about. -/
def name : Edit → String
  | .write name _ => name
  | .remove name => name

/-- An entry, written. -/
def ofEntry (entry : String × RawValue) : Edit := .write entry.1 entry.2

/-- The `n`th edit writes this value, and it is the last edit of the name. -/
structure LastAt (history : List Edit) (name : String) (value : RawValue) (n : Nat) : Prop where
  written : history[n]? = some (.write name value)
  final : ∀ m > n, ∀ edit, history[m]? = some edit → edit.name ≠ name

/-- The `n`th edit is the first that writes the name since the name was last removed. -/
structure FirstAt (history : List Edit) (name : String) (n : Nat) : Prop where
  written : ∃ value, history[n]? = some (.write name value)
  stays : ∀ m > n, history[m]? ≠ some (.remove name)
  fresh : ∀ m < n, ∀ value, history[m]? = some (.write name value) →
    ∃ k, m < k ∧ k < n ∧ history[k]? = some (.remove name)

/-- Both histories have the same edits of the name, at the same places. -/
def SameAt (name : String) (history history' : List Edit) : Prop :=
  ∀ (n : Nat) (edit : Edit), edit.name = name → (history[n]? = some edit ↔ history'[n]? = some edit)

variable {history history' : List Edit} {edit other : Edit} {name : String} {value : RawValue}
  {m n : Nat}

/-! ## One more edit -/

theorem lt_length_of_getElem? (h : history[n]? = some edit) : n < history.length :=
  (List.getElem?_eq_some_iff.mp h).1

theorem getElem?_append_eq_some_iff :
    (history ++ [edit])[n]? = some other ↔
      history[n]? = some other ∨ n = history.length ∧ edit = other := by
  rcases lt_trichotomy n history.length with hlt | rfl | hgt
  · rw [List.getElem?_append_left hlt]
    simp [hlt.ne]
  · rw [List.getElem?_concat_length]
    simp
  · have hnone : ∀ edits : List Edit, edits.length ≤ history.length + 1 → edits[n]? = none :=
      fun edits hedits => List.getElem?_eq_none (by omega)
    rw [hnone _ (by simp), hnone _ (by simp)]
    simp [hgt.ne']

theorem getElem?_append_ne_some (h : history.length < n) : (history ++ [edit])[n]? ≠ some other := by
  intro hother
  rcases getElem?_append_eq_some_iff.mp hother with hother | ⟨rfl, -⟩
  · exact absurd h (lt_length_of_getElem? hother).not_gt
  · exact absurd h (lt_irrefl _)

theorem SameAt.symm (h : SameAt name history history') : SameAt name history' history :=
  fun n edit hedit => (h n edit hedit).symm

theorem sameAt_append (h : edit.name ≠ name) : SameAt name (history ++ [edit]) history := by
  intro n other hother
  rw [getElem?_append_eq_some_iff, or_iff_left]
  rintro ⟨-, rfl⟩
  exact h hother

/-! ### The last edit of a name -/

theorem LastAt.of_sameAt (hlast : LastAt history name value n) (h : SameAt name history history') :
    LastAt history' name value n where
  written := (h n _ rfl).mp hlast.written
  final m hm edit hedit hname := hlast.final m hm edit ((h m edit hname).mpr hedit) hname

theorem lastAt_append_of_ne (h : edit.name ≠ name) :
    LastAt (history ++ [edit]) name value n ↔ LastAt history name value n :=
  ⟨fun hlast => hlast.of_sameAt (sameAt_append h),
    fun hlast => hlast.of_sameAt (sameAt_append h).symm⟩

/-- An edit behind all others is the last of its name. -/
theorem lastAt_append_of_eq (h : edit.name = name) :
    LastAt (history ++ [edit]) name value n ↔ n = history.length ∧ edit = .write name value := by
  constructor
  · rintro ⟨hwritten, hfinal⟩
    rcases getElem?_append_eq_some_iff.mp hwritten with hwritten | hwritten
    · exact absurd h (hfinal _ (lt_length_of_getElem? hwritten) edit List.getElem?_concat_length)
    · exact hwritten
  · rintro ⟨rfl, rfl⟩
    refine ⟨List.getElem?_concat_length, ?_⟩
    intro m hm other hother
    exact absurd hother (getElem?_append_ne_some hm)

/-! ### The first write of a name -/

theorem FirstAt.lt_length (h : FirstAt history name n) : n < history.length := by
  obtain ⟨value, hwritten⟩ := h.written
  exact lt_length_of_getElem? hwritten

theorem FirstAt.le (hm : FirstAt history name m) (hn : FirstAt history name n) : n ≤ m := by
  obtain ⟨value, hwritten⟩ := hm.written
  by_contra hlt
  obtain ⟨k, hmk, -, hremoved⟩ := hn.fresh m (not_le.mp hlt) value hwritten
  exact hm.stays k hmk hremoved

theorem FirstAt.unique (hm : FirstAt history name m) (hn : FirstAt history name n) : m = n :=
  le_antisymm (hn.le hm) (hm.le hn)

theorem FirstAt.of_sameAt (hfirst : FirstAt history name n) (h : SameAt name history history') :
    FirstAt history' name n where
  written := hfirst.written.imp fun _ hwritten => (h n _ rfl).mp hwritten
  stays m hm hremoved := hfirst.stays m hm ((h m _ rfl).mpr hremoved)
  fresh m hm value hwritten := by
    obtain ⟨k, hmk, hkn, hremoved⟩ := hfirst.fresh m hm value ((h m _ rfl).mpr hwritten)
    exact ⟨k, hmk, hkn, (h k _ rfl).mp hremoved⟩

theorem firstAt_append_of_ne (h : edit.name ≠ name) :
    FirstAt (history ++ [edit]) name n ↔ FirstAt history name n :=
  ⟨fun hfirst => hfirst.of_sameAt (sameAt_append h),
    fun hfirst => hfirst.of_sameAt (sameAt_append h).symm⟩

theorem not_firstAt_append_remove : ¬ FirstAt (history ++ [.remove name]) name n := by
  rintro ⟨⟨value, hwritten⟩, hstays, -⟩
  rcases getElem?_append_eq_some_iff.mp hwritten with hwritten | ⟨-, hwritten⟩
  · exact hstays _ (lt_length_of_getElem? hwritten) List.getElem?_concat_length
  · cases hwritten

/-- A name that is written and stays was written a first time. -/
theorem exists_firstAt (hwritten : history[n]? = some (.write name value))
    (hstays : ∀ m > n, history[m]? ≠ some (.remove name)) : ∃ m, FirstAt history name m := by
  induction n using Nat.strong_induction_on generalizing value with
  | _ n ih =>
    by_cases hearlier : ∃ m < n, (∃ value, history[m]? = some (.write name value)) ∧
        ∀ k > m, history[k]? ≠ some (.remove name)
    · obtain ⟨m, hm, ⟨value, hwritten⟩, hstays⟩ := hearlier
      exact ih m hm hwritten hstays
    · refine ⟨n, ⟨value, hwritten⟩, hstays, ?_⟩
      intro m hm value' hwritten'
      push Not at hearlier
      obtain ⟨k, hk, hremoved⟩ := hearlier m hm ⟨value', hwritten'⟩
      -- That removal is in front of the `n`th edit: it is not the edit, and not behind it.
      refine ⟨k, hk, ?_, hremoved⟩
      by_contra hle
      rcases eq_or_lt_of_le (not_lt.mp hle) with rfl | hlt
      · rw [hwritten] at hremoved
        cases hremoved
      · exact hstays k hlt hremoved

/-- Writing to a name that is there is not a first write. -/
theorem FirstAt.append_write (h : FirstAt history name n) (value : RawValue) :
    FirstAt (history ++ [.write name value]) name n where
  written := h.written.imp fun _ hwritten => getElem?_append_eq_some_iff.mpr (.inl hwritten)
  stays m hm hremoved := by
    rcases getElem?_append_eq_some_iff.mp hremoved with hremoved | ⟨-, hremoved⟩
    · exact h.stays m hm hremoved
    · cases hremoved
  fresh m hm other hother := by
    have hlt : m < history.length := hm.trans h.lt_length
    rw [List.getElem?_append_left hlt] at hother
    obtain ⟨k, hmk, hkn, hremoved⟩ := h.fresh m hm other hother
    exact ⟨k, hmk, hkn, getElem?_append_eq_some_iff.mpr (.inl hremoved)⟩

/-- Writing to a name that is not there is. -/
theorem firstAt_append_write_of_forall_not (h : ∀ m, ¬ FirstAt history name m) (value : RawValue) :
    FirstAt (history ++ [.write name value]) name history.length where
  written := ⟨value, List.getElem?_concat_length⟩
  stays _ hm := getElem?_append_ne_some hm
  fresh m hm other hother := by
    rw [List.getElem?_append_left hm] at hother
    -- A write that nothing took back would have made the name one that is there.
    by_contra hkept
    push Not at hkept
    obtain ⟨k, hk⟩ := exists_firstAt hother fun k hmk hremoved =>
      hkept k hmk (lt_length_of_getElem? hremoved) (getElem?_append_eq_some_iff.mpr (.inl hremoved))
    exact h k hk

end Edit

namespace Bag

/-- What an edit does to a bag. -/
def edit (bag : Bag) : Edit → Bag
  | .write name value => bag.insert name value
  | .remove name => bag.erase name

/-- What is done to a bag at a time. Of environments there are only those that can be read. -/
inductive Change where
  | insert (name : String) (value : RawValue)
  | erase (name : String)
  | merge (upper : Bag)
  | override (vars : Variables) (readable : vars.Readable)

/-- The edits that a change consists of. Of the environment these are the options that have a
variable, in declaration order, with the last value of that variable. -/
def Change.edits : Change → List Edit
  | .insert name value => [.write name value]
  | .erase name => [.remove name]
  | .merge upper => upper.toList.map .ofEntry
  | .override vars _ => Key.all.filterMap fun key =>
      (Overrides.text? vars key).map fun value => .write key.name (.text value)

/-- All edits of the changes in a row. -/
def historyOf (changes : List Change) : List Edit := changes.flatMap Change.edits

/-- A bag after a change. -/
def change (bag : Bag) : Change → Bag
  | .insert name value => bag.insert name value
  | .erase name => bag.erase name
  | .merge upper => bag.merge upper
  | .override vars _ => bag.override (.ofVariables vars)

/-- What the changes make of nothing. -/
def run (changes : List Change) : Bag := changes.foldl change empty

/-- The bag is the ordered map that these edits make. -/
structure Keeps (bag : Bag) (history : List Edit) : Prop where
  nodup : bag.names.Nodup
  value : ∀ name value, bag.get? name = some value ↔ ∃ n, Edit.LastAt history name value n
  present : ∀ name, name ∈ bag.names ↔ ∃ n, Edit.FirstAt history name n
  ordered : bag.names.Pairwise fun a b =>
    ∀ m n, Edit.FirstAt history a m → Edit.FirstAt history b n → m < n
  size : bag.size = {name | ∃ n, Edit.FirstAt history name n}.ncard

/-! ## A change is its edits -/

theorem insertAll_eq_foldl (bag : Bag) (entries : Entries) :
    bag.insertAll entries = (entries.map Edit.ofEntry).foldl edit bag := by
  rw [List.foldl_map]
  rfl

theorem change_eq_foldl (bag : Bag) (c : Change) : bag.change c = c.edits.foldl edit bag := by
  cases c with
  | insert name value => rfl
  | erase name => rfl
  | merge upper => exact bag.insertAll_eq_foldl upper.toList
  | override vars readable =>
    rw [change, override, insertAll_eq_foldl,
      Overrides.entries_ofVariables fun _ _ => readable.decode?, List.map_filterMap, Change.edits]
    congr 2
    funext key
    rw [Option.map_map, Option.map_map]
    rfl

theorem run_eq_foldl (changes : List Change) : run changes = (historyOf changes).foldl edit empty := by
  rw [historyOf, List.foldl_flatMap, run]
  congr 1
  funext bag c
  exact bag.change_eq_foldl c

/-! ## What one edit keeps -/

variable {bag : Bag} {history : List Edit}

theorem keeps_of
    (hvalue : ∀ name value, bag.get? name = some value ↔ ∃ n, Edit.LastAt history name value n)
    (hpresent : ∀ name, name ∈ bag.names ↔ ∃ n, Edit.FirstAt history name n)
    (hordered : bag.names.Pairwise fun a b =>
      ∀ m n, Edit.FirstAt history a m → Edit.FirstAt history b n → m < n) : bag.Keeps history := by
  refine ⟨bag.nodup, hvalue, hpresent, hordered, ?_⟩
  have hset : {name | ∃ n, Edit.FirstAt history name n} = (bag.names.toFinset : Set String) := by
    ext name
    simp [hpresent]
  have hnodup : bag.names.Nodup := bag.nodup
  rw [hset, Set.ncard_coe_finset, List.toFinset_card_of_nodup hnodup]
  exact (List.length_map Prod.fst).symm

theorem keeps_empty : empty.Keeps [] := by
  refine keeps_of ?_ ?_ .nil
  · intro name value
    refine iff_of_false (by simp) ?_
    rintro ⟨n, h⟩
    simpa using h.written
  · intro name
    refine iff_of_false (by simp) ?_
    rintro ⟨n, h⟩
    simpa using h.lt_length

namespace Keeps

theorem get?_insert (h : bag.Keeps history) (name : String) (value : RawValue) (other : String)
    (value' : RawValue) : (bag.insert name value).get? other = some value' ↔
      ∃ n, Edit.LastAt (history ++ [.write name value]) other value' n := by
  rw [Bag.get?_insert]
  by_cases hname : other = name
  · subst hname
    have hwrite : (Edit.write other value).name = other := rfl
    simp [Edit.lastAt_append_of_eq hwrite]
  · have hwrite : (Edit.write name value).name ≠ other := Ne.symm hname
    simp only [if_neg hname, h.value, Edit.lastAt_append_of_ne hwrite]

/-- Writing to a name that is there moves nothing. -/
theorem insert_of_mem (h : bag.Keeps history) {name : String} (hmem : name ∈ bag.names)
    (value : RawValue) : (bag.insert name value).Keeps (history ++ [.write name value]) := by
  obtain ⟨first, hfirst⟩ := (h.present name).mp hmem
  have hsame : ∀ other n, Edit.FirstAt (history ++ [.write name value]) other n ↔
      Edit.FirstAt history other n := by
    intro other n
    by_cases hname : other = name
    · subst hname
      constructor
      · intro hn
        exact (hfirst.append_write value).unique hn ▸ hfirst
      · intro hn
        exact hn.append_write value
    · exact Edit.firstAt_append_of_ne (Ne.symm hname)
  have hnames : (bag.insert name value).names = bag.names := by rw [names_insert, if_pos hmem]
  refine keeps_of (h.get?_insert name value) ?_ ?_
  · intro other
    simp only [hnames, hsame, h.present]
  · simpa only [hnames, hsame] using h.ordered

/-- Writing to a name that is not there puts it behind all others. -/
theorem insert_of_not_mem (h : bag.Keeps history) {name : String} (hmem : name ∉ bag.names)
    (value : RawValue) : (bag.insert name value).Keeps (history ++ [.write name value]) := by
  have hnone : ∀ m, ¬ Edit.FirstAt history name m := fun m hm => hmem ((h.present name).mpr ⟨m, hm⟩)
  have hlast := Edit.firstAt_append_write_of_forall_not hnone value
  have hothers : ∀ other ∈ bag.names, ∀ n,
      Edit.FirstAt (history ++ [.write name value]) other n ↔ Edit.FirstAt history other n := by
    intro other hother n
    exact Edit.firstAt_append_of_ne fun he : name = other => hmem (he ▸ hother)
  have hnames : (bag.insert name value).names = bag.names ++ [name] := by
    rw [names_insert, if_neg hmem]
  refine keeps_of (h.get?_insert name value) ?_ ?_
  · intro other
    rw [hnames, List.mem_append, List.mem_singleton, h.present]
    by_cases hname : other = name
    · subst hname
      exact iff_of_true (.inr rfl) ⟨_, hlast⟩
    · have hwrite : (Edit.write name value).name ≠ other := Ne.symm hname
      simp [hname, Edit.firstAt_append_of_ne hwrite]
  · rw [hnames, List.pairwise_append]
    refine ⟨?_, List.pairwise_singleton _ _, ?_⟩
    · refine h.ordered.imp_of_mem fun ha hb hab m n hm hn => ?_
      exact hab m n ((hothers _ ha m).mp hm) ((hothers _ hb n).mp hn)
    · intro a ha b hb m n hm hn
      rw [List.mem_singleton.mp hb] at hn
      rw [hn.unique hlast]
      exact ((hothers a ha m).mp hm).lt_length

theorem erase (h : bag.Keeps history) (name : String) :
    (bag.erase name).Keeps (history ++ [.remove name]) := by
  have hothers : ∀ {other}, other ≠ name → (Edit.remove name).name ≠ other := Ne.symm
  refine keeps_of ?_ ?_ ?_
  · intro other value
    rw [get?_erase]
    by_cases hname : other = name
    · subst hname
      have hremove : (Edit.remove other).name = other := rfl
      simp [Edit.lastAt_append_of_eq hremove]
    · simp only [if_neg hname, h.value, Edit.lastAt_append_of_ne (hothers hname)]
  · intro other
    rw [names_erase, List.mem_filter, h.present]
    by_cases hname : other = name
    · subst hname
      simp [Edit.not_firstAt_append_remove]
    · simp [hname, Edit.firstAt_append_of_ne (hothers hname)]
  · rw [names_erase]
    refine (h.ordered.filter _).imp_of_mem fun {a b} ha hb hab m n hm hn => ?_
    have hne : ∀ {other}, other ∈ bag.names.filter (fun other => other ≠ name) → other ≠ name :=
      fun hother => by simpa using (List.mem_filter.mp hother).2
    exact hab m n ((Edit.firstAt_append_of_ne (hothers (hne ha))).mp hm)
      ((Edit.firstAt_append_of_ne (hothers (hne hb))).mp hn)

theorem edit (h : bag.Keeps history) (e : Edit) : (bag.edit e).Keeps (history ++ [e]) := by
  cases e with
  | write name value =>
    by_cases hmem : name ∈ bag.names
    · exact h.insert_of_mem hmem value
    · exact h.insert_of_not_mem hmem value
  | remove name => exact h.erase name

end Keeps

/-- Any number of edits make the bag that their history says. -/
theorem keeps_foldl (history : List Edit) : (history.foldl edit empty).Keeps history := by
  induction history using List.reverseRecOn with
  | nil => exact keeps_empty
  | append_singleton history e ih =>
    rw [List.foldl_append]
    exact ih.edit e

/-- **Whatever changes made a bag, it is the ordered map of their history.** -/
theorem run_keeps_history (changes : List Change) : (run changes).Keeps (historyOf changes) := by
  rw [run_eq_foldl]
  exact keeps_foldl (historyOf changes)

-- Both names are written again. The one that was removed before that has lost its place.
example :
    (run [.insert "bits" (.integer 64), .insert "cxx" (.text "g++"), .erase "bits",
      .merge (ofList [("bits", .integer 32), ("cxx", .text "clang++")])]).toList =
      [("cxx", .text "clang++"), ("bits", .integer 32)] := by
  decide

end Bag
end CrossFlags
