import CrossFlags.Text.Spelling

/-!
# Bags of supplied options

A `Bag` holds what was supplied before anyone asked whether it makes sense: names, declared or
not, with a value of one of three kinds, in the order in which the names first arrived. The order
is observable (it decides which undeclared name is reported), so writing to a name that is
already present keeps its place, and erasing one keeps the order of the rest.

That no name occurs twice is part of the type. Every operation is a function on the entry list
with a lemma that says what it does to the names; that lemma is also what carries the invariant.
-/

set_option autoImplicit false

namespace CrossFlags

/-- A supplied value. -/
inductive RawValue where
  | bool (b : Bool)
  | integer (n : Int64)
  | text (s : String)
  deriving DecidableEq

/-- The value as a word: truth values by name, integers in decimal, text without the blanks
around it. -/
def RawValue.asText : RawValue → String
  | .bool true => "true"
  | .bool false => "false"
  | .integer n => Text.integerText n
  | .text s => Text.trim s

/-- Names and values of supplied options. -/
abbrev Entries := List (String × RawValue)

namespace Entries

/-- The names, in order. -/
def names (entries : Entries) : List String := entries.map Prod.fst

/-- The value under a name. -/
def get? (entries : Entries) (name : String) : Option RawValue :=
  (entries.find? fun entry => entry.1 == name).map Prod.snd

/-- A value written under a name: in place where the name is present, at the end where it is
new. -/
def put (name : String) (value : RawValue) : Entries → Entries
  | [] => [(name, value)]
  | entry :: rest =>
    if entry.1 = name then (name, value) :: rest else entry :: put name value rest

/-- The entries under all other names. -/
def drop (name : String) (entries : Entries) : Entries :=
  entries.filter fun entry => entry.1 ≠ name

theorem names_put (name : String) (value : RawValue) (entries : Entries) :
    (put name value entries).names =
      if name ∈ entries.names then entries.names else entries.names ++ [name] := by
  induction entries with
  | nil => simp [put, names]
  | cons entry rest ih =>
    simp only [put]
    split
    · rename_i h; simp [names, h]
    · rename_i h
      have h' : ¬ name = entry.1 := fun e => h e.symm
      rw [show names (entry :: rest) = entry.1 :: names rest from rfl]
      by_cases hm : name ∈ names rest
      · rw [if_pos hm] at ih
        rw [if_pos (List.mem_cons_of_mem _ hm)]
        exact congrArg (entry.1 :: ·) ih
      · rw [if_neg hm] at ih
        rw [if_neg (fun h => (List.mem_cons.mp h).elim h' hm)]
        exact congrArg (entry.1 :: ·) ih

theorem names_drop (name : String) (entries : Entries) :
    (drop name entries).names = entries.names.filter fun other => other ≠ name := by
  simp only [drop, names, List.filter_map]
  rfl

theorem get?_put_self (name : String) (value : RawValue) (entries : Entries) :
    (put name value entries).get? name = some value := by
  induction entries with
  | nil => simp [put, get?]
  | cons entry rest ih =>
    simp only [put]
    split
    · simp [get?]
    · rename_i h
      simp only [get?, List.find?_cons, beq_eq_false_iff_ne.mpr h] at ih ⊢
      exact ih

theorem get?_put_of_ne {name other : String} (value : RawValue) (entries : Entries)
    (h : other ≠ name) : (put name value entries).get? other = entries.get? other := by
  induction entries with
  | nil => simp [put, get?, Ne.symm h]
  | cons entry rest ih =>
    simp only [put]
    split
    · rename_i he
      simp [get?, he, Ne.symm h]
    · simp only [get?, List.find?_cons] at ih ⊢
      cases hb : entry.1 == other <;> simp [ih]

theorem get?_drop (name other : String) (entries : Entries) :
    (drop name entries).get? other = if other = name then none else entries.get? other := by
  induction entries with
  | nil => simp [drop, get?]
  | cons entry rest ih =>
    have hstep : get? (entry :: rest) other =
        if entry.1 = other then some entry.2 else get? rest other := by
      by_cases hb : entry.1 = other <;> simp [get?, hb]
    by_cases he : entry.1 = name
    · rw [show drop name (entry :: rest) = drop name rest from
        List.filter_cons_of_neg (by simp [he]), ih, hstep]
      by_cases ho : other = name
      · simp [ho]
      · simp [ho, he, Ne.symm ho]
    · rw [show drop name (entry :: rest) = entry :: drop name rest from
        List.filter_cons_of_pos (by simp [he])]
      have hstep' : get? (entry :: drop name rest) other =
          if entry.1 = other then some entry.2 else get? (drop name rest) other := by
        by_cases hb : entry.1 = other <;> simp [get?, hb]
      rw [hstep', hstep, ih]
      by_cases hb : entry.1 = other
      · have ho : ¬ other = name := fun h => he (hb.trans h)
        simp [hb, ho]
      · simp [hb]

theorem get?_eq_none_iff {entries : Entries} {name : String} :
    entries.get? name = none ↔ name ∉ entries.names := by
  induction entries with
  | nil => simp [get?, names]
  | cons entry rest ih =>
    simp only [get?, names, List.find?_cons, List.map_cons, List.mem_cons] at ih ⊢
    by_cases h : entry.1 = name
    · simp [h]
    · simp only [beq_eq_false_iff_ne.mpr h, ih, Ne.symm h, false_or]

end Entries

/-- Supplied options: every name at most once, in the order of first arrival. -/
structure Bag where
  /-- The options as pairs, in order. -/
  toList : Entries
  nodup : toList.names.Nodup

namespace Bag

@[ext] theorem ext {a b : Bag} (h : a.toList = b.toList) : a = b := by
  cases a; cases b; cases h; rfl

instance : DecidableEq Bag := fun a b =>
  if h : a.toList = b.toList then isTrue (ext h) else isFalse fun hab => h (by rw [hab])

/-- Nothing supplied. -/
def empty : Bag := ⟨[], by simp [Entries.names]⟩

/-- The supplied names, in order. -/
def names (bag : Bag) : List String := bag.toList.names

/-- The value supplied under a name. -/
def get? (bag : Bag) (name : String) : Option RawValue := bag.toList.get? name

/-- A value supplied under a name, over whatever was there. -/
def insert (bag : Bag) (name : String) (value : RawValue) : Bag where
  toList := Entries.put name value bag.toList
  nodup := by
    rw [Entries.names_put]
    split
    · exact bag.nodup
    · rename_i h
      exact List.nodup_append.mpr ⟨bag.nodup, by simp, by
        intro a ha b hb hab
        simp only [List.mem_singleton] at hb
        exact h (hb ▸ hab ▸ ha)⟩

/-- Without the option of this name. -/
def erase (bag : Bag) (name : String) : Bag where
  toList := Entries.drop name bag.toList
  nodup := by rw [Entries.names_drop]; exact bag.nodup.filter _

/-- Pairs written one after the other. -/
def insertAll (bag : Bag) (entries : Entries) : Bag :=
  entries.foldl (fun bag entry => bag.insert entry.1 entry.2) bag

/-- `upper` laid over `bag`: its values win, its new names come last. -/
def merge (bag upper : Bag) : Bag := bag.insertAll upper.toList

/-- The bag that pairs make when they are written one after the other. -/
def ofList (entries : Entries) : Bag := empty.insertAll entries

/-- How many options are supplied. -/
def size (bag : Bag) : Nat := bag.toList.length

/-- Nothing is supplied. -/
def isEmpty (bag : Bag) : Bool := bag.toList.isEmpty

/-! ## What the operations do, seen through `get?` and `names` -/

@[simp] theorem get?_empty (name : String) : empty.get? name = none := rfl

@[simp] theorem names_empty : empty.names = [] := rfl

theorem get?_insert (bag : Bag) (name other : String) (value : RawValue) :
    (bag.insert name value).get? other = if other = name then some value else bag.get? other := by
  by_cases h : other = name
  · subst h; simp [get?, insert, Entries.get?_put_self]
  · simp [get?, insert, h, Entries.get?_put_of_ne value bag.toList h]

theorem names_insert (bag : Bag) (name : String) (value : RawValue) :
    (bag.insert name value).names =
      if name ∈ bag.names then bag.names else bag.names ++ [name] :=
  Entries.names_put name value bag.toList

theorem get?_erase (bag : Bag) (name other : String) :
    (bag.erase name).get? other = if other = name then none else bag.get? other :=
  Entries.get?_drop name other bag.toList

theorem names_erase (bag : Bag) (name : String) :
    (bag.erase name).names = bag.names.filter fun other => other ≠ name :=
  Entries.names_drop name bag.toList

theorem get?_eq_none_iff {bag : Bag} {name : String} :
    bag.get? name = none ↔ name ∉ bag.names :=
  Entries.get?_eq_none_iff

end Bag
end CrossFlags
