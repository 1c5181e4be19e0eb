import Mathlib.Data.List.Nodup
import Mathlib.Data.List.TakeWhile
import Mathlib.Logic.Relation
import CrossFlags.Environment
import CrossFlags.Proofs.Bag.Runs
import CrossFlags.Proofs.FirstOccurrence
import CrossFlags.Proofs.Text.Utf8

/-!
# Laying the environment over a bag

What an environment does to a bag is a matter of at most sixteen values, one for each option's
variable, and of nothing else in the list of variables. A variable may be given more than once, and
then its last value counts. Where all of these last values are UTF-8 the layering is complete
(`Bag.override_layers`): the options that have a variable hold its text, all else holds what it held,
and the names that are new come last, in declaration order, whatever the order of the variables was.

That the rest of the list does not matter has two readings, and both are stated. One is that equal
last values make equal overrides. The other is a list of changes that make no difference
(`Variables.Unseen`): a variable of no option may come or go, whether its name is spelled in another
case or is no text at all, and two variables of different names may change places. These changes are
closed under repetition and undoing, so whatever can be reached by them is covered.
-/

set_option autoImplicit false

namespace CrossFlags

namespace Variables

/-- The name of an option's variable. -/
def nameOf (key : Key) : Octets := Utf8.encode (variableOf key.name)

/-- The values given to an option's variable, in order. The last one counts. -/
def valuesOf (vars : Variables) (key : Key) : List Octets :=
  (vars.filter fun v => v.1 == nameOf key).map Prod.snd

/-- The last value of every option's variable is the encoding of some text. -/
def Readable (vars : Variables) : Prop :=
  ∀ key, ∀ octets ∈ (vars.valuesOf key).getLast?, ∃ value, octets = Utf8.encode value

/-- One change to a list of variables that no option sees. -/
inductive Unseen : Variables → Variables → Prop
  | unrelated {front back : Variables} {v : Octets × Octets} (h : ∀ key, v.1 ≠ nameOf key) :
    Unseen (front ++ v :: back) (front ++ back)
  | swapped {front back : Variables} {v w : Octets × Octets} (h : v.1 ≠ w.1) :
    Unseen (front ++ v :: w :: back) (front ++ w :: v :: back)

/-- What a bag looks like `after` the variables have been laid over it. -/
structure Layered (vars : Variables) (bag after : Bag) : Prop where
  overridden : ∀ key value, (vars.valuesOf key).getLast? = some (Utf8.encode value) →
    after.get? key.name = some (.text value)
  untouched : ∀ name, (∀ key, key.name = name → vars.valuesOf key = []) →
    after.get? name = bag.get? name
  names : after.names =
    bag.names ++ (Key.all.filter fun key =>
      vars.valuesOf key ≠ [] ∧ key.name ∉ bag.names).map Key.name

/-- The option is overridden with octets that cannot be read. -/
def isUnreadable (vars : Variables) (key : Key) : Bool :=
  match vars.override? key with
  | none => false
  | some octets => (Utf8.decode? octets).isNone

theorem isUnreadable_eq_false_iff {vars : Variables} {key : Key} :
    vars.isUnreadable key = false ↔
      ∀ octets, vars.override? key = some octets → ∃ value, Utf8.decode? octets = some value := by
  unfold isUnreadable
  cases vars.override? key with
  | none => simp
  | some octets => simp [Option.isSome_iff_exists]

theorem override?_eq (vars : Variables) (key : Key) :
    vars.override? key = (vars.valuesOf key).getLast? := by
  unfold override? get? valuesOf nameOf
  rw [List.getLast?_map, ← List.head?_filter, List.filter_reverse, List.head?_reverse]

theorem filter_swap {α : Type} {p : α → Bool} {a b : α} (h : p a = true → p b = false)
    (rest : List α) : (a :: b :: rest).filter p = (b :: a :: rest).filter p := by
  cases ha : p a with
  | false => simp [List.filter_cons, ha]
  | true => simp [ha, h ha]

theorem Unseen.valuesOf_eq {vars others : Variables} (h : Unseen vars others) (key : Key) :
    vars.valuesOf key = others.valuesOf key := by
  unfold valuesOf
  congr 1
  cases h with
  | unrelated h =>
    rw [List.filter_append, List.filter_append, List.filter_cons_of_neg (by simpa using h key)]
  | swapped h =>
    rw [List.filter_append, List.filter_append, filter_swap]
    intro hv
    have hkey := beq_iff_eq.mp hv
    exact beq_eq_false_iff_ne.mpr fun hw => h (hkey.trans hw.symm)

theorem valuesOf_eq_of_eqvGen {vars others : Variables} (h : Relation.EqvGen Unseen vars others)
    (key : Key) : vars.valuesOf key = others.valuesOf key := by
  induction h with
  | rel _ _ hstep => exact hstep.valuesOf_eq key
  | refl _ => rfl
  | symm _ _ _ ih => exact ih.symm
  | trans _ _ _ _ _ hfirst hsecond => exact hfirst.trans hsecond

end Variables

namespace Overrides

variable {vars others : Variables}

/-! ## The overrides of a list of options -/

theorem ofKeys_congr (h : ∀ key, others.override? key = vars.override? key) (keys : List Key) :
    ofKeys others keys = ofKeys vars keys := by
  induction keys with
  | nil => rfl
  | cons key rest ih => simp only [ofKeys, h key, ih]

/-- The text that an option is overridden with, where there is one and it can be read. -/
def text? (vars : Variables) (key : Key) : Option String :=
  (vars.override? key).bind Utf8.decode?

/-- The options up to the first unreadable one are overridden, and that one is reported. -/
theorem ofKeys_eq (vars : Variables) (keys : List Key) :
    ofKeys vars keys =
      ⟨(keys.takeWhile fun key => !vars.isUnreadable key).filterMap fun key =>
          (text? vars key).map (key, ·),
        keys.find? vars.isUnreadable⟩ := by
  induction keys with
  | nil => rfl
  | cons key rest ih =>
    cases hoctets : vars.override? key with
    | none =>
      have hgood : vars.isUnreadable key = false := by rw [Variables.isUnreadable, hoctets]
      simp [ofKeys, text?, hoctets, hgood, ih]
    | some octets =>
      cases hvalue : Utf8.decode? octets with
      | none =>
        have hbad : vars.isUnreadable key = true := by
          simp [Variables.isUnreadable, hoctets, hvalue]
        simp [ofKeys, hoctets, hvalue, hbad]
      | some value =>
        have hgood : vars.isUnreadable key = false := by
          simp [Variables.isUnreadable, hoctets, hvalue]
        simp [ofKeys, cons, text?, hoctets, hvalue, hgood, ih]

theorem ofKeys_of_readable {keys : List Key}
    (h : ∀ key ∈ keys, ∀ octets, vars.override? key = some octets →
      ∃ value, Utf8.decode? octets = some value) :
    ofKeys vars keys = ⟨keys.filterMap fun key => (text? vars key).map (key, ·), none⟩ := by
  have hgood : ∀ key ∈ keys, vars.isUnreadable key = false := fun key hkey =>
    Variables.isUnreadable_eq_false_iff.mpr (h key hkey)
  rw [ofKeys_eq, List.takeWhile_eq_self_iff.mpr fun key hkey => by simp [hgood key hkey],
    List.find?_eq_none.mpr fun key hkey => by simp [hgood key hkey]]

/-- The entry that an option is overridden with. -/
def assigned? (vars : Variables) (key : Key) : Option (String × RawValue) :=
  ((text? vars key).map RawValue.text).map (key.name, ·)

theorem entries_ofKeys (vars : Variables) (keys : List Key) :
    (ofKeys vars keys).entries =
      (keys.takeWhile fun key => !vars.isUnreadable key).filterMap (assigned? vars) := by
  rw [ofKeys_eq, entries, List.map_filterMap]
  congr 1
  funext key
  rw [assigned?, Option.map_map, Option.map_map]
  rfl

theorem entries_ofVariables (h : ∀ key octets, vars.override? key = some octets →
    ∃ value, Utf8.decode? octets = some value) :
    (ofVariables vars).entries =
      Key.all.filterMap fun key => ((text? vars key).map RawValue.text).map (key.name, ·) := by
  have hgood : ∀ key, vars.isUnreadable key = false := fun key =>
    Variables.isUnreadable_eq_false_iff.mpr (h key)
  rw [ofVariables, entries_ofKeys, List.takeWhile_eq_self_iff.mpr fun key _ => by simp [hgood key]]
  rfl

theorem text?_of_getLast? {key : Key} {value : String}
    (h : (vars.valuesOf key).getLast? = some (Utf8.encode value)) :
    text? vars key = some value := by
  rw [text?, Variables.override?_eq, h, Option.bind_some, Utf8.decode?_encode]

end Overrides

namespace Variables.Readable

variable {vars : Variables} (h : vars.Readable)

include h

theorem decode? {key : Key} {octets : Octets} (hoctets : vars.override? key = some octets) :
    ∃ value, Utf8.decode? octets = some value := by
  rw [override?_eq] at hoctets
  obtain ⟨value, rfl⟩ := h key octets hoctets
  exact ⟨value, Utf8.decode?_encode value⟩

theorem isSome_text?_iff {key : Key} :
    (Overrides.text? vars key).isSome = true ↔ vars.valuesOf key ≠ [] := by
  cases hlast : (vars.valuesOf key).getLast? with
  | none =>
    rw [Overrides.text?, override?_eq, hlast]
    simpa using List.getLast?_eq_none_iff.mp hlast
  | some octets =>
    obtain ⟨value, rfl⟩ := h key octets hlast
    rw [Overrides.text?_of_getLast? hlast]
    have hne : vars.valuesOf key ≠ [] := by
      intro hnil
      rw [hnil] at hlast
      cases hlast
    exact iff_of_true rfl hne

theorem get?_override (bag : Bag) (name : String) :
    (bag.override (.ofVariables vars)).get? name =
      (Entries.get? (Key.all.reverse.filterMap fun key =>
        ((Overrides.text? vars key).map RawValue.text).map (key.name, ·)) name).or
          (bag.get? name) := by
  rw [Bag.override, Bag.get?_insertAll, Overrides.entries_ofVariables fun _ _ => h.decode?,
    List.filterMap_reverse]

theorem layered (bag : Bag) : vars.Layered bag (bag.override (.ofVariables vars)) where
  overridden key value hvalue := by
    rw [h.get?_override, Entries.get?_filterMap fun _ _ => Key.name_injective,
      if_pos (List.mem_reverse.mpr key.mem_all), Overrides.text?_of_getLast? hvalue]
    rfl
  untouched name hname := by
    have hnone : name ∉ Entries.names (Key.all.reverse.filterMap fun key =>
        ((Overrides.text? vars key).map RawValue.text).map (key.name, ·)) := by
      rw [Entries.names_filterMap]
      intro hmem
      obtain ⟨key, hkey, rfl⟩ := List.mem_map.mp hmem
      have hsome := (List.mem_filter.mp hkey).2
      rw [Option.isSome_map] at hsome
      exact h.isSome_text?_iff.mp hsome (hname key rfl)
    rw [h.get?_override, Entries.get?_eq_none_iff.mpr hnone, Option.none_or]
  names := by
    have hnodup : (Key.all.map Key.name).Nodup :=
      Key.nodup_all.map fun _ _ => Key.name_injective
    rw [Bag.override, Bag.names_insertAll, Overrides.entries_ofVariables fun _ _ => h.decode?,
      Entries.names_filterMap, eraseDups_of_nodup, List.filter_map, List.filter_filter]
    · congr 2
      apply List.filter_congr
      intro key _
      rw [Option.isSome_map, Bool.eq_iff_iff]
      simp [h.isSome_text?_iff, and_comm]
    · exact (hnodup.sublist (List.filter_sublist.map _)).filter _

end Variables.Readable

namespace Bag

/-- **Where every option's last value is UTF-8, the environment is laid over a bag as a whole, and
nothing else in it matters.** -/
theorem override_layers {vars : Variables} (h : vars.Readable) (bag : Bag) :
    (Overrides.ofVariables vars).unreadable? = none ∧
      vars.Layered bag (bag.override (.ofVariables vars)) ∧
      (∀ others : Variables,
        (∀ key, (others.valuesOf key).getLast? = (vars.valuesOf key).getLast?) →
          Overrides.ofVariables others = .ofVariables vars) ∧
      ∀ others, Relation.EqvGen Variables.Unseen vars others →
        Overrides.ofVariables others = .ofVariables vars := by
  have hagree (others : Variables)
      (hlast : ∀ key, (others.valuesOf key).getLast? = (vars.valuesOf key).getLast?) :
      Overrides.ofVariables others = .ofVariables vars := by
    apply Overrides.ofKeys_congr
    intro key
    rw [Variables.override?_eq, Variables.override?_eq, hlast]
  refine ⟨?_, h.layered bag, hagree, ?_⟩
  · rw [Overrides.ofVariables, Overrides.ofKeys_of_readable fun _ _ _ => h.decode?]
  · intro others hunseen
    apply hagree
    intro key
    rw [Variables.valuesOf_eq_of_eqvGen hunseen]

/-- Two spellings of a variable in another case, a name and a value that are no text but do not count,
and a variable given twice: of seven variables two are seen, and one of the two adds a name. -/
theorem override_layers_of_noise :
    let bag := Bag.ofList
      [("colour", .text "red"), ("use_system_ogg", .bool false), ("bits", .integer 64)]
    let vars : Variables :=
      [(Utf8.encode "SYMCONF_USE_SYSTEM_OGG", [0xFF]), (Utf8.encode "symconf_bits", [0x33]),
       (Utf8.encode "SYMCONF_MAP_FILE", Utf8.encode " caf\u00e9 "), ([0x53, 0xFF], [0x33]),
       (Utf8.encode "SYMCONF_Bits", [0x33]), (Utf8.encode "SYMCONF_CONFIG", [0xFE]),
       (Utf8.encode "SYMCONF_USE_SYSTEM_OGG", Utf8.encode "yes")]
    let seen : Variables :=
      [(Utf8.encode "SYMCONF_USE_SYSTEM_OGG", Utf8.encode "yes"),
       (Utf8.encode "SYMCONF_MAP_FILE", Utf8.encode " caf\u00e9 ")]
    vars.Readable ∧ (Overrides.ofVariables vars).unreadable? = none ∧
      vars.Layered bag (bag.override (.ofVariables vars)) ∧
      (bag.override (.ofVariables vars)).toList =
        [("colour", .text "red"), ("use_system_ogg", .text "yes"), ("bits", .integer 64),
         ("map_file", .text " caf\u00e9 ")] ∧
      Overrides.ofVariables seen = .ofVariables vars := by
  intro bag vars seen
  let value? : Key → Option String := fun key =>
    if key = .mapFile then some " caf\u00e9 " else if key = .useSystem .ogg then some "yes" else none
  have hvars : ∀ key ∈ Key.all, (vars.valuesOf key).getLast? = (value? key).map Utf8.encode := by
    decide
  have hseen : ∀ key ∈ Key.all, (seen.valuesOf key).getLast? = (value? key).map Utf8.encode := by
    decide
  have hreadable : vars.Readable := by
    intro key octets hoctets
    rw [hvars key key.mem_all] at hoctets
    obtain ⟨value, -, hvalue⟩ := Option.map_eq_some_iff.mp hoctets
    exact ⟨value, hvalue.symm⟩
  obtain ⟨hnone, hlayered, hagree, -⟩ := override_layers hreadable bag
  refine ⟨hreadable, hnone, hlayered, by decide, hagree seen ?_⟩
  intro key
  rw [hvars key key.mem_all, hseen key key.mem_all]

end Bag

end CrossFlags
