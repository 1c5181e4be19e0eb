import CrossFlags.Loading
import CrossFlags.Proofs.Environment.Layering

/-!
# Where overriding stops

A value that is not UTF-8 ends the overriding of a bag, and the bag is then neither what it was nor
what it was meant to be. What it is can be said exactly (`override_stops_at_first_unreadable`): **the
overrides of the options declared before the offending one are in place, and nothing else has
happened.** The order that counts is the one in which options are declared. Where the variable stands
among the others does not matter, and neither does what else is wrong in the list: a value that a
later one replaces, the value of a variable that belongs to no option, a name that is no text.

The run over the options is two questions to their list, and neither needs the other: which options
are reached, and which one ends it (`Overrides.ofKeys_eq`). To say what is left without the run, the
environment is cut down to the variables of the options that were reached. All of these can be read,
so what is known about a complete layering holds of it (`Variables.Readable.layered`).
-/

set_option autoImplicit false

namespace CrossFlags

/-- The options declared before this one. -/
def Key.before (key : Key) : List Key := Key.all.takeWhile (· != key)

/-! ## The first element that has a property -/

section

variable {α : Type} {p : α → Bool} {a : α} {l : List α}

theorem takeWhile_append_cons {front back : List α} (hfront : ∀ b ∈ front, p b = true)
    (ha : p a = false) : (front ++ a :: back).takeWhile p = front := by
  rw [List.takeWhile_append_of_pos hfront, List.takeWhile_cons_of_neg (by simp [ha]),
    List.append_nil]

variable [DecidableEq α]

theorem takeWhile_ne_append_cons {front back : List α} (h : a ∉ front) :
    (front ++ a :: back).takeWhile (· != a) = front := by
  apply takeWhile_append_cons
  · intro b hb
    exact bne_iff_ne.mpr (ne_of_mem_of_not_mem hb h)
  · exact bne_self_eq_false a

theorem find?_eq_some_iff_takeWhile :
    l.find? p = some a ↔ a ∈ l ∧ p a = true ∧ ∀ b ∈ l.takeWhile (· != a), p b = false := by
  rw [List.find?_eq_some_iff_append]
  constructor
  · rintro ⟨ha, front, back, rfl, hfront⟩
    have hnot : a ∉ front := by
      intro hmem
      simpa [ha] using hfront a hmem
    rw [takeWhile_ne_append_cons hnot]
    exact ⟨List.mem_append_right _ List.mem_cons_self, ha, by simpa using hfront⟩
  · rintro ⟨hmem, ha, hfront⟩
    obtain ⟨front, back, rfl, hnot⟩ := List.eq_append_cons_of_mem hmem
    rw [takeWhile_ne_append_cons hnot] at hfront
    exact ⟨ha, front, back, rfl, by simpa using hfront⟩

theorem takeWhile_not_eq_of_find? (h : l.find? p = some a) :
    (l.takeWhile fun b => !p b) = l.takeWhile (· != a) := by
  obtain ⟨ha, front, back, rfl, hfront⟩ := List.find?_eq_some_iff_append.mp h
  have hnot : a ∉ front := by
    intro hmem
    simpa [ha] using hfront a hmem
  rw [takeWhile_ne_append_cons hnot, takeWhile_append_cons hfront (by simp [ha])]

end

namespace Variables

variable {vars : Variables} {key : Key}

/-- The last value of the option's variable is the encoding of no text. -/
def Unreadable (vars : Variables) (key : Key) : Prop :=
  ∃ octets ∈ (vars.valuesOf key).getLast?, ∀ value, octets ≠ Utf8.encode value

/-- The variables of these options alone. -/
def only (vars : Variables) (keys : List Key) : Variables :=
  vars.filter fun v => keys.any fun key => v.1 == nameOf key

theorem isUnreadable_iff : vars.isUnreadable key = true ↔ vars.Unreadable key := by
  unfold isUnreadable Unreadable
  rw [override?_eq]
  cases (vars.valuesOf key).getLast? with
  | none => simp
  | some octets =>
    simp only [Option.isNone_iff_eq_none, Option.eq_none_iff_forall_ne_some, ne_eq,
      Utf8.decode?_eq_some_iff, Option.mem_some_iff, exists_eq_left']

theorem not_unreadable_iff :
    ¬ vars.Unreadable key ↔
      ∀ octets ∈ (vars.valuesOf key).getLast?, ∃ value, octets = Utf8.encode value := by
  unfold Unreadable
  push Not
  rfl

/-! ## The variables of some options -/

theorem nameOf_injective {a b : Key} (h : nameOf a = nameOf b) : a = b := by
  have hnodup : (Key.all.map fun key => variableOf key.name).Nodup := by decide
  have hname : variableOf a.name = variableOf b.name := by
    have hdecoded := congrArg Utf8.decode? h
    rw [nameOf, nameOf, Utf8.decode?_encode, Utf8.decode?_encode] at hdecoded
    exact Option.some.inj hdecoded
  exact List.inj_on_of_nodup_map hnodup a.mem_all b.mem_all hname

theorem valuesOf_only (vars : Variables) (keys : List Key) (key : Key) :
    (vars.only keys).valuesOf key = if key ∈ keys then vars.valuesOf key else [] := by
  unfold only valuesOf
  rw [List.filter_filter]
  split
  · rename_i hmem
    congr 1
    apply List.filter_congr
    intro v _
    cases hname : v.1 == nameOf key with
    | false => rfl
    | true => simpa using ⟨key, hmem, beq_iff_eq.mp hname⟩
  · rename_i hmem
    rw [List.filter_eq_nil_iff.mpr, List.map_nil]
    intro v _ hboth
    obtain ⟨hname, hany⟩ := Bool.and_eq_true_iff.mp hboth
    obtain ⟨other, hother, hsame⟩ := List.any_eq_true.mp hany
    have heq : key = other := nameOf_injective ((beq_iff_eq.mp hname).symm.trans (beq_iff_eq.mp hsame))
    exact hmem (heq ▸ hother)

end Variables

/-! ## A run over options that may end early -/

namespace Overrides

variable {vars : Variables} {key : Key}

theorem unreadable?_eq_none_iff :
    (ofVariables vars).unreadable? = none ↔ ∀ key, ¬ vars.Unreadable key := by
  rw [ofVariables, ofKeys_eq, List.find?_eq_none]
  simp only [Variables.isUnreadable_iff, Key.mem_all, forall_const]

theorem unreadable?_eq_none_iff_readable :
    (ofVariables vars).unreadable? = none ↔ vars.Readable := by
  rw [unreadable?_eq_none_iff]
  exact forall_congr' fun _ => Variables.not_unreadable_iff

theorem unreadable?_eq_some_iff :
    (ofVariables vars).unreadable? = some key ↔
      vars.Unreadable key ∧ ∀ other ∈ key.before, ¬ vars.Unreadable other := by
  rw [ofVariables, ofKeys_eq, find?_eq_some_iff_takeWhile]
  simp only [Key.mem_all, true_and, Variables.isUnreadable_iff, ← Bool.not_eq_true, Key.before]

theorem assigned?_only (vars : Variables) (keys : List Key) (key : Key) :
    assigned? (vars.only keys) key = if key ∈ keys then assigned? vars key else none := by
  unfold assigned? text?
  rw [Variables.override?_eq, Variables.override?_eq, Variables.valuesOf_only]
  split <;> rfl

end Overrides

namespace Variables

variable {vars : Variables} {key : Key}

theorem readable_only {keys : List Key} (h : ∀ key ∈ keys, ¬ vars.Unreadable key) :
    (vars.only keys).Readable := by
  intro key octets hoctets
  rw [valuesOf_only] at hoctets
  split at hoctets
  · rename_i hmem
    exact not_unreadable_iff.mp (h key hmem) octets hoctets
  · cases hoctets

/-- What an environment does to a bag that is unreadable at this option, and how loading ends. -/
structure StopsAt (vars : Variables) (key : Key) (bag : Bag) : Prop where
  entire : (Overrides.ofVariables (vars.only key.before)).unreadable? = none
  left : bag.override (.ofVariables vars) = bag.override (.ofVariables (vars.only key.before))
  layered : (vars.only key.before).Layered bag (bag.override (.ofVariables vars))
  reported : ∀ (loader : Loader) (host : Host), loader.useEnvironment = true →
    host.environment = vars → loader.readFile host = .ok bag →
      loader.load host = .error (.notUtf8 key)
  message : (LoadError.notUtf8 key).message =
    "Environment variable " ++ variableOf key.name ++ " is not valid UTF-8"

end Variables

theorem filterMap_of_append {α β : Type} [DecidableEq α] {front back : List α}
    (h : (front ++ back).Nodup) (f : α → Option β) :
    (front ++ back).filterMap (fun a => if a ∈ front then f a else none) = front.filterMap f := by
  have hdisjoint : ∀ a ∈ back, a ∉ front := by
    intro a hback hfront
    exact (List.nodup_append.mp h).2.2 a hfront a hback rfl
  rw [List.filterMap_append, List.filterMap_congr fun a ha => if_pos ha,
    List.filterMap_eq_nil_iff.mpr fun a ha => if_neg (hdisjoint a ha), List.append_nil]

namespace Overrides

variable {vars : Variables} {key : Key}

/-- The options that are reached are overridden as if there were no other variables. -/
theorem entries_eq_of_unreadable? (h : (ofVariables vars).unreadable? = some key) :
    (ofVariables vars).entries = (ofVariables (vars.only key.before)).entries := by
  have hgood := (unreadable?_eq_some_iff.mp h).2
  have hreached : (Key.all.takeWhile fun key => !vars.isUnreadable key) = key.before := by
    rw [ofVariables, ofKeys_eq] at h
    exact takeWhile_not_eq_of_find? h
  have hsplit : Key.all = key.before ++ Key.all.dropWhile (· != key) :=
    List.takeWhile_append_dropWhile.symm
  have hnodup : Key.all.Nodup := Key.nodup_all
  calc (ofVariables vars).entries
      = key.before.filterMap (assigned? vars) := by rw [ofVariables, entries_ofKeys, hreached]
    _ = Key.all.filterMap fun other => if other ∈ key.before then assigned? vars other else none := by
        rw [hsplit] at hnodup ⊢
        exact (filterMap_of_append hnodup _).symm
    _ = Key.all.filterMap (assigned? (vars.only key.before)) :=
        List.filterMap_congr fun other _ => (assigned?_only vars key.before other).symm
    _ = (ofVariables (vars.only key.before)).entries :=
        (entries_ofVariables fun _ _ => (Variables.readable_only hgood).decode?).symm

end Overrides

namespace Variables

variable {vars : Variables} {key : Key}

theorem stopsAt_of_unreadable? (h : (Overrides.ofVariables vars).unreadable? = some key)
    (bag : Bag) : vars.StopsAt key bag := by
  have hreadable : (vars.only key.before).Readable :=
    readable_only (Overrides.unreadable?_eq_some_iff.mp h).2
  have hleft : bag.override (.ofVariables vars) =
      bag.override (.ofVariables (vars.only key.before)) := by
    rw [Bag.override, Bag.override, Overrides.entries_eq_of_unreadable? h]
  refine ⟨Overrides.unreadable?_eq_none_iff_readable.mpr hreadable, hleft,
    hleft ▸ hreadable.layered bag, ?_, rfl⟩
  intro loader host henvironment hvars hfile
  rw [Loader.load_of_readFile hfile, Loader.overrides_of_asked henvironment, hvars, h]

end Variables

namespace Bag

/-- **Overriding fails exactly if the last value of some option's variable is no text, reports the
first such option as they are declared, and leaves what the options before it make of the bag.** -/
theorem override_stops_at_first_unreadable (vars : Variables) (bag : Bag) :
    ((Overrides.ofVariables vars).unreadable? ≠ none ↔ ∃ key, vars.Unreadable key) ∧
      ∀ key, ((Overrides.ofVariables vars).unreadable? = some key ↔
          vars.Unreadable key ∧ ∀ other ∈ key.before, ¬ vars.Unreadable other) ∧
        ((Overrides.ofVariables vars).unreadable? = some key → vars.StopsAt key bag) := by
  refine ⟨?_, ?_⟩
  · rw [Ne, Overrides.unreadable?_eq_none_iff]
    push Not
    rfl
  · intro key
    exact ⟨Overrides.unreadable?_eq_some_iff, fun h => Variables.stopsAt_of_unreadable? h bag⟩

-- A bad value that is replaced, one of no option, and two that count, of which the one that comes
-- later among the variables is reported.
example :
    let vars : Variables :=
      [(Utf8.encode "SYMCONF_SDK_ROOT", [0xFF]), (Utf8.encode "SYMCONF_MAP_FILE", [0xFF]),
       (Utf8.encode "SYMCONF_USE_SYSTEM_OGG", Utf8.encode "yes"), ([0xFF], [0xFF]),
       (Utf8.encode "SYMCONF_CXX", [0xC3]), (Utf8.encode "SYMCONF_SDK_ROOT", Utf8.encode "/sdk")]
    (Overrides.ofVariables vars).unreadable? = some .cxx ∧
      ((Bag.empty.insert "use_system_ogg" (.bool false)).override (.ofVariables vars)).toList =
        [("use_system_ogg", .bool false), ("sdk_root", .text "/sdk")] := by
  decide

end Bag

end CrossFlags
