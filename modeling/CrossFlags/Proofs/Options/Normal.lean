import CrossFlags.Proofs.Bag.Runs
import CrossFlags.Proofs.Options.Reading
import CrossFlags.Proofs.Text.Trim

/-!
# Normal options

Reading is many-to-one: letter case, blanks around a value, words for the default and an overruled
word size all disappear in it. What is left is normal: a forced width agrees with the word size, and
every path is a text that stands for itself (`Verbatim`). **The options that some bag gives are
exactly the normal ones, and each of them is given by its own text**, in whatever order its entries
are written: `Bag.Says.normal` is the one direction, `Options.Normal.readBack` the other.

`Verbatim` is where the details of reading meet. A text can only be read back if trimming leaves it
alone, if it is not empty, and if it is not one of the words for the default. An accepted path has
all three by the way it was read; a keyword has them by its spelling; the defaults have them because
they were chosen so.
-/

set_option autoImplicit false

namespace CrossFlags

/-- A text that, supplied for an option, counts as it is written. -/
structure Verbatim (s : String) : Prop where
  nonempty : s ≠ ""
  trim_eq : Text.trim s = s
  not_default : asksForDefault s = false

instance (s : String) : Decidable (Verbatim s) :=
  decidable_of_iff (s ≠ "" ∧ Text.trim s = s ∧ asksForDefault s = false)
    ⟨fun ⟨h, ht, hd⟩ => ⟨h, ht, hd⟩, fun ⟨h, ht, hd⟩ => ⟨h, ht, hd⟩⟩

theorem RawValue.trim_asText (value : RawValue) : Text.trim value.asText = value.asText := by
  cases value with
  | bool b => cases b <;> decide
  | integer n => exact Text.trim_integerText n
  | text s => exact Text.trim_trim s

theorem Key.verbatim_of_default? {key : Key} {text : String} (h : key.default? = some text) :
    Verbatim text := by
  cases key <;> cases h <;> decide

namespace Bag

/-- A verbatim text supplied for an option is the text that counts. -/
theorem effective?_of_verbatim {bag : Bag} {key : Key} {text : String}
    (hget : bag.get? key.name = some (.text text)) (h : Verbatim text) :
    bag.effective? key = some text := by
  have hsupplied : bag.supplied? key = some text := by
    unfold supplied?
    rw [hget, Option.map_some, RawValue.asText, h.trim_eq, Option.filter_some, h.not_default]
    rfl
  rw [effective?, hsupplied, Option.some_or]

/-- The text that counts for an option is verbatim, unless it is empty. -/
theorem verbatim_of_effective? {bag : Bag} {key : Key} {text : String}
    (h : bag.effective? key = some text) (hne : text ≠ "") : Verbatim text := by
  unfold effective? at h
  rcases Option.or_eq_some_iff.mp h with hsupplied | ⟨-, hdefault⟩
  · obtain ⟨hmap, hnot⟩ := Option.filter_eq_some_iff.mp hsupplied
    obtain ⟨value, -, rfl⟩ := Option.map_eq_some_iff.mp hmap
    exact ⟨hne, value.trim_asText, by simpa using hnot⟩
  · exact Key.verbatim_of_default? hdefault

theorem readKeyword_of_verbatim {α : Type} {bag : Bag} {key : Key} {allowed : List String}
    {meaning : String → Option α} {text : String} {value : α}
    (hget : bag.get? key.name = some (.text text)) (h : Verbatim text)
    (hmeaning : meaning (Text.lower text) = some value) :
    bag.readKeyword key allowed meaning = .ok value :=
  readKeyword_eq_ok_iff.mpr ⟨text, effective?_of_verbatim hget h, hmeaning⟩

theorem readPath_of_verbatim {bag : Bag} {key : Key} {text : String}
    (hget : bag.get? key.name = some (.text text)) (h : Verbatim text) :
    bag.readPath key = .ok text := by
  refine readPath_eq_ok_iff.mpr ⟨?_, effective?_of_verbatim hget h, h.nonempty⟩
  intro b hbool
  rw [hget] at hbool
  cases hbool

end Bag

namespace Options

/-- Options as reading leaves them. -/
structure Normal (options : Options) : Prop where
  wordSize : options.force32Bits = true → options.wordSize = .bits32
  path : ∀ key, key.domain = .path → Verbatim (options.textOf key)

theorem verbatim_switchWord (b : Bool) : Verbatim (switchWord b) := by
  cases b <;> decide

/-- The text of every option of normal options is verbatim: keywords are so by their spelling. -/
theorem Normal.verbatim_textOf {options : Options} (h : options.Normal) (key : Key) :
    Verbatim (options.textOf key) := by
  cases key with
  | buildMode => rw [textOf]; cases options.buildMode <;> decide
  | abiVariant => rw [textOf]; cases options.abiVariant <;> decide
  | bits => rw [textOf]; cases options.wordSize <;> decide
  | force32Bits => exact verbatim_switchWord _
  | useSystem lib => exact verbatim_switchWord _
  | sdkRoot | companionRoot | cxx | mapFile => exact h.path _ rfl

end Options

/-- **Whatever a bag says is normal.** -/
theorem Bag.Says.normal {bag : Bag} {options : Options} (h : bag.Says options) :
    options.Normal := by
  constructor
  · intro hforce
    obtain ⟨size, -, hword⟩ := h.wordSize
    rw [hword, if_pos hforce]
  · intro key hkey
    obtain ⟨-, heffective, hne⟩ := Bag.readPath_eq_ok_iff.mp (h.path key hkey)
    exact Bag.verbatim_of_effective? heffective hne

/-! ## Writing options and reading them back -/

namespace Options

theorem get?_toEntries (options : Options) (keys : List Key) (key : Key) :
    Entries.get? (options.toEntries keys) key.name =
      if key ∈ keys then some (.text (options.textOf key)) else none := by
  rw [toEntries, ← List.filterMap_eq_map]
  exact Entries.get?_filterMap (fun _ _ => Key.name_injective)
    (fun key => some (.text (options.textOf key))) keys key

section Written

variable {options : Options} {keys : List Key}

theorem get?_written (hkeys : keys.Perm Key.all) (key : Key) :
    (Bag.ofList (options.toEntries keys)).get? key.name = some (.text (options.textOf key)) := by
  -- The last write counts, so the keys are looked through back to front.
  have hreverse : (options.toEntries keys).reverse = options.toEntries keys.reverse :=
    List.map_reverse.symm
  rw [Bag.get?_ofList, hreverse, get?_toEntries, if_pos]
  exact List.mem_reverse.mpr (hkeys.mem_iff.mpr (Key.mem_all key))

theorem undeclared?_written : (Bag.ofList (options.toEntries keys)).undeclared? = none := by
  refine List.find?_eq_none.mpr ?_
  intro name hname
  rw [Bag.mem_names_ofList, Entries.names, toEntries, List.map_map] at hname
  obtain ⟨key, -, rfl⟩ := List.mem_map.mp hname
  simp

theorem readSwitch_written {key : Key} {b : Bool} (hkeys : keys.Perm Key.all)
    (htext : options.textOf key = switchWord b) :
    (Bag.ofList (options.toEntries keys)).readSwitch key = .ok b := by
  refine Bag.readKeyword_of_verbatim ?_ (verbatim_switchWord b) ?_
  · rw [get?_written hkeys, htext]
  · cases b <;> decide

/-- **Normal options are said by their own text**, written in any order. -/
theorem Normal.readBack (h : options.Normal) (hkeys : keys.Perm Key.all) :
    (Bag.ofList (options.toEntries keys)).Says options where
  declared := undeclared?_written
  buildMode := by
    refine Bag.readBuildMode_eq_ok_iff.mpr ⟨options.textOf .buildMode,
      Bag.effective?_of_verbatim (get?_written hkeys _) (h.verbatim_textOf _), ?_⟩
    rw [textOf]
    cases options.buildMode <;> decide
  abiVariant := by
    refine Bag.readKeyword_of_verbatim (get?_written hkeys _) (h.verbatim_textOf _) ?_
    rw [textOf]
    cases options.abiVariant <;> decide
  force32Bits := readSwitch_written hkeys rfl
  wordSize := by
    refine ⟨options.wordSize, Bag.readKeyword_of_verbatim (get?_written hkeys _)
      (h.verbatim_textOf _) ?_, ?_⟩
    · rw [textOf]
      cases options.wordSize <;> decide
    · split
      · rename_i hforce
        exact h.wordSize hforce
      · rfl
  source lib := readSwitch_written hkeys rfl
  path key _ := Bag.readPath_of_verbatim (get?_written hkeys key) (h.verbatim_textOf key)

end Written

end Options
end CrossFlags
