import CrossFlags.Proofs.Options.Reading

/-!
# What the value of an option depends on

Two bags that are both accepted may have little in common. **Where they agree on an option, they are
read alike there** (`value_depends_on_decidedBy`), whatever else they hold and in whatever order: no
reader looks at an entry that is not its own, the loop over the libraries puts every answer at its
own library, and the order of the names is gone once all of them turn out to be declared.

The word size is the one exception, and a declared one. It has an entry of its own, but a forced
width overrules it, so it is decided by two entries. `Key.decidedBy` is the list of them, and it is
not too long either: every entry in it makes a difference somewhere.

Acceptance is not local in this way. One bad entry anywhere takes all values away, which is why both
bags have to be accepted for there to be anything to compare.
-/

set_option autoImplicit false

namespace CrossFlags

/-! ## Options and their values -/

namespace Key

/-- What an option is read as. -/
abbrev Value : Key → Type
  | .buildMode => BuildMode
  | .abiVariant => AbiVariant
  | .bits => WordSize
  | .force32Bits => Bool
  | .sdkRoot | .companionRoot | .cxx | .mapFile => String
  | .useSystem _ => Source

/-- The options whose entries have a say in the value of an option. -/
def decidedBy : Key → List Key
  | .bits => [.bits, .force32Bits]
  | key => [key]

end Key

namespace Options

def value (options : Options) : (key : Key) → key.Value
  | .buildMode => options.buildMode
  | .abiVariant => options.abiVariant
  | .bits => options.wordSize
  | .force32Bits => options.force32Bits
  | .sdkRoot => options.sdkRoot
  | .companionRoot => options.companionRoot
  | .cxx => options.cxx
  | .mapFile => options.mapFile
  | .useSystem lib => options.sources.get lib

end Options

/-! ## Readers of agreeing bags -/

namespace Bag

/-- The bags have the same value for the option, or neither has one. -/
def Agree (a b : Bag) (key : Key) : Prop := a.get? key.name = b.get? key.name

variable {a b : Bag} {key : Key}

theorem Agree.effective? (h : Agree a b key) : a.effective? key = b.effective? key := by
  unfold Agree at h
  simp only [Bag.effective?, supplied?, h]

theorem Agree.required (h : Agree a b key) : a.required key = b.required key := by
  simp only [Bag.required, h.effective?]

theorem Agree.readKeyword {α : Type} (h : Agree a b key) (allowed : List String)
    (meaning : String → Option α) :
    a.readKeyword key allowed meaning = b.readKeyword key allowed meaning := by
  simp only [Bag.readKeyword, h.required]

theorem Agree.readBuildMode (h : Agree a b .buildMode) : a.readBuildMode = b.readBuildMode := by
  simp only [Bag.readBuildMode, h.effective?]

theorem Agree.readPath (h : Agree a b key) : a.readPath key = b.readPath key := by
  have hget : a.get? key.name = b.get? key.name := h
  simp only [Bag.readPath, hget, h.required]

/-- A bag that is accepted, and stays so with any legal text added. It leaves the width free. -/
def wide : Bag :=
  .ofList [("build_mode", .text "release"), ("force_32_bits", .text "no"), ("bits", .text "64")]

end Bag

theorem Sources.isSystem_eq_iff {x y : Sources} {lib : Library} :
    x.isSystem lib = y.isSystem lib ↔ x.get lib = y.get lib := by
  unfold Sources.isSystem
  cases x.get lib <;> cases y.get lib <;> decide

/-! ## Values of agreeing bags -/

namespace Options

theorem value_congr {a b : Bag} {x y : Options} (ha : ofBag a = .ok x) (hb : ofBag b = .ok y)
    {key : Key} (h : ∀ other ∈ key.decidedBy, a.Agree b other) : x.value key = y.value key := by
  have hx : a.Says x := ofBag_eq_ok_iff.mp ha
  have hy : b.Says y := ofBag_eq_ok_iff.mp hb
  have hpath (other : Key) (hother : other.domain = .path) (hagree : a.Agree b other) :
      x.textOf other = y.textOf other :=
    eq_of_eq_ok (hx.path other hother) (hy.path other hother) hagree.readPath
  cases key with
  | buildMode =>
    have hagree : a.Agree b .buildMode := h .buildMode List.mem_cons_self
    exact eq_of_eq_ok hx.buildMode hy.buildMode hagree.readBuildMode
  | abiVariant =>
    have hagree : a.Agree b .abiVariant := h .abiVariant List.mem_cons_self
    exact eq_of_eq_ok hx.abiVariant hy.abiVariant (hagree.readKeyword _ _)
  | force32Bits =>
    have hagree : a.Agree b .force32Bits := h .force32Bits List.mem_cons_self
    exact eq_of_eq_ok hx.force32Bits hy.force32Bits (hagree.readKeyword _ _)
  | bits =>
    -- Both entries are needed: the size that was read, and whether it counts.
    have hbits : a.Agree b .bits := h .bits (by decide)
    have hswitch : a.Agree b .force32Bits := h .force32Bits (by decide)
    obtain ⟨u, hu, hxsize⟩ := hx.wordSize
    obtain ⟨v, hv, hysize⟩ := hy.wordSize
    have hread : u = v := eq_of_eq_ok hu hv (hbits.readKeyword _ _)
    have hforce : x.force32Bits = y.force32Bits :=
      eq_of_eq_ok hx.force32Bits hy.force32Bits (hswitch.readKeyword _ _)
    show x.wordSize = y.wordSize
    rw [hxsize, hysize, hread, hforce]
  | useSystem lib =>
    have hagree : a.Agree b (.useSystem lib) := h (.useSystem lib) List.mem_cons_self
    have hswitch : x.sources.isSystem lib = y.sources.isSystem lib :=
      eq_of_eq_ok (hx.source lib) (hy.source lib) (hagree.readKeyword _ _)
    exact Sources.isSystem_eq_iff.mp hswitch
  | sdkRoot => exact hpath .sdkRoot rfl (h .sdkRoot List.mem_cons_self)
  | companionRoot => exact hpath .companionRoot rfl (h .companionRoot List.mem_cons_self)
  | cxx => exact hpath .cxx rfl (h .cxx List.mem_cons_self)
  | mapFile => exact hpath .mapFile rfl (h .mapFile List.mem_cons_self)

/-! ### Entries that do decide

One bag with two different texts for one option: whatever comes out differently is decided by that
option. -/

theorem exists_value_ne {key other : Key} {x y : Options} (first second : String)
    (hx : ofBag (Bag.wide.insert other.name (.text first)) = .ok x)
    (hy : ofBag (Bag.wide.insert other.name (.text second)) = .ok y)
    (hne : x.value key ≠ y.value key) :
    ∃ a b x y, ofBag a = .ok x ∧ ofBag b = .ok y ∧ (∀ third, third ≠ other → a.Agree b third) ∧
      x.value key ≠ y.value key := by
  refine ⟨_, _, x, y, hx, hy, ?_, hne⟩
  intro third hthird
  have hname : third.name ≠ other.name := fun h => hthird (Key.name_injective h)
  rw [Bag.Agree, Bag.get?_insert, Bag.get?_insert, if_neg hname, if_neg hname]

theorem exists_value_ne_of_mem_decidedBy {key other : Key} (h : other ∈ key.decidedBy) :
    ∃ a b x y, ofBag a = .ok x ∧ ofBag b = .ok y ∧ (∀ third, third ≠ other → a.Agree b third) ∧
      x.value key ≠ y.value key := by
  cases key with
  | bits =>
    -- The bag leaves the width free, or the size could not make a difference.
    rcases List.mem_cons.mp h with rfl | h
    · exact exists_value_ne "32" "64" rfl rfl (by decide)
    · rw [List.mem_singleton.mp h]
      exact exists_value_ne "yes" "no" rfl rfl (by decide)
  | buildMode =>
    rw [List.mem_singleton.mp h]
    exact exists_value_ne "release" "debug" rfl rfl (by decide)
  | abiVariant =>
    rw [List.mem_singleton.mp h]
    exact exists_value_ne "legacy" "current" rfl rfl (by decide)
  | force32Bits =>
    rw [List.mem_singleton.mp h]
    exact exists_value_ne "yes" "no" rfl rfl (by decide)
  | sdkRoot | companionRoot | cxx | mapFile =>
    rw [List.mem_singleton.mp h]
    exact exists_value_ne "a" "b" rfl rfl (by decide)
  | useSystem lib =>
    rw [List.mem_singleton.mp h]
    cases lib <;> exact exists_value_ne "yes" "no" rfl rfl (by decide)

/-- **The value of an option depends on the entries that decide it and on no others.** -/
theorem value_depends_on_decidedBy (key : Key) :
    (∀ (a b : Bag) (x y : Options), ofBag a = .ok x → ofBag b = .ok y →
      (∀ other ∈ key.decidedBy, a.Agree b other) → x.value key = y.value key) ∧
    ∀ other ∈ key.decidedBy, ∃ a b x y, ofBag a = .ok x ∧ ofBag b = .ok y ∧
      (∀ third, third ≠ other → a.Agree b third) ∧ x.value key ≠ y.value key := by
  constructor
  · intro a b x y ha hb hagree
    exact value_congr ha hb hagree
  · intro other hother
    exact exists_value_ne_of_mem_decidedBy hother

/-- Two bags that supply the same word size and leave the width free, in opposite orders and with
little else in common. -/
theorem value_depends_on_decidedBy_bits :
    let a : Bag := .ofList [("bits", .integer 64), ("force_32_bits", .text "No"),
      ("sdk_root", .text "/sdk"), ("build_mode", .text "debug")]
    let b : Bag := .ofList [("use_system_ogg", .bool true), ("build_mode", .text "RELEASE"),
      ("force_32_bits", .text "No"), ("bits", .integer 64)]
    ∃ x y, ofBag a = .ok x ∧ ofBag b = .ok y ∧
      (∀ other ∈ Key.bits.decidedBy, a.Agree b other) ∧ x.value .bits = y.value .bits ∧
      x.value .bits = .bits64 ∧ x.value .sdkRoot ≠ y.value .sdkRoot ∧
      x.value (.useSystem .ogg) ≠ y.value (.useSystem .ogg) := by
  intro a b
  have ha : ofBag a = .ok _ := rfl
  have hb : ofBag b = .ok _ := rfl
  have hagree : ∀ other ∈ Key.bits.decidedBy, a.Agree b other := by
    intro other hother
    rcases List.mem_cons.mp hother with rfl | hother
    · rfl
    · rw [List.mem_singleton.mp hother]
      rfl
  have hvalue := (value_depends_on_decidedBy .bits).1 a b _ _ ha hb hagree
  exact ⟨_, _, ha, hb, hagree, hvalue, by decide, by decide, by decide⟩

end Options
end CrossFlags
