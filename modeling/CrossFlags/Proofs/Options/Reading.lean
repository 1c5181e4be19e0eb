import CrossFlags.Options.Read
import CrossFlags.Options.Write
import CrossFlags.Proofs.Except

/-!
# What a bag says

`Options.ofBag` runs through sixteen readers and stops at the first that fails, so as a function it
is one long chain. Nothing below it needs the chain. **Reading succeeds with certain options exactly
when each option, taken by itself, reads as the value that the options have for it**
(`ofBag_eq_ok_iff`), and `Bag.Says` is that list of facts. The order of the readers decides which
error is reported and nothing else; the word size is the one value that depends on two entries.
-/

set_option autoImplicit false

namespace CrossFlags

namespace Bag

/-! ## Single readers -/

theorem checkDeclared_eq_ok_iff {bag : Bag} :
    bag.checkDeclared = .ok () ↔ bag.undeclared? = none := by
  unfold checkDeclared
  cases bag.undeclared? with
  | none => simp
  | some name => simp

theorem required_eq_ok_iff {bag : Bag} {key : Key} {text : String} :
    bag.required key = .ok text ↔ bag.effective? key = some text := by
  unfold required
  cases bag.effective? key with
  | none => simp
  | some found => simp

theorem readKeyword_eq_ok_iff {α : Type} {bag : Bag} {key : Key} {allowed : List String}
    {meaning : String → Option α} {value : α} :
    bag.readKeyword key allowed meaning = .ok value ↔
      ∃ text, bag.effective? key = some text ∧ meaning (Text.lower text) = some value := by
  unfold readKeyword
  rw [bind_eq_ok_iff]
  refine exists_congr fun text => and_congr required_eq_ok_iff ?_
  cases meaning (Text.lower text) with
  | none => simp
  | some found => simp

theorem readBuildMode_eq_ok_iff {bag : Bag} {mode : BuildMode} :
    bag.readBuildMode = .ok mode ↔
      ∃ text, bag.effective? .buildMode = some text ∧
        BuildMode.ofName? (Text.lower text) = some mode := by
  unfold readBuildMode
  cases bag.effective? .buildMode with
  | none => simp
  | some text =>
    simp only [Option.some.injEq, exists_eq_left']
    cases BuildMode.ofName? (Text.lower text) with
    | none => simp
    | some found => simp

/-- A path option reads as its text, which is not blank and no truth value. -/
theorem readPath_eq_ok_iff {bag : Bag} {key : Key} {path : String} :
    bag.readPath key = .ok path ↔
      (∀ b, bag.get? key.name ≠ some (.bool b)) ∧ bag.effective? key = some path ∧ path ≠ "" := by
  unfold readPath
  split
  · rename_i b hbool
    constructor
    · intro h; cases h
    · rintro ⟨hno, -⟩; exact absurd hbool (hno b)
  · rename_i hno
    rw [bind_eq_ok_iff]
    constructor
    · rintro ⟨text, htext, h⟩
      split at h
      · cases h
      · rename_i hne
        cases h
        exact ⟨fun b hb => hno b hb, required_eq_ok_iff.mp htext, by simpa using hne⟩
    · rintro ⟨-, htext, hne⟩
      refine ⟨path, required_eq_ok_iff.mpr htext, ?_⟩
      rw [if_neg (by simpa using hne)]

/-! ## The sources of several libraries

One step of the loop sets one library, and later steps may set it again; that they set it to the
same value is what makes the order of the libraries irrelevant. -/

theorem readSources_eq_ok_iff {bag : Bag} {libs : List Library} {start sources : Sources} :
    bag.readSources libs start = .ok sources ↔
      (∀ lib ∈ libs, bag.readSwitch (.useSystem lib) = .ok (sources.isSystem lib)) ∧
        ∀ lib, lib ∉ libs → sources.get lib = start.get lib := by
  induction libs generalizing start with
  | nil =>
    constructor
    · intro h
      cases h
      exact ⟨fun _ hlib => absurd hlib List.not_mem_nil, fun _ _ => rfl⟩
    · rintro ⟨-, hrest⟩
      rw [Sources.ext (funext fun lib => hrest lib List.not_mem_nil)]
      rfl
  | cons lib rest ih =>
    unfold readSources
    rw [bind_eq_ok_iff]
    constructor
    · rintro ⟨useSystem, hlib, hrest⟩
      obtain ⟨hread, hsame⟩ := ih.mp hrest
      have hhead : bag.readSwitch (.useSystem lib) = .ok (sources.isSystem lib) := by
        by_cases hmem : lib ∈ rest
        · exact hread lib hmem
        · -- No later step is about `lib`, so it ends as this step sets it.
          rw [hlib, Sources.isSystem, hsame lib hmem, Sources.get_set_self]
          cases useSystem <;> rfl
      refine ⟨?_, ?_⟩
      · intro other hother
        rcases List.mem_cons.mp hother with rfl | hother
        · exact hhead
        · exact hread other hother
      · intro other hother
        obtain ⟨hne, hnot⟩ := not_or.mp (mt List.mem_cons.mpr hother)
        rw [hsame other hnot, Sources.get_set_of_ne hne]
    · rintro ⟨hread, hsame⟩
      refine ⟨sources.isSystem lib, hread lib List.mem_cons_self, ih.mpr ⟨?_, ?_⟩⟩
      · intro other hother
        exact hread other (List.mem_cons_of_mem _ hother)
      · intro other hnot
        by_cases hne : other = lib
        · subst hne
          rw [Sources.get_set_self, Sources.isSystem]
          cases sources.get other <;> rfl
        · rw [Sources.get_set_of_ne hne]
          exact hsame other fun hmem => (List.mem_cons.mp hmem).elim hne hnot

/-- Reading every library leaves nothing of what it started from. -/
theorem readSources_all_eq_ok_iff {bag : Bag} {start sources : Sources} :
    bag.readSources Library.all start = .ok sources ↔
      ∀ lib, bag.readSwitch (.useSystem lib) = .ok (sources.isSystem lib) := by
  rw [readSources_eq_ok_iff]
  constructor
  · rintro ⟨hread, -⟩ lib
    exact hread lib (Library.mem_all lib)
  · intro hread
    exact ⟨fun lib _ => hread lib, fun lib hlib => absurd (Library.mem_all lib) hlib⟩

/-! ## The whole bag -/

/-- The bag says exactly these options, one by one. -/
structure Says (bag : Bag) (options : Options) : Prop where
  declared : bag.undeclared? = none
  buildMode : bag.readBuildMode = .ok options.buildMode
  abiVariant : bag.readChoice .abiVariant AbiVariant.ofName? = .ok options.abiVariant
  force32Bits : bag.readSwitch .force32Bits = .ok options.force32Bits
  /-- The supplied word size counts unless 32 bits are forced, and is read either way. -/
  wordSize : ∃ size, bag.readChoice .bits WordSize.ofName? = .ok size ∧
    options.wordSize = if options.force32Bits then .bits32 else size
  source : ∀ lib, bag.readSwitch (.useSystem lib) = .ok (options.sources.isSystem lib)
  path : ∀ key, key.domain = .path → bag.readPath key = .ok (options.textOf key)

end Bag

theorem Axes.builtWordSize_eq (axes : Axes) :
    axes.builtWordSize = if axes.force32Bits then .bits32 else axes.wordSize := by
  obtain ⟨_, _, force, size⟩ := axes
  cases force <;> cases size <;> rfl

theorem Axes.ofBag_eq_ok_iff {bag : Bag} {axes : Axes} :
    Axes.ofBag bag = .ok axes ↔
      bag.undeclared? = none ∧ bag.readBuildMode = .ok axes.buildMode ∧
        bag.readChoice .abiVariant AbiVariant.ofName? = .ok axes.abiVariant ∧
        bag.readSwitch .force32Bits = .ok axes.force32Bits ∧
        bag.readChoice .bits WordSize.ofName? = .ok axes.wordSize := by
  unfold Axes.ofBag
  simp only [bind_eq_ok_iff, pure_eq_ok_iff]
  constructor
  · rintro ⟨⟨⟩, hdeclared, mode, hmode, variant, hvariant, force, hforce, size, hsize, rfl⟩
    exact ⟨Bag.checkDeclared_eq_ok_iff.mp hdeclared, hmode, hvariant, hforce, hsize⟩
  · rintro ⟨hdeclared, hmode, hvariant, hforce, hsize⟩
    exact ⟨(), Bag.checkDeclared_eq_ok_iff.mpr hdeclared, _, hmode, _, hvariant, _, hforce, _,
      hsize, rfl⟩

/-- **Reading a bag gives certain options exactly when the bag says each of them.** -/
theorem Options.ofBag_eq_ok_iff {bag : Bag} {options : Options} :
    Options.ofBag bag = .ok options ↔ bag.Says options := by
  unfold Options.ofBag
  simp only [bind_eq_ok_iff, pure_eq_ok_iff]
  constructor
  · rintro ⟨axes, haxes, sources, hsources, sdk, hsdk, companion, hcompanion, cxx, hcxx, map, hmap,
      rfl⟩
    obtain ⟨hdeclared, hmode, hvariant, hforce, hsize⟩ := Axes.ofBag_eq_ok_iff.mp haxes
    refine ⟨hdeclared, hmode, hvariant, hforce, ⟨axes.wordSize, hsize, axes.builtWordSize_eq⟩,
      Bag.readSources_all_eq_ok_iff.mp hsources, ?_⟩
    intro key hkey
    cases key with
    | sdkRoot => exact hsdk
    | companionRoot => exact hcompanion
    | cxx => exact hcxx
    | mapFile => exact hmap
    | buildMode | abiVariant | bits | force32Bits | useSystem => cases hkey
  · intro h
    -- Where 32 bits are forced, the size that was read is not in the options.
    obtain ⟨size, hsize, hword⟩ := h.wordSize
    refine ⟨⟨options.buildMode, options.abiVariant, options.force32Bits, size⟩,
      Axes.ofBag_eq_ok_iff.mpr ⟨h.declared, h.buildMode, h.abiVariant, h.force32Bits, hsize⟩,
      options.sources, Bag.readSources_all_eq_ok_iff.mpr h.source,
      _, h.path .sdkRoot rfl, _, h.path .companionRoot rfl, _, h.path .cxx rfl,
      _, h.path .mapFile rfl, ?_⟩
    rw [Axes.builtWordSize_eq]
    exact Options.ext rfl rfl hword.symm rfl rfl rfl rfl rfl rfl

end CrossFlags
