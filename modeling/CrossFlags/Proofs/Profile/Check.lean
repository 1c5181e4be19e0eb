import CrossFlags.Assembly
import CrossFlags.Profile.Symbian

/-!
# What a checked profile promises

`Profile.fault?` reads tables. Who relies on it wants to know about builds: that the ones for one
ABI do not define what tells of the other, and that no two build modes come out alike. Each of the
two is in the hands of one clause of the check, and the clauses do not go equally far.

A build mode stands at the front of two lists, and what follows does not depend on it. So builds in
two modes are equal exactly if the modes contribute the same, whatever the options, and the clause
on modes is as good as a look at every build (`check_tells_whether_modes_are_apart`).

An ABI variant shares its list with others. The clause on variants compares the two with each other
and not with what stands beside them, so **a define of the other variant can still come from the
build mode, from the profile's own defines or from the product header, and from nowhere else**
(`other_variant_defined_only_beside_variant`). Symbian's tables have nothing of the kind.
-/

set_option autoImplicit false

namespace CrossFlags

open scoped List

namespace Profile

variable {profile : Profile}

/-! ## The clauses of the check -/

theorem mode_injective_iff :
    Function.Injective profile.mode ↔
      ¬ (profile.release = profile.releaseDebug ∨ profile.release = profile.debug ∨
        profile.releaseDebug = profile.debug) := by
  constructor
  · rintro h (hsame | hsame | hsame)
    · exact absurd (@h .release .releaseDebug hsame) (by decide)
    · exact absurd (@h .release .debug hsame) (by decide)
    · exact absurd (@h .releaseDebug .debug hsame) (by decide)
  · intro h
    simp only [not_or] at h
    obtain ⟨hfirst, hsecond, hthird⟩ := h
    intro mode other hsame
    cases mode <;> cases other
    case release.releaseDebug => exact absurd hsame hfirst
    case releaseDebug.release => exact absurd hsame.symm hfirst
    case release.debug => exact absurd hsame hsecond
    case debug.release => exact absurd hsame.symm hsecond
    case releaseDebug.debug => exact absurd hsame hthird
    case debug.releaseDebug => exact absurd hsame.symm hthird
    all_goals rfl

theorem abiDefinesDisjoint_of_fault?_eq_none (h : profile.fault? = none) :
    profile.abiDefinesDisjoint = true := by
  cases hdisjoint : profile.abiDefinesDisjoint with
  | true => rfl
  | false => simp [fault?, hdisjoint] at h

section

variable (hdisjoint : profile.abiDefinesDisjoint = true) (hentry : profile.libraries.entry ≠ [])
  (hsupport : profile.libraries.toolchainSupport ≠ [])

include hdisjoint hentry hsupport

/-- Where the other clauses are met, only the modes are left to find fault with. -/
theorem fault?_eq_ite :
    profile.fault? =
      if profile.release = profile.releaseDebug ∨ profile.release = profile.debug ∨
          profile.releaseDebug = profile.debug then some .sameModes
      else none := by
  have hgroups : (profile.libraries.entry.isEmpty ||
      profile.libraries.toolchainSupport.isEmpty) = false := by simp [hentry, hsupport]
  rw [fault?, hdisjoint, hgroups]
  rfl

theorem fault?_eq_none_iff_mode_injective :
    profile.fault? = none ↔ Function.Injective profile.mode := by
  rw [fault?_eq_ite hdisjoint hentry hsupport, mode_injective_iff]
  split <;> simp_all

theorem fault?_eq_sameModes_iff_not_mode_injective :
    profile.fault? = some .sameModes ↔ ¬ Function.Injective profile.mode := by
  rw [fault?_eq_ite hdisjoint hentry hsupport, mode_injective_iff]
  split <;> simp_all

end

/-! ## Build modes -/

/-- No two build modes give the options the same flags. -/
def SeparatesModes (profile : Profile) (options : Options) : Prop :=
  ∀ mode other : BuildMode, mode ≠ other →
    FlagSet.assemble { options with buildMode := mode } profile ≠
      FlagSet.assemble { options with buildMode := other } profile

/-- What a mode contributes can be read off a build, and is all that a build has of its mode. -/
theorem assemble_with_mode_eq_iff {options : Options} {mode other : BuildMode} :
    FlagSet.assemble { options with buildMode := mode } profile =
        FlagSet.assemble { options with buildMode := other } profile ↔
      profile.mode mode = profile.mode other := by
  constructor
  · intro h
    have hdefines := congrArg FlagSet.defines h
    have hcompile := congrArg FlagSet.compileFlags h
    simp only [FlagSet.assemble, List.append_assoc] at hdefines hcompile
    have hdefines := List.append_cancel_right hdefines
    have hcompile := List.append_cancel_right hcompile
    cases hmode : profile.mode mode
    cases hother : profile.mode other
    rw [hmode, hother] at hdefines hcompile
    rw [ModePart.mk.injEq]
    exact ⟨hcompile, hdefines⟩
  · intro h
    simp only [FlagSet.assemble, h]
    rfl

theorem separatesModes_iff (options : Options) :
    profile.SeparatesModes options ↔ Function.Injective profile.mode := by
  constructor
  · intro h mode other hsame
    refine Decidable.byContradiction fun hne => ?_
    exact h mode other hne (assemble_with_mode_eq_iff.mpr hsame)
  · intro h mode other hne hsame
    exact hne (h (assemble_with_mode_eq_iff.mp hsame))

/-- **The check tells whether modes are apart.** Where a profile's variants share no define and its
outer groups are there, it passes exactly if all options have different builds in different modes.
Otherwise the modes are what it complains about, and then no options keep them apart. -/
theorem check_tells_whether_modes_are_apart (hdisjoint : profile.abiDefinesDisjoint = true)
    (hentry : profile.libraries.entry ≠ []) (hsupport : profile.libraries.toolchainSupport ≠ []) :
    (profile.fault? = none ↔ ∀ options, profile.SeparatesModes options) ∧
      (profile.fault? = some .sameModes ↔ ∀ options, ¬ profile.SeparatesModes options) := by
  rw [fault?_eq_none_iff_mode_injective hdisjoint hentry hsupport,
    fault?_eq_sameModes_iff_not_mode_injective hdisjoint hentry hsupport]
  simp only [separatesModes_iff]
  -- Options do not occur any more, and there are some.
  let options : Options :=
    { buildMode := .release, abiVariant := .current, wordSize := .bits32, force32Bits := true
      sources := .bundled, sdkRoot := "", companionRoot := "", cxx := "", mapFile := "" }
  exact ⟨⟨fun h _ => h, fun h => h options⟩, ⟨fun h _ => h, fun h => h options⟩⟩

/-- Two modes of this profile compile alike and differ in one define. -/
theorem check_tells_whether_modes_are_apart_by_a_define :
    let profile : Profile :=
      { Profile.symbian with
        releaseDebug := { Profile.symbian.release with defines := ["DEBUG_ENABLED"] } }
    profile.abiDefinesDisjoint = true ∧ profile.libraries.entry ≠ [] ∧
      profile.libraries.toolchainSupport ≠ [] ∧ profile.fault? = none ∧
      (profile.fault? = none ↔ ∀ options, profile.SeparatesModes options) ∧
      (profile.fault? = some .sameModes ↔ ∀ options, ¬ profile.SeparatesModes options) := by
  intro profile
  have hdisjoint : profile.abiDefinesDisjoint = true := by decide
  have hentry : profile.libraries.entry ≠ [] := by decide
  have hsupport : profile.libraries.toolchainSupport ≠ [] := by decide
  exact ⟨hdisjoint, hentry, hsupport, by decide,
    check_tells_whether_modes_are_apart hdisjoint hentry hsupport⟩

/-! ## ABI variants -/

/-- The defines of a build that its variant does not contribute. -/
def definesBesideVariant (profile : Profile) (options : Options) : List String :=
  (profile.mode options.buildMode).defines ++ profile.defines ++
    [profile.productDefine options.sdkRoot]

theorem mem_defines_assemble {options : Options} {define : String} :
    define ∈ (FlagSet.assemble options profile).defines ↔
      define ∈ (profile.abi options.abiVariant).allDefines ∨
        define ∈ profile.definesBesideVariant options := by
  simp only [FlagSet.assemble, definesBesideVariant, List.mem_append, or_assoc]
  exact or_left_comm

theorem not_mem_allDefines_of_mem_other (hdisjoint : profile.abiDefinesDisjoint = true)
    {variant : AbiVariant} {define : String} (h : define ∈ (profile.abi variant.other).allDefines) :
    define ∉ (profile.abi variant).allDefines := by
  rw [abiDefinesDisjoint_iff] at hdisjoint
  cases variant with
  | legacy => exact hdisjoint define h
  | current => exact fun hcurrent => hdisjoint define hcurrent h

/-- **Defines after the check.** A build has all defines of its own variant. One of the other
variant it has exactly if the build mode, the profile or the product header contributes it. -/
theorem other_variant_defined_only_beside_variant (h : profile.fault? = none) (options : Options) :
    (∀ define ∈ (profile.abi options.abiVariant).allDefines,
        define ∈ (FlagSet.assemble options profile).defines) ∧
      ∀ define ∈ (profile.abi options.abiVariant.other).allDefines,
        (define ∈ (FlagSet.assemble options profile).defines ↔
          define ∈ profile.definesBesideVariant options) := by
  constructor
  · intro define hdefine
    exact mem_defines_assemble.mpr (Or.inl hdefine)
  · intro define hother
    have hnot := not_mem_allDefines_of_mem_other (abiDefinesDisjoint_of_fault?_eq_none h) hother
    rw [mem_defines_assemble]
    exact or_iff_right hnot

/-- In this profile the debug mode asks for the graphics of the legacy ABI. Builds for the current
one have that define in debug mode, and do not have it in release mode. -/
theorem other_variant_defined_only_beside_variant_in_debug_mode :
    let profile : Profile :=
      { Profile.symbian with
        debug := { Profile.symbian.debug with defines := ["GLES1_ENABLED"] } }
    let debug : Options :=
      { buildMode := .debug, abiVariant := .current, wordSize := .bits32, force32Bits := true
        sources := .bundled, sdkRoot := "/sdk", companionRoot := "/proj", cxx := "g++"
        mapFile := "a.map" }
    let release : Options := { debug with buildMode := .release }
    profile.fault? = none ∧
      "GLES1_ENABLED" ∈ (FlagSet.assemble debug profile).defines ∧
      "GLES1_ENABLED" ∉ (FlagSet.assemble release profile).defines := by
  intro profile debug release
  have hcheck : profile.fault? = none := by decide
  have hother : "GLES1_ENABLED" ∈ (profile.abi AbiVariant.current.other).allDefines := by decide
  refine ⟨hcheck, ?_, ?_⟩
  · obtain ⟨-, hiff⟩ := other_variant_defined_only_beside_variant hcheck debug
    exact (hiff _ hother).mpr (by decide)
  · obtain ⟨-, hiff⟩ := other_variant_defined_only_beside_variant hcheck release
    exact mt (hiff _ hother).mp (by decide)

/-- A checked profile can define for every build what only one variant should have. -/
theorem base_define_tells_of_other_variant :
    ¬ ∀ (profile : Profile) (options : Options), profile.fault? = none →
      (∀ define ∈ (profile.abi options.abiVariant).allDefines,
          define ∈ (FlagSet.assemble options profile).defines) ∧
        ∀ define ∈ (profile.abi options.abiVariant.other).allDefines,
          define ∉ (FlagSet.assemble options profile).defines := by
  intro h
  let profile : Profile := { Profile.symbian with defines := ["GLES1_ENABLED"] }
  let options : Options :=
    { buildMode := .release, abiVariant := .current, wordSize := .bits32, force32Bits := true
      sources := .bundled, sdkRoot := "/sdk", companionRoot := "/proj", cxx := "g++"
      mapFile := "a.map" }
  obtain ⟨-, hexclusive⟩ := h profile options (by decide)
  exact hexclusive "GLES1_ENABLED" (by decide) (by decide)

theorem isPrefix_productDefine (profile : Profile) (sdkRoot : String) :
    "__PRODUCT_INCLUDE__=\"".toList <+: (profile.productDefine sdkRoot).toList := by
  have hfront (front middle back : String) : front.toList <+: (front ++ middle ++ back).toList := by
    simp only [String.toList_append, List.append_assoc, List.prefix_append]
  exact hfront _ _ _

/-- Symbian's modes and base defines say nothing of a variant, and neither does the product header,
wherever the SDK is. So its builds are exclusive. -/
theorem symbian_defines_one_variant (options : Options) :
    ∀ define ∈ (Profile.symbian.abi options.abiVariant.other).allDefines,
      define ∉ (FlagSet.assemble options .symbian).defines := by
  have htables : ∀ (variant : AbiVariant) (mode : BuildMode),
      ∀ define ∈ (Profile.symbian.abi variant).allDefines,
        define ∉ (Profile.symbian.mode mode).defines ++ Profile.symbian.defines ∧
          ¬ "__PRODUCT_INCLUDE__=\"".toList <+: define.toList := by
    intro variant mode
    cases variant <;> cases mode <;> decide
  intro define hother hdefine
  obtain ⟨htable, hproduct⟩ := htables _ options.buildMode define hother
  rcases mem_defines_assemble.mp hdefine with hown | hbeside
  · exact not_mem_allDefines_of_mem_other (by decide) hother hown
  · rw [definesBesideVariant, List.mem_append, List.mem_singleton] at hbeside
    rcases hbeside with hmem | rfl
    · exact htable hmem
    · exact hproduct (isPrefix_productDefine _ options.sdkRoot)

end Profile
end CrossFlags
