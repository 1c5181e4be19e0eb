import CrossFlags.Assembly
import CrossFlags.Profile.Symbian

/-!
# What the flags depend on

An option that assembling ignores can be left out of a build's key, and one that it does not ignore
cannot. So the exact dependence is worth a theorem of its own: **two builds for Symbian have the
same flags exactly when their options are `Alike`**, that is, when they agree on everything but the
word size, the width switch, separators at the end of a root, and those parts of the compiler's path
that do not say where the toolchain is.

One half needs no profile: alike options have the same flags for every target. The other half reads
the options back off the flag lists. User text stands between fixed flags there, so it has to be
shown that no text can make up for another. Blocks of one length settle it: a header directory takes
two entries, the map one, the SDK's library directories as many as the profile has, and what is left
for the toolchain is then as long in both builds. All of that holds for any profile, once mode and
variant are known to agree. That they do is a fact about Symbian's tables.
-/

set_option autoImplicit false

namespace CrossFlags

theorem Query.ofLibrary_injective {a b : Library} (h : Query.ofLibrary a = Query.ofLibrary b) :
    a = b :=
  congrArg Query.library h

/-- Options that no profile can tell apart. -/
structure Options.Alike (a b : Options) : Prop where
  buildMode : a.buildMode = b.buildMode
  abiVariant : a.abiVariant = b.abiVariant
  source : ∀ lib, a.sources.get lib = b.sources.get lib
  companionRoot : a.companionRoot = b.companionRoot
  mapFile : a.mapFile = b.mapFile
  sdkRoot : Path.stem a.sdkRoot.toList = Path.stem b.sdkRoot.toList
  /-- Both toolchains are at unknown places, or both at the same known one. -/
  toolchainRoot : a.toolchainRoot?.map (Path.stem ·.toList) =
    b.toolchainRoot?.map (Path.stem ·.toList)

namespace Profile

variable {profile : Profile} {a b : Options}

/-! ## The parts with user text in them -/

theorem toolchainArgs_eq_iff :
    profile.toolchainArgs a = profile.toolchainArgs b ↔
      a.toolchainRoot?.map (Path.stem ·.toList) = b.toolchainRoot?.map (Path.stem ·.toList) := by
  unfold toolchainArgs toolchainLibDirs
  cases ha : a.toolchainRoot? with
  | none => cases hb : b.toolchainRoot? <;> simp
  | some root =>
    cases hb : b.toolchainRoot? with
    | none => simp
    | some other => simp [Path.join_eq_join_iff]

/-- A header directory takes two entries, so the entries determine the directories. -/
theorem flatMap_isystem_injective :
    ∀ {dirs others : List String},
      dirs.flatMap (fun dir => ["-isystem", dir]) = others.flatMap (fun dir => ["-isystem", dir]) →
        dirs = others
  | [], [], _ => rfl
  | [], _ :: _, h => by cases h
  | _ :: _, [], h => by cases h
  | dir :: rest, other :: more, h => by
    simp only [List.flatMap_cons] at h
    obtain ⟨hhead, htail⟩ := List.append_inj h rfl
    rw [flatMap_isystem_injective htail]
    simpa using hhead

end Profile

namespace Options.Alike

variable {a b : Options}

theorem includeDirs_eq (h : a.Alike b) (profile : Profile) :
    profile.includeDirs a = profile.includeDirs b := by
  unfold Profile.includeDirs
  rw [h.companionRoot, h.abiVariant]
  congr 1
  apply List.map_congr_left
  intro dir _
  exact Path.join_eq_join_iff.mpr h.sdkRoot

/-- Alike options have the same flags, whatever the target. -/
theorem assemble_eq (h : a.Alike b) (profile : Profile) :
    FlagSet.assemble a profile = FlagSet.assemble b profile := by
  have hjoin : ∀ relative, Path.join a.sdkRoot relative = Path.join b.sdkRoot relative := by
    intro relative
    exact Path.join_eq_join_iff.mpr h.sdkRoot
  have hsources : a.sources = b.sources := Sources.ext (funext h.source)
  unfold FlagSet.assemble Profile.productDefine
  rw [h.buildMode, h.abiVariant, h.mapFile, h.includeDirs_eq, hsources,
    Profile.toolchainArgs_eq_iff.mpr h.toolchainRoot]
  simp only [hjoin]

end Options.Alike

namespace FlagSet

variable {profile : Profile} {a b : Options}

/-! ## Reading the options back -/

theorem sources_of_discovery_eq
    (h : (assemble a profile).discovery = (assemble b profile).discovery) (lib : Library) :
    a.sources.get lib = b.sources.get lib := by
  have hsystem : a.sources.system = b.sources.system :=
    (List.map_inj_right fun _ _ => Query.ofLibrary_injective).mp h
  rw [Sources.ext_system hsystem]

theorem roots_of_compileFlags_eq (hmode : a.buildMode = b.buildMode)
    (h : (assemble a profile).compileFlags = (assemble b profile).compileFlags) :
    a.companionRoot = b.companionRoot ∧
      Path.stem a.sdkRoot.toList = Path.stem b.sdkRoot.toList := by
  unfold assemble at h
  simp only [hmode, List.append_assoc] at h
  have h := List.append_cancel_left h
  rw [← List.append_assoc, ← List.append_assoc] at h
  have h := List.append_cancel_right h
  obtain ⟨hdirs, hforced⟩ := List.append_inj' h rfl
  have hdirs := Profile.flatMap_isystem_injective hdirs
  refine ⟨(List.cons.inj hdirs).1, ?_⟩
  simpa [Path.join_eq_join_iff] using hforced

theorem mapFile_toolchain_of_linkFlags_eq
    (h : (assemble a profile).linkFlags = (assemble b profile).linkFlags) :
    a.mapFile = b.mapFile ∧
      a.toolchainRoot?.map (Path.stem ·.toList) = b.toolchainRoot?.map (Path.stem ·.toList) := by
  unfold assemble at h
  simp only [List.append_assoc] at h
  have h := List.append_cancel_left h
  obtain ⟨hmap, h⟩ := List.append_inj h rfl
  -- The SDK's directories are equally many, which leaves equally many for the toolchain.
  obtain ⟨htoolchain, -⟩ := List.append_inj' h (by simp)
  exact ⟨by simpa using hmap, Profile.toolchainArgs_eq_iff.mp htoolchain⟩

/-- Options of one mode and variant that some profile gives the same flags are alike. -/
theorem alike_of_assemble_eq (hmode : a.buildMode = b.buildMode)
    (hvariant : a.abiVariant = b.abiVariant) (h : assemble a profile = assemble b profile) :
    a.Alike b := by
  obtain ⟨hcompanion, hsdk⟩ := roots_of_compileFlags_eq hmode (congrArg compileFlags h)
  obtain ⟨hmap, htoolchain⟩ := mapFile_toolchain_of_linkFlags_eq (congrArg linkFlags h)
  exact ⟨hmode, hvariant, sources_of_discovery_eq (congrArg discovery h), hcompanion, hmap, hsdk,
    htoolchain⟩

/-! ## Symbian's tables -/

/-- Three entries are enough to tell the modes apart: where a bundle has only two, the third is the
companion's `-isystem`. -/
theorem buildMode_of_compileFlags_eq
    (h : (assemble a .symbian).compileFlags = (assemble b .symbian).compileFlags) :
    a.buildMode = b.buildMode := by
  have hstart : ∀ options : Options, (assemble options .symbian).compileFlags.take 3 =
      ((Profile.symbian.mode options.buildMode).compileFlags ++ ["-isystem"]).take 3 := by
    intro options
    obtain ⟨mode, _⟩ := options
    cases mode <;> rfl
  have hmodes : ∀ mode other : BuildMode,
      ((Profile.symbian.mode mode).compileFlags ++ ["-isystem"]).take 3 =
        ((Profile.symbian.mode other).compileFlags ++ ["-isystem"]).take 3 → mode = other := by
    intro mode other
    cases mode <;> cases other <;> decide
  apply hmodes
  rw [← hstart a, ← hstart b, h]

theorem abiVariant_of_linkLibraries_eq
    (h : (assemble a .symbian).linkLibraries = (assemble b .symbian).linkLibraries) :
    a.abiVariant = b.abiVariant := by
  have hvariants : ∀ variant other : AbiVariant,
      Profile.symbian.linkOrder variant = Profile.symbian.linkOrder other → variant = other := by
    intro variant other
    cases variant <;> cases other <;> decide
  exact hvariants _ _ h

/-- **Two builds for Symbian have the same flags exactly when their options are alike.** -/
theorem assemble_symbian_eq_iff {a b : Options} :
    assemble a .symbian = assemble b .symbian ↔ a.Alike b := by
  constructor
  · intro h
    have hmode := buildMode_of_compileFlags_eq (congrArg compileFlags h)
    have hvariant := abiVariant_of_linkLibraries_eq (congrArg linkLibraries h)
    exact alike_of_assemble_eq hmode hvariant h
  · intro h
    exact h.assemble_eq .symbian

end FlagSet
end CrossFlags
