import CrossFlags.Profile.Symbian
import CrossFlags.Proofs.Options.Normal
import CrossFlags.Proofs.Rule.Settling
import CrossFlags.Resolution

/-!
# A resolution resolves to itself

A resolution's options can be written down as text and resolved again, and what comes out is the
same resolution, flags included. Three stages have to agree for that, and each has its own reason:

* reading gives normal options, and normal options are read back from their own text;
* closing the choice of libraries keeps options normal, and a closed choice is closed already,
  since the dependency table passes the order check;
* assembling is a function of the closed options, so equal options have equal flags.

Only the middle stage is between the two readings. It is why the options that are written are not
the ones that were read the first time: a library that a dependency forced is now asked for by name.
-/

set_option autoImplicit false

namespace CrossFlags

namespace Options

/-- Closing the choice of libraries touches nothing that being normal is about. -/
theorem Normal.closed {options : Options} (h : options.Normal) : options.closed.Normal := by
  refine ⟨h.wordSize, ?_⟩
  intro key hkey
  have hpath := h.path key hkey
  cases key with
  | sdkRoot | companionRoot | cxx | mapFile => exact hpath
  | buildMode | abiVariant | bits | force32Bits | useSystem => cases hkey

/-- A closed choice of libraries is closed already. -/
theorem closed_closed (options : Options) : options.closed.closed = options.closed := by
  unfold closed applyRules
  rw [Sources.applyRules_applyRules Rule.ordered_dependencies]

end Options

namespace Resolution

theorem ofBag_eq_ok_iff {bag : Bag} {profile : Profile} {resolution : Resolution} :
    ofBag bag profile = .ok resolution ↔
      ∃ options, Options.ofBag bag = .ok options ∧ ofOptions options profile = resolution := by
  unfold ofBag
  simp only [bind_eq_ok_iff, pure_eq_ok_iff]

theorem normal_of_ofBag {bag : Bag} {profile : Profile} {resolution : Resolution}
    (h : ofBag bag profile = .ok resolution) : resolution.options.Normal := by
  obtain ⟨options, hread, rfl⟩ := ofBag_eq_ok_iff.mp h
  exact (Options.ofBag_eq_ok_iff.mp hread).normal.closed

/-- Resolving the options of a resolution gives the resolution. -/
theorem ofOptions_options_of_ofBag {bag : Bag} {profile : Profile} {resolution : Resolution}
    (h : ofBag bag profile = .ok resolution) :
    ofOptions resolution.options profile = resolution := by
  obtain ⟨options, -, rfl⟩ := ofBag_eq_ok_iff.mp h
  have hclosed : (ofOptions options profile).options.closed = options.closed :=
    options.closed_closed
  rw [ofOptions, hclosed]
  rfl

/-- **The options of a resolution, written as text in any order, resolve to it again.** -/
theorem ofBag_written_options {bag : Bag} {profile : Profile} {resolution : Resolution}
    {keys : List Key} (h : ofBag bag profile = .ok resolution) (hkeys : keys.Perm Key.all) :
    ofBag (.ofList (resolution.options.toEntries keys)) profile = .ok resolution := by
  refine ofBag_eq_ok_iff.mpr ⟨resolution.options, ?_, ofOptions_options_of_ofBag h⟩
  exact Options.ofBag_eq_ok_iff.mpr ((normal_of_ofBag h).readBack hkeys)

/-- Blanks of several kinds, letter case, an overruled word size, a number for a path and a library
that the rules force: written back to front, all of it resolves to the same again. -/
theorem ofBag_written_options_reversed :
    let bag := Bag.ofList
      [("build_mode", .text " Release_Debug\n"), ("bits", .integer 64),
       ("force_32_bits", .bool true), ("sdk_root", .text "\u3000/Opt/EPOC \t"),
       ("map_file", .integer (-7)), ("use_system_theora", .text "YES"), ("cxx", .text "Auto")]
    ∃ resolution, ofBag bag .symbian = .ok resolution ∧
      resolution.options.textOf .sdkRoot = "/Opt/EPOC" ∧
      resolution.options.sources.system = [.theora, .vorbis, .ogg] ∧
      Key.all.reverse.Perm Key.all ∧
      ofBag (.ofList (resolution.options.toEntries Key.all.reverse)) .symbian = .ok resolution := by
  intro bag
  have hresolves : ofBag bag .symbian = .ok _ := rfl
  exact ⟨_, hresolves, by decide, by decide, Key.all.reverse_perm,
    ofBag_written_options hresolves Key.all.reverse_perm⟩

end Resolution
end CrossFlags
