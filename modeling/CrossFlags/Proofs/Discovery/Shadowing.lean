import CrossFlags.Assembly
import CrossFlags.Profile.Symbian
import CrossFlags.Proofs.Discovery.Answers
import CrossFlags.Proofs.Flag.Reading
import CrossFlags.Proofs.Flag.Units

/-!
# Which reported flags survive a merge

An option and its value are appended as one, but what is present is looked up in the flat list. A
single flag is then found where it is only the value of an option, and a pair where it is only the
value of one unit and the entry behind it. **A reported flag that is shadowed in this way is not
appended, and the merged list does not have it** (`discover_drops_a_shadowed_flag`): after
`-Xlinker -L/opt/lib` the directory is passed to the linker once more by name, and a plain
`-L/opt/lib` for the compiler driver is lost.

`discover_keeps_unshadowed` says that shadowing is the only way to lose a flag, and that it takes an
option whose value begins like the flag. Both need complete lists to begin with: no part of the
assembled flags and no argument of an answer ends in an option without its value, unless the line
that was read did.
-/

set_option autoImplicit false

namespace CrossFlags

open scoped List

/-! ## What an answer consists of -/

namespace Argument

/-- An argument as reading makes it: it is paired exactly if its word takes a value. -/
def WellRead : Argument → Prop
  | .paired word _ => Flag.takesValue word = true
  | .lettered _ _ => True
  | .plain word => Flag.takesValue word = false

theorem wellRead_alone (word : String) : (alone word).WellRead := by
  unfold alone
  split
  · assumption
  · rename_i hword
    split
    · split
      · exact Bool.eq_false_iff.mpr hword
      · trivial
    · exact Bool.eq_false_iff.mpr hword

theorem wellRead_taking (word next : String) : (taking word next).WellRead := by
  unfold taking
  split
  · assumption
  · rename_i hword
    split
    · trivial
    · exact Bool.eq_false_iff.mpr hword

theorem wellRead_of_mem_readAll {argument : Argument} {words : List String}
    (h : argument ∈ readAll words) : argument.WellRead :=
  forall_mem_readAll (fun word _ => wellRead_alone word)
    (fun word _ _ next _ => wellRead_taking word next) argument h

/-- The argument is an option whose value is missing. -/
def isWaiting : Argument → Bool
  | .paired _ none => true
  | _ => false

theorem endsWaiting_compileFlags {argument : Argument} (hread : argument.WellRead)
    (hcomplete : argument.isWaiting = false) :
    Flag.endsWaiting argument.compileFlags = false := by
  cases argument with
  | paired word value? =>
    cases value? with
    | none => cases hcomplete
    | some value =>
      rw [compileFlags]
      split
      · exact Flag.endsWaiting_pair hread value
      · rfl
  | lettered letter value =>
    cases letter with
    | headerDir =>
      rw [compileFlags, Flag.endsWaiting_singleton]
      exact Flag.takesValue_append (by decide) value
    | define => rfl
    | libraryDir => rfl
    | library => rfl
  | plain word =>
    rw [compileFlags]
    split
    · rw [Flag.endsWaiting_singleton]
      exact hread
    · rfl

theorem endsWaiting_linkFlags {argument : Argument} (hread : argument.WellRead)
    (hcomplete : argument.isWaiting = false) :
    Flag.endsWaiting argument.linkFlags = false := by
  cases argument with
  | paired word value? =>
    cases value? with
    | none => cases hcomplete
    | some value =>
      rw [linkFlags]
      split
      · rfl
      · exact Flag.endsWaiting_pair hread value
  | lettered letter value =>
    cases letter with
    | libraryDir =>
      rw [linkFlags, Flag.endsWaiting_singleton]
      exact Flag.takesValue_append (by decide) value
    | define => rfl
    | headerDir => rfl
    | library => rfl
  | plain word =>
    rw [linkFlags]
    split
    · rw [Flag.endsWaiting_singleton]
      exact hread
    · rfl

end Argument

namespace Answer

/-- The line ends in an option that still waits for its value. -/
def endsWaiting (line : String) : Bool :=
  (Argument.readAll (Text.words line)).any Argument.isWaiting

theorem endsWaiting_read {line : String} (h : endsWaiting line = false) :
    Flag.endsWaiting (read line).compileFlags = false ∧
      Flag.endsWaiting (read line).linkFlags = false := by
  have hcomplete : ∀ argument ∈ Argument.readAll (Text.words line), argument.isWaiting = false := by
    simpa [endsWaiting] using h
  refine ⟨Flag.endsWaiting_flatMap ?_, Flag.endsWaiting_flatMap ?_⟩
  · intro argument hargument
    exact Argument.endsWaiting_compileFlags (Argument.wellRead_of_mem_readAll hargument)
      (hcomplete argument hargument)
  · intro argument hargument
    exact Argument.endsWaiting_linkFlags (Argument.wellRead_of_mem_readAll hargument)
      (hcomplete argument hargument)

end Answer

/-! ## What an assembled flag set consists of -/

namespace FlagSet

theorem endsWaiting_assemble_compileFlags (options : Options) :
    Flag.endsWaiting (assemble options .symbian).compileFlags = false := by
  have hmode : Flag.endsWaiting (Profile.symbian.mode options.buildMode).compileFlags = false := by
    cases options.buildMode <;> rfl
  have hdirs : Flag.endsWaiting ((Profile.symbian.includeDirs options).flatMap
      fun dir => ["-isystem", dir]) = false :=
    Flag.endsWaiting_flatMap fun dir _ => Flag.endsWaiting_pair (by decide) dir
  have hforced : Flag.endsWaiting
      ["-include", Path.join options.sdkRoot Profile.symbian.forcedInclude] = false :=
    Flag.endsWaiting_pair (by decide) _
  exact Flag.endsWaiting_append
    (Flag.endsWaiting_append (Flag.endsWaiting_append hmode hdirs) hforced) (by decide)

theorem endsWaiting_assemble_linkFlags (options : Options) :
    Flag.endsWaiting (assemble options .symbian).linkFlags = false := by
  have hdirs (dirs : List String) : Flag.endsWaiting (dirs.map ("-L" ++ ·)) = false := by
    refine Flag.endsWaiting_of_forall fun word hword => ?_
    obtain ⟨dir, -, rfl⟩ := List.mem_map.mp hword
    exact Flag.takesValue_append (by decide) dir
  have hmap : Flag.endsWaiting ["-Wl,-Map=" ++ options.mapFile] = false := by
    rw [Flag.endsWaiting_singleton]
    exact Flag.takesValue_append (by decide) options.mapFile
  have htoolchain : Flag.endsWaiting (Profile.symbian.toolchainArgs options) = false := by
    unfold Profile.toolchainArgs
    split
    · exact hdirs _
    · rfl
  have hsdk : Flag.endsWaiting (Profile.symbian.sdkLibDirs.map
      fun dir => "-L" ++ Path.join options.sdkRoot dir) = false := by
    have hboth := hdirs (Profile.symbian.sdkLibDirs.map (Path.join options.sdkRoot))
    rwa [List.map_map] at hboth
  exact Flag.endsWaiting_append
    (Flag.endsWaiting_append (Flag.endsWaiting_append (by decide) hmap) htoolchain) hsdk

end FlagSet

/-! ## Flags that are shadowed -/

namespace Flag

/-- A reported unit that is never appended: the base does not have it, but at each of its reports
its entries stand side by side in the list so far. -/
def Shadowed (base : List String) (reported : List Unit) (unit : Unit) : Prop :=
  unit ∉ units base ∧ ∀ before after, reported = before ++ unit :: after →
    unit.words <:+: before.foldl mergeUnit base

/-- The merged list has every reported unit that is not shadowed. A unit cannot be shadowed where
no option has its first entry as a value. -/
structure KeepsUnshadowed (base : List String) (reports : List (List String))
    (merged : List String) : Prop where
  kept_iff : ∀ flags ∈ reports, ∀ unit ∈ units flags,
    (unit ∈ units merged ↔ ¬ Shadowed base (reports.flatMap units) unit)
  kept_of_free : ∀ flags ∈ reports, ∀ unit ∈ units flags,
    (∀ option value, Unit.pair option value ∈ units base ++ reports.flatMap units →
      value ≠ unit.front) → unit ∈ units merged

/-- Merging complete reports into a complete list keeps what is not shadowed. -/
theorem keepsUnshadowed_foldl {base : List String} {reports : List (List String)}
    (hbase : endsWaiting base = false) (hreports : ∀ flags ∈ reports, endsWaiting flags = false) :
    KeepsUnshadowed base reports (reports.foldl mergeUnique base) := by
  have hcomplete : ∀ unit ∈ reports.flatMap units, unit.Complete := by
    intro unit hunit
    obtain ⟨flags, hflags, hunit⟩ := List.mem_flatMap.mp hunit
    exact endsWaiting_eq_false_iff.mp (hreports flags hflags) unit hunit
  rw [foldl_mergeUnique]
  constructor
  · intro flags hflags unit hunit
    rw [mem_units_foldl_mergeUnit_iff hbase hcomplete]
    constructor
    · rintro (hmem | ⟨before, after, hsplit, hnot⟩) ⟨hbase, hshadow⟩
      · exact hbase hmem
      · exact hnot (hshadow before after hsplit)
    · intro hnot
      by_contra hlost
      rw [not_or, not_exists] at hlost
      refine hnot ⟨hlost.1, fun before after hsplit => ?_⟩
      by_contra happended
      exact hlost.2 before ⟨after, hsplit, happended⟩
  · intro flags hflags unit hunit hfree
    exact mem_units_foldl_mergeUnit_of_free hbase hcomplete
      (List.mem_flatMap.mpr ⟨flags, hflags, hunit⟩) hfree

end Flag

/-! ## Discovery on an assembled flag set -/

namespace Discovery

variable {ε : Type}

/-- What the probe answers it has read in lines that end in no option still waiting. -/
def ReadsComplete (probe : Query → Except ε Answer) : Prop :=
  ∀ query answer, probe query = .ok answer →
    ∃ line, Answer.endsWaiting line = false ∧ Answer.read line = answer

end Discovery

namespace FlagSet

/-- **Discovery on an assembled flag set** loses the reported flags that are shadowed, and no
others. -/
theorem discover_keeps_unshadowed {ε : Type} {options : Options}
    {probe : Query → Except ε Answer} {merged : FlagSet} (hread : Discovery.ReadsComplete probe)
    (h : (assemble options .symbian).discover probe .symbian = .ok merged) :
    ∃ answers, (assemble options .symbian).discovery.mapM probe = .ok answers ∧
      Flag.KeepsUnshadowed (assemble options .symbian).compileFlags
        (answers.map Answer.compileFlags) merged.compileFlags ∧
      Flag.KeepsUnshadowed (assemble options .symbian).linkFlags
        (answers.map Answer.linkFlags) merged.linkFlags := by
  obtain ⟨answers, hanswers, rfl⟩ := discover_eq_ok_iff.mp h
  have hcomplete : ∀ answer ∈ answers, Flag.endsWaiting answer.compileFlags = false ∧
      Flag.endsWaiting answer.linkFlags = false := by
    intro answer hanswer
    obtain ⟨query, -, hquery⟩ := exists_of_mem_mapM hanswers hanswer
    obtain ⟨line, hline, rfl⟩ := hread query answer hquery
    exact Answer.endsWaiting_read hline
  refine ⟨answers, hanswers, ?_, ?_⟩
  · rw [compileFlags_withAnswers]
    refine Flag.keepsUnshadowed_foldl (endsWaiting_assemble_compileFlags options) ?_
    exact List.forall_mem_map.mpr fun answer hanswer => (hcomplete answer hanswer).1
  · rw [linkFlags_withAnswers]
    refine Flag.keepsUnshadowed_foldl (endsWaiting_assemble_linkFlags options) ?_
    exact List.forall_mem_map.mpr fun answer hanswer => (hcomplete answer hanswer).2

/-- Opus passes a directory on to the linker; ogg reports the same directory for the compiler
driver, and a flag that nobody shadows. -/
theorem discover_keeps_unshadowed_pthread :
    let options : Options :=
      { buildMode := .release, abiVariant := .current, wordSize := .bits32, force32Bits := true
        sources := (Sources.bundled.set .opus .system).set .ogg .system
        sdkRoot := "/sdk", companionRoot := "/proj", cxx := "g++", mapFile := "a.map" }
    let probe : Query → Except String Answer := fun query =>
      .ok (Answer.read (if query.library = .opus then "-isystem /opt -Xlinker -L/opt/lib -lopus"
        else "-pthread -L/opt/lib -logg"))
    Discovery.ReadsComplete probe ∧
      ∃ merged, (assemble options .symbian).discover probe .symbian = .ok merged ∧
        Flag.Unit.single "-pthread" ∈ Flag.units merged.compileFlags ∧
        Flag.Unit.single "-L/opt/lib" ∉ Flag.units merged.linkFlags ∧
        ∃ answers, (assemble options .symbian).discovery.mapM probe = .ok answers ∧
          Flag.KeepsUnshadowed (assemble options .symbian).compileFlags
            (answers.map Answer.compileFlags) merged.compileFlags ∧
          Flag.KeepsUnshadowed (assemble options .symbian).linkFlags
            (answers.map Answer.linkFlags) merged.linkFlags := by
  intro options probe
  have hread : Discovery.ReadsComplete probe := by
    intro query answer hquery
    cases hquery
    refine ⟨_, ?_, rfl⟩
    split
    · decide
    · decide
  have hmerged : (assemble options .symbian).discover probe .symbian = .ok _ := rfl
  exact ⟨hread, _, hmerged, by decide, by decide, discover_keeps_unshadowed hread hmerged⟩

/-- Complete lines alone do not keep every flag. A line that passes a directory on to the linker
and then names it for the compiler driver too loses the second. -/
theorem discover_drops_a_shadowed_flag :
    ¬ ∀ (options : Options) (probe : Query → Except String Answer) (merged : FlagSet),
      Discovery.ReadsComplete probe →
      (assemble options .symbian).discover probe .symbian = .ok merged →
      ∀ query ∈ (assemble options .symbian).discovery, ∀ answer, probe query = .ok answer →
        (∀ unit ∈ Flag.units answer.compileFlags, unit ∈ Flag.units merged.compileFlags) ∧
        ∀ unit ∈ Flag.units answer.linkFlags, unit ∈ Flag.units merged.linkFlags := by
  intro h
  let options : Options :=
    { buildMode := .release, abiVariant := .current, wordSize := .bits32, force32Bits := true
      sources := Sources.bundled.set .ogg .system
      sdkRoot := "/sdk", companionRoot := "/proj", cxx := "g++", mapFile := "a.map" }
  let probe : Query → Except String Answer := fun _ =>
    .ok (Answer.read "-Xlinker -L/opt/lib -L/opt/lib -logg\n")
  have hread : Discovery.ReadsComplete probe := by
    intro query answer hquery
    cases hquery
    exact ⟨_, by decide, rfl⟩
  have hkept : ∀ unit ∈ Flag.units (Answer.read _).linkFlags, unit ∈ Flag.units _ :=
    (h options probe _ hread rfl (.ofLibrary .ogg) (by decide) _ rfl).2
  revert hkept
  decide

end FlagSet
end CrossFlags
