import CrossFlags.CommandLine.Run
import CrossFlags.Proofs.Loading
import CrossFlags.Proofs.PkgConfig.Tool
import CrossFlags.Proofs.Resolution.Invariant

/-!
# A resolving run leaves all or nothing

What a resolving run prints is fed to a compiler, so half an answer would be worse than none. A run
has up to five stages that can fail: the file, the environment, the options, the search for the tool
and each of its queries. `Reaches` lists what has to go well, stage by stage and without the code
that goes through them: what loading, the search and a query come to is said by `Loader.Gives`,
`PkgConfig.Locates` and `PkgConfig.Answers`, and there as well how each of them fails. The run ends
with status 0 exactly if all of it goes well, and then prints the rendering of what was reached;
otherwise it ends with status 1 and prints nothing (`run_all_or_nothing`).

The last two stages belong to a run only where it is asked to probe and something is owed. So where
no library comes from the system, asking for it changes nothing, and the machine that is asked may
lack the tool, or have another one, or be another machine, as long as it supplies the same options.
-/

set_option autoImplicit false

namespace CrossFlags
namespace CommandLine

/-- What loading and reading the options come to. -/
def Loads (host : Host) (loader : Loader) (first : Resolution) : Prop :=
  ∃ bag, loader.Gives host (.ok bag) ∧ Resolution.ofBag bag target = .ok first

/-- What a resolving run comes to where nothing goes wrong. -/
inductive Reaches (host : Host) (loader : Loader) (settings : PkgConfig.Settings) (probe : Bool) :
    Resolution → Prop
  | unprobed {first : Resolution} (hloads : Loads host loader first)
      (howed : probe = true → first.flags.discovery = []) :
    Reaches host loader settings probe first
  | probed {first : Resolution} {binary : Octets} {answers : List Answer}
      (hloads : Loads host loader first) (hprobe : probe = true)
      (howed : first.flags.discovery ≠ []) (hlocate : PkgConfig.Locates host binary)
      (hanswers : List.Forall₂
        (fun query answer => PkgConfig.Answers host binary settings query (.ok answer))
        first.flags.discovery answers) :
    Reaches host loader settings probe
      { first with flags := first.flags.withAnswers target answers }

variable {host : Host} {loader : Loader} {settings : PkgConfig.Settings} {probe : Bool}
  {first final : Resolution}

theorem probed_of_not_owed (h : probe = true → first.flags.discovery = []) :
    probed host settings probe first = .ok first := by
  unfold probed
  rw [if_neg]
  intro howed
  obtain ⟨hprobe, hsome⟩ := Bool.and_eq_true_iff.mp howed
  rw [h hprobe] at hsome
  cases hsome

theorem probed_of_owed (hprobe : probe = true) (howed : first.flags.discovery ≠ []) :
    probed host settings probe first = .ok final ↔
      ∃ binary answers, PkgConfig.Locates host binary ∧
        List.Forall₂
          (fun query answer => PkgConfig.Answers host binary settings query (.ok answer))
          first.flags.discovery answers ∧
        { first with flags := first.flags.withAnswers target answers } = final := by
  simp only [← PkgConfig.locate?_eq_some_iff, ← PkgConfig.ask_eq_iff]
  have hpending : (probe && !first.flags.discovery.isEmpty) = true := by simp [hprobe, howed]
  unfold probed
  rw [if_pos hpending]
  cases hlocate : PkgConfig.locate? host with
  | none =>
    constructor
    · intro h; cases h
    · rintro ⟨_, _, h, -⟩; cases h
  | some binary =>
    simp only [mapError_eq_ok_iff, Resolution.probe_eq_ok_iff, mapM_eq_ok_iff_forall₂,
      Option.some.injEq, exists_and_left, exists_eq_left']

theorem resolved_eq_ok_iff :
    resolved host loader settings probe = .ok final ↔ Reaches host loader settings probe final := by
  have hloads : resolved host loader settings probe = .ok final ↔
      ∃ first, Loads host loader first ∧ probed host settings probe first = .ok final := by
    unfold resolved Loads
    simp only [bind_eq_ok_iff, mapError_eq_ok_iff, Loader.load_eq_iff]
    constructor
    · rintro ⟨bag, hbag, first, hfirst, hfinal⟩
      exact ⟨first, ⟨bag, hbag, hfirst⟩, hfinal⟩
    · rintro ⟨first, ⟨bag, hbag, hfirst⟩, hfinal⟩
      exact ⟨bag, hbag, first, hfirst, hfinal⟩
  rw [hloads]
  constructor
  · rintro ⟨first, hfirst, hfinal⟩
    by_cases howed : probe = true ∧ first.flags.discovery ≠ []
    · obtain ⟨binary, answers, hlocate, hanswers, rfl⟩ :=
        (probed_of_owed howed.1 howed.2).mp hfinal
      exact .probed hfirst howed.1 howed.2 hlocate hanswers
    · have hnone : probe = true → first.flags.discovery = [] := by
        intro hprobe
        by_contra hne
        exact howed ⟨hprobe, hne⟩
      rw [probed_of_not_owed hnone] at hfinal
      cases hfinal
      exact .unprobed hfirst hnone
  · intro h
    cases h with
    | unprobed hfirst hnone => exact ⟨final, hfirst, probed_of_not_owed hnone⟩
    | probed hfirst hprobe howed hlocate hanswers =>
      exact ⟨_, hfirst, (probed_of_owed hprobe howed).mpr ⟨_, _, hlocate, hanswers, rfl⟩⟩

/-- Where nothing is owed, probing or not, what is reached is what is loaded. -/
theorem reaches_iff_loads (h : ∀ first, Loads host loader first → probe = true →
    first.flags.discovery = []) :
    Reaches host loader settings probe final ↔ Loads host loader final := by
  constructor
  · intro hreaches
    cases hreaches with
    | unprobed hloads => exact hloads
    | probed hloads hprobe howed => exact absurd (h _ hloads hprobe) howed
  · intro hloads
    exact .unprobed hloads (h final hloads)

theorem discovery_eq_nil_of_loads (hloads : Loads host loader first)
    (hsystem : first.options.sources.system = []) : first.flags.discovery = [] := by
  obtain ⟨bag, -, hfirst⟩ := hloads
  obtain ⟨options, -, rfl⟩ := Resolution.ofBag_eq_ok_iff.mp hfirst
  have hpending := FlagSet.pendingLibraries_assemble options.closed target
  exact List.map_eq_nil_iff.mp (hpending.trans hsystem)

/-! ## Runs -/

section Runs

variable {args : List String} {invocation : Invocation} {format : Format}
  {sysroot? : Option String} {strict : Bool}

theorem run_eq_ofTask (hparse : Invocation.parse host.environment args = .ok invocation)
    (htask : invocation.task = .resolve format probe sysroot? strict) :
    run host args =
      .ofTask (.ofRun host.environment invocation.verbosity invocation.quiet)
        (taskEvents host invocation) (do
          let final ← resolved host (loaderOf host.environment invocation.config? strict)
            (settingsOf sysroot?) probe
          return final.render format ++ "\n") := by
  simp only [run, hparse, runInvocation, taskText, htask]

theorem run_of_reaches (hparse : Invocation.parse host.environment args = .ok invocation)
    (htask : invocation.task = .resolve format probe sysroot? strict)
    (h : Reaches host (loaderOf host.environment invocation.config? strict) (settingsOf sysroot?)
      probe final) :
    (run host args).status = 0 ∧ (run host args).stdout = final.render format ++ "\n" := by
  rw [run_eq_ofTask hparse htask, resolved_eq_ok_iff.mpr h]
  exact ⟨rfl, rfl⟩

theorem run_of_not_reaches (hparse : Invocation.parse host.environment args = .ok invocation)
    (htask : invocation.task = .resolve format probe sysroot? strict)
    (h : ¬ ∃ final, Reaches host (loaderOf host.environment invocation.config? strict)
      (settingsOf sysroot?) probe final) :
    (run host args).status = 1 ∧ (run host args).stdout = "" := by
  rw [run_eq_ofTask hparse htask]
  cases hresolved : resolved host (loaderOf host.environment invocation.config? strict)
      (settingsOf sysroot?) probe with
  | ok final => exact absurd ⟨final, resolved_eq_ok_iff.mp hresolved⟩ h
  | error failure => exact ⟨rfl, rfl⟩

theorem run_status_eq_zero_iff (hparse : Invocation.parse host.environment args = .ok invocation)
    (htask : invocation.task = .resolve format probe sysroot? strict) :
    (run host args).status = 0 ↔ ∃ final, Reaches host
      (loaderOf host.environment invocation.config? strict) (settingsOf sysroot?) probe final := by
  constructor
  · intro hstatus
    by_contra h
    rw [(run_of_not_reaches hparse htask h).1] at hstatus
    cases hstatus
  · rintro ⟨final, h⟩
    exact (run_of_reaches hparse htask h).1

/-- Two runs that come to the same print the same. -/
theorem run_eq_of_reaches_iff {other : Host} {otherArgs : List String} {plain : Invocation}
    {otherSysroot? : Option String} {otherProbe : Bool}
    (hparse : Invocation.parse host.environment args = .ok invocation)
    (htask : invocation.task = .resolve format probe sysroot? strict)
    (hotherParse : Invocation.parse other.environment otherArgs = .ok plain)
    (hotherTask : plain.task = .resolve format otherProbe otherSysroot? strict)
    (hsame : ∀ final,
      Reaches other (loaderOf other.environment plain.config? strict) (settingsOf otherSysroot?)
          otherProbe final ↔
        Reaches host (loaderOf host.environment invocation.config? strict) (settingsOf sysroot?)
          probe final) :
    (run other otherArgs).status = (run host args).status ∧
      (run other otherArgs).stdout = (run host args).stdout := by
  by_cases h : ∃ final, Reaches host (loaderOf host.environment invocation.config? strict)
      (settingsOf sysroot?) probe final
  · obtain ⟨final, hfinal⟩ := h
    obtain ⟨hstatus, hstdout⟩ := run_of_reaches hparse htask hfinal
    obtain ⟨hotherStatus, hotherStdout⟩ :=
      run_of_reaches hotherParse hotherTask ((hsame final).mpr hfinal)
    exact ⟨hotherStatus.trans hstatus.symm, hotherStdout.trans hstdout.symm⟩
  · obtain ⟨hstatus, hstdout⟩ := run_of_not_reaches hparse htask h
    simp only [← hsame] at h
    obtain ⟨hotherStatus, hotherStdout⟩ := run_of_not_reaches hotherParse hotherTask h
    exact ⟨hotherStatus.trans hstatus.symm, hotherStdout.trans hstdout.symm⟩

/-- **A resolving run leaves all or nothing behind**: status 0 and the rendering of what it reached,
or status 1 and no text. Where no library comes from the system, a run that does not probe leaves
the same on every machine that supplies the same options. -/
theorem run_all_or_nothing (hparse : Invocation.parse host.environment args = .ok invocation)
    (htask : invocation.task = .resolve format probe sysroot? strict) :
    let loader := loaderOf host.environment invocation.config? strict
    let outcome := run host args
    (outcome.status = 0 ↔ ∃ final, Reaches host loader (settingsOf sysroot?) probe final) ∧
      (∀ final, Reaches host loader (settingsOf sysroot?) probe final →
        outcome.stdout = final.render format ++ "\n") ∧
      (outcome.status ≠ 0 → outcome.status = 1 ∧ outcome.stdout = "") ∧
      ((∀ first, Loads host loader first → first.options.sources.system = []) →
        ∀ (other : Host) (otherArgs : List String) (plain : Invocation),
          Invocation.parse other.environment otherArgs = .ok plain →
          plain.task = .resolve format false none strict →
          (loaderOf other.environment plain.config? strict).load other = loader.load host →
          (run other otherArgs).status = outcome.status ∧
            (run other otherArgs).stdout = outcome.stdout) := by
  intro loader outcome
  have hiff : outcome.status = 0 ↔
      ∃ final, Reaches host loader (settingsOf sysroot?) probe final :=
    run_status_eq_zero_iff hparse htask
  refine ⟨hiff, fun final h => (run_of_reaches hparse htask h).2,
    fun h => run_of_not_reaches hparse htask (mt hiff.mpr h), ?_⟩
  intro hbundled other otherArgs plain hotherParse hplain hload
  apply run_eq_of_reaches_iff hparse htask hotherParse hplain
  intro final
  have hloads : Loads other (loaderOf other.environment plain.config? strict) final ↔
      Loads host loader final := by
    unfold Loads
    simp only [← Loader.load_eq_iff, hload]
  rw [reaches_iff_loads, reaches_iff_loads, hloads]
  · intro first hfirst _
    exact discovery_eq_nil_of_loads hfirst (hbundled first hfirst)
  · intro _ _ hprobe
    cases hprobe

/-- The tool answers and ogg is merged into the flags. On a machine without the tool, where nothing
is on the system, asking to probe below a root makes no difference. -/
theorem run_all_or_nothing_with_and_without_tool :
    let vars : Variables := [(Utf8.encode "SYMCONF_BUILD_MODE", Utf8.encode "Debug")]
    let owing : Variables := (Utf8.encode "SYMCONF_USE_SYSTEM_OGG", Utf8.encode "yes") ::
      (Utf8.encode "PKG_CONFIG", Utf8.encode "./tool") :: vars
    let bare : Host :=
      { environment := vars, look := fun _ => .error .notFound, execute := fun _ _ => none }
    let equipped : Host :=
      { environment := owing
        look := fun path =>
          if path = Utf8.encode "./tool" then .ok (.file [0x7F] true) else .error .notFound
        execute := fun _ _ => some ⟨0, Utf8.encode "-DOGG -L/opt -logg -lm", []⟩ }
    let args := ["resolve", "--probe", "--sysroot", "/root"]
    ∃ invocation final, Invocation.parse owing args = .ok invocation ∧
      Invocation.parse vars args = .ok invocation ∧
      invocation.task = .resolve .json true (some "/root") false ∧
      Reaches equipped (loaderOf owing none false) (settingsOf (some "/root")) true final ∧
      final.flags.linkLibraries.take 5 = [":eexe.lib", ":usrt2_2.lib", ":libcrt0.lib", "ogg", "m"] ∧
      (run equipped args).status = 0 ∧
      (run equipped args).stdout = final.render .json ++ "\n" ∧
      (run bare ["resolve"]).stdout = (run bare args).stdout := by
  intro vars owing bare equipped args
  have hparse : Invocation.parse equipped.environment args = .ok _ := rfl
  have hbareParse : Invocation.parse bare.environment args = .ok _ := rfl
  have hplainParse : Invocation.parse bare.environment ["resolve"] = .ok _ := rfl
  have hloads : Loads equipped (loaderOf owing none false) _ :=
    ⟨_, Loader.load_eq_iff.mp rfl, rfl⟩
  have hreaches : Reaches equipped (loaderOf owing none false) (settingsOf (some "/root")) true _ :=
    .probed hloads rfl (by decide) (PkgConfig.locate?_eq_some_iff.mp rfl)
      (.cons (PkgConfig.ask_eq_iff.mp rfl) .nil)
  obtain ⟨hiff, hprinted, -, -⟩ := run_all_or_nothing hparse rfl
  obtain ⟨-, -, -, hbundled⟩ := run_all_or_nothing hbareParse rfl
  obtain ⟨bag, first, hload, hread, hbundledFirst⟩ : ∃ bag first,
      (loaderOf vars none false).load bare = .ok bag ∧ Resolution.ofBag bag target = .ok first ∧
        first.options.sources.system = [] := ⟨_, _, rfl, rfl, rfl⟩
  have hsystem (other : Resolution) (h : Loads bare (loaderOf vars none false) other) :
      other.options.sources.system = [] := by
    obtain ⟨otherBag, hotherLoad, hotherRead⟩ := h
    cases hload.symm.trans (Loader.load_eq_iff.mpr hotherLoad)
    cases hread.symm.trans hotherRead
    exact hbundledFirst
  have hsame := hbundled hsystem bare ["resolve"] _ hplainParse rfl rfl
  exact ⟨_, _, hparse, hbareParse, rfl, hreaches, by decide, hiff.mpr ⟨_, hreaches⟩,
    hprinted _ hreaches, hsame.2⟩

end Runs

end CommandLine
end CrossFlags
