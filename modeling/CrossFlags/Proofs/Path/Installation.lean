import Mathlib.Data.List.DropRight
import Mathlib.Data.List.Induction
import CrossFlags.Options
import CrossFlags.Profile.Symbian

/-!
# Where a toolchain is installed

A compiler is found at `<root>/<directory>/<name>`, and the libraries beside it are found by going
back from its path: the last separator and what is behind it are cut off, and then the last separator
of what is left. This recovers the root from any such path, whatever the root is and whichever
separators are written (`locates_root_of_compiler`). Nothing has to be known about the root. It may be
empty, where the file system's takes its place, and it may end in separators of its own, which do not
count where it is joined to something.

**Separators are cut off one by one, and that is only right for the first of the two places.** A run of
them in front of the directory leaves separators at the end of the root, where they do not count. A
run behind the directory has an empty name in it, and that name is taken for the directory: what is
found is then one level too deep (`locates_root_iff_one_separator`).
-/

set_option autoImplicit false

namespace CrossFlags

namespace Path

/-- The text holds no separator. -/
def Plain (s : String) : Prop := ∀ c ∈ s.toList, isSeparator c = false

/-- The text holds nothing but separators, and at least one. -/
structure Run (s : String) : Prop where
  nonempty : s ≠ ""
  separators : ∀ c ∈ s.toList, isSeparator c = true

instance (s : String) : Decidable (Plain s) :=
  decidable_of_iff (s.toList.all (!isSeparator ·) = true) (by simp [Plain])

instance (s : String) : Decidable (Run s) :=
  decidable_of_iff (s ≠ "" ∧ s.toList.all isSeparator = true)
    ⟨fun h => ⟨h.1, List.all_eq_true.mp h.2⟩, fun h => ⟨h.nonempty, List.all_eq_true.mpr h.separators⟩⟩

theorem Run.exists_last {s : String} (h : Run s) :
    ∃ seps sep, s.toList = seps ++ [sep] ∧ (∀ c ∈ seps, isSeparator c = true) ∧
      isSeparator sep = true := by
  have hne : s.toList ≠ [] := fun hnil => h.nonempty (String.toList_eq_nil_iff.mp hnil)
  obtain ⟨seps, sep, hs⟩ := (List.eq_nil_or_concat s.toList).resolve_left hne
  rw [List.concat_eq_append] at hs
  have hall := h.separators
  rw [hs, List.forall_mem_append, List.forall_mem_singleton] at hall
  exact ⟨seps, sep, hs, hall⟩

variable {front name seps : List Char} {sep : Char}

/-! ## The last separator -/

theorem beforeLast?_of_forall (h : ∀ c ∈ name, isSeparator c = false) : beforeLast? name = none := by
  have hall : ∀ c ∈ name.reverse, (!isSeparator c) = true := by simpa using h
  rw [beforeLast?, List.dropWhile_eq_nil_iff.mpr hall]

theorem beforeLast?_append (hsep : isSeparator sep = true) (h : ∀ c ∈ name, isSeparator c = false)
    (front : List Char) : beforeLast? (front ++ sep :: name) = some front := by
  have hall : ∀ c ∈ name.reverse, (!isSeparator c) = true := by simpa using h
  rw [beforeLast?, List.reverse_append, List.reverse_cons, List.append_assoc,
    List.dropWhile_append_of_pos hall, List.singleton_append,
    List.dropWhile_cons_of_neg (by simp [hsep])]
  exact congrArg some front.reverse_reverse

theorem forall_or_exists_last (cs : List Char) :
    (∀ c ∈ cs, isSeparator c = false) ∨ ∃ front sep name, cs = front ++ sep :: name ∧
      isSeparator sep = true ∧ ∀ c ∈ name, isSeparator c = false := by
  induction cs using List.reverseRecOn with
  | nil => exact .inl nofun
  | append_singleton cs c ih =>
    cases hc : isSeparator c with
    | true => exact .inr ⟨cs, c, [], rfl, hc, nofun⟩
    | false =>
      rcases ih with hplain | ⟨front, sep, name, rfl, hsep, hname⟩
      · exact .inl (List.forall_mem_append.mpr ⟨hplain, List.forall_mem_singleton.mpr hc⟩)
      · exact .inr ⟨front, sep, name ++ [c], by simp, hsep,
          List.forall_mem_append.mpr ⟨hname, List.forall_mem_singleton.mpr hc⟩⟩

/-! ## Two separators up -/

theorem installationRoot?_append {root directory tool : List Char} {first second : Char}
    (hfirst : isSeparator first = true) (hdirectory : ∀ c ∈ directory, isSeparator c = false)
    (hsecond : isSeparator second = true) (htool : ∀ c ∈ tool, isSeparator c = false) :
    installationRoot? (String.ofList (root ++ first :: directory ++ second :: tool)) =
      some (if root.isEmpty then "/" else String.ofList root) := by
  unfold installationRoot?
  rw [String.toList_ofList, beforeLast?_append hsecond htool]
  simp only [Option.bind_eq_bind, Option.bind_some]
  rw [beforeLast?_append hfirst hdirectory]
  rfl

/-- A root is found exactly in a path of two separators or more. -/
theorem installationRoot?_eq_none_iff {tool : String} :
    installationRoot? tool = none ↔ tool.toList.countP isSeparator < 2 := by
  have hcount {cs : List Char} (h : ∀ c ∈ cs, isSeparator c = false) : cs.countP isSeparator = 0 :=
    List.countP_eq_zero.mpr fun c hc => by simp [h c hc]
  rcases forall_or_exists_last tool.toList with hnone | ⟨front, second, name, htool, hsecond, hname⟩
  · rw [installationRoot?, beforeLast?_of_forall hnone, hcount hnone]
    simp
  rcases forall_or_exists_last front with hnone | ⟨root, first, directory, rfl, hfirst, hdirectory⟩
  · rw [installationRoot?, htool, beforeLast?_append hsecond hname]
    simp [beforeLast?_of_forall hnone, List.countP_append, hcount hnone, hcount hname, hsecond]
  · have htwo : tool.toList.countP isSeparator = root.countP isSeparator + 2 := by
      rw [htool]
      simp [List.countP_append, hcount hname, hcount hdirectory, hfirst, hsecond]
    refine iff_of_false ?_ (by omega)
    rw [← String.ofList_toList (s := tool), htool,
      installationRoot?_append hfirst hdirectory hsecond hname]
    exact nofun

/-! ## Separators at the end of a root -/

theorem stem_append_of_forall (h : ∀ c ∈ seps, isSeparator c = true) (cs : List Char) :
    stem (cs ++ seps) = stem cs := by
  have hall : ∀ c ∈ seps.reverse, isSeparator c = true := by simpa using h
  rw [stem, stem, Text.dropEndWhile, Text.dropEndWhile, List.reverse_append,
    List.dropWhile_append_of_pos hall]

theorem stem_append_of_plain (h : ∀ c ∈ name, isSeparator c = false) (hne : name ≠ [])
    (cs : List Char) : stem (cs ++ name) = cs ++ name := by
  obtain ⟨init, c, rfl⟩ := (List.eq_nil_or_concat name).resolve_left hne
  have hc : isSeparator c = false := h c (by simp)
  rw [List.concat_eq_append, ← List.append_assoc]
  exact List.rdropWhile_concat_neg isSeparator (cs ++ init) c (by simp [hc])

theorem stem_stem (cs : List Char) : stem (stem cs) = stem cs :=
  List.rdropWhile_idempotent isSeparator cs

theorem length_stem_le (cs : List Char) : (stem cs).length ≤ cs.length :=
  (List.rdropWhile_prefix isSeparator cs).length_le

/-- The file system's root stands for an empty one. -/
theorem stem_ofList_or_root (root : List Char) :
    stem (if root.isEmpty then "/" else String.ofList root).toList = stem root := by
  cases root with
  | nil => decide
  | cons c rest => rw [List.isEmpty_cons, if_neg Bool.false_ne_true, String.toList_ofList]

end Path

theorem Profile.toolchainLibDirs_eq_iff {profile : Profile} {a b : String} :
    profile.toolchainLibDirs a = profile.toolchainLibDirs b ↔
      Path.stem a.toList = Path.stem b.toList := by
  simp [toolchainLibDirs, Path.join_eq_join_iff]

namespace Options

/-- The compiler's path shows a root, and the toolchain's libraries are in the same directories there
as they are at `root`. -/
def Locates (options : Options) (profile : Profile) (root : String) : Prop :=
  ∃ found, options.toolchainRoot? = some found ∧
    profile.toolchainLibDirs found = profile.toolchainLibDirs root

variable {options : Options} {profile : Profile} {root directory tool first second : String}

theorem locates_iff :
    options.Locates profile root ↔
      ∃ found, options.toolchainRoot? = some found ∧
        Path.stem found.toList = Path.stem root.toList := by
  simp only [Locates, Profile.toolchainLibDirs_eq_iff]

theorem locates_of_cxx {root directory tool : List Char} {first second : Char}
    (hfirst : Path.isSeparator first = true) (hdirectory : ∀ c ∈ directory, Path.isSeparator c = false)
    (hsecond : Path.isSeparator second = true) (htool : ∀ c ∈ tool, Path.isSeparator c = false)
    (hcxx : options.cxx.toList = root ++ first :: directory ++ second :: tool) {other : String}
    (hother : Path.stem root = Path.stem other.toList) : options.Locates profile other := by
  have hfound : options.toolchainRoot? = some (if root.isEmpty then "/" else String.ofList root) := by
    rw [toolchainRoot?, ← String.ofList_toList (s := options.cxx), hcxx]
    exact Path.installationRoot?_append hfirst hdirectory hsecond htool
  exact locates_iff.mpr ⟨_, hfound, (Path.stem_ofList_or_root root).trans hother⟩

/-- **The root is recovered from the path of a compiler right below one of its directories**, and no
root is shown exactly by paths of fewer than two separators. -/
theorem locates_root_of_compiler (options : Options) (profile : Profile) :
    (∀ (root directory tool : String) (first second : Char),
      Path.isSeparator first = true → Path.isSeparator second = true →
      Path.Plain directory → Path.Plain tool →
      options.cxx = root ++ .singleton first ++ directory ++ .singleton second ++ tool →
        options.Locates profile root) ∧
    (∀ root tool : String, Path.Plain tool → options.cxx = Path.join root ("bin/" ++ tool) →
      options.Locates profile root) ∧
    (options.toolchainRoot? = none ↔ options.cxx.toList.countP Path.isSeparator < 2) := by
  refine ⟨?_, ?_, Path.installationRoot?_eq_none_iff⟩
  · intro root directory tool first second hfirst hsecond hdirectory htool hcxx
    refine locates_of_cxx hfirst hdirectory hsecond htool ?_ rfl
    rw [hcxx]
    simp
  · intro root tool htool hcxx
    have hbin : Path.Plain "bin" := by decide
    have hslash : Path.isSeparator '/' = true := by decide
    refine locates_of_cxx hslash hbin hslash htool ?_ (Path.stem_stem root.toList)
    rw [hcxx, Path.join]
    simp

/-- A release build with this compiler. -/
def ofCompiler (cxx : String) : Options where
  buildMode := .release
  abiVariant := .current
  wordSize := .bits32
  force32Bits := true
  sources := .bundled
  sdkRoot := "/sdk"
  companionRoot := "/proj"
  cxx := cxx
  mapFile := "a.map"

/-- Separators of both kinds in one path, behind a root that ends in separators itself, and a
compiler in the file system's own directory. -/
theorem locates_root_of_compiler_of_mixed_separators :
    (ofCompiler "C:\\gcc/\\/caf\u00e9\\g++").Locates .symbian "C:\\gcc/\\" ∧
      (ofCompiler "/bin/g++").Locates .symbian "" ∧
      (ofCompiler "bin\\g++").toolchainRoot? = none := by
  obtain ⟨hpath, -, -⟩ :=
    locates_root_of_compiler (ofCompiler "C:\\gcc/\\/caf\u00e9\\g++") .symbian
  obtain ⟨-, hjoined, -⟩ := locates_root_of_compiler (ofCompiler "/bin/g++") .symbian
  obtain ⟨-, -, hnone⟩ := locates_root_of_compiler (ofCompiler "bin\\g++") .symbian
  refine ⟨?_, ?_, hnone.mpr (by decide)⟩
  · exact hpath "C:\\gcc/\\" "caf\u00e9" "g++" '/' '\\' (by decide) (by decide) (by decide)
      (by decide) (by decide)
  · exact hjoined "" "g++" (by decide) (by decide)

theorem Locates.isSome_toolchainRoot? (h : options.Locates profile root) :
    options.toolchainRoot?.isSome = true := by
  obtain ⟨found, hfound, -⟩ := h
  rw [hfound, Option.isSome_some]

theorem Locates.stem_eq {other : String} (h : options.Locates profile root)
    (hother : options.Locates profile other) :
    Path.stem root.toList = Path.stem other.toList := by
  obtain ⟨found, hfound, hdirs⟩ := locates_iff.mp h
  obtain ⟨_, hfound', hdirs'⟩ := locates_iff.mp hother
  obtain rfl := Option.some.inj (hfound.symm.trans hfound')
  exact hdirs.symm.trans hdirs'

/-! ## Runs of separators -/

section Runs

variable (hsecond : Path.Run second) (htool : Path.Plain tool)
  (hcxx : options.cxx = root ++ first ++ directory ++ second ++ tool)

include hsecond htool hcxx

theorem locates_of_length_eq_one (hfirst : Path.Run first) (hdirectory : Path.Plain directory)
    (hlength : second.length = 1) (profile : Profile) : options.Locates profile root := by
  obtain ⟨seps, sep, hseps, hall, hsep⟩ := hfirst.exists_last
  obtain ⟨more, last, hmore, -, hlast⟩ := hsecond.exists_last
  have hnil : more = [] := by
    rw [← String.length_toList, hmore, List.length_append] at hlength
    exact List.length_eq_zero_iff.mp (by simpa using hlength)
  refine locates_of_cxx hsep hdirectory hlast htool ?_ (Path.stem_append_of_forall hall root.toList)
  rw [hcxx]
  simp [hseps, hmore, hnil]

/-- Between the last two of several separators there is a name, only that it is empty. -/
theorem locates_of_one_lt_length (hlength : 1 < second.length) (profile : Profile) :
    options.Locates profile (root ++ first ++ directory) := by
  obtain ⟨more, last, hmore, hall, hlast⟩ := hsecond.exists_last
  have hne : more ≠ [] := by
    rintro rfl
    rw [← String.length_toList, hmore] at hlength
    simp at hlength
  obtain ⟨seps, sep, rfl⟩ := (List.eq_nil_or_concat more).resolve_left hne
  rw [List.concat_eq_append, List.forall_mem_append, List.forall_mem_singleton] at hall
  have hempty : ∀ c ∈ ([] : List Char), Path.isSeparator c = false := nofun
  refine locates_of_cxx hall.2 hempty hlast htool ?_ (Path.stem_append_of_forall hall.1 _)
  rw [hcxx]
  simp [hmore]

end Runs

/-- A directory is no place where its root's libraries are. -/
theorem not_locates_of_locates_directory (hdirectory : Path.Plain directory) (hne : directory ≠ "")
    (h : options.Locates profile (root ++ first ++ directory)) : ¬ options.Locates profile root := by
  intro hroot
  have hname : directory.toList ≠ [] := fun hnil => hne (String.toList_eq_nil_iff.mp hnil)
  have hstem : Path.stem (root ++ first ++ directory).toList =
      (root ++ first).toList ++ directory.toList := by
    rw [String.toList_append]
    exact Path.stem_append_of_plain hdirectory hname _
  have hlength := congrArg List.length (hstem.symm.trans (h.stem_eq hroot))
  have hle := Path.length_stem_le root.toList
  have hpos := List.length_pos_iff.mpr hname
  rw [List.length_append, String.toList_append, List.length_append] at hlength
  omega

/-- **Of two runs of separators in a compiler's path the first may have any length.** The second has
to be a single separator for the root to be found; else the directory is taken for the root. -/
theorem locates_root_iff_one_separator (hfirst : Path.Run first) (hdirectory : Path.Plain directory)
    (hne : directory ≠ "") (hsecond : Path.Run second) (htool : Path.Plain tool)
    (hcxx : options.cxx = root ++ first ++ directory ++ second ++ tool) (profile : Profile) :
    options.toolchainRoot?.isSome = true ∧
      (options.Locates profile root ↔ second.length = 1) ∧
      (1 < second.length → options.Locates profile (root ++ first ++ directory)) := by
  have hone (hlength : second.length = 1) : options.Locates profile root :=
    locates_of_length_eq_one hsecond htool hcxx hfirst hdirectory hlength profile
  have hmore (hlength : 1 < second.length) : options.Locates profile (root ++ first ++ directory) :=
    locates_of_one_lt_length hsecond htool hcxx hlength profile
  have hpos : 0 < second.length := by
    rw [← String.length_toList, List.length_pos_iff]
    exact fun hnil => hsecond.nonempty (String.toList_eq_nil_iff.mp hnil)
  rcases Nat.lt_or_ge 1 second.length with hlt | hle
  · have hdeeper := hmore hlt
    refine ⟨hdeeper.isSome_toolchainRoot?, iff_of_false ?_ hlt.ne', hmore⟩
    exact not_locates_of_locates_directory hdirectory hne hdeeper
  · have hlength : second.length = 1 := by omega
    exact ⟨(hone hlength).isSome_toolchainRoot?, iff_of_true (hone hlength) hlength, hmore⟩

/-- Two separators do no harm in front of the directory, and two behind it do. -/
theorem locates_root_iff_one_separator_of_two :
    let options := ofCompiler "/opt/gcc12\\/bin//g++"
    Path.Run "\\/" ∧ Path.Plain "bin" ∧ Path.Run "//" ∧ Path.Plain "g++" ∧
      options.toolchainRoot?.isSome = true ∧ ¬ options.Locates .symbian "/opt/gcc12" ∧
      options.Locates .symbian "/opt/gcc12\\/bin" := by
  intro options
  have hrun : Path.Run "\\/" := by decide
  have hrun' : Path.Run "//" := by decide
  have hbin : Path.Plain "bin" := by decide
  have htool : Path.Plain "g++" := by decide
  have hcxx : options.cxx = "/opt/gcc12" ++ "\\/" ++ "bin" ++ "//" ++ "g++" := by decide
  obtain ⟨hsome, hiff, hdeeper⟩ :=
    locates_root_iff_one_separator hrun hbin (by decide) hrun' htool hcxx .symbian
  exact ⟨hrun, hbin, hrun', htool, hsome, fun h => absurd (hiff.mp h) (by decide),
    hdeeper (by decide)⟩

/-- A separator written twice behind the directory is enough to lose the root. -/
theorem doubled_separator_hides_root :
    ¬ ∀ (options : Options) (profile : Profile) (root first directory second tool : String),
      root.toList.getLast?.any Path.isSeparator = false → Path.Run first →
      Path.Plain directory → directory ≠ "" → Path.Run second → Path.Plain tool → tool ≠ "" →
      options.cxx = root ++ first ++ directory ++ second ++ tool →
        options.toolchainRoot?.isSome = true ∧ options.Locates profile root := by
  intro h
  obtain ⟨-, found, hfound, hdirs⟩ := h (ofCompiler "/opt/gcc12/bin//g++") .symbian "/opt/gcc12" "/"
    "bin" "//" "g++" (by decide) (by decide) (by decide) (by decide) (by decide) (by decide)
    (by decide) (by decide)
  have hbin : (ofCompiler "/opt/gcc12/bin//g++").toolchainRoot? = some "/opt/gcc12/bin" := by decide
  obtain rfl := Option.some.inj (hbin.symm.trans hfound)
  revert hdirs
  decide

end Options
end CrossFlags
