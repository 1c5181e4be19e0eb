import Mathlib.Data.List.Basic
import CrossFlags.PkgConfig
import CrossFlags.Proofs.Text.Words

/-!
# Settings and the variables that carry them

`pkg-config` is told its settings through three variables, and two of them hold the list of
directories as one text. What is at the other end cuts that text at its colons (`readOff`). So **the
directories arrive as they were sent exactly if no colon stands in any of them**
(`directories_pathText_eq_iff`), and below a root on a drive with a letter every one has one
(`drive_letter_is_cut_off`). The root itself travels alone and may be spelled in any way.

Settings whose directories can be listed are read off their variables as they are
(`listable_settings_are_carried`). Whether the search is restricted to these directories is read off
the other list, and nothing is said of it for settings that have no directories.
-/

set_option autoImplicit false

namespace CrossFlags

namespace PkgConfig

/-! ## Lists of directories -/

/-- The directories of a search list. -/
def directories (list : String) : List String :=
  (Text.pieces (· == ':') list.toList).map String.ofList

/-- The directory can stand in a search list. -/
def Listable (directory : String) : Prop := ':' ∉ directory.toList

instance (directory : String) : Decidable (Listable directory) :=
  inferInstanceAs (Decidable (¬ _))

theorem directories_eq_singleton {directory : String} (h : Listable directory) :
    directories directory = [directory] := by
  have hplain : ∀ c ∈ directory.toList, (c == ':') = false := by
    intro c hc
    rw [beq_eq_false_iff_ne]
    rintro rfl
    exact h hc
  rw [directories, Text.pieces_of_forall hplain, List.map_singleton, String.ofList_toList]

theorem listable_of_mem_directories {list directory : String} (h : directory ∈ directories list) :
    Listable directory := by
  obtain ⟨piece, hpiece, rfl⟩ := List.mem_map.mp h
  rw [Listable, String.toList_ofList]
  intro hcolon
  exact absurd (Text.mark_eq_false_of_mem_pieces hpiece hcolon) (by decide)

theorem directories_intercalate {path : List String} (h : path ≠ []) :
    directories (":".intercalate path) = path.flatMap directories := by
  have hcolon : ":".toList = [':'] := rfl
  have hparts : path.map String.toList ≠ [] := by simpa using h
  rw [directories, String.toList_intercalate, hcolon, Text.pieces_intercalate (by decide) hparts,
    List.flatMap_map, List.map_flatMap]
  rfl

theorem listable_append {front back : String} (hfront : Listable front) (hback : Listable back) :
    Listable (front ++ back) := by
  rw [Listable, String.toList_append, List.mem_append, not_or]
  exact ⟨hfront, hback⟩

namespace Settings

variable {settings : Settings}

/-- **A list of directories arrives** exactly if all of them can stand in one. -/
theorem directories_pathText_eq_iff (h : settings.path ≠ []) :
    directories settings.pathText = settings.path ↔
      ∀ directory ∈ settings.path, Listable directory := by
  rw [pathText, directories_intercalate h]
  constructor
  · intro heq directory hmem
    rw [← heq] at hmem
    obtain ⟨whole, -, hpart⟩ := List.mem_flatMap.mp hmem
    exact listable_of_mem_directories hpart
  · intro hlist
    rw [List.flatMap_congr fun directory hmem => directories_eq_singleton (hlist directory hmem)]
    exact List.flatMap_singleton' settings.path

/-! ## The variables one by one -/

theorem lookup_path (settings : Settings) :
    settings.environment.lookup "PKG_CONFIG_PATH" =
      if settings.path = [] then none else some settings.pathText := by
  obtain ⟨path, sysroot, disableDefault⟩ := settings
  cases path <;> cases sysroot <;> cases disableDefault <;> rfl

theorem lookup_libdir (settings : Settings) :
    settings.environment.lookup "PKG_CONFIG_LIBDIR" =
      if settings.path ≠ [] ∧ settings.disableDefault = true then some settings.pathText
      else none := by
  obtain ⟨path, sysroot, disableDefault⟩ := settings
  cases path <;> cases sysroot <;> cases disableDefault <;> rfl

theorem lookup_sysroot (settings : Settings) :
    settings.environment.lookup "PKG_CONFIG_SYSROOT_DIR" = settings.sysroot := by
  obtain ⟨path, sysroot, disableDefault⟩ := settings
  cases path <;> cases sysroot <;> cases disableDefault <;> rfl

/-! ## Reading settings off variables -/

/-- The settings that a set of variables stands for. -/
def readOff (environment : List (String × String)) : Settings where
  path := ((environment.lookup "PKG_CONFIG_PATH").map directories).getD []
  sysroot := environment.lookup "PKG_CONFIG_SYSROOT_DIR"
  disableDefault := (environment.lookup "PKG_CONFIG_LIBDIR").isSome

/-- The variables say where to look and what the root is. -/
structure PlacesCarried (settings : Settings) : Prop where
  path_eq : (readOff settings.environment).path = settings.path
  path_unset_iff : settings.environment.lookup "PKG_CONFIG_PATH" = none ↔ settings.path = []
  sysroot_eq : (readOff settings.environment).sysroot = settings.sysroot

/-- The variables say all that the settings say, and where they restrict the search they restrict it
to the directories of the settings. -/
structure Carried (settings : Settings) : Prop extends PlacesCarried settings where
  readOff_eq : readOff settings.environment = settings
  libdir_eq : ∀ list, settings.environment.lookup "PKG_CONFIG_LIBDIR" = some list →
    directories list = settings.path

theorem placesCarried_of_listable (hlist : ∀ directory ∈ settings.path, Listable directory) :
    settings.PlacesCarried where
  path_eq := by
    rw [readOff, lookup_path]
    split
    · rename_i hempty
      exact hempty.symm
    · rename_i hne
      exact (directories_pathText_eq_iff hne).mpr hlist
  path_unset_iff := by
    rw [lookup_path]
    split <;> simp_all
  sysroot_eq := settings.lookup_sysroot

theorem carried_of_listable (hlist : ∀ directory ∈ settings.path, Listable directory)
    (hsome : settings.disableDefault = true → settings.path ≠ []) : settings.Carried := by
  have hplaces := placesCarried_of_listable hlist
  have hdisable : (readOff settings.environment).disableDefault = settings.disableDefault := by
    rw [readOff, lookup_libdir]
    cases hdefault : settings.disableDefault with
    | false => simp
    | true => simp [hsome hdefault]
  refine ⟨hplaces, ?_, ?_⟩
  · cases settings
    exact congr (congr (congrArg Settings.mk hplaces.path_eq) hplaces.sysroot_eq) hdisable
  · intro list hlibdir
    rw [lookup_libdir] at hlibdir
    split at hlibdir
    · rename_i hset
      cases hlibdir
      exact (directories_pathText_eq_iff hset.1).mpr hlist
    · cases hlibdir

theorem listable_below {root relative : String} (hroot : Listable root)
    (hrelative : Listable relative) : Listable (below root relative) := by
  unfold below
  split
  · exact hrelative
  · exact listable_append hroot hrelative
  · exact listable_append (listable_append hroot (by decide)) hrelative

theorem listable_ofSysroot {root : String} (h : Listable root) :
    ∀ directory ∈ (ofSysroot root).path, Listable directory := by
  rw [ofSysroot, List.forall_mem_cons, List.forall_mem_singleton]
  exact ⟨listable_below h (by decide), listable_below h (by decide)⟩

/-- **Settings whose directories can be listed are carried by their variables**: the places always,
and all of the settings where a search that is restricted has some directory to go to. A root that
can be listed makes such settings. -/
theorem listable_settings_are_carried
    (hlist : ∀ directory ∈ settings.path, Listable directory) :
    settings.PlacesCarried ∧
      ((settings.disableDefault = true → settings.path ≠ []) → settings.Carried) ∧
      ∀ root, Listable root → (ofSysroot root).Carried := by
  refine ⟨placesCarried_of_listable hlist, carried_of_listable hlist, fun root hroot => ?_⟩
  exact carried_of_listable (listable_ofSysroot hroot) fun _ => List.cons_ne_nil _ _

/-- A directory may have blanks in it or no name at all, and the root a drive's letter. -/
theorem listable_settings_are_carried_beside_a_drive_letter :
    let settings : Settings :=
      { path := ["/opt/my sdk/pc", "", "/é"], sysroot := some "C:/sdk", disableDefault := true }
    (∀ directory ∈ settings.path, Listable directory) ∧
      settings.environment =
        [("PKG_CONFIG_LIBDIR", "/opt/my sdk/pc::/é"), ("PKG_CONFIG_PATH", "/opt/my sdk/pc::/é"),
         ("PKG_CONFIG_SYSROOT_DIR", "C:/sdk")] ∧
      settings.Carried := by
  intro settings
  have hlist : ∀ directory ∈ settings.path, Listable directory := by decide
  obtain ⟨-, hcarried, -⟩ := listable_settings_are_carried hlist
  exact ⟨hlist, by decide, hcarried fun _ => by decide⟩

/-- Below a root on a drive the directories arrive in two parts each. -/
theorem drive_letter_is_cut_off :
    (readOff (ofSysroot "C:/sdk").environment).path =
        ["C", "/sdk/usr/lib/pkgconfig", "C", "/sdk/usr/share/pkgconfig"] ∧
      ¬ ∀ settings : Settings, settings.Carried := by
  have hcut : (readOff (ofSysroot "C:/sdk").environment).path =
      ["C", "/sdk/usr/lib/pkgconfig", "C", "/sdk/usr/share/pkgconfig"] := by decide
  refine ⟨hcut, fun h => ?_⟩
  have hwhole := (h (ofSysroot "C:/sdk")).path_eq
  rw [hcut] at hwhole
  revert hwhole
  decide

end Settings
end PkgConfig
end CrossFlags
