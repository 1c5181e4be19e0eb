import CrossFlags.Loading
import CrossFlags.Proofs.Bag.Layers
import CrossFlags.Proofs.Environment.Stopping
import CrossFlags.Proofs.Except

/-!
# How loading ends

Loading is the file and then the environment, and both can fail. How it ends is said here without
the code that gets there. For the file it is a matter of what stands at its path
(`Loader.FileGives`): nothing, a directory, a file that cannot be read, octets that are no text, a
text that is no option file, or an option file. For the environment it is a matter of the last value
of each option's variable (`Loader.Gives`). **Loading ends in exactly these ways**
(`Loader.readFile_eq_iff`, `Loader.load_eq_iff`), so each failure is reported as what it is, and no
failure passes for an empty file.

That a file is missing matters only to a strict run. What the text of an option file says is left to
`OptionFile.read?`.
-/

set_option autoImplicit false

namespace CrossFlags

/-- There is only one way to lay readable variables over a bag. -/
theorem Variables.Layered.unique {vars : Variables} {bag after other : Bag}
    (hvars : vars.Readable) (h : vars.Layered bag after) (hother : vars.Layered bag other) :
    after = other := by
  apply Bag.ext_get? (h.names.trans hother.names.symm)
  intro name
  by_cases hname : ∀ key, key.name = name → vars.valuesOf key = []
  · rw [h.untouched name hname, hother.untouched name hname]
  · push Not at hname
    obtain ⟨key, rfl, hne⟩ := hname
    have hlast := List.getLast?_eq_some_getLast hne
    obtain ⟨value, hvalue⟩ := hvars key _ hlast
    rw [hvalue] at hlast
    rw [h.overridden key value hlast, hother.overridden key value hlast]

namespace Loader

variable {loader : Loader} {host : Host} {result : Except LoadError Bag}

/-! ## The file -/

/-- What reading the option file comes to, by what stands at its path. -/
inductive FileGives (loader : Loader) (host : Host) : Except LoadError Bag → Prop
  | absent {why : Refusal} (hlook : host.look loader.path = .error why)
    (hdefaults : loader.useDefaults = true) : FileGives loader host (.ok .empty)
  | missing {why : Refusal} (hlook : host.look loader.path = .error why)
    (hstrict : loader.useDefaults = false) :
    FileGives loader host (.error (.notFound loader.path))
  | directory (hlook : host.look loader.path = .ok .directory) :
    FileGives loader host (.error .isDirectory)
  | closed {why : Refusal} {content : Octets} {executable : Bool}
    (hlook : host.look loader.path = .ok (.closed why content executable)) :
    FileGives loader host (.error (.refused why))
  | notText {content : Octets} {executable : Bool}
    (hlook : host.look loader.path = .ok (.file content executable))
    (hcontent : ∀ text, content ≠ Utf8.encode text) : FileGives loader host (.error .notText)
  | malformed {text : String} {executable : Bool}
    (hlook : host.look loader.path = .ok (.file (Utf8.encode text) executable))
    (hread : OptionFile.read? text = none) : FileGives loader host (.error .malformed)
  | options {text : String} {executable : Bool} {bag : Bag}
    (hlook : host.look loader.path = .ok (.file (Utf8.encode text) executable))
    (hread : OptionFile.read? text = some bag) : FileGives loader host (.ok bag)

/-- Whatever stands at the path, there is something that reading it comes to. -/
theorem exists_fileGives (loader : Loader) (host : Host) :
    ∃ result, loader.FileGives host result := by
  cases hlook : host.look loader.path with
  | error why =>
    cases hdefaults : loader.useDefaults with
    | true => exact ⟨_, .absent hlook hdefaults⟩
    | false => exact ⟨_, .missing hlook hdefaults⟩
  | ok node =>
    cases node with
    | directory => exact ⟨_, .directory hlook⟩
    | closed why content executable => exact ⟨_, .closed hlook⟩
    | file content executable =>
      by_cases htext : ∃ text, content = Utf8.encode text
      · obtain ⟨text, rfl⟩ := htext
        cases hread : OptionFile.read? text with
        | none => exact ⟨_, .malformed hlook hread⟩
        | some bag => exact ⟨_, .options hlook hread⟩
      · exact ⟨_, .notText hlook (not_exists.mp htext)⟩

theorem FileGives.readFile_eq (h : loader.FileGives host result) :
    loader.readFile host = result := by
  unfold readFile
  cases h with
  | absent hlook hdefaults => simp only [hlook, hdefaults, if_true]
  | missing hlook hstrict => simp only [hlook, hstrict, Bool.false_eq_true, if_false]
  | directory hlook => simp only [hlook]
  | closed hlook => simp only [hlook]
  | notText hlook hcontent =>
    have hnone : Utf8.decode? _ = none :=
      Option.eq_none_iff_forall_ne_some.mpr fun text htext =>
        hcontent text (Utf8.decode?_eq_some_iff.mp htext)
    simp only [hlook, hnone]
  | malformed hlook hread => simp only [hlook, Utf8.decode?_encode, hread]
  | options hlook hread => simp only [hlook, Utf8.decode?_encode, hread]

/-- **Reading the option file comes to what stands at its path.** -/
theorem readFile_eq_iff : loader.readFile host = result ↔ loader.FileGives host result :=
  eq_iff_of_exists (exists_fileGives loader host) fun _ => FileGives.readFile_eq

/-! ## The file under the environment -/

/-- What loading comes to: what is wrong with the file is reported first, then the first option
whose variable cannot be read. -/
inductive Gives (loader : Loader) (host : Host) : Except LoadError Bag → Prop
  | file {e : LoadError} (hfile : loader.FileGives host (.error e)) : Gives loader host (.error e)
  | unreadable {bag : Bag} {key : Key} (hfile : loader.FileGives host (.ok bag))
    (hasked : loader.useEnvironment = true) (hkey : host.environment.Unreadable key)
    (hfirst : ∀ other ∈ key.before, ¬ host.environment.Unreadable other) :
    Gives loader host (.error (.notUtf8 key))
  | overridden {bag after : Bag} (hfile : loader.FileGives host (.ok bag))
    (hasked : loader.useEnvironment = true) (hvars : host.environment.Readable)
    (hlayered : host.environment.Layered bag after) : Gives loader host (.ok after)
  | plain {bag : Bag} (hfile : loader.FileGives host (.ok bag))
    (hunasked : loader.useEnvironment = false) : Gives loader host (.ok bag)

theorem exists_gives (loader : Loader) (host : Host) : ∃ result, loader.Gives host result := by
  obtain ⟨result, hfile⟩ := exists_fileGives loader host
  cases result with
  | error e => exact ⟨_, .file hfile⟩
  | ok bag =>
    cases hasked : loader.useEnvironment with
    | false => exact ⟨_, .plain hfile hasked⟩
    | true =>
      cases hkey : (Overrides.ofVariables host.environment).unreadable? with
      | some key =>
        obtain ⟨hbad, hfirst⟩ := Overrides.unreadable?_eq_some_iff.mp hkey
        exact ⟨_, .unreadable hfile hasked hbad hfirst⟩
      | none =>
        have hvars := Overrides.unreadable?_eq_none_iff_readable.mp hkey
        exact ⟨_, .overridden hfile hasked hvars (hvars.layered bag)⟩

theorem Gives.load_eq (h : loader.Gives host result) : loader.load host = result := by
  cases h with
  | file hfile =>
    unfold load
    rw [readFile_eq_iff.mpr hfile]
    rfl
  | unreadable hfile hasked hkey hfirst =>
    rw [load_of_readFile (readFile_eq_iff.mpr hfile), overrides_of_asked hasked,
      Overrides.unreadable?_eq_some_iff.mpr ⟨hkey, hfirst⟩]
  | overridden hfile hasked hvars hlayered =>
    rw [load_of_readFile (readFile_eq_iff.mpr hfile), overrides_of_asked hasked,
      Overrides.unreadable?_eq_none_iff_readable.mpr hvars, hlayered.unique hvars (hvars.layered _)]
  | plain hfile hunasked =>
    rw [load_of_readFile (readFile_eq_iff.mpr hfile), overrides_of_unasked hunasked]
    rfl

/-- **Loading comes to the file's options under the environment's, or to the first thing wrong with
either.** -/
theorem load_eq_iff : loader.load host = result ↔ loader.Gives host result :=
  eq_iff_of_exists (exists_gives loader host) fun _ => Gives.load_eq

-- What cannot be read is there, so it counts neither as missing nor as empty.
example :
    let host : Host :=
      { environment := [], look := fun _ => .ok (.closed .accessDenied [] false)
        execute := fun _ _ => none }
    let loader : Loader := { path := Utf8.encode defaultFile }
    loader.load host = .error (.refused .accessDenied) ∧
      (LoadError.refused .accessDenied).message = "IO error: Permission denied (os error 13)" := by
  decide

end Loader
end CrossFlags
