import CrossFlags.Proofs.Options.Reading
import CrossFlags.Proofs.Text.Trim

/-!
# The first offender

`Options.ofBag` stops at the first thing wrong with a bag. This file says what can be wrong without
mentioning any reader (`Bag.Offence`), which bags are legal, again without the readers
(`Bag.Legal`), and that reading reports exactly that: **it succeeds on the legal bags, and on every
other bag it reports the first undeclared name, or else the first offender in reading order**.

Two things have to be kept apart here. The spellings an option declares, the spellings its reader
understands and the list that its reader puts into an error are written down separately, and agree
(`Key.Meaning`). And whether a reader fails does not depend on what the readers before it gave, so
that the one long chain of readers is a run of checks over a list of options
(`Options.outcome_ofBag`), whose first failure is easy to name.
-/

set_option autoImplicit false

namespace CrossFlags

/-! ## Declared spellings -/

theorem Bag.switchMeaning_eq_none_iff {word : String} :
    switchMeaning word = none ↔ word ∉ Domain.switchWords := by
  unfold switchMeaning
  split <;> simp_all [Domain.switchWords]

namespace Key

/-- A way to understand words that knows exactly the spellings that the option declares, and a list
for the error message that has just these. -/
structure Meaning {α : Type} (key : Key) (allowed : List String) (meaning : String → Option α) :
    Prop where
  not_buildMode : key ≠ .buildMode
  not_path : key.domain ≠ .path
  allowed_eq : allowed = key.domain.allowed
  eq_none_iff : ∀ word, meaning word = none ↔ word ∉ key.domain.allowed

theorem meaning_abiVariant :
    Meaning .abiVariant Key.abiVariant.domain.allowed AbiVariant.ofName? :=
  ⟨nofun, nofun, rfl, fun _ => AbiVariant.ofName?_eq_none_iff⟩

theorem meaning_bits : Meaning .bits Key.bits.domain.allowed WordSize.ofName? :=
  ⟨nofun, nofun, rfl, fun _ => WordSize.ofName?_eq_none_iff⟩

theorem meaning_force32Bits : Meaning .force32Bits Domain.switch.allowed Bag.switchMeaning :=
  ⟨nofun, nofun, rfl, fun _ => Bag.switchMeaning_eq_none_iff⟩

theorem meaning_useSystem (lib : Library) :
    Meaning (.useSystem lib) Domain.switch.allowed Bag.switchMeaning :=
  ⟨nofun, nofun, rfl, fun _ => Bag.switchMeaning_eq_none_iff⟩

/-- The default of an option that declares its spellings is one of them. -/
theorem lower_default_mem_allowed {key : Key} {word : String} (hkey : key.domain ≠ .path)
    (h : key.default? = some word) : Text.lower word ∈ key.domain.allowed := by
  cases key with
  | abiVariant | bits | force32Bits => cases h; decide
  | useSystem lib => cases h; cases lib <;> decide
  | buildMode => cases h
  | sdkRoot | companionRoot | cxx | mapFile => exact absurd rfl hkey

/-- The default of a path is a path. -/
theorem default_ne_empty {key : Key} {path : String} (h : key.default? = some path) :
    path ≠ "" := by
  cases key <;> cases h <;> decide

/-- The options in the order in which they are read. -/
def readingOrder : List Key :=
  [.buildMode, .abiVariant, .force32Bits, .bits] ++ Library.all.map .useSystem ++
    [.sdkRoot, .companionRoot, .cxx, .mapFile]

theorem mem_readingOrder (key : Key) : key ∈ readingOrder := by
  cases key with
  | useSystem lib => simp [readingOrder]
  | _ => simp [readingOrder]

end Key

theorem Key.isSome_ofName?_iff {name : String} :
    (Key.ofName? name).isSome ↔ ∃ key : Key, key.name = name := by
  constructor
  · intro h
    obtain ⟨key, hkey⟩ := Option.isSome_iff_exists.mp h
    exact ⟨key, Key.name_of_ofName? hkey⟩
  · rintro ⟨key, rfl⟩
    rw [Key.ofName?_name]
    rfl

namespace Bag

variable {bag : Bag} {key : Key} {text : String} {e : OptionError}

/-! ## Legal bags and offences -/

/-- The bag has this text for the option, and not a word for the default. -/
def Gives (bag : Bag) (key : Key) (text : String) : Prop :=
  ∃ value, bag.get? key.name = some value ∧ value.asText = text ∧ asksForDefault text = false

/-- Every option that the bag mentions exists and has a value that it may have. -/
structure Legal (bag : Bag) : Prop where
  declared : ∀ name ∈ bag.names, ∃ key : Key, key.name = name
  buildMode : ∃ text, bag.Gives .buildMode text ∧ Text.lower text ∈ Key.buildMode.domain.allowed
  keyword : ∀ key text, key ≠ .buildMode → key.domain ≠ .path → bag.Gives key text →
    Text.lower text ∈ key.domain.allowed
  path : ∀ key : Key, key.domain = .path →
    (∀ b, bag.get? key.name ≠ some (.bool b)) ∧
      ∀ s, bag.get? key.name = some (.text s) → Text.trim s ≠ ""

/-- What can be wrong with one option, and the error for it. -/
inductive Offence (bag : Bag) : Key → OptionError → Prop
  | noBuildMode (h : ∀ text, ¬ bag.Gives .buildMode text) :
    Offence bag .buildMode (.unknownBuildMode none)
  | unknownBuildMode {text : String} (h : bag.Gives .buildMode text)
    (hword : Text.lower text ∉ Key.buildMode.domain.allowed) :
    Offence bag .buildMode (.unknownBuildMode (some text))
  | foreignWord {key : Key} {text : String} (hmode : key ≠ .buildMode)
    (hkey : key.domain ≠ .path) (h : bag.Gives key text)
    (hword : Text.lower text ∉ key.domain.allowed) :
    Offence bag key (.illegal key text key.domain.allowed)
  | truthValue {key : Key} {b : Bool} (hkey : key.domain = .path)
    (h : bag.get? key.name = some (.bool b)) :
    Offence bag key (.illegal key (RawValue.bool b).asText key.domain.allowed)
  | emptyPath {key : Key} {s : String} (hkey : key.domain = .path)
    (h : bag.get? key.name = some (.text s)) (hempty : Text.trim s = "") :
    Offence bag key (.emptyPath key)

/-- What there is to report about a bag: an undeclared name comes before everything else, and the
order of the bag counts among undeclared names only. -/
inductive FirstOffence (bag : Bag) : OptionError → Prop
  | undeclared {front back : List String} {name : String}
    (hsplit : bag.names = front ++ name :: back)
    (hfront : ∀ other ∈ front, ∃ key : Key, key.name = other)
    (hname : ∀ key : Key, key.name ≠ name) : FirstOffence bag (.undeclared name)
  | option {before after : List Key} {key : Key} {e : OptionError}
    (hdeclared : ∀ name ∈ bag.names, ∃ key : Key, key.name = name)
    (hsplit : Key.readingOrder = before ++ key :: after)
    (hbefore : ∀ other ∈ before, ∀ e', ¬ bag.Offence other e')
    (hkey : bag.Offence key e) : FirstOffence bag e

theorem supplied?_eq_some_iff : bag.supplied? key = some text ↔ bag.Gives key text := by
  unfold supplied? Gives
  rw [Option.filter_eq_some_iff, Option.map_eq_some_iff]
  constructor
  · rintro ⟨⟨value, hget, htext⟩, hnot⟩
    exact ⟨value, hget, htext, by simpa using hnot⟩
  · rintro ⟨value, hget, htext, hnot⟩
    exact ⟨⟨value, hget, htext⟩, by simpa using hnot⟩

/-- The text that counts is the one the bag gives, or the default where it gives none. -/
theorem effective?_eq_some_iff :
    bag.effective? key = some text ↔
      bag.Gives key text ∨ (∀ other, ¬ bag.Gives key other) ∧ key.default? = some text := by
  unfold effective?
  rw [Option.or_eq_some_iff, supplied?_eq_some_iff, Option.eq_none_iff_forall_ne_some]
  simp only [ne_eq, supplied?_eq_some_iff]

theorem effective?_eq_none_iff :
    bag.effective? key = none ↔ (∀ text, ¬ bag.Gives key text) ∧ key.default? = none := by
  unfold effective?
  rw [Option.or_eq_none_iff, Option.eq_none_iff_forall_ne_some]
  simp only [ne_eq, supplied?_eq_some_iff]

/-! ## What makes a reader fail -/

theorem undeclared?_eq_some_iff {name : String} :
    bag.undeclared? = some name ↔
      ∃ front back, bag.names = front ++ name :: back ∧
        (∀ other ∈ front, ∃ key : Key, key.name = other) ∧ ∀ key : Key, key.name ≠ name := by
  unfold undeclared?
  rw [List.find?_eq_some_iff_append]
  constructor
  · rintro ⟨hname, front, back, hsplit, hfront⟩
    refine ⟨front, back, hsplit, ?_, ?_⟩
    · intro other hother
      exact Key.isSome_ofName?_iff.mp (by simpa using hfront other hother)
    · intro key hkey
      rw [← hkey, Key.ofName?_name] at hname
      cases hname
  · rintro ⟨front, back, hsplit, hfront, hname⟩
    refine ⟨?_, front, back, hsplit, ?_⟩
    · rw [Option.isNone_iff_eq_none, ← Option.not_isSome_iff_eq_none]
      intro hsome
      obtain ⟨key, hkey⟩ := Key.isSome_ofName?_iff.mp hsome
      exact hname key hkey
    · intro other hother
      simpa using Key.isSome_ofName?_iff.mpr (hfront other hother)

theorem undeclared?_eq_none_iff :
    bag.undeclared? = none ↔ ∀ name ∈ bag.names, ∃ key : Key, key.name = name := by
  unfold undeclared?
  rw [List.find?_eq_none]
  refine forall_congr' fun name => forall_congr' fun _ => ?_
  rw [← Key.isSome_ofName?_iff, Bool.not_eq_true, Option.isNone_eq_false_iff]

theorem checkDeclared_eq_error_iff :
    bag.checkDeclared = .error e ↔ ∃ name, bag.undeclared? = some name ∧ e = .undeclared name := by
  unfold checkDeclared
  cases bag.undeclared? with
  | none => simp
  | some name => simp [eq_comm]

variable {allowed : List String}

theorem readKeyword_of_effective? {α : Type} {meaning : String → Option α}
    (h : bag.effective? key = some text) :
    bag.readKeyword key allowed meaning =
      match meaning (Text.lower text) with
      | some value => .ok value
      | none => .error (.illegal key text allowed) := by
  unfold readKeyword
  rw [required_eq_ok_iff.mpr h]
  rfl

theorem readKeyword_eq_error_iff {α : Type} {meaning : String → Option α}
    (hmeaning : key.Meaning allowed meaning) :
    bag.readKeyword key allowed meaning = .error e ↔ bag.Offence key e := by
  obtain rfl := hmeaning.allowed_eq
  constructor
  · intro h
    cases heffective : bag.effective? key with
    | none =>
      have hdefault := (effective?_eq_none_iff.mp heffective).2
      exact absurd (Key.default?_eq_none_iff.mp hdefault) hmeaning.not_buildMode
    | some text =>
      rw [readKeyword_of_effective? heffective] at h
      cases hword : meaning (Text.lower text) with
      | some value => rw [hword] at h; cases h
      | none =>
        rw [hword] at h
        cases h
        have hforeign := (hmeaning.eq_none_iff _).mp hword
        rcases effective?_eq_some_iff.mp heffective with hgives | ⟨-, hdefault⟩
        · exact .foreignWord hmeaning.not_buildMode hmeaning.not_path hgives hforeign
        · exact absurd (Key.lower_default_mem_allowed hmeaning.not_path hdefault) hforeign
  · intro h
    cases h with
    | noBuildMode => exact absurd rfl hmeaning.not_buildMode
    | unknownBuildMode => exact absurd rfl hmeaning.not_buildMode
    | foreignWord _ _ hgives hword =>
      rw [readKeyword_of_effective? (effective?_eq_some_iff.mpr (.inl hgives)),
        (hmeaning.eq_none_iff _).mpr hword]
    | truthValue hkey => exact absurd hkey hmeaning.not_path
    | emptyPath hkey => exact absurd hkey hmeaning.not_path

theorem readBuildMode_eq_error_iff :
    bag.readBuildMode = .error e ↔ bag.Offence .buildMode e := by
  unfold readBuildMode
  constructor
  · intro h
    cases heffective : bag.effective? .buildMode with
    | none =>
      rw [heffective] at h
      cases h
      exact .noBuildMode (effective?_eq_none_iff.mp heffective).1
    | some text =>
      rw [heffective] at h
      rcases effective?_eq_some_iff.mp heffective with hgives | ⟨-, hdefault⟩
      · cases hword : BuildMode.ofName? (Text.lower text) with
        | some mode => simp [hword] at h
        | none =>
          simp only [hword] at h
          cases h
          exact .unknownBuildMode hgives (BuildMode.ofName?_eq_none_iff.mp hword)
      · cases hdefault
  · intro h
    cases h with
    | noBuildMode hnone => rw [effective?_eq_none_iff.mpr ⟨hnone, rfl⟩]
    | unknownBuildMode hgives hword =>
      rw [effective?_eq_some_iff.mpr (.inl hgives)]
      have hnone : BuildMode.ofName? (Text.lower _) = none :=
        BuildMode.ofName?_eq_none_iff.mpr hword
      simp only [hnone]
    | foreignWord hmode => exact absurd rfl hmode
    | truthValue hkey => cases hkey
    | emptyPath hkey => cases hkey

theorem asText_eq_empty_iff {value : RawValue} :
    value.asText = "" ↔ ∃ s, value = .text s ∧ Text.trim s = "" := by
  cases value with
  | bool b => cases b <;> simp [RawValue.asText]
  | integer n => simp [RawValue.asText, Text.integerText_ne_empty]
  | text s => simp [RawValue.asText]

/-- A path that is no truth value reads as the text that counts, which is empty only if it is
supplied so. -/
theorem readPath_of_effective? (hbool : ∀ b, bag.get? key.name ≠ some (.bool b))
    (h : bag.effective? key = some text) :
    bag.readPath key = if text.isEmpty then .error (.emptyPath key) else .ok text := by
  unfold readPath
  split
  · rename_i b hget
    exact absurd hget (hbool b)
  · rw [required_eq_ok_iff.mpr h]
    rfl

theorem readPath_eq_error_iff (hkey : key.domain = .path) :
    bag.readPath key = .error e ↔ bag.Offence key e := by
  have hmode : key ≠ .buildMode := by
    rintro rfl
    cases hkey
  constructor
  · intro h
    by_cases hbool : ∃ b, bag.get? key.name = some (.bool b)
    · obtain ⟨b, hget⟩ := hbool
      unfold readPath at h
      rw [hget, ← hkey] at h
      cases h
      exact .truthValue hkey hget
    · cases heffective : bag.effective? key with
      | none =>
        have hdefault := (effective?_eq_none_iff.mp heffective).2
        exact absurd (Key.default?_eq_none_iff.mp hdefault) hmode
      | some text =>
        rw [readPath_of_effective? (not_exists.mp hbool) heffective] at h
        split at h
        · rename_i hempty
          cases h
          rw [String.isEmpty_iff] at hempty
          subst hempty
          rcases effective?_eq_some_iff.mp heffective with ⟨value, hget, htext, -⟩ | ⟨-, hdefault⟩
          · obtain ⟨s, rfl, hs⟩ := asText_eq_empty_iff.mp htext
            exact .emptyPath hkey hget hs
          · exact absurd rfl (Key.default_ne_empty hdefault)
        · cases h
  · intro h
    cases h with
    | noBuildMode => exact absurd rfl hmode
    | unknownBuildMode => exact absurd rfl hmode
    | foreignWord _ hno => exact absurd hkey hno
    | truthValue _ hget =>
      unfold readPath
      rw [hget, hkey]
    | emptyPath _ hget hempty =>
      have hgives : bag.Gives key "" := ⟨_, hget, hempty, by decide⟩
      have hbool : ∀ b, bag.get? key.name ≠ some (.bool b) := by
        intro b hb
        rw [hget] at hb
        cases hb
      rw [readPath_of_effective? hbool (effective?_eq_some_iff.mpr (.inl hgives))]
      rfl

/-! ## The readers as checks -/

/-- Whether an option of the bag can be read. -/
def check (bag : Bag) : Key → Except OptionError Unit
  | .buildMode => outcome bag.readBuildMode
  | .abiVariant => outcome (bag.readChoice .abiVariant AbiVariant.ofName?)
  | .bits => outcome (bag.readChoice .bits WordSize.ofName?)
  | .force32Bits => outcome (bag.readSwitch .force32Bits)
  | .useSystem lib => outcome (bag.readSwitch (.useSystem lib))
  | .sdkRoot => outcome (bag.readPath .sdkRoot)
  | .companionRoot => outcome (bag.readPath .companionRoot)
  | .cxx => outcome (bag.readPath .cxx)
  | .mapFile => outcome (bag.readPath .mapFile)

theorem check_eq_error_iff : bag.check key = .error e ↔ bag.Offence key e := by
  cases key with
  | buildMode => exact outcome_eq_error_iff.trans readBuildMode_eq_error_iff
  | abiVariant => exact outcome_eq_error_iff.trans (readKeyword_eq_error_iff Key.meaning_abiVariant)
  | bits => exact outcome_eq_error_iff.trans (readKeyword_eq_error_iff Key.meaning_bits)
  | force32Bits =>
    exact outcome_eq_error_iff.trans (readKeyword_eq_error_iff Key.meaning_force32Bits)
  | useSystem lib =>
    exact outcome_eq_error_iff.trans (readKeyword_eq_error_iff (Key.meaning_useSystem lib))
  | sdkRoot | companionRoot | cxx | mapFile =>
    exact outcome_eq_error_iff.trans (readPath_eq_error_iff rfl)

theorem check_eq_ok_iff : bag.check key = .ok () ↔ ∀ e, ¬ bag.Offence key e := by
  constructor
  · intro h e hoffence
    rw [check_eq_error_iff.mpr hoffence] at h
    cases h
  · intro h
    cases hcheck : bag.check key with
    | ok => rfl
    | error e => exact absurd (check_eq_error_iff.mp hcheck) (h e)

theorem outcome_readSources (libs : List Library) (start : Sources) :
    outcome (bag.readSources libs start) = (libs.map Key.useSystem).forM bag.check := by
  induction libs generalizing start with
  | nil => rfl
  | cons lib rest ih =>
    unfold readSources
    exact outcome_bind rfl fun _ => ih _

theorem forM_readingOrder :
    Key.readingOrder.forM bag.check = (do
      bag.check .buildMode
      bag.check .abiVariant
      bag.check .force32Bits
      bag.check .bits
      (Library.all.map Key.useSystem).forM bag.check
      bag.check .sdkRoot
      bag.check .companionRoot
      bag.check .cxx
      bag.check .mapFile) := by
  simp [Key.readingOrder, List.forM_append]

end Bag

namespace Options

/-- Reading a bag succeeds or fails as the checks do, one option after the other. -/
theorem outcome_ofBag (bag : Bag) :
    outcome (Options.ofBag bag) =
      (bag.checkDeclared >>= fun _ => Key.readingOrder.forM bag.check) := by
  rw [Bag.forM_readingOrder, ← Bag.outcome_readSources Library.all .bundled]
  unfold Options.ofBag Axes.ofBag
  simp only [bind_assoc, pure_bind]
  refine outcome_bind (outcome_unit _) fun _ => ?_
  refine outcome_bind rfl fun mode => ?_
  refine outcome_bind rfl fun variant => ?_
  refine outcome_bind rfl fun force => ?_
  refine outcome_bind rfl fun size => ?_
  refine outcome_bind rfl fun sources => ?_
  refine outcome_bind rfl fun sdkRoot => ?_
  refine outcome_bind rfl fun companionRoot => ?_
  refine outcome_bind rfl fun cxx => ?_
  exact outcome_bind_pure (bag.readPath .mapFile) _

end Options

/-! ## What reading reports -/

namespace Bag

variable {bag : Bag} {key : Key} {e : OptionError}

theorem Gives.unique {text other : String} (h : bag.Gives key text) (h' : bag.Gives key other) :
    text = other := by
  obtain ⟨value, hget, rfl, -⟩ := h
  obtain ⟨value', hget', rfl, -⟩ := h'
  rw [hget] at hget'
  cases hget'
  rfl

theorem Legal.not_offence (h : bag.Legal) (hoffence : bag.Offence key e) : False := by
  cases hoffence with
  | noBuildMode hnone =>
    obtain ⟨text, hgives, -⟩ := h.buildMode
    exact hnone text hgives
  | unknownBuildMode hgives hword =>
    obtain ⟨text, hgives', hword'⟩ := h.buildMode
    rw [hgives.unique hgives'] at hword
    exact hword hword'
  | foreignWord hmode hkey hgives hword => exact hword (h.keyword _ _ hmode hkey hgives)
  | truthValue hkey hget => exact (h.path _ hkey).1 _ hget
  | emptyPath hkey hget hempty => exact (h.path _ hkey).2 _ hget hempty

theorem legal_of_not_offence (hdeclared : ∀ name ∈ bag.names, ∃ key : Key, key.name = name)
    (h : ∀ key e, ¬ bag.Offence key e) : bag.Legal := by
  refine ⟨hdeclared, ?_, ?_, ?_⟩
  · by_cases hgives : ∃ text, bag.Gives .buildMode text
    · obtain ⟨text, hgives⟩ := hgives
      refine ⟨text, hgives, ?_⟩
      by_contra hword
      exact h _ _ (.unknownBuildMode hgives hword)
    · exact absurd (.noBuildMode (not_exists.mp hgives)) (h _ _)
  · intro key text hmode hkey hgives
    by_contra hword
    exact h _ _ (.foreignWord hmode hkey hgives hword)
  · intro key hkey
    refine ⟨?_, ?_⟩
    · intro b hget
      exact h _ _ (.truthValue hkey hget)
    · intro s hget hempty
      exact h _ _ (.emptyPath hkey hget hempty)

theorem not_firstOffence_missing : ¬ bag.FirstOffence (.missing key) := by
  intro h
  cases h with
  | option _ _ _ hoffence => cases hoffence

/-- An illegal value is quoted as the bag has it, beside what its option declares. -/
theorem FirstOffence.quoted {got : String} {allowed : List String}
    (h : bag.FirstOffence (.illegal key got allowed)) :
    (∃ value, bag.get? key.name = some value ∧ value.asText = got) ∧
      allowed = key.domain.allowed := by
  cases h with
  | option _ _ _ hoffence =>
    cases hoffence with
    | foreignWord _ _ hgives =>
      obtain ⟨value, hget, htext, -⟩ := hgives
      exact ⟨⟨value, hget, htext⟩, rfl⟩
    | truthValue _ hget => exact ⟨⟨_, hget, rfl⟩, rfl⟩

end Bag

namespace Options

theorem ofBag_eq_error_iff {bag : Bag} {e : OptionError} :
    Options.ofBag bag = .error e ↔ bag.FirstOffence e := by
  rw [← outcome_eq_error_iff, outcome_ofBag, bind_eq_error_iff, Bag.checkDeclared_eq_error_iff]
  constructor
  · rintro (⟨name, hname, rfl⟩ | ⟨_, hdeclared, hcheck⟩)
    · obtain ⟨front, back, hsplit, hfront, hname⟩ := Bag.undeclared?_eq_some_iff.mp hname
      exact .undeclared hsplit hfront hname
    · obtain ⟨before, key, after, hsplit, hbefore, hkey⟩ := forM_eq_error_iff.mp hcheck
      refine .option (Bag.undeclared?_eq_none_iff.mp (Bag.checkDeclared_eq_ok_iff.mp hdeclared))
        hsplit ?_ (Bag.check_eq_error_iff.mp hkey)
      intro other hother
      exact Bag.check_eq_ok_iff.mp (hbefore other hother)
  · intro h
    cases h with
    | undeclared hsplit hfront hname =>
      exact Or.inl ⟨_, Bag.undeclared?_eq_some_iff.mpr ⟨_, _, hsplit, hfront, hname⟩, rfl⟩
    | option hdeclared hsplit hbefore hkey =>
      refine Or.inr ⟨(), Bag.checkDeclared_eq_ok_iff.mpr
        (Bag.undeclared?_eq_none_iff.mpr hdeclared), ?_⟩
      refine forM_eq_error_iff.mpr ⟨_, _, _, hsplit, ?_, Bag.check_eq_error_iff.mpr hkey⟩
      intro other hother
      exact Bag.check_eq_ok_iff.mpr (hbefore other hother)

theorem exists_ofBag_eq_ok_iff {bag : Bag} :
    (∃ options, Options.ofBag bag = .ok options) ↔ bag.Legal := by
  rw [← outcome_eq_ok_iff, outcome_ofBag, bind_eq_ok_iff]
  constructor
  · rintro ⟨_, hdeclared, hcheck⟩
    refine Bag.legal_of_not_offence
      (Bag.undeclared?_eq_none_iff.mp (Bag.checkDeclared_eq_ok_iff.mp hdeclared)) fun key => ?_
    exact Bag.check_eq_ok_iff.mp (forM_eq_ok_iff.mp hcheck key (Key.mem_readingOrder key))
  · intro h
    refine ⟨(), Bag.checkDeclared_eq_ok_iff.mpr (Bag.undeclared?_eq_none_iff.mpr h.declared), ?_⟩
    refine forM_eq_ok_iff.mpr fun key _ => Bag.check_eq_ok_iff.mpr fun e => ?_
    exact h.not_offence

/-- **Reading accepts exactly the legal bags and reports the first offence of every other one.** A
missing value is never reported, and a value that is reported as illegal is reported with the
option's name, the text that the bag has for it and the spellings that the option declares. -/
theorem ofBag_legal_or_first_offence (bag : Bag) :
    ((∃ options, Options.ofBag bag = .ok options) ↔ bag.Legal) ∧
      (∀ e, Options.ofBag bag = .error e ↔ bag.FirstOffence e) ∧
      (∀ key, Options.ofBag bag ≠ .error (.missing key)) ∧
      ∀ key got allowed, Options.ofBag bag = .error (.illegal key got allowed) →
        (∃ value, bag.get? key.name = some value ∧ value.asText = got) ∧
          allowed = key.domain.allowed ∧
          (OptionError.illegal key got allowed).message =
            "Invalid value '" ++ got ++ "' for option '" ++ key.name ++ "' (allowed: " ++
              ", ".intercalate key.domain.allowed ++ ")" := by
  refine ⟨exists_ofBag_eq_ok_iff, fun e => ofBag_eq_error_iff, ?_, ?_⟩
  · intro key h
    exact Bag.not_firstOffence_missing (ofBag_eq_error_iff.mp h)
  · intro key got allowed h
    obtain ⟨hgot, rfl⟩ := (ofBag_eq_error_iff.mp h).quoted
    exact ⟨hgot, rfl, rfl⟩

-- Three things are wrong here; the bag's own order has no say in which of them is reported.
example : Options.ofBag (.ofList [("map_file", .bool true), ("bits", .text " 16 "),
    ("use_system_ogg", .integer 1), ("build_mode", .text "DEBUG\n")]) =
      .error (.illegal .bits "16" ["32", "64"]) := by decide

end Options

end CrossFlags
