import CrossFlags.Proofs.Options.Offence
import CrossFlags.Proofs.Options.Normal
import CrossFlags.Proofs.Options.SideBySide

/-!
# Spelling

Values come from files, variables and command lines, and are spelled as people spell them. What of a
spelling counts is different for words of the program and for paths. A keyword may be written in any
case of its ASCII letters, with blanks around it, and as a truth value or a number where its text is
one. Of a path only the blanks around it are dropped. **Bags that differ in spelling alone are read
alike** (`ofBag_of_respelled`): they give the same options, or they fail over the same option for the
same reason, though each quotes its own text.

Readers fold their text in three places (when they ask whether it is a word for the default, when
they look it up, and never for paths), and the relation between the bags is chosen so that each of
them sees the same: `Text.lower` of what a keyword option holds, and for a path the text itself and
whether it is a truth value.
-/

set_option autoImplicit false

namespace CrossFlags

/-- The values are the same but for their spelling, in an option with this domain. -/
inductive RawValue.Respelled : Domain → RawValue → RawValue → Prop
  | keyword {domain : Domain} {v w : RawValue} (hdomain : domain ≠ .path)
      (h : Text.lower v.asText = Text.lower w.asText) : Respelled domain v w
  | truthValue (b : Bool) : Respelled .path (.bool b) (.bool b)
  | path {v w : RawValue} (hv : ∀ b, v ≠ .bool b) (hw : ∀ b, w ≠ .bool b)
      (h : v.asText = w.asText) : Respelled .path v w

/-- The bags have the same names in the same order, and the values of every option are the same but
for their spelling. -/
structure Bag.Respelled (a b : Bag) : Prop where
  names : a.names = b.names
  value : ∀ (key : Key) v w, a.get? key.name = some v → b.get? key.name = some w →
    RawValue.Respelled key.domain v w

/-- The error with the text that it quotes folded: what is wrong, and with which option. -/
def OptionError.folded : OptionError → OptionError
  | .illegal key got allowed => .illegal key (Text.lower got) allowed
  | .unknownBuildMode got => .unknownBuildMode (got.map Text.lower)
  | e => e

theorem asksForDefault_congr {s t : String} (h : Text.lower s = Text.lower t) :
    asksForDefault s = asksForDefault t := by
  rw [Bool.eq_iff_iff, asksForDefault_iff, asksForDefault_iff, h]

namespace RawValue

variable {domain : Domain} {v w : RawValue}

theorem respelled_path_iff :
    Respelled .path v w ↔ v.asText = w.asText ∧ ∀ b, v = .bool b ↔ w = .bool b := by
  constructor
  · intro h
    cases h with
    | keyword hdomain => exact absurd rfl hdomain
    | truthValue b => exact ⟨rfl, fun _ => Iff.rfl⟩
    | path hv hw htext => exact ⟨htext, fun b => iff_of_false (hv b) (hw b)⟩
  · rintro ⟨htext, hbool⟩
    by_cases hv : ∃ b, v = .bool b
    · obtain ⟨b, rfl⟩ := hv
      rw [(hbool b).mp rfl]
      exact .truthValue b
    · have hw : ∀ b, w ≠ .bool b := fun b hb => hv ⟨b, (hbool b).mpr hb⟩
      exact .path (not_exists.mp hv) hw htext

theorem respelled_iff (hdomain : domain ≠ .path) :
    Respelled domain v w ↔ Text.lower v.asText = Text.lower w.asText := by
  constructor
  · intro h
    cases h with
    | keyword _ hlower => exact hlower
    | truthValue => exact absurd rfl hdomain
    | path => exact absurd rfl hdomain
  · intro h
    exact .keyword hdomain h

theorem Respelled.lower_eq (h : Respelled domain v w) :
    Text.lower v.asText = Text.lower w.asText := by
  by_cases hdomain : domain = .path
  · subst hdomain
    rw [(respelled_path_iff.mp h).1]
  · exact (respelled_iff hdomain).mp h

instance (domain : Domain) (v w : RawValue) : Decidable (Respelled domain v w) :=
  if hdomain : domain = .path then
    decidable_of_iff (v.asText = w.asText ∧ ∀ b, v = .bool b ↔ w = .bool b)
      (hdomain ▸ respelled_path_iff.symm)
  else decidable_of_iff _ (respelled_iff hdomain).symm

end RawValue

instance (a b : Bag) : Decidable (a.Respelled b) :=
  decidable_of_iff
    (a.names = b.names ∧ ∀ key ∈ Key.all, ∀ v ∈ a.get? key.name, ∀ w ∈ b.get? key.name,
      RawValue.Respelled key.domain v w)
    ⟨fun h => ⟨h.1, fun key v w hv hw => h.2 key key.mem_all v hv w hw⟩,
      fun h => ⟨h.names, fun key _ v hv w hw => h.value key v w hv hw⟩⟩

namespace Bag.Respelled

variable {a b : Bag} {key : Key} (h : a.Respelled b)

include h

theorem undeclared?_eq : a.undeclared? = b.undeclared? := by
  unfold undeclared?
  rw [h.names]

theorem get?_eq_none_iff : a.get? key.name = none ↔ b.get? key.name = none := by
  rw [Bag.get?_eq_none_iff, Bag.get?_eq_none_iff, h.names]

/-- An option is in neither bag, or in both in two spellings. -/
theorem get?_cases (key : Key) :
    (a.get? key.name = none ∧ b.get? key.name = none) ∨
      ∃ v w, a.get? key.name = some v ∧ b.get? key.name = some w ∧
        RawValue.Respelled key.domain v w := by
  cases ha : a.get? key.name with
  | none => exact .inl ⟨rfl, h.get?_eq_none_iff.mp ha⟩
  | some v =>
    cases hb : b.get? key.name with
    | none =>
      rw [h.get?_eq_none_iff.mpr hb] at ha
      cases ha
    | some w => exact .inr ⟨v, w, rfl, rfl, h.value key v w ha hb⟩

/-! ## What the readers see -/

theorem effective?_lower (key : Key) :
    (a.effective? key).map Text.lower = (b.effective? key).map Text.lower := by
  unfold effective? supplied?
  rw [Option.map_or, Option.map_or]
  obtain ⟨ha, hb⟩ | ⟨v, w, ha, hb, hvw⟩ := h.get?_cases key
  · rw [ha, hb]
  · have hasks : asksForDefault v.asText = asksForDefault w.asText :=
      asksForDefault_congr hvw.lower_eq
    rw [ha, hb, Option.map_some, Option.map_some, Option.filter_some, Option.filter_some, hasks]
    split
    · rw [Option.map_some, Option.map_some, hvw.lower_eq]
    · rfl

theorem effective?_path (hkey : key.domain = .path) : a.effective? key = b.effective? key := by
  unfold effective? supplied?
  obtain ⟨ha, hb⟩ | ⟨v, w, ha, hb, hvw⟩ := h.get?_cases key
  · rw [ha, hb]
  · rw [hkey] at hvw
    rw [ha, hb, Option.map_some, Option.map_some, (RawValue.respelled_path_iff.mp hvw).1]

theorem truthValue_iff (hkey : key.domain = .path) (t : Bool) :
    a.get? key.name = some (.bool t) ↔ b.get? key.name = some (.bool t) := by
  obtain ⟨ha, hb⟩ | ⟨v, w, ha, hb, hvw⟩ := h.get?_cases key
  · rw [ha, hb]
  · rw [hkey] at hvw
    rw [ha, hb, Option.some.injEq, Option.some.injEq, (RawValue.respelled_path_iff.mp hvw).2 t]

end Bag.Respelled

/-! ## Keyword readers -/

namespace Bag

variable {a b : Bag} {key : Key}

theorem map_lower_eq_cases {x y : Option String} (h : x.map Text.lower = y.map Text.lower) :
    (x = none ∧ y = none) ∨ ∃ s t, x = some s ∧ y = some t ∧ Text.lower s = Text.lower t := by
  cases x with
  | none => exact .inl ⟨rfl, Option.map_eq_none_iff.mp h.symm⟩
  | some s =>
    obtain ⟨t, rfl, hst⟩ := Option.map_eq_some_iff.mp h.symm
    exact .inr ⟨s, t, rfl, rfl, hst.symm⟩

theorem mapError_readKeyword {α : Type}
    (h : (a.effective? key).map Text.lower = (b.effective? key).map Text.lower)
    (allowed : List String) (meaning : String → Option α) :
    (a.readKeyword key allowed meaning).mapError OptionError.folded =
      (b.readKeyword key allowed meaning).mapError OptionError.folded := by
  obtain ⟨ha, hb⟩ | ⟨s, t, ha, hb, hst⟩ := map_lower_eq_cases h
  · rw [readKeyword, readKeyword, required, required, ha, hb]
  · rw [readKeyword_of_effective? ha, readKeyword_of_effective? hb, hst]
    cases meaning (Text.lower t) with
    | some value => rfl
    | none =>
      show Except.error (OptionError.illegal key (Text.lower s) allowed) =
        .error (.illegal key (Text.lower t) allowed)
      rw [hst]

theorem mapError_readBuildMode
    (h : (a.effective? .buildMode).map Text.lower = (b.effective? .buildMode).map Text.lower) :
    a.readBuildMode.mapError OptionError.folded = b.readBuildMode.mapError OptionError.folded := by
  obtain ⟨ha, hb⟩ | ⟨s, t, ha, hb, hst⟩ := map_lower_eq_cases h
  · rw [readBuildMode, readBuildMode, ha, hb]
  · simp only [readBuildMode, ha, hb, hst]
    cases BuildMode.ofName? (Text.lower t) with
    | some mode => rfl
    | none =>
      show Except.error (OptionError.unknownBuildMode (some (Text.lower s))) =
        .error (.unknownBuildMode (some (Text.lower t)))
      rw [hst]

end Bag

namespace Options

theorem mapError_ofBag_of_respelled {a b : Bag} (h : a.Respelled b) :
    (ofBag a).mapError OptionError.folded = (ofBag b).mapError OptionError.folded := by
  apply mapError_ofBag
  case hdeclared => rw [Bag.checkDeclared, Bag.checkDeclared, h.undeclared?_eq]
  case hmode => exact Bag.mapError_readBuildMode (h.effective?_lower .buildMode)
  case hkeyword =>
    intro α key allowed meaning _
    exact Bag.mapError_readKeyword (h.effective?_lower key) allowed meaning
  case hpath =>
    intro key hkey
    rw [Bag.readPath_congr (h.truthValue_iff hkey) (h.effective?_path hkey)]

theorem textOf_eq_of_ofBag {bag : Bag} {options : Options} {key : Key} {value : RawValue}
    (hoptions : ofBag bag = .ok options) (hkey : key.domain = .path)
    (hget : bag.get? key.name = some value) (hword : Text.lower value.asText ∉ defaultWords) :
    options.textOf key = value.asText := by
  have hread := (ofBag_eq_ok_iff.mp hoptions).path key hkey
  obtain ⟨-, heffective, -⟩ := Bag.readPath_eq_ok_iff.mp hread
  have hasks : asksForDefault value.asText = false :=
    Bool.eq_false_iff.mpr fun hasks => hword (asksForDefault_iff.mp hasks)
  have hgives : bag.Gives key value.asText := ⟨value, hget, rfl, hasks⟩
  rw [Bag.effective?_eq_some_iff.mpr (.inl hgives)] at heffective
  exact (Option.some.inj heffective).symm

/-- **Spelling does not matter to keywords, and all that is lost of a path are the blanks around
it.** -/
theorem ofBag_of_respelled (a b : Bag) :
    (a.Respelled b →
      (ofBag a).mapError OptionError.folded = (ofBag b).mapError OptionError.folded) ∧
      ∀ options key value, ofBag a = .ok options → key.domain = .path →
        a.get? key.name = some value → Text.lower value.asText ∉ defaultWords →
          options.textOf key = value.asText ∧
            ∀ s, value = .text s → ∃ front back : List Char,
              s.toList = front ++ (options.textOf key).toList ++ back ∧
                ∀ c ∈ front ++ back, Text.isBlank c = true := by
  refine ⟨mapError_ofBag_of_respelled, ?_⟩
  intro options key value hoptions hkey hget hword
  have htext := textOf_eq_of_ofBag hoptions hkey hget hword
  refine ⟨htext, ?_⟩
  rintro s rfl
  rw [htext]
  exact Text.exists_blanks_trim s

/-- A truth value and a number against their texts, two cases of one keyword, and paths that differ
in the blanks around them. -/
theorem ofBag_of_respelled_in_every_domain :
    let a : Bag := .ofList
      [("build_mode", .text " Release_Debug"), ("force_32_bits", .bool false),
       ("sdk_root", .text "\t/Opt/My EPOC\u00a0"), ("bits", .integer 64)]
    let b : Bag := .ofList
      [("build_mode", .text "RELEASE_DEBUG\n"), ("force_32_bits", .text "False"),
       ("sdk_root", .text "/Opt/My EPOC"), ("bits", .text " 64")]
    a.Respelled b ∧ ∃ options, ofBag a = .ok options ∧
      (ofBag b).mapError OptionError.folded = .ok options ∧
      options.textOf .sdkRoot = "/Opt/My EPOC" := by
  intro a b
  have h : a.Respelled b := by decide +kernel
  have hget : a.get? Key.sdkRoot.name = some (.text "\t/Opt/My EPOC\u00a0") := by decide
  have hword : Text.lower (RawValue.text "\t/Opt/My EPOC\u00a0").asText ∉ defaultWords := by
    decide +kernel
  obtain ⟨hsame, hpath⟩ := ofBag_of_respelled a b
  cases hoptions : ofBag a with
  | error e =>
    have hok : (ofBag a).isOk = true := by decide +kernel
    rw [hoptions] at hok
    cases hok
  | ok options =>
    have hb := hsame h
    rw [hoptions] at hb
    refine ⟨h, options, rfl, hb.symm, ?_⟩
    exact (hpath options .sdkRoot _ hoptions rfl hget hword).1

/-- Only ASCII letters fold: the long s is no s. -/
example : ofBag (.ofList [("build_mode", .text "RELEA\u017fE")]) =
    .error (.unknownBuildMode (some "RELEA\u017fE")) := by decide

end Options
end CrossFlags
