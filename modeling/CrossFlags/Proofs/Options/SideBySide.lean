import CrossFlags.Proofs.Options.Reading

/-!
# Two bags side by side

A bag is read by sixteen readers in a row, and which of them a run comes to depends on those before
it. To compare two bags the runs need not be compared: **bags that no single reader tells apart are
read alike** (`Options.mapError_ofBag`). What "alike" allows is left open. Errors may be compared by
any view of them, so that a reader may report the same mistake in two spellings; values are compared
as they are, because a later reader may depend on them.

Where the view is the error itself, all that the readers look at comes down to three things
(`Bag.SameReading`): the first undeclared name, the text that counts for each option, and whether an
option holds a truth value, which only the paths want to know.
-/

set_option autoImplicit false

namespace CrossFlags

variable {ε : Type} {view : OptionError → ε} {a b : Bag}

namespace Bag

theorem mapError_readSources
    (h : ∀ lib, (a.readSwitch (.useSystem lib)).mapError view =
      (b.readSwitch (.useSystem lib)).mapError view) (libs : List Library) (sources : Sources) :
    (a.readSources libs sources).mapError view = (b.readSources libs sources).mapError view := by
  induction libs generalizing sources with
  | nil => rfl
  | cons lib rest ih => exact mapError_bind_congr (h lib) fun _ => ih _

end Bag

theorem Axes.mapError_ofBag
    (hdeclared : a.checkDeclared.mapError view = b.checkDeclared.mapError view)
    (hmode : a.readBuildMode.mapError view = b.readBuildMode.mapError view)
    (hkeyword : ∀ (α : Type) (key : Key) (allowed : List String) (meaning : String → Option α),
      key.domain ≠ .path → (a.readKeyword key allowed meaning).mapError view =
        (b.readKeyword key allowed meaning).mapError view) :
    (Axes.ofBag a).mapError view = (Axes.ofBag b).mapError view := by
  refine mapError_bind_congr hdeclared fun _ => ?_
  refine mapError_bind_congr hmode fun _ => ?_
  refine mapError_bind_congr (hkeyword _ .abiVariant _ _ nofun) fun _ => ?_
  refine mapError_bind_congr (hkeyword _ .force32Bits _ _ nofun) fun _ => ?_
  exact mapError_bind_congr (hkeyword _ .bits _ _ nofun) fun _ => rfl

/-- **Bags that no reader tells apart are read alike.** -/
theorem Options.mapError_ofBag
    (hdeclared : a.checkDeclared.mapError view = b.checkDeclared.mapError view)
    (hmode : a.readBuildMode.mapError view = b.readBuildMode.mapError view)
    (hkeyword : ∀ (α : Type) (key : Key) (allowed : List String) (meaning : String → Option α),
      key.domain ≠ .path → (a.readKeyword key allowed meaning).mapError view =
        (b.readKeyword key allowed meaning).mapError view)
    (hpath : ∀ key : Key, key.domain = .path →
      (a.readPath key).mapError view = (b.readPath key).mapError view) :
    (Options.ofBag a).mapError view = (Options.ofBag b).mapError view := by
  refine mapError_bind_congr (Axes.mapError_ofBag hdeclared hmode hkeyword) fun _ => ?_
  refine mapError_bind_congr
    (Bag.mapError_readSources (fun _ => hkeyword _ _ _ _ nofun) _ _) fun _ => ?_
  refine mapError_bind_congr (hpath .sdkRoot rfl) fun _ => ?_
  refine mapError_bind_congr (hpath .companionRoot rfl) fun _ => ?_
  refine mapError_bind_congr (hpath .cxx rfl) fun _ => ?_
  exact mapError_bind_congr (hpath .mapFile rfl) fun _ => rfl

/-! ## Bags that hold the same for every reader -/

namespace Bag

variable {key : Key}

theorem readPath_of_not_truthValue (h : ∀ v, a.get? key.name ≠ some (.bool v)) :
    a.readPath key = (do
      let path ← a.required key
      if path.isEmpty then .error (.emptyPath key) else .ok path) := by
  unfold readPath
  split
  · rename_i v hget
    exact absurd hget (h v)
  · rfl

theorem readPath_congr
    (htruth : ∀ v, a.get? key.name = some (.bool v) ↔ b.get? key.name = some (.bool v))
    (h : a.effective? key = b.effective? key) : a.readPath key = b.readPath key := by
  by_cases hbool : ∃ v, a.get? key.name = some (.bool v)
  · obtain ⟨v, ha⟩ := hbool
    have hb := (htruth v).mp ha
    simp only [readPath, ha, hb]
  · have ha : ∀ v, a.get? key.name ≠ some (.bool v) := not_exists.mp hbool
    have hb : ∀ v, b.get? key.name ≠ some (.bool v) := fun v hv => ha v ((htruth v).mpr hv)
    rw [readPath_of_not_truthValue ha, readPath_of_not_truthValue hb, required, required, h]

/-- The bags hold the same for every reader. -/
structure SameReading (a b : Bag) : Prop where
  undeclared? : a.undeclared? = b.undeclared?
  effective? : ∀ key, a.effective? key = b.effective? key
  truthValue : ∀ (key : Key) v, a.get? key.name = some (.bool v) ↔ b.get? key.name = some (.bool v)

theorem SameReading.ofBag_eq (h : SameReading a b) : Options.ofBag a = Options.ofBag b := by
  rw [← mapError_id (Options.ofBag a), ← mapError_id (Options.ofBag b)]
  apply Options.mapError_ofBag
  case hdeclared => rw [checkDeclared, checkDeclared, h.undeclared?]
  case hmode => rw [readBuildMode, readBuildMode, h.effective?]
  case hkeyword =>
    intro α key allowed meaning _
    rw [readKeyword, readKeyword, required, required, h.effective?]
  case hpath =>
    intro key _
    rw [readPath_congr (h.truthValue key) (h.effective? key)]

end Bag
end CrossFlags
