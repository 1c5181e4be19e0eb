import CrossFlags.Proofs.Options.Independence
import CrossFlags.Proofs.Options.Normal
import CrossFlags.Proofs.Options.SideBySide

/-!
# Three ways to ask for a default

An option can be left at its default by not mentioning it, by one of the words that stand for the
default, or by writing the default out. **All three are read alike** (`ofBag_of_default_word`), in
any bag: whatever the option is, whatever else the bag holds, and also where the bag is not accepted,
in which case the same error is reported. The build mode has no default to write out, and there the
word and the omission are the same mistake.

That an entry can be taken out without a trace is not because readers ignore it. Its name counts
towards the undeclared ones, which is why it matters that the option is a declared one
(`Bag.undeclared?_erase`), and its place in the order counts for no option.
-/

set_option autoImplicit false

namespace CrossFlags

variable {bag bag' : Bag} {key other : Key}

namespace Bag

/-! ## One declared entry more or less -/

theorem undeclared?_erase (bag : Bag) (key : Key) :
    (bag.erase key.name).undeclared? = bag.undeclared? := by
  unfold undeclared?
  rw [names_erase, List.find?_filter]
  congr 1
  funext name
  by_cases hname : name = key.name
  · rw [hname, Key.ofName?_name]
    simp
  · simp only [hname, ne_eq, not_false_eq_true, decide_true, true_and, Bool.decide_eq_true]

theorem undeclared?_insert (bag : Bag) (key : Key) (value : RawValue) :
    (bag.insert key.name value).undeclared? = bag.undeclared? := by
  unfold undeclared?
  rw [names_insert]
  split
  · rfl
  · rw [List.find?_append, List.find?_singleton, Key.ofName?_name]
    simp

theorem agree_erase (hne : other ≠ key) (bag : Bag) : (bag.erase key.name).Agree bag other := by
  rw [Agree, get?_erase, if_neg fun hname => hne (Key.name_injective hname)]

theorem agree_insert (hne : other ≠ key) (bag : Bag) (value : RawValue) :
    (bag.insert key.name value).Agree bag other := by
  rw [Agree, get?_insert, if_neg fun hname => hne (Key.name_injective hname)]

/-! ## What counts for the option -/

theorem effective?_of_default_word {s : String} (hget : bag.get? key.name = some (.text s))
    (hword : Text.lower (Text.trim s) ∈ defaultWords) : bag.effective? key = key.default? := by
  have hasks : asksForDefault (RawValue.text s).asText = true := asksForDefault_iff.mpr hword
  rw [effective?, supplied?, hget, Option.map_some, Option.filter_some, hasks]
  rfl

theorem effective?_of_get?_eq_none (h : bag.get? key.name = none) :
    bag.effective? key = key.default? := by
  rw [effective?, supplied?, h]
  rfl

/-- A default is no word for the default, and has no blanks around it. -/
theorem effective?_of_default {text : String} (hdefault : key.default? = some text)
    (hget : bag.get? key.name = some (.text text)) : bag.effective? key = key.default? := by
  rw [effective?_of_verbatim hget (Key.verbatim_of_default? hdefault), hdefault]

/-- Bags that differ at one option alone, and there not for its reader, are the same to all. -/
theorem sameReading_of_one (hundeclared : bag'.undeclared? = bag.undeclared?)
    (hothers : ∀ other, other ≠ key → bag'.Agree bag other)
    (heffective : bag'.effective? key = bag.effective? key)
    (htruth' : ∀ v, bag'.get? key.name ≠ some (.bool v))
    (htruth : ∀ v, bag.get? key.name ≠ some (.bool v)) : SameReading bag' bag where
  undeclared? := hundeclared
  effective? other := by
    by_cases h : other = key
    · rw [h, heffective]
    · exact (hothers other h).effective?
  truthValue other v := by
    by_cases h : other = key
    · subst h
      exact iff_of_false (htruth' v) (htruth v)
    · rw [hothers other h]

end Bag

namespace Options

/-- **A word for the default, no entry, and the default itself are read alike.** -/
theorem ofBag_of_default_word {s : String} (hget : bag.get? key.name = some (.text s))
    (hword : Text.lower (Text.trim s) ∈ defaultWords) :
    ofBag (bag.erase key.name) = ofBag bag ∧
      ∀ text, key.default? = some text →
        ofBag (bag.insert key.name (.text text)) = ofBag bag := by
  have heffective : bag.effective? key = key.default? := Bag.effective?_of_default_word hget hword
  have htext (bag : Bag) (s : String) (hget : bag.get? key.name = some (.text s)) (v : Bool) :
      bag.get? key.name ≠ some (.bool v) := by
    rw [hget]
    exact nofun
  constructor
  · have hnone : (bag.erase key.name).get? key.name = none := by
      rw [Bag.get?_erase, if_pos rfl]
    refine (Bag.sameReading_of_one (bag.undeclared?_erase key) ?_ ?_ ?_ (htext bag s hget)).ofBag_eq
    · intro other hother
      exact Bag.agree_erase hother bag
    · rw [Bag.effective?_of_get?_eq_none hnone, heffective]
    · intro v
      rw [hnone]
      exact nofun
  · intro text hdefault
    have hset : (bag.insert key.name (.text text)).get? key.name = some (.text text) := by
      rw [Bag.get?_insert, if_pos rfl]
    refine (Bag.sameReading_of_one (bag.undeclared?_insert key _) ?_ ?_ (htext _ text hset)
      (htext bag s hget)).ofBag_eq
    · intro other hother
      exact Bag.agree_insert hother bag _
    · rw [Bag.effective?_of_default hdefault hset, heffective]

/-- A path that asks for its default in a bag with something else wrong behind it. -/
theorem ofBag_of_default_word_padded :
    let bag : Bag := .ofList
      [("sdk_root", .text "\u3000Default\n"), ("build_mode", .text "Debug"), ("bits", .text " 16 ")]
    bag.get? Key.sdkRoot.name = some (.text "\u3000Default\n") ∧
      Text.lower (Text.trim "\u3000Default\n") ∈ defaultWords ∧
      ofBag bag = .error (.illegal .bits "16" ["32", "64"]) ∧
      ofBag (bag.erase Key.sdkRoot.name) = ofBag bag ∧
      ofBag (bag.insert Key.sdkRoot.name
        (.text "C:/Nokia/devices/Nokia_Symbian_Belle_SDK_v1.0")) = ofBag bag := by
  intro bag
  have hget : bag.get? Key.sdkRoot.name = some (.text "\u3000Default\n") := by decide
  have hword : Text.lower (Text.trim "\u3000Default\n") ∈ defaultWords := by decide
  obtain ⟨herase, hinsert⟩ := ofBag_of_default_word hget hword
  exact ⟨hget, hword, by decide, herase, hinsert _ rfl⟩

end Options
end CrossFlags
