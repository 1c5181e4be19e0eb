import CrossFlags.Json.Read
import CrossFlags.Proofs.Text.Words

/-!
# The texts of a JSON document

`TextOf` says which texts spell a document: JSON's grammar for truth values, strings, arrays and
objects, with blanks between any two signs and every way to write a character of a string. It is
what "well-formed" means here, and it knows nothing of the layout that the library writes.

**Reading finds the document of every such text** (`read?_of_textOf`), so a text spells at most one
document (`TextOf.unique`), whoever reads it. The proof follows the grammar. A part of a text is
read with brackets open around it that it never touches, so each lemma is about any stack below; the
one thing a value has to know about its place is that a string there is no field's name.
-/

set_option autoImplicit false

namespace CrossFlags.Json

open Text (Pieced)

/-! ## The grammar -/

/-- Nothing but blanks. -/
def Gap (cs : List Char) : Prop := ∀ c ∈ cs, isGap c = true

/-- A character of a string. -/
inductive Spells : Char → List Char → Prop
  | itself {c : Char} (h : isPlain c = true) : Spells c [c]
  | letter {c letter : Char} (h : letterEscape? letter = some c) : Spells c ['\\', letter]
  | code {c d₁ d₂ d₃ d₄ : Char} (h : OptionFile.codePoint? [d₁, d₂, d₃, d₄] = some c) :
      Spells c ['\\', 'u', d₁, d₂, d₃, d₄]

inductive StringText (s : String) : List Char → Prop
  | mk {body : List Char} (hbody : Pieced Spells s.toList body) :
      StringText s ('"' :: (body ++ ['"']))

mutual

inductive ValueText : Json → List Char → Prop
  | bool (b : Bool) : ValueText (.bool b) (toString b).toList
  | string {s : String} {cs : List Char} (h : StringText s cs) : ValueText (.string s) cs
  | emptyArray {gap : List Char} (hgap : Gap gap) : ValueText (.array []) ('[' :: (gap ++ [']']))
  | array {item : Json} {items : List Json} {gap front rest : List Char} (hgap : Gap gap)
      (hfront : ValueText item front) (hrest : ItemsText items rest) :
      ValueText (.array (item :: items)) ('[' :: (gap ++ (front ++ rest)))
  | emptyObject {gap : List Char} (hgap : Gap gap) :
      ValueText (.object []) ('\x7b' :: (gap ++ ['\x7d']))
  | object {field : String × Json} {fields : List (String × Json)} {gap front rest : List Char}
      (hgap : Gap gap) (hfront : FieldText field front) (hrest : FieldsText fields rest) :
      ValueText (.object (field :: fields)) ('\x7b' :: (gap ++ (front ++ rest)))

/-- What follows an element of an array: the further ones, up to the bracket. -/
inductive ItemsText : List Json → List Char → Prop
  | close {gap : List Char} (hgap : Gap gap) : ItemsText [] (gap ++ [']'])
  | more {item : Json} {items : List Json} {before after front rest : List Char}
      (hbefore : Gap before) (hafter : Gap after) (hfront : ValueText item front)
      (hrest : ItemsText items rest) :
      ItemsText (item :: items) (before ++ ',' :: (after ++ (front ++ rest)))

inductive FieldText : String × Json → List Char → Prop
  | mk {name : String} {value : Json} {key before after text : List Char}
      (hkey : StringText name key) (hbefore : Gap before) (hafter : Gap after)
      (hvalue : ValueText value text) :
      FieldText (name, value) (key ++ (before ++ ':' :: (after ++ text)))

/-- What follows a field of an object: the further ones, up to the brace. -/
inductive FieldsText : List (String × Json) → List Char → Prop
  | close {gap : List Char} (hgap : Gap gap) : FieldsText [] (gap ++ ['\x7d'])
  | more {field : String × Json} {fields : List (String × Json)}
      {before after front rest : List Char} (hbefore : Gap before) (hafter : Gap after)
      (hfront : FieldText field front) (hrest : FieldsText fields rest) :
      FieldsText (field :: fields) (before ++ ',' :: (after ++ (front ++ rest)))

end

/-- A whole text that spells a document. -/
inductive TextOf (json : Json) : String → Prop
  | mk {before value after : List Char} (hbefore : Gap before) (hvalue : ValueText json value)
      (hafter : Gap after) : TextOf json (String.ofList (before ++ (value ++ after)))

/-! ## Reading it -/

namespace Reading

theorem run_cons (reading : Reading) (c : Char) (rest : List Char) :
    reading.run (c :: rest) = (reading.step c).bind (run · rest) :=
  List.foldlM_cons

theorem run_append (reading : Reading) (front back : List Char) :
    reading.run (front ++ back) = (reading.run front).bind (run · back) :=
  List.foldlM_append

theorem run_gap {reading : Reading} {gap : List Char}
    (hidle : ∀ c, isGap c = true → reading.step c = some reading) (hgap : Gap gap) :
    reading.run gap = some reading := by
  induction gap with
  | nil => rfl
  | cons c rest ih =>
    obtain ⟨hc, hrest⟩ := List.forall_mem_cons.mp hgap
    rw [run_cons, hidle c hc, Option.bind_some, ih hrest]

variable {stack : List Frame}

theorem step_value_gap (c : Char) (h : isGap c = true) :
    (⟨stack, .value⟩ : Reading).step c = some ⟨stack, .value⟩ :=
  if_pos h

theorem step_name_gap (c : Char) (h : isGap c = true) :
    (⟨stack, .name⟩ : Reading).step c = some ⟨stack, .name⟩ :=
  if_pos h

theorem step_colon_gap (c : Char) (h : isGap c = true) :
    (⟨stack, .colon⟩ : Reading).step c = some ⟨stack, .colon⟩ :=
  if_pos h

theorem step_after_gap {json : Json} (c : Char) (h : isGap c = true) :
    (⟨stack, .after json⟩ : Reading).step c = some ⟨stack, .after json⟩ :=
  if_pos h

/-! ### Strings -/

theorem run_of_spells {c : Char} {spelled : List Char} (h : Spells c spelled) (cs : List Char) :
    (⟨stack, .text cs⟩ : Reading).run spelled = some ⟨stack, .text (cs ++ [c])⟩ := by
  cases h with
  | itself hplain =>
    have hparts := hplain
    simp only [isPlain, Bool.and_eq_true, bne_iff_ne] at hparts
    have hstep : (⟨stack, .text cs⟩ : Reading).step c = some ⟨stack, .text (cs ++ [c])⟩ := by
      simp only [step, hparts.1.2, hparts.2, hplain, if_false, if_true]
    rw [run_cons, hstep]
    rfl
  | @letter letter hletter =>
    have hu : letter ≠ 'u' := by
      rintro rfl
      cases hletter
    have hescape : (⟨stack, .text cs⟩ : Reading).run ['\\', letter] =
        ((⟨stack, .escape cs⟩ : Reading).step letter).bind (run · []) := rfl
    have hstep : (⟨stack, .escape cs⟩ : Reading).step letter =
        some ⟨stack, .text (cs ++ [c])⟩ := by
      simp only [step, hu, hletter, if_false, Option.map_some]
    rw [hescape, hstep]
    rfl
  | @code d₁ d₂ d₃ d₄ hcode =>
    have hdigits : (⟨stack, .text cs⟩ : Reading).run ['\\', 'u', d₁, d₂, d₃, d₄] =
        ((OptionFile.codePoint? [d₁, d₂, d₃, d₄]).map fun d =>
          (⟨stack, .text (cs ++ [d])⟩ : Reading)).bind (run · []) := rfl
    rw [hdigits, hcode]
    rfl

theorem run_of_pieced {word body : List Char} (h : Pieced Spells word body) (cs : List Char) :
    (⟨stack, .text cs⟩ : Reading).run body = some ⟨stack, .text (cs ++ word)⟩ := by
  induction h generalizing cs with
  | nil =>
    rw [List.append_nil]
    rfl
  | cons hfront hrest ih =>
    rw [run_append, run_of_spells hfront, Option.bind_some, ih, List.append_assoc,
      List.singleton_append]

/-- A string read behind its opening quote. -/
theorem run_string {s : String} {body : List Char} (h : Pieced Spells s.toList body) :
    (⟨stack, .text []⟩ : Reading).run (body ++ ['"']) = some (endString stack s) := by
  have hclose : (⟨stack, .text s.toList⟩ : Reading).run ['"'] = some (endString stack s) :=
    congrArg (fun t => some (endString stack t)) String.ofList_toList
  rw [run_append, run_of_pieced h, Option.bind_some, List.nil_append, hclose]

theorem run_of_stringText {s : String} {text : List Char} (h : StringText s text)
    (hplace : ∀ s, endString stack s = ⟨stack, .after (.string s)⟩) :
    (⟨stack, .value⟩ : Reading).run text = some ⟨stack, .after (.string s)⟩ := by
  cases h with
  | mk hbody =>
    rw [← hplace s, ← run_string hbody]
    rfl

theorem run_of_name {s : String} {text : List Char} (h : StringText s text)
    (fields : List (String × Json)) :
    (⟨.object fields :: stack, .name⟩ : Reading).run text =
      some ⟨.field fields s :: stack, .colon⟩ := by
  cases h with
  | mk hbody => exact run_string hbody

/-! ### Values -/

mutual

theorem run_of_valueText {json : Json} {text : List Char} (h : ValueText json text)
    (stack : List Frame) (hplace : ∀ s, endString stack s = ⟨stack, .after (.string s)⟩) :
    (⟨stack, .value⟩ : Reading).run text = some ⟨stack, .after json⟩ := by
  cases h with
  | bool b =>
    cases b with
    | true => rfl
    | false => rfl
  | string hstring => exact run_of_stringText hstring hplace
  | emptyArray hgap =>
    have hopen : (⟨stack, .value⟩ : Reading).step '[' = some ⟨.array [] :: stack, .value⟩ := rfl
    rw [run_cons, hopen, Option.bind_some, run_append, run_gap step_value_gap hgap]
    rfl
  | array hgap hfront hrest =>
    have hopen : (⟨stack, .value⟩ : Reading).step '[' = some ⟨.array [] :: stack, .value⟩ := rfl
    rw [run_cons, hopen, Option.bind_some, run_append, run_gap step_value_gap hgap,
      Option.bind_some, run_append, run_of_valueText hfront _ (fun _ => rfl), Option.bind_some,
      run_of_itemsText hrest, List.nil_append]
  | emptyObject hgap =>
    have hopen : (⟨stack, .value⟩ : Reading).step '\x7b' = some ⟨.object [] :: stack, .name⟩ := rfl
    rw [run_cons, hopen, Option.bind_some, run_append, run_gap step_name_gap hgap]
    rfl
  | object hgap hfront hrest =>
    have hopen : (⟨stack, .value⟩ : Reading).step '\x7b' = some ⟨.object [] :: stack, .name⟩ := rfl
    rw [run_cons, hopen, Option.bind_some, run_append, run_gap step_name_gap hgap,
      Option.bind_some, run_append, run_of_fieldText hfront, Option.bind_some,
      run_of_fieldsText hrest, List.nil_append]

theorem run_of_itemsText {items : List Json} {text : List Char} (h : ItemsText items text)
    (stack : List Frame) (front : List Json) (last : Json) :
    (⟨.array front :: stack, .after last⟩ : Reading).run text =
      some ⟨stack, .after (.array (front ++ last :: items))⟩ := by
  cases h with
  | close hgap =>
    rw [run_append, run_gap step_after_gap hgap]
    rfl
  | more hbefore hafter hfront hrest =>
    have hcomma : (⟨.array front :: stack, .after last⟩ : Reading).step ',' =
        some ⟨.array (front ++ [last]) :: stack, .value⟩ := rfl
    rw [run_append, run_gap step_after_gap hbefore, Option.bind_some, run_cons, hcomma,
      Option.bind_some, run_append, run_gap step_value_gap hafter, Option.bind_some, run_append,
      run_of_valueText hfront _ (fun _ => rfl), Option.bind_some, run_of_itemsText hrest,
      List.append_assoc, List.singleton_append]

theorem run_of_fieldText {field : String × Json} {text : List Char} (h : FieldText field text)
    (stack : List Frame) (front : List (String × Json)) :
    (⟨.object front :: stack, .name⟩ : Reading).run text =
      some ⟨.field front field.1 :: stack, .after field.2⟩ := by
  cases h with
  | @mk name value key before after text hkey hbefore hafter hvalue =>
    have hcolon : (⟨.field front name :: stack, .colon⟩ : Reading).step ':' =
        some ⟨.field front name :: stack, .value⟩ := rfl
    rw [run_append, run_of_name hkey, Option.bind_some, run_append,
      run_gap step_colon_gap hbefore, Option.bind_some, run_cons, hcolon, Option.bind_some,
      run_append, run_gap step_value_gap hafter, Option.bind_some,
      run_of_valueText hvalue _ (fun _ => rfl)]

theorem run_of_fieldsText {fields : List (String × Json)} {text : List Char}
    (h : FieldsText fields text) (stack : List Frame) (front : List (String × Json))
    (last : String × Json) :
    (⟨.field front last.1 :: stack, .after last.2⟩ : Reading).run text =
      some ⟨stack, .after (.object (front ++ last :: fields))⟩ := by
  cases h with
  | close hgap =>
    rw [run_append, run_gap step_after_gap hgap]
    rfl
  | more hbefore hafter hfront hrest =>
    have hcomma : (⟨.field front last.1 :: stack, .after last.2⟩ : Reading).step ',' =
        some ⟨.object (front ++ [last]) :: stack, .name⟩ := rfl
    rw [run_append, run_gap step_after_gap hbefore, Option.bind_some, run_cons, hcomma,
      Option.bind_some, run_append, run_gap step_name_gap hafter, Option.bind_some, run_append,
      run_of_fieldText hfront, Option.bind_some, run_of_fieldsText hrest, List.append_assoc,
      List.singleton_append]

end

end Reading

/-- **Reading finds the document that a text spells.** -/
theorem read?_of_textOf {json : Json} {text : String} (h : TextOf json text) :
    read? text = some json := by
  cases h with
  | mk hbefore hvalue hafter =>
    unfold read?
    rw [String.toList_ofList, Reading.run_append,
      Reading.run_gap Reading.step_value_gap hbefore, Option.bind_some, Reading.run_append,
      Reading.run_of_valueText hvalue _ (fun _ => rfl), Option.bind_some,
      Reading.run_gap Reading.step_after_gap hafter]

/-- A text spells one document at most. -/
theorem TextOf.unique {json other : Json} {text : String} (h : TextOf json text)
    (hother : TextOf other text) : json = other :=
  Option.some.inj ((read?_of_textOf h).symm.trans (read?_of_textOf hother))

end CrossFlags.Json
