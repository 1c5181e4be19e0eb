import CrossFlags.OptionFile.Write
import CrossFlags.Proofs.OptionFile.Number
import CrossFlags.Proofs.Text.Trim

/-!
# Option files read back

A bag may be written to a file in more than one way: a character of a name or of a text stands for
itself or is escaped, by a letter where there is one or by its code point in two lengths, and blanks
may surround the sign between name and value. `FileOf` is the relation between bags and the files
that hold one option per line, in order, in any of these ways, and `write` picks one of them. **All
of them read back as the bag** (`write_reads_back`): the same names, in the same order, with values
of the same kinds.

Reading goes from left to right without looking back, so everything is said of a piece of text with
something behind it: a spelled character reads as the character, and from there one lemma per
layer, the quoted text, the value, the line, the file. What the text of a value looks like (a truth
value, a number, a date, a table's header) never matters, because its first character is a quote and
`readValue?` has decided by that. Only one thing has to be seen about what follows: an empty text in
front of a third quote would open the long form, but a line break follows.
-/

set_option autoImplicit false

namespace CrossFlags.OptionFile

open Text (Pieced pieced_flatMap)

/-! ## The files of a bag -/

/-- A character between double quotes. -/
inductive Spells : Char → List Char → Prop
  | itself {c : Char} (hquote : c ≠ doubleQuote) (hescape : c ≠ '\\')
      (hprintable : isPrintable c = true) : Spells c [c]
  | letter {c letter : Char} (h : shortEscape? letter = some c) : Spells c ['\\', letter]
  | code {c d₁ d₂ d₃ d₄ : Char} (h : codePoint? [d₁, d₂, d₃, d₄] = some c) :
      Spells c ['\\', 'u', d₁, d₂, d₃, d₄]
  | longCode {c d₁ d₂ d₃ d₄ d₅ d₆ d₇ d₈ : Char}
      (h : codePoint? [d₁, d₂, d₃, d₄, d₅, d₆, d₇, d₈] = some c) :
      Spells c ['\\', 'U', d₁, d₂, d₃, d₄, d₅, d₆, d₇, d₈]

/-- A text in double quotes. -/
inductive QuotedOf (s : String) : List Char → Prop
  | mk {body : List Char} (hbody : Pieced Spells s.toList body) :
      QuotedOf s (doubleQuote :: (body ++ [doubleQuote]))

inductive ValueOf : RawValue → List Char → Prop
  | bool (b : Bool) : ValueOf (.bool b) (toString b).toList
  | integer (n : Int64) : ValueOf (.integer n) (Text.integerText n).toList
  | text {s : String} {word : List Char} (h : QuotedOf s word) : ValueOf (.text s) word

inductive LineOf : String × RawValue → List Char → Prop
  | mk {name : String} {value : RawValue} {key before after word : List Char}
      (hkey : QuotedOf name key) (hbefore : ∀ c ∈ before, isInline c = true)
      (hafter : ∀ c ∈ after, isInline c = true) (hword : ValueOf value word) :
      LineOf (name, value) (key ++ (before ++ '=' :: (after ++ (word ++ ['\n']))))

/-- A file with one option of the bag on each line, in order. -/
def FileOf (bag : Bag) (file : String) : Prop := Pieced LineOf bag.toList file.toList

/-! ## Writing gives one of them -/

theorem spells_escaped (c : Char) : Spells c (escaped c) := by
  unfold escaped
  split
  · rename_i hquote
    subst hquote
    exact .letter rfl
  split
  · rename_i hescape
    subst hescape
    exact .letter rfl
  split
  · rename_i hcontrol
    refine .code (codePoint?_of_lt ?_)
    simp only [isControl, Bool.or_eq_true, Bool.and_eq_true, decide_eq_true_eq] at hcontrol
    omega
  · rename_i hquote hescape hcontrol
    refine .itself hquote hescape ?_
    simp only [isControl, Bool.or_eq_true, Bool.and_eq_true, decide_eq_true_eq] at hcontrol
    simp only [isPrintable, Bool.or_eq_true, Bool.and_eq_true, decide_eq_true_eq, bne_iff_ne]
    omega

theorem quotedOf_quoted (s : String) : QuotedOf s (quoted s) :=
  .mk (pieced_flatMap spells_escaped s.toList)

theorem valueOf_valueText (value : RawValue) : ValueOf value (valueText value) := by
  cases value with
  | bool b =>
    cases b with
    | true => exact .bool true
    | false => exact .bool false
  | integer n => exact .integer n
  | text s => exact .text (quotedOf_quoted s)

theorem lineOf_lineText (entry : String × RawValue) : LineOf entry (lineText entry) := by
  have hblank : ∀ c ∈ [' '], isInline c = true := List.forall_mem_singleton.mpr rfl
  have hline : LineOf entry _ :=
    .mk (quotedOf_quoted entry.1) hblank hblank (valueOf_valueText entry.2)
  have hsign : " = ".toList = [' '] ++ '=' :: [' '] := rfl
  unfold lineText
  rw [hsign]
  simpa only [List.append_assoc, List.cons_append] using hline

theorem fileOf_write (bag : Bag) : FileOf bag (write bag) := by
  unfold FileOf write
  rw [String.toList_ofList]
  exact pieced_flatMap lineOf_lineText bag.toList

/-! ## Texts -/

/-- A spelled character is read as the character, whatever follows. -/
theorem readBasic_append_of_spells {c : Char} {spelled : List Char} (h : Spells c spelled)
    (rest : List Char) : readBasic (spelled ++ rest) = push (some c) (readBasic rest) := by
  cases h with
  | itself hquote hescape hprintable =>
    have hallow : allow isPrintable c = some c := if_pos hprintable
    rw [List.singleton_append, readBasic, hallow]
    · exact hquote
    · intro _ _ _ _ _ hc
      exact absurd hc hescape
    · intro _ _ _ _ _ _ _ _ _ hc
      exact absurd hc hescape
    · intro _ _ hc
      exact absurd hc hescape
  | letter hletter =>
    rw [List.cons_append, List.singleton_append, readBasic, hletter]
    · rintro _ _ _ _ _ rfl
      cases hletter
    · rintro _ _ _ _ _ _ _ _ _ rfl
      cases hletter
  | code hcode => exact congrArg (push · (readBasic rest)) hcode
  | longCode hcode => exact congrArg (push · (readBasic rest)) hcode

theorem readBasic_of_pieced {cs body : List Char} (h : Pieced Spells cs body) (rest : List Char) :
    readBasic (body ++ doubleQuote :: rest) = some (cs, rest) := by
  induction h with
  | nil => rfl
  | cons hfront hrest ih =>
    rw [List.append_assoc, readBasic_append_of_spells hfront, ih]
    rfl

/-- Spelled characters begin with no quote. -/
theorem head?_ne_quote_of_pieced {cs body : List Char} (h : Pieced Spells cs body) :
    body.head? ≠ some doubleQuote := by
  cases h with
  | nil => exact Option.some_ne_none _ |>.symm
  | cons hfront hrest =>
    cases hfront with
    | itself hquote => simpa using hquote
    | letter | code | longCode => simp [doubleQuote]

theorem readName?_of_quotedOf {name : String} {key : List Char} (h : QuotedOf name key)
    (rest : List Char) : readName? (key ++ rest) = some (name.toList, rest) := by
  cases h with
  | mk hbody =>
    rw [List.cons_append, List.append_assoc, List.singleton_append]
    exact readBasic_of_pieced hbody rest

theorem readQuoted?_eq_readBasic {cs : List Char}
    (h : ∀ tail, cs ≠ doubleQuote :: doubleQuote :: tail) :
    readQuoted? (doubleQuote :: cs) = readBasic cs := by
  unfold doubleQuote at *
  rw [readQuoted?]
  intro tail heq
  exact h tail heq

/-- Two quotes open no long form where no third one follows. -/
theorem readQuoted?_of_quotedOf {s : String} {word rest : List Char} (h : QuotedOf s word)
    (hrest : rest.head? ≠ some doubleQuote) :
    readQuoted? (word ++ rest) = some (s.toList, rest) := by
  cases h with
  | @mk body hbody =>
    rw [List.cons_append, List.append_assoc, List.singleton_append, readQuoted?_eq_readBasic]
    · exact readBasic_of_pieced hbody rest
    · intro tail heq
      have hhead := head?_ne_quote_of_pieced hbody
      cases body with
      | nil =>
        rw [List.nil_append, List.cons.injEq] at heq
        rw [heq.2] at hrest
        exact hrest rfl
      | cons c more =>
        rw [List.cons_append, List.cons.injEq] at heq
        rw [heq.1] at hhead
        exact hhead rfl

/-! ## Values -/

theorem readValue?_of_wordValue? {value : RawValue} {word : List Char}
    (hword : ∀ c ∈ word, isWordChar c = true ∧ c ≠ doubleQuote ∧ c ≠ singleQuote)
    (hvalue : wordValue? word = some value) (rest : List Char) :
    readValue? (word ++ '\n' :: rest) = some (value, '\n' :: rest) := by
  have hchars : ∀ c ∈ word, isWordChar c = true := fun c hc => (hword c hc).1
  have hend : isWordChar '\n' = false := rfl
  unfold readValue?
  split
  · rename_i hhead
    cases word with
    | nil => cases hhead
    | cons c more => exact absurd (Option.some.inj hhead) (hword c List.mem_cons_self).2.1
  · rename_i hhead
    cases word with
    | nil => cases hhead
    | cons c more => exact absurd (Option.some.inj hhead) (hword c List.mem_cons_self).2.2
  · rw [List.takeWhile_append_of_pos hchars, List.dropWhile_append_of_pos hchars,
      List.takeWhile_cons_of_neg (Bool.eq_false_iff.mp hend),
      List.dropWhile_cons_of_neg (Bool.eq_false_iff.mp hend), List.append_nil, hvalue,
      Option.map_some]

theorem isWordChar_of_mem_integerText {n : Int64} {c : Char}
    (h : c ∈ (Text.integerText n).toList) :
    isWordChar c = true ∧ c ≠ doubleQuote ∧ c ≠ singleQuote := by
  rcases Text.eq_minus_or_isDigit_of_mem_integerText h with rfl | hdigit
  · decide
  · have hne (d : Char) (hd : d.isDigit = false) : c ≠ d := by
      rintro rfl
      rw [hd] at hdigit
      cases hdigit
    refine ⟨?_, hne _ rfl, hne _ rfl⟩
    simp only [isWordChar, isInline, Bool.and_eq_true, Bool.not_eq_true', Bool.or_eq_false_iff,
      beq_eq_false_iff_ne, bne_iff_ne]
    exact ⟨⟨⟨⟨hne _ rfl, hne _ rfl⟩, hne _ rfl⟩, hne _ rfl⟩, hne _ rfl⟩

/-- A number is no truth value. -/
theorem wordValue?_integerText (n : Int64) :
    wordValue? (Text.integerText n).toList = some (.integer n) := by
  have hne {word : List Char} {c : Char} (hc : c ∈ word) (hminus : c ≠ '-')
      (hdigit : c.isDigit = false) : (Text.integerText n).toList ≠ word := by
    rintro rfl
    rcases Text.eq_minus_or_isDigit_of_mem_integerText hc with rfl | h
    · exact hminus rfl
    · rw [hdigit] at h
      cases h
  unfold wordValue?
  rw [if_neg (hne (c := 'e') (by decide) (by decide) rfl),
    if_neg (hne (c := 'e') (by decide) (by decide) rfl), integer?_integerText, Option.map_some]

theorem readValue?_of_valueOf {value : RawValue} {word : List Char} (h : ValueOf value word)
    (rest : List Char) : readValue? (word ++ '\n' :: rest) = some (value, '\n' :: rest) := by
  cases h with
  | bool b =>
    cases b with
    | true => rfl
    | false => rfl
  | integer n =>
    exact readValue?_of_wordValue? (fun c => isWordChar_of_mem_integerText)
      (wordValue?_integerText n) rest
  | @text s word hquoted =>
    have hbreak : ('\n' :: rest).head? ≠ some doubleQuote := by simp [doubleQuote]
    have hread := readQuoted?_of_quotedOf hquoted hbreak
    have hhead : (word ++ '\n' :: rest).head? = some doubleQuote := by
      cases hquoted with
      | mk hbody => rfl
    unfold readValue?
    rw [hhead, hread]
    exact congrArg (fun text => some (RawValue.text text, '\n' :: rest)) (String.ofList_toList)

/-! ## Lines -/

/-- No value begins with a blank. -/
theorem dropWhile_isInline_of_valueOf {value : RawValue} {word : List Char}
    (h : ValueOf value word) (rest : List Char) :
    (word ++ rest).dropWhile isInline = word ++ rest := by
  have hfirst : ∃ c tail, word = c :: tail ∧ isInline c = false := by
    cases h with
    | bool b =>
      cases b with
      | true => exact ⟨'t', _, rfl, rfl⟩
      | false => exact ⟨'f', _, rfl, rfl⟩
    | integer n =>
      have hne : (Text.integerText n).toList ≠ [] := by
        simpa using Text.integerText_ne_empty n
      obtain ⟨c, tail, hcons⟩ := List.exists_cons_of_ne_nil hne
      have hword := (isWordChar_of_mem_integerText (hcons ▸ List.mem_cons_self : c ∈ _)).1
      refine ⟨c, tail, hcons, ?_⟩
      simp only [isWordChar, Bool.and_eq_true, Bool.not_eq_true'] at hword
      exact hword.1.1.1
    | text hquoted =>
      cases hquoted with
      | mk hbody => exact ⟨_, _, rfl, rfl⟩
  obtain ⟨c, tail, rfl, hc⟩ := hfirst
  exact List.dropWhile_cons_of_neg (Bool.eq_false_iff.mp hc)

theorem readOption?_of_lineOf {entry : String × RawValue} {line : List Char}
    (h : LineOf entry line) (rest : List Char) :
    readOption? (line ++ rest) = some (entry, '\n' :: rest) := by
  cases h with
  | @mk name value key before after word hkey hbefore hafter hword =>
    have hsign : ('=' :: (after ++ (word ++ '\n' :: rest))).dropWhile isInline =
        '=' :: (after ++ (word ++ '\n' :: rest)) := rfl
    simp only [List.append_assoc, List.cons_append, List.nil_append]
    unfold readOption?
    rw [readName?_of_quotedOf hkey]
    simp only [Option.bind_eq_bind, Option.bind_some, List.dropWhile_append_of_pos hbefore, hsign,
      List.dropWhile_append_of_pos hafter, dropWhile_isInline_of_valueOf hword,
      readValue?_of_valueOf hword, String.ofList_toList, Option.pure_def]

theorem readLine?_of_lineOf {entry : String × RawValue} {line : List Char}
    (h : LineOf entry line) (rest : List Char) :
    readLine? (line ++ rest) = some (some entry, rest) := by
  have hfirst : ∃ tail, line = doubleQuote :: tail := by
    cases h with
    | mk hkey =>
      cases hkey with
      | mk hbody => exact ⟨_, rfl⟩
  obtain ⟨tail, rfl⟩ := hfirst
  have hempty : afterEmpty? (doubleQuote :: tail ++ rest) = none := rfl
  have hblank : (doubleQuote :: tail ++ rest).dropWhile isInline = doubleQuote :: tail ++ rest := rfl
  have hbreak : afterEmpty? ('\n' :: rest) = some rest := rfl
  unfold readLine?
  rw [hempty, hblank, readOption?_of_lineOf h]
  simp only [Option.bind_eq_bind, Option.bind_some, hbreak, Option.pure_def]

theorem readLines?_of_pieced {entries : Entries} {file : List Char}
    (h : Pieced LineOf entries file) : readLines? file = some entries := by
  induction h with
  | nil => rw [readLines?, dif_pos rfl]
  | @cons entry rest line more hline hrest ih =>
    have hread := readLine?_of_lineOf hline more
    have hne : line ++ more ≠ [] := by
      intro hnil
      rw [hnil] at hread
      cases hread
    rw [readLines?, dif_neg hne]
    split
    · rename_i hnone
      rw [hread] at hnone
      cases hnone
    · rename_i hsome
      rw [hread] at hsome
      cases hsome
      rw [ih]
      rfl

theorem dropMark_of_pieced {entries : Entries} {file : List Char}
    (h : Pieced LineOf entries file) : dropMark file = file := by
  cases h with
  | nil => rfl
  | cons hline hrest =>
    cases hline with
    | mk hkey =>
      cases hkey with
      | mk hbody => rfl

/-- **A bag is read back from its file**, and so it is from every other file that spells the same
options in the same order. -/
theorem write_reads_back (bag : Bag) :
    read? (write bag) = some bag ∧ ∀ file, FileOf bag file → read? file = some bag := by
  have hread (file : String) (h : FileOf bag file) : read? file = some bag := by
    unfold read?
    rw [dropMark_of_pieced h, readLines?_of_pieced h]
    exact dif_pos bag.nodup
  exact ⟨hread (write bag) (fileOf_write bag), hread⟩

/-- A bracket in a name by its code point, a line break by its letter, and a tab for a blank. -/
theorem write_reads_back_of_other_spelling :
    let bag : Bag :=
      ⟨[("a]", .text "\n"), ("true", .integer (-9223372036854775808))], by decide⟩
    let file := "\"a\\u005D\"\t=\"\\n\"\n\"true\" = -9223372036854775808\n"
    file ≠ write bag ∧ FileOf bag file ∧ read? file = some bag := by
  intro bag file
  have hbracket : Spells ']' ['\\', 'u', '0', '0', '5', 'D'] := .code rfl
  have hbreak : Spells '\n' ['\\', 'n'] := .letter rfl
  have hname : Pieced Spells ['a', ']'] _ := .cons (spells_escaped 'a') (.cons hbracket .nil)
  have htext : Pieced Spells ['\n'] _ := .cons hbreak .nil
  have htab : ∀ c ∈ ['\t'], isInline c = true := List.forall_mem_singleton.mpr rfl
  have hnone : ∀ c ∈ [], isInline c = true := List.forall_mem_nil _
  have hfirst : LineOf ("a]", .text "\n") _ := .mk (.mk hname) htab hnone (.text (.mk htext))
  have hsecond := lineOf_lineText ("true", .integer (-9223372036854775808))
  have hlines := Pieced.cons hfirst (.cons hsecond .nil)
  have hfile : FileOf bag file :=
    Eq.mp (congrArg (Pieced LineOf bag.toList) (by decide)) hlines
  exact ⟨by decide, hfile, (write_reads_back bag).2 file hfile⟩

end CrossFlags.OptionFile
