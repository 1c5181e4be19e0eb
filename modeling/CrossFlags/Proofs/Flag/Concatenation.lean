import CrossFlags.Proofs.Flag.Reading
import CrossFlags.Proofs.Text.Words

/-!
# Reading two lines as one

A tool may print its flags in one line or in several, and several tools print several lines. Read as
one text they give what they give one by one, field after field, **as long as no line but the last
ends in an option that is still open** (`read_append_iff`). An open option takes the first word of
the next line along, so the condition cannot be done without: there is always a line that is then
read differently.

Whether a line ends so is a question about its last word and all words before it. What stands last
may be spelled like an option and be the value of one; what counts is whether the reading from the
left comes to it as a word of its own (`Flag.endsOpen`).
-/

set_option autoImplicit false

namespace CrossFlags

/-- The last word would take the next one along, and is not itself taken along. -/
def Flag.endsOpen : List String → Bool
  | [] => false
  | [word] => takesNext word
  | word :: next :: rest => if takesNext word then endsOpen rest else endsOpen (next :: rest)

namespace Argument

open CrossFlags.Flag

theorem readAll_append {front : List String} (h : endsOpen front = false) (back : List String) :
    readAll (front ++ back) = readAll front ++ readAll back := by
  -- Only a word that takes the next one could reach across, and `front` does not end in one.
  fun_induction endsOpen front with
  | case1 => rfl
  | case2 word => rw [List.singleton_append, readAll_alone h, readAll_singleton, List.singleton_append]
  | case3 word next rest htakes ih =>
    rw [List.cons_append, List.cons_append, readAll_taking htakes, readAll_taking htakes, ih h,
      List.cons_append]
  | case4 word next rest hstands ih =>
    have hword : takesNext word = false := Bool.eq_false_iff.mpr hstands
    rw [List.cons_append, readAll_alone hword, readAll_alone hword, ih h, List.cons_append]

/-- The option that a line ends in stands alone in it, and takes the next word along if there is
one. -/
theorem exists_of_endsOpen {front : List String} (h : endsOpen front = true) :
    ∃ before word, takesNext word = true ∧ readAll front = before ++ [alone word] ∧
      ∀ next, readAll (front ++ [next]) = before ++ [taking word next] := by
  fun_induction endsOpen front with
  | case1 => cases h
  | case2 word =>
    refine ⟨[], word, h, readAll_singleton word, fun next => ?_⟩
    rw [List.singleton_append, readAll_taking h]
    rfl
  | case3 word next rest htakes ih =>
    obtain ⟨before, last, hlast, halone, htaking⟩ := ih h
    refine ⟨taking word next :: before, last, hlast, ?_, fun other => ?_⟩
    · rw [readAll_taking htakes, halone, List.cons_append]
    · rw [List.cons_append, List.cons_append, readAll_taking htakes, htaking other, List.cons_append]
  | case4 word next rest hstands ih =>
    have hword : takesNext word = false := Bool.eq_false_iff.mpr hstands
    obtain ⟨before, last, hlast, halone, htaking⟩ := ih h
    refine ⟨alone word :: before, last, hlast, ?_, fun other => ?_⟩
    · rw [readAll_alone hword, halone, List.cons_append]
    · rw [List.cons_append, readAll_alone hword, htaking other, List.cons_append]

end Argument

namespace Answer

open Argument CrossFlags.Flag

theorem append_left_cancel {first second third : Answer} (h : first ++ second = first ++ third) :
    second = third := by
  ext1
  case defines => exact List.append_cancel_left (congrArg Answer.defines h)
  case compileFlags => exact List.append_cancel_left (congrArg Answer.compileFlags h)
  case linkFlags => exact List.append_cancel_left (congrArg Answer.linkFlags h)
  case linkLibraries => exact List.append_cancel_left (congrArg Answer.linkLibraries h)

/-- A library file behind an open option is not a library any more; behind `-l` it is one, but then
`-l` is no flag. -/
theorem ofArguments_taking_ne {word : String} (h : takesNext word = true) :
    ofArguments [taking word "x"] ≠ ofArguments [alone word, .plain "x"] := by
  rcases takesNext_iff.mp h with hpair | ⟨letter, rfl⟩
  · intro heq
    have hlibraries := congrArg Answer.linkLibraries heq
    rw [taking_of_takesValue hpair, alone, if_pos hpair] at hlibraries
    cases hlibraries
  · cases letter <;> decide

/-- **Two lines are read as one exactly if the first of them leaves no option open.** -/
theorem read_append_iff {front between : String} (hne : between ≠ "")
    (hblank : ∀ c ∈ between.toList, Text.isBlank c = true) :
    (∀ back, read (front ++ between ++ back) = read front ++ read back) ↔
      endsOpen (Text.words front) = false := by
  constructor
  · intro hread
    rw [← Bool.not_eq_true]
    intro hopen
    obtain ⟨before, word, hword, halone, htaking⟩ := exists_of_endsOpen hopen
    -- One library file behind the first line is enough to tell the two readings apart.
    have hx : Text.words "x" = ["x"] := by decide
    have htogether : read (front ++ between ++ "x") =
        ofArguments before ++ ofArguments [taking word "x"] := by
      rw [read, Text.words_append hne hblank, hx, htaking, ofArguments_append]
    have hseparate : read front ++ read "x" =
        ofArguments before ++ ofArguments [alone word, .plain "x"] := by
      rw [read, halone, show read "x" = ofArguments [.plain "x"] by decide, ← ofArguments_append,
        List.append_assoc, ofArguments_append]
      rfl
    have hsame := hread "x"
    rw [htogether, hseparate] at hsame
    exact ofArguments_taking_ne hword (append_left_cancel hsame)
  · intro hclosed back
    rw [read, Text.words_append hne hblank, readAll_append hclosed, ofArguments_append]
    rfl

/-- The first line ends in what looks like an option and is the value of one; the second one begins
with an option. In between stand an ideographic space and a line break. -/
theorem read_append_iff_behind_a_value :
    let front := "-lm -Xlinker -isystem"
    let between := "\u3000\n"
    between ≠ "" ∧ (∀ c ∈ between.toList, Text.isBlank c = true) ∧
      endsOpen (Text.words front) = false ∧
      (∀ back, read (front ++ between ++ back) = read front ++ read back) ∧
      read (front ++ between ++ "-isystem /i -D") =
        { compileFlags := ["-isystem", "/i", "-D"], linkFlags := ["-Xlinker", "-isystem"]
          linkLibraries := ["m"] } := by
  intro front between
  have hne : between ≠ "" := by decide
  have hblank : ∀ c ∈ between.toList, Text.isBlank c = true := List.all_eq_true.mp (by decide)
  have hclosed : endsOpen (Text.words front) = false := by decide
  exact ⟨hne, hblank, hclosed, (read_append_iff hne hblank).mpr hclosed, by decide⟩

end Answer
end CrossFlags
