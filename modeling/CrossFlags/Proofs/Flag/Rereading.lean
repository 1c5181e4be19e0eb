import CrossFlags.FlagSet
import CrossFlags.Proofs.Flag.Sorting

/-!
# Reading an answer once more

An answer is lists of words, and lists of words are what a flag tool prints. **Whatever a line is
read as, its compile flags put on a line are read as these compile flags, its link flags as these
link flags, its defines and libraries, with their letters in front, as these defines and libraries**
(`read_rereads`). That holds of a line of any sort: a value may be spelled like an option, and the
last option may lack one.

The reader groups before it sorts, so a word has to find itself in the same group again although
the words around it have gone. For all but the last group this needs nothing from its surroundings:
what an option took along still stands behind it, and a letter that took a word along is joined to
it and takes no other (`Argument.Stands`). The last group of a line may be an option without a
value. It would take a word along if there were one, but what is left out of a line leaves it last.

Libraries are the one part that does not come back as it was written: a library file is a word of
its own in the line and is named by `-l` when it is written out.
-/

set_option autoImplicit false

namespace CrossFlags

namespace Argument

open CrossFlags.Flag

/-! ## Arguments that are read as they are written -/

/-- The words of the argument are read as this argument and nothing else, whatever follows. -/
def Stands (argument : Argument) : Prop :=
  ∀ rest, readAll (argument.group.words ++ rest) = argument :: readAll rest

theorem takesNext_letter (letter : Letter) {value : String} (h : value ≠ "") :
    takesNext (letter.text ++ value) = false := by
  refine takesNext_eq_false_iff.mpr ⟨takesValue_letter letter value, ?_⟩
  intro other hother
  have hword := Letter.ofWord?_append letter value
  rw [← hother, Letter.ofWord?_text] at hword
  cases hword
  exact h rfl

theorem alone_letter (letter : Letter) {value : String} (h : value ≠ "") :
    alone (letter.text ++ value) = .lettered letter value := by
  have hvalue : value.isEmpty = false := by simpa using h
  rw [alone, takesValue_letter, Letter.ofWord?_append]
  simp [hvalue]

theorem stands_lettered (letter : Letter) {value : String} (h : value ≠ "") :
    (lettered letter value).Stands := by
  intro rest
  show readAll ((letter.text ++ value) :: rest) = _
  rw [readAll_alone (takesNext_letter letter h), alone_letter letter h]

theorem stands_taking {word next : String} (h : takesNext word = true) (hnext : next ≠ "") :
    (taking word next).Stands := by
  rcases takesNext_iff.mp h with hpair | ⟨letter, rfl⟩
  · intro rest
    have htaking : taking word next = .paired word (some next) := taking_of_takesValue hpair next
    rw [htaking]
    show readAll (word :: next :: rest) = _
    rw [readAll_taking h, htaking]
  · rw [taking_letter]
    exact stands_lettered letter hnext

theorem words_group_alone (word : String) : (alone word).group.words = [word] := by
  rw [group_alone]
  split <;> rfl

theorem stands_alone {word : String} (h : takesNext word = false) : (alone word).Stands := by
  intro rest
  rw [words_group_alone]
  exact readAll_alone h rest

/-- Only the last argument of a line can be one that would take more along. -/
theorem exists_readAll_eq_append {words : List String} (h : ∀ word ∈ words, word ≠ "") :
    ∃ front last, readAll words = front ++ last ∧ (∀ argument ∈ front, argument.Stands) ∧
      (last = [] ∨ ∃ word, last = [alone word]) := by
  -- By one word or by two, as the line is read.
  match words with
  | [] => exact ⟨[], [], rfl, fun _ h => absurd h List.not_mem_nil, Or.inl rfl⟩
  | [word] =>
    exact ⟨[], [alone word], readAll_singleton word, fun _ h => absurd h List.not_mem_nil,
      Or.inr ⟨word, rfl⟩⟩
  | word :: next :: rest =>
    obtain ⟨_, hothers⟩ := List.forall_mem_cons.mp h
    cases hword : takesNext word with
    | true =>
      obtain ⟨hnext, hrest⟩ := List.forall_mem_cons.mp hothers
      obtain ⟨front, last, heq, hfront, hlast⟩ := exists_readAll_eq_append hrest
      refine ⟨taking word next :: front, last, ?_, ?_, hlast⟩
      · rw [readAll_taking hword, heq, List.cons_append]
      · exact List.forall_mem_cons.mpr ⟨stands_taking hword hnext, hfront⟩
    | false =>
      obtain ⟨front, last, heq, hfront, hlast⟩ := exists_readAll_eq_append hothers
      refine ⟨alone word :: front, last, ?_, ?_, hlast⟩
      · rw [readAll_alone hword, heq, List.cons_append]
      · exact List.forall_mem_cons.mpr ⟨stands_alone hword, hfront⟩

/-! ## Parts of an answer -/

/-- An argument has all its words in this part of an answer, or none. -/
def Whole (part : Argument → List String) : Prop :=
  ∀ argument, part argument = [] ∨ part argument = argument.group.words

/-- The arguments that have something in this part. -/
def having (part : Argument → List String) (arguments : List Argument) : List Argument :=
  arguments.filter fun argument => !(part argument).isEmpty

theorem whole_compileFlags : Whole compileFlags := by
  intro argument
  cases argument with
  | paired word value? =>
    rw [compileFlags, words_group_paired]
    split
    · exact Or.inr rfl
    · exact Or.inl rfl
  | lettered letter value => cases letter <;> simp [compileFlags, group, Flag.Unit.words]
  | plain word =>
    rw [compileFlags]
    split
    · exact Or.inr rfl
    · exact Or.inl rfl

theorem whole_linkFlags : Whole linkFlags := by
  intro argument
  cases argument with
  | paired word value? =>
    rw [linkFlags, words_group_paired]
    split
    · exact Or.inl rfl
    · exact Or.inr rfl
  | lettered letter value => cases letter <;> simp [linkFlags, group, Flag.Unit.words]
  | plain word =>
    rw [linkFlags]
    split
    · exact Or.inr rfl
    · exact Or.inl rfl

section

variable {part : Argument → List String} {arguments : List Argument} {words : List String}

theorem exists_mem_of_mem_having {argument : Argument} (h : argument ∈ having part arguments) :
    ∃ flag, flag ∈ part argument := by
  obtain ⟨-, hsome⟩ := List.mem_filter.mp h
  cases hpart : part argument with
  | nil => simp [hpart] at hsome
  | cons flag rest => exact ⟨flag, List.mem_cons_self⟩

theorem flatMap_having (arguments : List Argument) :
    (having part arguments).flatMap part = arguments.flatMap part := by
  induction arguments with
  | nil => rfl
  | cons argument rest ih =>
    rw [having] at ih ⊢
    cases hpart : part argument with
    | nil => simp [hpart, ih]
    | cons word others => simp [hpart, ih]

theorem readAll_flatMap_append (hpart : Whole part)
    (hstands : ∀ argument ∈ arguments, argument.Stands) (rest : List String) :
    readAll (arguments.flatMap part ++ rest) = having part arguments ++ readAll rest := by
  induction arguments with
  | nil => rfl
  | cons argument others ih =>
    obtain ⟨hargument, hothers⟩ := List.forall_mem_cons.mp hstands
    rw [List.flatMap_cons, List.append_assoc]
    rcases hpart argument with hnone | hwords
    · simp [having, hnone, ih hothers]
    · have hne : argument.group.words ≠ [] := argument.group.words_ne_nil
      rw [hwords, hargument, ih hothers]
      simp [having, hwords, hne]

/-- **What a line puts into one part is read as the arguments that it came from.** -/
theorem readAll_flatMap_readAll (hpart : Whole part) (hwords : ∀ word ∈ words, word ≠ "") :
    readAll ((readAll words).flatMap part) = having part (readAll words) := by
  obtain ⟨front, last, heq, hfront, hlast⟩ := exists_readAll_eq_append hwords
  rw [heq, List.flatMap_append, readAll_flatMap_append hpart hfront]
  unfold having
  rw [List.filter_append]
  congr 1
  rcases hlast with rfl | ⟨word, rfl⟩
  · rfl
  · rw [List.flatMap_singleton]
    rcases hpart (alone word) with hnone | hword
    · simp [hnone, readAll]
    · rw [words_group_alone] at hword
      simp [hword, readAll_singleton]

end

/-! ## The words of an argument -/

theorem isWord_letter (letter : Letter) : Text.IsWord letter.text := by
  refine ⟨by cases letter <;> decide, fun c hc => ?_⟩
  cases letter <;> simp only [Letter.text, String.reduceToList, List.mem_cons, List.not_mem_nil,
    or_false] at hc <;> rcases hc with rfl | rfl <;> decide

theorem isWord_of_mem_group_words {line word : String} {argument : Argument}
    (h : argument ∈ readAll (Text.words line)) (hword : word ∈ argument.group.words) :
    Text.IsWord word := by
  refine forall_mem_readAll (p := fun argument => ∀ word ∈ argument.group.words, Text.IsWord word)
    ?_ ?_ argument h word hword
  · intro word hword
    rw [words_group_alone, List.forall_mem_singleton]
    exact Text.isWord_of_mem_words hword
  · intro word hword htakes next hnext
    have hvalue := Text.isWord_of_mem_words hnext
    rcases takesNext_iff.mp htakes with hpair | ⟨letter, rfl⟩
    · rw [taking_of_takesValue hpair]
      show ∀ entry ∈ [word, next], Text.IsWord entry
      rw [List.forall_mem_cons, List.forall_mem_singleton]
      exact ⟨Text.isWord_of_mem_words hword, hvalue⟩
    · rw [taking_letter]
      show ∀ entry ∈ [letter.text ++ next], Text.IsWord entry
      rw [List.forall_mem_singleton]
      exact (Text.isWord_of_mem_words hword).append hvalue.2

theorem shows_of_mem_readAll {line : String} {argument : Argument}
    (h : argument ∈ readAll (Text.words line)) : argument.Shows := by
  refine forall_mem_readAll (fun word _ => shows_alone word) ?_ argument h
  intro word _ htakes next hnext
  exact shows_taking htakes (Text.ne_empty_of_mem_words hnext)

/-- What is kept without its letter, or never had one, is a word too. -/
theorem isWord_of_mem_values {line value : String} {argument : Argument}
    (h : argument ∈ readAll (Text.words line))
    (hvalue : value ∈ argument.defines ∨ value ∈ argument.libraries) : Text.IsWord value := by
  have hshows := shows_of_mem_readAll h
  have hwords : ∀ word ∈ argument.group.words, Text.IsWord word := fun word =>
    isWord_of_mem_group_words h
  cases argument with
  | paired word value? => simp [defines, libraries] at hvalue
  | lettered letter joined =>
    have hjoined : value = joined := by
      cases letter <;> simp_all [defines, libraries]
    subst hjoined
    refine ⟨hshows, fun c hc => ?_⟩
    apply (hwords (letter.text ++ value) (List.mem_singleton_self _)).2
    rw [String.toList_append]
    exact List.mem_append_right _ hc
  | plain word =>
    have hword : value = word := by
      by_cases hdashed : isDashed word = true
      · simp [defines, libraries, hdashed] at hvalue
      · simpa [defines, libraries, hdashed] using hvalue
    subst hword
    exact hwords value (List.mem_singleton_self value)

theorem readAll_map_letter (letter : Letter) {values : List String}
    (h : ∀ value ∈ values, value ≠ "") :
    readAll (values.map (letter.text ++ ·)) = values.map (lettered letter) := by
  induction values with
  | nil => rfl
  | cons value rest ih =>
    obtain ⟨hvalue, hrest⟩ := List.forall_mem_cons.mp h
    rw [List.map_cons, readAll_alone (takesNext_letter letter hvalue), alone_letter letter hvalue,
      ih hrest, List.map_cons]

/-! ## Where the parts overlap -/

theorem no_values_of_mem_flags {argument : Argument} {flag : String}
    (h : flag ∈ argument.compileFlags ∨ flag ∈ argument.linkFlags) :
    argument.defines = [] ∧ argument.libraries = [] := by
  cases argument with
  | paired word value? => exact ⟨rfl, rfl⟩
  | lettered letter value =>
    cases letter with
    | headerDir => exact ⟨rfl, rfl⟩
    | libraryDir => exact ⟨rfl, rfl⟩
    | define => simp [compileFlags, linkFlags] at h
    | library => simp [compileFlags, linkFlags] at h
  | plain word =>
    have hdashed : isDashed word = true := by
      by_contra hbare
      have hlinker : isLinkerOption word = false := by
        rw [← Bool.not_eq_true]
        exact fun hlinker => hbare (Answer.isDashed_of_isLinkerOption hlinker)
      have hthreads : isThreads word = false := by
        rw [← Bool.not_eq_true]
        intro hthreads
        rw [isThreads, beq_iff_eq] at hthreads
        subst hthreads
        exact hbare (by decide)
      simp [compileFlags, linkFlags, hbare, hlinker, hthreads] at h
    exact ⟨rfl, by rw [libraries, if_pos hdashed]⟩

theorem eq_threads_of_mem_both {argument : Argument} {flag other : String}
    (hcompile : flag ∈ argument.compileFlags) (hlink : other ∈ argument.linkFlags) :
    flag = "-pthread" ∧ other = "-pthread" := by
  cases argument with
  | paired word value? =>
    by_cases hpair : word ∈ compilePairs
    · simp [linkFlags, hpair] at hlink
    · simp [compileFlags, hpair] at hcompile
  | lettered letter value => cases letter <;> simp_all [compileFlags, linkFlags]
  | plain word =>
    by_cases hlinker : isLinkerOption word = true
    · simp [compileFlags, hlinker] at hcompile
    · by_cases hthreads : isThreads word = true
      · rw [isThreads, beq_iff_eq] at hthreads
        subst hthreads
        exact ⟨List.mem_singleton.mp hcompile, List.mem_singleton.mp hlink⟩
      · simp [linkFlags, hlinker, hthreads] at hlink

end Argument

namespace Answer

open Argument

/-! ## The parts of a line on a line of their own -/

theorem read_part {part : Argument → List String} (hpart : Whole part) (line : String) :
    read (" ".intercalate ((readAll (Text.words line)).flatMap part)) =
      ofArguments (having part (readAll (Text.words line))) := by
  have hwords : ∀ word ∈ (readAll (Text.words line)).flatMap part, Text.IsWord word := by
    intro word hword
    obtain ⟨argument, hargument, hmem⟩ := List.mem_flatMap.mp hword
    rcases hpart argument with hnone | hgroup
    · rw [hnone] at hmem
      exact absurd hmem List.not_mem_nil
    · exact isWord_of_mem_group_words hargument (hgroup ▸ hmem)
  rw [read, Text.words_intercalate hwords,
    readAll_flatMap_readAll hpart fun word => Text.ne_empty_of_mem_words]

theorem read_flags {part : Argument → List String} (hpart : Whole part)
    (hflags : ∀ argument flag, flag ∈ part argument →
      flag ∈ argument.compileFlags ∨ flag ∈ argument.linkFlags) (line : String) :
    read (" ".intercalate ((readAll (Text.words line)).flatMap part)) =
      { compileFlags := (having part (readAll (Text.words line))).flatMap Argument.compileFlags
        linkFlags := (having part (readAll (Text.words line))).flatMap Argument.linkFlags } := by
  have hnone : ∀ argument ∈ having part (readAll (Text.words line)),
      argument.defines = [] ∧ argument.libraries = [] := by
    intro argument hargument
    obtain ⟨flag, hflag⟩ := exists_mem_of_mem_having hargument
    exact no_values_of_mem_flags (hflags argument flag hflag)
  rw [read_part hpart]
  ext1
  case defines => exact List.flatMap_eq_nil_iff.mpr fun argument h => (hnone argument h).1
  case compileFlags => rfl
  case linkFlags => rfl
  case linkLibraries => exact List.flatMap_eq_nil_iff.mpr fun argument h => (hnone argument h).2

theorem read_letter (letter : Letter) {values : List String}
    (h : ∀ value ∈ values, Text.IsWord value) :
    read (" ".intercalate (values.map (letter.text ++ ·))) =
      ofArguments (values.map (lettered letter)) := by
  have hwords : ∀ word ∈ values.map (letter.text ++ ·), Text.IsWord word := by
    intro word hword
    obtain ⟨value, hvalue, rfl⟩ := List.mem_map.mp hword
    exact (isWord_letter letter).append (h value hvalue).2
  rw [read, Text.words_intercalate hwords,
    readAll_map_letter letter fun value hvalue => (h value hvalue).1]

theorem ofArguments_map_define (values : List String) :
    ofArguments (values.map (lettered .define)) = { defines := values } := by
  ext1
  case defines => simp [ofArguments, List.flatMap_map, Argument.defines]
  case compileFlags => simp [ofArguments, List.flatMap_map, Argument.compileFlags]
  case linkFlags => simp [ofArguments, List.flatMap_map, Argument.linkFlags]
  case linkLibraries => simp [ofArguments, List.flatMap_map, Argument.libraries]

theorem ofArguments_map_library (values : List String) :
    ofArguments (values.map (lettered .library)) = { linkLibraries := values } := by
  ext1
  case defines => simp [ofArguments, List.flatMap_map, Argument.defines]
  case compileFlags => simp [ofArguments, List.flatMap_map, Argument.compileFlags]
  case linkFlags => simp [ofArguments, List.flatMap_map, Argument.linkFlags]
  case linkLibraries => simp [ofArguments, List.flatMap_map, Argument.libraries]

/-- Each part of the answer, written as arguments on a line of its own, is read as that part again.
Only `-pthread`, which is in two parts, shows up in the other one. -/
structure Rereads (answer : Answer) : Prop where
  compileFlags : ∃ crossing, (∀ flag ∈ crossing, flag = "-pthread") ∧
    read (" ".intercalate answer.compileFlags) =
      { compileFlags := answer.compileFlags, linkFlags := crossing }
  linkFlags : ∃ crossing, (∀ flag ∈ crossing, flag = "-pthread") ∧
    read (" ".intercalate answer.linkFlags) =
      { linkFlags := answer.linkFlags, compileFlags := crossing }
  defines : read (" ".intercalate (FlagSet.cppArgs { defines := answer.defines })) =
    { defines := answer.defines }
  linkLibraries :
    read (" ".intercalate (FlagSet.libraryArgs { linkLibraries := answer.linkLibraries })) =
      { linkLibraries := answer.linkLibraries }

/-- **What has been read is read again unchanged.** -/
theorem read_rereads (line : String) : (read line).Rereads where
  compileFlags := by
    have hread := read_flags whole_compileFlags (fun _ _ => Or.inl) line
    rw [flatMap_having] at hread
    refine ⟨_, ?_, hread⟩
    intro flag hflag
    obtain ⟨argument, hargument, hlink⟩ := List.mem_flatMap.mp hflag
    obtain ⟨other, hcompile⟩ := exists_mem_of_mem_having hargument
    exact (eq_threads_of_mem_both hcompile hlink).2
  linkFlags := by
    have hread := read_flags whole_linkFlags (fun _ _ => Or.inr) line
    rw [flatMap_having] at hread
    refine ⟨_, ?_, hread⟩
    intro flag hflag
    obtain ⟨argument, hargument, hcompile⟩ := List.mem_flatMap.mp hflag
    obtain ⟨other, hlink⟩ := exists_mem_of_mem_having hargument
    exact (eq_threads_of_mem_both hcompile hlink).1
  defines := by
    refine (read_letter .define ?_).trans (ofArguments_map_define _)
    intro value hvalue
    obtain ⟨argument, hargument, hmem⟩ := List.mem_flatMap.mp hvalue
    exact isWord_of_mem_values hargument (Or.inl hmem)
  linkLibraries := by
    refine (read_letter .library ?_).trans (ofArguments_map_library _)
    intro value hvalue
    obtain ⟨argument, hargument, hmem⟩ := List.mem_flatMap.mp hvalue
    exact isWord_of_mem_values hargument (Or.inr hmem)

end Answer
end CrossFlags
