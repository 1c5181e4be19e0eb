import Mathlib.Data.List.Forall2
import CrossFlags.Proofs.Flag.Reading
import CrossFlags.Proofs.Flag.Units
import CrossFlags.Proofs.Text.Words

/-!
# What becomes of the words of a line

A line is read by grouping its words and sorting the groups. Grouping is from left to right: an
option that carries a value keeps the next word as its value, a bare `-D`, `-I`, `-L` or `-l` is
joined to it, any other word stands alone (`Flag.joined`). Sorting goes by what a group looks like
once it is put together (`Unit.field`), and not by how it came about: `-I /i` and `-I/i` are the same
from there on.

**Nothing is lost, invented or moved** (`read_sorts`): every field is, in the order of the line, what
the groups of that field are made of. Defines and libraries are kept without their letter, which is
no loss, because each group has one field; the exception is `-pthread`, which both compiler and
linker are to see.

Reading and putting together do not look at the same thing, and this is where the work is. A value
taken along may be spelled like any option, and a letter at the end of the line takes nothing along,
so the look of a joined group has to show the same letter that was read (`field_letter`), and a bare
one must not be mistaken for one with a value.
-/

set_option autoImplicit false

namespace CrossFlags

/-! ## Groups and where they belong -/

namespace Flag

/-- The words of a line grouped from left to right, letters joined to what they take along. -/
def joined : List String → List Unit
  | [] => []
  | [word] => [if takesValue word then .waiting word else .single word]
  | word :: next :: rest =>
    if takesValue word then .pair word next :: joined rest
    else if Letter.bare.contains word then .single (word ++ next) :: joined rest
    else .single word :: joined (next :: rest)

/-- Grouping leaves all text where it is. -/
theorem join_joined (words : List String) :
    String.join ((joined words).flatMap Unit.words) = String.join words := by
  fun_induction joined words with
  | case1 => rfl
  | case2 word => split <;> simp [Unit.words]
  | case3 word next rest hpair ih => simp [Unit.words, ih]
  | case4 word next rest hpair hbare ih => simp [Unit.words, ih, String.append_assoc]
  | case5 word next rest hpair hbare ih => simp [Unit.words, ih]

-- What looks like an option is a value here, except for the last word.
example : joined ["-D", "-isystem", "-isystem", "-l", "-l", "m", "-L"] =
    [.single "-D-isystem", .pair "-isystem" "-l", .single "-lm", .single "-L"] := by decide

/-- Which part of an answer a group is for. -/
inductive Field where
  | defines
  | compileFlags
  | linkFlags
  /-- Compile flags and link flags alike. -/
  | bothFlags
  | libraries
  deriving DecidableEq

/-- The word begins like this and goes on. -/
def carries (front word : String) : Bool := front.toList.isPrefixOf word.toList && word != front

/-- The part of an answer that a group is for, by its look. -/
def Unit.field : Unit → Field
  | .pair option _ | .waiting option =>
    if compilePairs.contains option then .compileFlags else .linkFlags
  | .single word =>
    if carries "-D" word then .defines
    else if carries "-L" word || Argument.isLinkerOption word then .linkFlags
    else if carries "-l" word then .libraries
    else if word = "-pthread" then .bothFlags
    else if Argument.isDashed word then .compileFlags
    else .libraries

/-- What the groups of these fields are made of, in order. -/
def entriesOf (fields : List Field) (groups : List Unit) : List String :=
  (groups.filter fun group => group.field ∈ fields).flatMap Unit.words

end Flag

/-- The answer is made of these groups, each in the part that it is for. -/
structure Answer.Sorts (answer : Answer) (groups : List Flag.Unit) : Prop where
  defines : answer.defines.map ("-D" ++ ·) = Flag.entriesOf [.defines] groups
  compileFlags : answer.compileFlags = Flag.entriesOf [.compileFlags, .bothFlags] groups
  linkFlags : answer.linkFlags = Flag.entriesOf [.linkFlags, .bothFlags] groups
  /-- A library was given by its letter, or as a word that is no option. -/
  linkLibraries : List.Forall₂
    (fun lib word => word = "-l" ++ lib ∨ word = lib ∧ Argument.isDashed word = false)
    answer.linkLibraries (Flag.entriesOf [.libraries] groups)

namespace Flag

theorem entriesOf_singleton (fields : List Field) (group : Unit) :
    entriesOf fields [group] = if group.field ∈ fields then group.words else [] := by
  by_cases h : group.field ∈ fields
  · simp [entriesOf, h]
  · simp [entriesOf, h]

theorem entriesOf_append (fields : List Field) (first second : List Unit) :
    entriesOf fields (first ++ second) = entriesOf fields first ++ entriesOf fields second := by
  rw [entriesOf, List.filter_append, List.flatMap_append]
  rfl

/-! ### The look of a group -/

theorem carries_iff {front word : String} :
    carries front word = true ↔ ∃ value, value ≠ "" ∧ word = front ++ value := by
  rw [carries, Bool.and_eq_true, bne_iff_ne, List.isPrefixOf_iff_prefix]
  constructor
  · rintro ⟨⟨rest, hrest⟩, hne⟩
    have hword : word = front ++ String.ofList rest := by
      rw [← String.toList_inj, String.toList_append, String.toList_ofList, hrest]
    refine ⟨String.ofList rest, ?_, hword⟩
    intro hempty
    rw [hempty, String.append_empty] at hword
    exact hne hword
  · rintro ⟨value, hvalue, rfl⟩
    rw [String.toList_append]
    exact ⟨List.prefix_append _ _, fun h => hvalue (String.append_eq_left_iff.mp h)⟩

theorem field_eq_bothFlags_iff (group : Unit) :
    group.field = .bothFlags ↔ group = .single "-pthread" := by
  cases group with
  | single word =>
    rw [Unit.single.injEq, Unit.field]
    constructor
    · intro h
      split_ifs at h
      assumption
    · rintro rfl
      decide
  | pair option value => rw [Unit.field]; split <;> simp
  | waiting option => rw [Unit.field]; split <;> simp

/-- The part of an answer that a letter is for. -/
def fieldOfLetter : Letter → Field
  | .define => .defines
  | .headerDir => .compileFlags
  | .libraryDir => .linkFlags
  | .library => .libraries

theorem field_letter (letter : Letter) {value : String} (h : value ≠ "") :
    (Unit.single (letter.text ++ value)).field = fieldOfLetter letter := by
  have hown : carries letter.text (letter.text ++ value) = true := carries_iff.mpr ⟨value, h, rfl⟩
  have hthreads : letter.text ++ value ≠ "-pthread" := by
    cases letter <;> simp [Letter.text, ← String.toList_inj]
  -- No letter begins like another one, so the tests before the letter's own fail by the text alone.
  cases letter <;>
    simp_all [Unit.field, carries, Argument.isLinkerOption, Argument.isDashed, Letter.text,
      fieldOfLetter]

theorem field_plain {word : String}
    (h : ∀ (letter : Letter) (value : String), word = letter.text ++ value → value = "") :
    (Unit.single word).field =
      if Argument.isLinkerOption word then .linkFlags
      else if word = "-pthread" then .bothFlags
      else if Argument.isDashed word then .compileFlags
      else .libraries := by
  have hnone (letter : Letter) : carries letter.text word = false := by
    rw [← Bool.not_eq_true, carries_iff]
    rintro ⟨value, hvalue, hword⟩
    exact hvalue (h letter value hword)
  have hdefine : carries "-D" word = false := hnone .define
  have hdir : carries "-L" word = false := hnone .libraryDir
  have hlibrary : carries "-l" word = false := hnone .library
  simp only [Unit.field, hdefine, hdir, hlibrary, Bool.false_or, Bool.false_eq_true, if_false]

end Flag

/-! ## Arguments and their groups -/

namespace Argument

open CrossFlags.Flag

/-- The argument as a group of words, a letter joined to its value. -/
def group : Argument → Flag.Unit
  | .paired word (some value) => .pair word value
  | .paired word none => .waiting word
  | .lettered letter value => .single (letter.text ++ value)
  | .plain word => .single word

theorem words_group_paired (word : String) (value? : Option String) :
    (paired word value?).group.words = pairWords word value? := by
  cases value? <;> rfl

theorem group_alone (word : String) :
    (alone word).group = if takesValue word then .waiting word else .single word := by
  rw [alone]
  split
  · rfl
  · cases hword : Letter.ofWord? word with
    | none => rfl
    | some found =>
      obtain ⟨letter, value⟩ := found
      rw [Letter.ofWord?_eq_some_iff.mp hword]
      by_cases hvalue : value.isEmpty = true
      · simp [hvalue, group]
      · simp [hvalue, group]

/-- Reading a line groups its words. -/
theorem map_group_readAll (words : List String) : (readAll words).map group = joined words := by
  -- Along the grouping: it goes on by two words exactly where the reader does.
  fun_induction joined words with
  | case1 => rfl
  | case2 word => rw [readAll_singleton, List.map_singleton, group_alone]
  | case3 word next rest hpair ih =>
    have htakes : takesNext word = true := takesNext_iff.mpr (Or.inl hpair)
    rw [readAll_taking htakes, List.map_cons, ih, taking_of_takesValue hpair]
    rfl
  | case4 word next rest hpair hbare ih =>
    have hletter : ∃ letter : Letter, letter.text = word :=
      Letter.mem_bare_iff.mp (List.contains_iff_mem.mp hbare)
    rw [readAll_taking (takesNext_iff.mpr (Or.inr hletter)), List.map_cons, ih]
    obtain ⟨letter, rfl⟩ := hletter
    rw [taking_letter]
    rfl
  | case5 word next rest hpair hbare ih =>
    have hstands : takesNext word = false :=
      Bool.or_eq_false_iff.mpr ⟨Bool.eq_false_iff.mpr hpair, Bool.eq_false_iff.mpr hbare⟩
    rw [readAll_alone hstands, List.map_cons, ih, group_alone, if_neg hpair]

/-- The argument shows by its look what it was read as. -/
def Shows : Argument → Prop
  | .paired _ _ => True
  | .lettered _ value => value ≠ ""
  | .plain word => ∀ (letter : Letter) (value : String), word = letter.text ++ value → value = ""

theorem shows_alone (word : String) : (alone word).Shows := by
  rw [alone]
  split
  · trivial
  · cases hword : Letter.ofWord? word with
    | none =>
      intro letter value hspelled
      rw [Letter.ofWord?_eq_some_iff.mpr hspelled] at hword
      cases hword
    | some found =>
      obtain ⟨letter, value⟩ := found
      by_cases hvalue : value.isEmpty = true
      · simp only [hvalue, if_true]
        intro other rest hspelled
        rw [Letter.ofWord?_eq_some_iff.mpr hspelled] at hword
        cases hword
        exact String.isEmpty_iff.mp hvalue
      · simp only [hvalue, Bool.false_eq_true, if_false]
        exact fun hempty => hvalue (String.isEmpty_iff.mpr hempty)

theorem shows_taking {word next : String} (h : takesNext word = true) (hnext : next ≠ "") :
    (taking word next).Shows := by
  rcases takesNext_iff.mp h with hpair | ⟨letter, rfl⟩
  · rw [taking_of_takesValue hpair]
    trivial
  · rw [taking_letter]
    exact hnext

end Argument

namespace Answer

open Argument CrossFlags.Flag

variable {first second : Answer} {groups others : List Flag.Unit}

theorem Sorts.append (h : first.Sorts groups) (h' : second.Sorts others) :
    (first ++ second).Sorts (groups ++ others) where
  defines := by
    rw [entriesOf_append, ← h.defines, ← h'.defines]
    exact List.map_append
  compileFlags := by
    rw [entriesOf_append, ← h.compileFlags, ← h'.compileFlags]
    rfl
  linkFlags := by
    rw [entriesOf_append, ← h.linkFlags, ← h'.linkFlags]
    rfl
  linkLibraries := by
    rw [entriesOf_append]
    exact List.rel_append h.linkLibraries h'.linkLibraries

theorem sorts_paired (word : String) (value? : Option String) :
    (ofArguments [.paired word value?]).Sorts [(Argument.paired word value?).group] := by
  have hwords := words_group_paired word value?
  have hfield : (Argument.paired word value?).group.field =
      if compilePairs.contains word then .compileFlags else .linkFlags := by
    cases value? <;> rfl
  by_cases hlist : word ∈ compilePairs
  · constructor <;> simp [entriesOf_singleton, hwords, hfield, hlist, ofArguments,
      Argument.defines, Argument.compileFlags, Argument.linkFlags, Argument.libraries]
  · constructor <;> simp [entriesOf_singleton, hwords, hfield, hlist, ofArguments,
      Argument.defines, Argument.compileFlags, Argument.linkFlags, Argument.libraries]

theorem sorts_lettered (letter : Letter) {value : String} (h : value ≠ "") :
    (ofArguments [.lettered letter value]).Sorts [(Argument.lettered letter value).group] := by
  have hwords : (Argument.lettered letter value).group.words = [letter.text ++ value] := rfl
  have hfield : (Argument.lettered letter value).group.field = fieldOfLetter letter :=
    field_letter letter h
  cases letter <;> constructor <;>
    simp [entriesOf_singleton, hwords, hfield, fieldOfLetter, ofArguments, Argument.defines,
      Argument.compileFlags, Argument.linkFlags, Argument.libraries, Letter.text]

theorem isDashed_of_isLinkerOption {word : String} (h : isLinkerOption word = true) :
    isDashed word = true := by
  obtain ⟨rest, hrest⟩ := List.isPrefixOf_iff_prefix.mp h
  rw [isDashed, ← hrest]
  rfl

theorem sorts_plain {word : String}
    (h : ∀ (letter : Letter) (value : String), word = letter.text ++ value → value = "") :
    (ofArguments [.plain word]).Sorts [(Argument.plain word).group] := by
  have hwords : (Argument.plain word).group.words = [word] := rfl
  have hfield : (Argument.plain word).group.field = _ := field_plain h
  have hthreads : isThreads word = decide (word = "-pthread") := rfl
  by_cases hlinker : isLinkerOption word = true
  · have hdashed : isDashed word = true := isDashed_of_isLinkerOption hlinker
    constructor <;> simp [entriesOf_singleton, hwords, hfield, hlinker, hdashed, ofArguments,
      Argument.defines, Argument.compileFlags, Argument.linkFlags, Argument.libraries]
  · by_cases hpthread : word = "-pthread"
    · subst hpthread
      constructor <;> decide
    · by_cases hdashed : isDashed word = true
      · constructor <;> simp [entriesOf_singleton, hwords, hfield, hlinker, hdashed, hthreads,
          hpthread, ofArguments, Argument.defines, Argument.compileFlags, Argument.linkFlags,
          Argument.libraries]
      · constructor <;> simp [entriesOf_singleton, hwords, hfield, hlinker, hdashed, hthreads,
          hpthread, ofArguments, Argument.defines, Argument.compileFlags, Argument.linkFlags,
          Argument.libraries]

/-- An argument that shows what it is goes where its group belongs. -/
theorem sorts_singleton {argument : Argument} (h : argument.Shows) :
    (ofArguments [argument]).Sorts [argument.group] := by
  cases argument with
  | paired word value? => exact sorts_paired word value?
  | lettered letter value => exact sorts_lettered letter h
  | plain word => exact sorts_plain h

theorem sorts_ofArguments {arguments : List Argument} (h : ∀ argument ∈ arguments, argument.Shows) :
    (ofArguments arguments).Sorts (arguments.map Argument.group) := by
  induction arguments with
  | nil => exact ⟨rfl, rfl, rfl, .nil⟩
  | cons argument rest ih =>
    -- Sorting is additive, and the list is one argument and then the rest.
    obtain ⟨hargument, hrest⟩ := List.forall_mem_cons.mp h
    have hboth := (sorts_singleton hargument).append (ih hrest)
    rwa [← ofArguments_append, List.singleton_append, List.singleton_append] at hboth

theorem Sorts.getLast?_compileFlags {answer : Answer} {letter : Letter} (h : answer.Sorts groups)
    (hlast : groups.getLast? = some (.single letter.text)) :
    answer.compileFlags.getLast? = some letter.text := by
  -- The letter stands alone in the last group, and this group ends the compile flags.
  obtain ⟨front, rfl⟩ := List.getLast?_eq_some_iff.mp hlast
  have hfield : (Unit.single letter.text).field = .compileFlags := by cases letter <;> decide
  rw [h.compileFlags, entriesOf_append, entriesOf_singleton, hfield]
  simp [Unit.words]

/-- **A line is sorted without loss.** -/
theorem read_sorts (line : String) :
    (read line).Sorts (joined (Text.words line)) ∧
      String.join ((joined (Text.words line)).flatMap Unit.words) = String.join (Text.words line) ∧
      (∀ group : Flag.Unit, group.field = .bothFlags ↔ group = .single "-pthread") ∧
      ∀ letter : Letter, (joined (Text.words line)).getLast? = some (.single letter.text) →
        (read line).compileFlags.getLast? = some letter.text := by
  -- No word of a line is empty, so a value that was taken along is something to see.
  have hshows : ∀ argument ∈ readAll (Text.words line), argument.Shows := by
    refine forall_mem_readAll (fun word _ => shows_alone word) ?_
    intro word _ htakes next hnext
    exact shows_taking htakes (Text.ne_empty_of_mem_words hnext)
  have hsorts : (read line).Sorts (joined (Text.words line)) := by
    rw [← map_group_readAll]
    exact sorts_ofArguments hshows
  exact ⟨hsorts, join_joined _, field_eq_bothFlags_iff, fun letter => hsorts.getLast?_compileFlags⟩

end Answer
end CrossFlags
