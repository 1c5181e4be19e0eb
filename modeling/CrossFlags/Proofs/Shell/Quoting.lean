import CrossFlags.Shell.Words

/-!
# Shell text reads back

A flag set is quoted twice, each argument by itself and the line of arguments once more, and a shell
undoes the quoting twice, when it evaluates the text and when somebody splits the value of a
variable. **Both readings give back what was written** (`render_reads_back`), whatever characters
the flags have, and nothing in the text that means something to a shell stands outside quotes.

The two layers do not need two arguments. `run_quoteChars` says that a quoted word, read where a
word may stand, adds exactly its characters to the word that has begun; the inner line is a list of
such words, and the outer text has one such word behind each `NAME=`. What is in the word does not
matter, and that is why the inner quotes need no thought when the outer layer is read.
-/

set_option autoImplicit false

namespace CrossFlags.Shell

/-- The characters that reading has a rule for. -/
def markers : List Char := [quoteMark, '\\', '\n', ' ', '\t']

namespace Reading

variable {reading : Reading}

/-! ## Steps and runs -/

theorem run_cons (reading : Reading) (c : Char) (rest : List Char) :
    reading.run (c :: rest) = (reading.step c).bind (run · rest) :=
  List.foldlM_cons

theorem run_append (reading : Reading) (front back : List Char) :
    reading.run (front ++ back) = (reading.run front).bind (run · back) :=
  List.foldlM_append

/-- Apart from the characters that reading has a rule for, a bare character stands for itself or
ends the reading. -/
theorem step_bare {c : Char} (hmode : reading.mode = .bare) (hc : c ∉ markers) :
    reading.step c = if c ∈ specialChars then none else some (reading.put [c]) := by
  simp only [markers, List.mem_cons, List.not_mem_nil, or_false, not_or] at hc
  obtain ⟨hquote, hescape, hline, hspace, htab⟩ := hc
  unfold step
  rw [hmode]
  simp only [hquote, hescape, hline, hspace, htab, or_self, if_false]

theorem step_of_mem_specialChars {c : Char} (hmode : reading.mode = .bare)
    (hc : c ∈ specialChars) : reading.step c = none := by
  have hapart : specialChars.all (fun d => d ∉ markers) = true := by decide
  have hnot : c ∉ markers := of_decide_eq_true (List.all_eq_true.mp hapart c hc)
  rw [step_bare hmode hnot, if_pos hc]

theorem step_of_isPlain {c : Char} (hmode : reading.mode = .bare) (hc : isPlain c = true) :
    reading.step c = some (reading.put [c]) := by
  have hmeaning : (markers ++ specialChars).any isPlain = false := by decide
  have hnot : c ∉ markers ++ specialChars := by
    intro hmem
    exact List.any_eq_false.mp hmeaning c hmem hc
  rw [List.mem_append, not_or] at hnot
  rw [step_bare hmode hnot.1, if_neg hnot.2]

/-! ## One word -/

theorem put_put (reading : Reading) (first second : List Char) :
    (reading.put first).put second = reading.put (first ++ second) := by
  simp [put]

theorem run_of_isPlain {cs : List Char} (hmode : reading.mode = .bare) (hne : cs ≠ [])
    (hplain : ∀ c ∈ cs, isPlain c = true) : reading.run cs = some (reading.put cs) := by
  induction cs generalizing reading with
  | nil => exact absurd rfl hne
  | cons c rest ih =>
    obtain ⟨hc, hrest⟩ := List.forall_mem_cons.mp hplain
    rw [run_cons, step_of_isPlain hmode hc, Option.bind_some]
    cases rest with
    | nil => rfl
    | cons d more =>
      have hput : (reading.put [c]).run (d :: more) = some ((reading.put [c]).put (d :: more)) :=
        ih hmode (List.cons_ne_nil _ _) hrest
      rw [hput, put_put, List.singleton_append]

/-- A single quote is read as itself by leaving the quotes, escaping it, and entering them again. -/
theorem run_inQuotes (reading : Reading) (front cs : List Char) :
    { reading.put front with mode := .quoted }.run (cs.flatMap inQuotes) =
      some { reading.put (front ++ cs) with mode := .quoted } := by
  induction cs generalizing front with
  | nil =>
    rw [List.append_nil]
    rfl
  | cons c rest ih =>
    have hone : { reading.put front with mode := .quoted }.run (inQuotes c) =
        some { reading.put (front ++ [c]) with mode := .quoted } := by
      unfold inQuotes
      split
      · rename_i hc
        subst hc
        have hfour : { reading.put front with mode := .quoted }.run
            [quoteMark, '\\', quoteMark, quoteMark] =
              some { ((reading.put front).put [quoteMark]).put [] with mode := .quoted } := rfl
        rw [hfour, put_put, put_put, List.append_nil]
      · rename_i hc
        have hstep : { reading.put front with mode := .quoted }.run [c] =
            some (if c = quoteMark then { reading.put front with mode := .bare }
              else { (reading.put front).put [c] with mode := .quoted }) := rfl
        rw [hstep, if_neg hc, put_put]
    rw [List.flatMap_cons, run_append, hone, Option.bind_some, ih, List.append_assoc,
      List.singleton_append]

/-- **A quoted word, read where a word may stand, adds its characters and nothing else.** -/
theorem run_quoteChars {word : List Char} (hmode : reading.mode = .bare) :
    reading.run (quoteChars word) = some (reading.put word) := by
  unfold quoteChars
  split
  · rename_i hsafe
    rw [isSafe, Bool.and_eq_true, List.all_eq_true] at hsafe
    exact run_of_isPlain hmode (by simpa using hsafe.1) hsafe.2
  · have hopen : reading.step quoteMark = some { reading.put [] with mode := .quoted } := by
      unfold step
      rw [hmode]
      rfl
    have hclose : { reading.put word with mode := .quoted }.run [quoteMark] =
        some { reading.put word with mode := .bare } := rfl
    rw [List.cons_append, run_cons, hopen, Option.bind_some, run_append, run_inQuotes,
      Option.bind_some, List.nil_append, hclose, ← hmode]
    rfl

/-! ## Lines -/

theorem step_space (hmode : reading.mode = .bare) : reading.step ' ' = some reading.endWord := by
  unfold step
  rw [hmode]
  rfl

theorem step_newline (hmode : reading.mode = .bare) :
    reading.step '\n' = some reading.endCommand := by
  unfold step
  rw [hmode]
  rfl

theorem run_quote (hmode : reading.mode = .bare) (word : String) :
    reading.run (quote word).toList = some (reading.put word.toList) := by
  rw [quote, String.toList_ofList]
  exact run_quoteChars hmode

/-- Between two words: none has begun. -/
def between (commands : List (List String)) (words : List String) : Reading where
  commands := commands
  words := words

variable {commands : List (List String)} {words : List String}

theorem endWord_put_between (word : String) :
    ((between commands words).put word.toList).endWord = between commands (words ++ [word]) := by
  have hend : ((between commands words).put word.toList).endWord =
      between commands (words ++ [String.ofList word.toList]) := rfl
  rw [hend, String.ofList_toList]

/-- A line of arguments is read as its arguments, up to the blank that ends the last one. -/
theorem run_line (args : List String) :
    ∃ last, (between commands words).run (line args).toList = some last ∧ last.mode = .bare ∧
      last.endWord = between commands (words ++ args) := by
  induction args generalizing words with
  | nil =>
    refine ⟨between commands words, rfl, rfl, ?_⟩
    rw [List.append_nil]
    rfl
  | cons arg rest ih =>
    cases rest with
    | nil =>
      have hline : line [arg] = quote arg := by simp [line]
      refine ⟨(between commands words).put arg.toList, ?_, rfl, endWord_put_between arg⟩
      rw [hline, run_quote rfl]
    | cons next more =>
      have hline : (line (arg :: next :: more)).toList =
          (quote arg).toList ++ ' ' :: (line (next :: more)).toList := by
        simp [line, String.intercalate_cons_cons]
      obtain ⟨last, hrun, hmode, hend⟩ := @ih (words ++ [arg])
      refine ⟨last, ?_, hmode, ?_⟩
      · rw [hline, run_append, run_quote rfl, Option.bind_some, run_cons, step_space rfl,
          endWord_put_between, Option.bind_some, hrun]
      · rw [hend, List.append_assoc, List.singleton_append]

/-- An assignment is read as one command of two words. -/
theorem run_assignment {name : String} (hname : ∀ c ∈ name.toList, isPlain c = true)
    (args : List String) :
    (between commands []).run (assignment name args).toList =
      some (between (commands ++ [["export", name ++ "=" ++ line args]]) []) := by
  have htext : (assignment name args).toList =
      "export".toList ++
        ' ' :: ((name ++ "=").toList ++ ((quote (line args)).toList ++ ['\n'])) := by
    simp [assignment]
  have hexport : (between commands []).run "export".toList =
      some ((between commands []).put "export".toList) :=
    run_of_isPlain rfl (by decide) (List.all_eq_true.mp (by decide))
  have hname : (between commands ["export"]).run (name ++ "=").toList =
      some ((between commands ["export"]).put (name ++ "=").toList) := by
    apply run_of_isPlain rfl
    · simp
    · intro c hc
      rw [String.toList_append] at hc
      rcases List.mem_append.mp hc with hc | hc
      · exact hname c hc
      · rw [List.mem_singleton.mp hc]
        decide
  have hend : ((between commands ["export"]).put (name ++ "=" ++ line args).toList).endCommand =
      between (commands ++ [["export", name ++ "=" ++ line args]]) [] := by
    unfold endCommand
    rw [endWord_put_between]
    rfl
  rw [htext, run_append, hexport, Option.bind_some, run_cons, step_space rfl, endWord_put_between,
    Option.bind_some, List.nil_append, run_append, hname, Option.bind_some, run_append,
    run_quote rfl, Option.bind_some, put_put, ← String.toList_append, run_cons, step_newline rfl,
    Option.bind_some, hend]
  rfl

theorem run_assignments {assignments : List (String × List String)}
    (hnames : ∀ entry ∈ assignments, ∀ c ∈ entry.1.toList, isPlain c = true) :
    (between commands []).run
        (String.join (assignments.map fun (name, args) => assignment name args)).toList =
      some (between (commands ++ assignments.map fun (name, args) =>
        ["export", name ++ "=" ++ line args]) []) := by
  induction assignments generalizing commands with
  | nil =>
    rw [List.map_nil, List.map_nil, List.append_nil]
    rfl
  | cons entry rest ih =>
    obtain ⟨hentry, hrest⟩ := List.forall_mem_cons.mp hnames
    rw [List.map_cons, String.join_cons, String.toList_append, run_append, run_assignment hentry,
      Option.bind_some, ih hrest, List.map_cons, List.append_assoc, List.singleton_append]

end Reading

/-! ## Whole texts -/

theorem commands?_of_run {text : String} {last : Reading}
    (hrun : ({} : Reading).run text.toList = some last) (hmode : last.mode = .bare) :
    commands? text = some last.endCommand.commands := by
  unfold commands?
  rw [hrun]
  exact if_pos hmode

/-- The line of a list of arguments has these arguments for its words. -/
theorem words?_line (args : List String) : words? (line args) = some args := by
  obtain ⟨last, hrun, hmode, hend⟩ := @Reading.run_line [] [] args
  have hcommands : last.endCommand.commands.flatten = args := by
    unfold Reading.endCommand
    rw [hend, List.nil_append]
    cases args with
    | nil => rfl
    | cons arg rest => simp [Reading.between]
  rw [words?, commands?_of_run hrun hmode, Option.map_some, hcommands]

theorem commands?_render (flags : FlagSet) :
    commands? (render flags) =
      some ((exports flags).map fun (name, args) => ["export", name ++ "=" ++ line args]) := by
  have hnames : ∀ entry ∈ exports flags, ∀ c ∈ entry.1.toList, isPlain c = true := by
    have hplain : ∀ name ∈ ["CPPFLAGS", "CFLAGS", "CXXFLAGS", "LDFLAGS", "LIBS"],
        name.toList.all isPlain = true := by decide
    intro entry hentry
    exact List.all_eq_true.mp (hplain _ (List.mem_map_of_mem hentry))
  exact commands?_of_run (@Reading.run_assignments [] _ hnames) rfl

/-- No special character of the text stands bare: what is read in front of it leaves the reader
inside quotes or behind a backslash. -/
def Guarded (text : String) : Prop :=
  ∀ front c back, text.toList = front ++ c :: back → c ∈ specialChars →
    ∃ reading, ({} : Reading).run front = some reading ∧ reading.mode ≠ .bare

theorem guarded_of_commands? {text : String} {commands : List (List String)}
    (h : commands? text = some commands) : Guarded text := by
  intro front c back htext hc
  unfold commands? at h
  obtain ⟨last, hrun, -⟩ := Option.bind_eq_some_iff.mp h
  rw [htext, Reading.run_append] at hrun
  obtain ⟨reading, hfront, hrest⟩ := Option.bind_eq_some_iff.mp hrun
  refine ⟨reading, hfront, ?_⟩
  intro hmode
  rw [Reading.run_cons, Reading.step_of_mem_specialChars hmode hc] at hrest
  cases hrest

/-- **The text of a flag set is five commands, and the values they export split into the arguments
that the flag set has.** -/
theorem render_reads_back (flags : FlagSet) :
    Guarded (render flags) ∧
      ∃ cpp c cxx ld libs,
        commands? (render flags) =
          some [["export", "CPPFLAGS=" ++ cpp], ["export", "CFLAGS=" ++ c],
            ["export", "CXXFLAGS=" ++ cxx], ["export", "LDFLAGS=" ++ ld],
            ["export", "LIBS=" ++ libs]] ∧
        words? cpp = some flags.cppArgs ∧
        words? c = some (flags.compileFlags ++ flags.cFlags) ∧
        words? cxx = some flags.compileFlags ∧
        words? ld = some flags.linkFlags ∧
        words? libs = some flags.libraryArgs := by
  refine ⟨guarded_of_commands? (commands?_render flags), line flags.cppArgs,
    line (flags.compileFlags ++ flags.cFlags), line flags.compileFlags, line flags.linkFlags,
    line flags.libraryArgs, ?_, words?_line _, words?_line _, words?_line _, words?_line _,
    words?_line _⟩
  exact commands?_render flags

example : words? (line []) = some [] ∧ words? (line [""]) = some [""] := by decide

end CrossFlags.Shell
