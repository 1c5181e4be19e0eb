import CrossFlags.Flag.Argument

/-!
# Reading a line one argument at a time

`Argument.readAll` looks at a word and the one behind it and then goes on, by one word or by two.
Which of the two it is depends on the first word alone (`takesNext`), and so does what it makes of
them. So a line is read in two kinds of steps, a word on its own (`readAll_alone`) and a word with
the next one (`readAll_taking`), and whatever is to be known of every argument of a line needs to be
known of these two kinds only (`forall_mem_readAll`).
-/

set_option autoImplicit false

namespace CrossFlags

open scoped List

namespace Letter

/-- A word has a letter at its front exactly if it is spelled with that letter. -/
theorem ofWord?_eq_some_iff {word value : String} {letter : Letter} :
    ofWord? word = some (letter, value) ↔ word = letter.text ++ value := by
  constructor
  · intro h
    rw [← String.toList_inj, String.toList_append]
    unfold ofWord? at h
    split at h
    case h_5 => cases h
    all_goals
      rename_i rest hword
      cases h
      rw [hword, String.toList_ofList]
      rfl
  · rintro rfl
    cases letter <;> simp [ofWord?, text]

theorem ofWord?_append (letter : Letter) (value : String) :
    ofWord? (letter.text ++ value) = some (letter, value) :=
  ofWord?_eq_some_iff.mpr rfl

theorem ofWord?_text (letter : Letter) : ofWord? letter.text = some (letter, "") :=
  ofWord?_eq_some_iff.mpr String.append_empty.symm

/-- The letters as words of their own. -/
def bare : List String := ["-D", "-I", "-L", "-l"]

theorem mem_bare_iff {word : String} : word ∈ bare ↔ ∃ letter : Letter, letter.text = word := by
  constructor
  · intro h
    simp only [bare, List.mem_cons, List.not_mem_nil, or_false] at h
    rcases h with rfl | rfl | rfl | rfl
    · exact ⟨.define, rfl⟩
    · exact ⟨.headerDir, rfl⟩
    · exact ⟨.libraryDir, rfl⟩
    · exact ⟨.library, rfl⟩
  · rintro ⟨letter, rfl⟩
    cases letter <;> decide

end Letter

namespace Flag

/-- The word is an option whose value, as far as it has one, is the next word. -/
def takesNext (word : String) : Bool := takesValue word || Letter.bare.contains word

/-- A text whose beginning no option with a value shares is none of them. -/
theorem takesValue_append {front : String}
    (h : ∀ word ∈ compilePairs ++ linkPairs, ¬ front.toList <+: word.toList) (back : String) :
    takesValue (front ++ back) = false := by
  cases hword : takesValue (front ++ back) with
  | false => rfl
  | true =>
    have hmem : front ++ back ∈ compilePairs ++ linkPairs := by
      simpa [takesValue] using hword
    refine absurd ?_ (h _ hmem)
    rw [String.toList_append]
    exact List.prefix_append _ _

theorem takesValue_letter (letter : Letter) (value : String) :
    takesValue (letter.text ++ value) = false := by
  cases letter <;> exact takesValue_append (by decide) value

theorem takesNext_iff {word : String} :
    takesNext word = true ↔ takesValue word = true ∨ ∃ letter : Letter, letter.text = word := by
  rw [takesNext, Bool.or_eq_true, List.contains_iff_mem, Letter.mem_bare_iff]

theorem takesNext_eq_false_iff {word : String} :
    takesNext word = false ↔
      takesValue word = false ∧ ∀ letter : Letter, letter.text ≠ word := by
  rw [← Bool.not_eq_true, takesNext_iff, not_or, Bool.not_eq_true, not_exists]

end Flag

namespace Argument

open CrossFlags.Flag

/-! ## The two kinds of steps -/

/-- What a word is read as that takes nothing along. -/
def alone (word : String) : Argument :=
  if takesValue word then .paired word none
  else match Letter.ofWord? word with
    | some (letter, value) => if value.isEmpty then .plain word else .lettered letter value
    | none => .plain word

/-- What a word is read as together with the next one. -/
def taking (word next : String) : Argument :=
  if takesValue word then .paired word (some next)
  else match Letter.ofWord? word with
    | some (letter, _) => .lettered letter next
    | none => .plain word

theorem taking_of_takesValue {word : String} (h : takesValue word = true) (next : String) :
    taking word next = .paired word (some next) := if_pos h

theorem taking_letter (letter : Letter) (next : String) :
    taking letter.text next = .lettered letter next := by
  have hpair : takesValue letter.text = false := by simpa using takesValue_letter letter ""
  rw [taking, hpair, Letter.ofWord?_text]
  rfl

theorem readAll_singleton (word : String) : readAll [word] = [alone word] := by
  rw [readAll, alone]
  split
  · rfl
  · cases Letter.ofWord? word with
    | none => rfl
    | some found => exact (apply_ite (fun argument => [argument]) _ _ _).symm

theorem readAll_taking {word : String} (h : takesNext word = true) (next : String)
    (rest : List String) : readAll (word :: next :: rest) = taking word next :: readAll rest := by
  rw [readAll]
  rcases takesNext_iff.mp h with hpair | ⟨letter, rfl⟩
  · rw [if_pos hpair, taking_of_takesValue hpair]
  · have hpair : takesValue letter.text = false := by simpa using takesValue_letter letter ""
    rw [hpair, taking_letter, Letter.ofWord?_text]
    rfl

theorem readAll_alone {word : String} (h : takesNext word = false) (rest : List String) :
    readAll (word :: rest) = alone word :: readAll rest := by
  cases rest with
  | nil => rw [readAll_singleton]; rfl
  | cons next rest =>
    obtain ⟨hpair, hbare⟩ := takesNext_eq_false_iff.mp h
    rw [readAll, alone, hpair]
    cases hword : Letter.ofWord? word with
    | none => rfl
    | some found =>
      obtain ⟨letter, value⟩ := found
      -- A letter with nothing attached would take the next word along.
      have hvalue : value.isEmpty = false := by
        rw [← Bool.not_eq_true, String.isEmpty_iff]
        rintro rfl
        exact hbare letter (by simpa using (Letter.ofWord?_eq_some_iff.mp hword).symm)
      simp only [hvalue, Bool.false_eq_true, if_false]

/-- What holds of every word on its own, and of every word with the one it takes along, holds of
every argument of the line. -/
theorem forall_mem_readAll {p : Argument → Prop} {words : List String}
    (halone : ∀ word ∈ words, p (alone word))
    (htaking : ∀ word ∈ words, takesNext word = true → ∀ next ∈ words, p (taking word next)) :
    ∀ argument ∈ readAll words, p argument := by
  -- By one word or by two, as the line is read.
  match words with
  | [] => exact fun _ h => absurd h List.not_mem_nil
  | [word] =>
    rw [readAll_singleton, List.forall_mem_singleton]
    exact halone word List.mem_cons_self
  | word :: next :: rest =>
    cases hword : takesNext word with
    | true =>
      rw [readAll_taking hword, List.forall_mem_cons]
      refine ⟨htaking word (by simp) hword next (by simp), forall_mem_readAll ?_ ?_⟩
      · exact fun w hw => halone w (by simp [hw])
      · exact fun w hw htakes n hn => htaking w (by simp [hw]) htakes n (by simp [hn])
    | false =>
      rw [readAll_alone hword, List.forall_mem_cons]
      refine ⟨halone word List.mem_cons_self, forall_mem_readAll ?_ ?_⟩
      · exact fun w hw => halone w (List.mem_cons_of_mem _ hw)
      · exact fun w hw htakes n hn =>
          htaking w (List.mem_cons_of_mem _ hw) htakes n (List.mem_cons_of_mem _ hn)

end Argument
end CrossFlags
