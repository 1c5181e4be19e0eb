import CrossFlags.Text.Spelling

/-!
# Texts put together

A text is cut into words at its blanks, and neighbouring blanks leave empty pieces that are dropped
again. So where a text is put together from two with blanks in between, the words of the one stand
behind the words of the other, and no word runs across.

Other texts are put together with nothing in between: quoted strings are spelled character by
character and files line by line, and a character or a line has more than one spelling. `Pieced` is
what both have in common: one piece for each element, in order.
-/

set_option autoImplicit false

namespace CrossFlags.Text

section

variable {α : Type} {mark : α → Bool}

theorem pieces_of_forall {as : List α} (h : ∀ a ∈ as, mark a = false) : pieces mark as = [as] := by
  induction as with
  | nil => rfl
  | cons a rest ih =>
    rw [List.forall_mem_cons] at h
    simp only [pieces, h.1, ih h.2, Bool.false_eq_true, if_false]

theorem pieces_append_cons {a : α} (ha : mark a = true) (front back : List α) :
    pieces mark (front ++ a :: back) = pieces mark front ++ pieces mark back := by
  induction front with
  | nil => simp [pieces, ha]
  | cons b rest ih =>
    by_cases hb : mark b = true
    · simp [pieces, hb, ih]
    · cases hpieces : pieces mark rest with
      | nil => exact absurd hpieces (pieces_ne_nil mark rest)
      | cons first more => simp [pieces, hb, ih, hpieces]

/-- Parts with a mark between them are cut where they were joined and where they hold marks. -/
theorem pieces_intercalate {a : α} (ha : mark a = true) {parts : List (List α)} (h : parts ≠ []) :
    pieces mark ([a].intercalate parts) = parts.flatMap (pieces mark) := by
  induction parts with
  | nil => exact absurd rfl h
  | cons part rest ih =>
    cases rest with
    | nil => simp
    | cons next rest =>
      rw [List.intercalate_cons_cons, List.append_assoc, List.singleton_append,
        pieces_append_cons ha, ih (List.cons_ne_nil next rest)]
      rfl

theorem filter_pieces_append {between : List α} (h : ∀ a ∈ between, mark a = true)
    (back : List α) :
    (pieces mark (between ++ back)).filter (fun piece => !piece.isEmpty) =
      (pieces mark back).filter fun piece => !piece.isEmpty := by
  induction between with
  | nil => rfl
  | cons a rest ih =>
    obtain ⟨ha, hrest⟩ := List.forall_mem_cons.mp h
    simp [pieces, ha, ih hrest]

end

theorem words_append {front between back : String} (hne : between ≠ "")
    (hblank : ∀ c ∈ between.toList, isBlank c = true) :
    words (front ++ between ++ back) = words front ++ words back := by
  have htext : (front ++ between ++ back).toList =
      front.toList ++ between.toList ++ back.toList := by simp
  cases hbetween : between.toList with
  | nil => exact absurd (String.toList_eq_nil_iff.mp hbetween) hne
  | cons c rest =>
    rw [hbetween] at hblank
    obtain ⟨hc, hrest⟩ := List.forall_mem_cons.mp hblank
    rw [words, htext, hbetween, List.append_assoc, List.cons_append, pieces_append_cons hc,
      List.filter_append, filter_pieces_append hrest, List.map_append]
    rfl

/-! ## Words and lines of words -/

/-- A text that is one word. -/
def IsWord (word : String) : Prop := word ≠ "" ∧ ∀ c ∈ word.toList, isBlank c = false

theorem isWord_of_mem_words {s word : String} (h : word ∈ words s) : IsWord word := by
  obtain ⟨run, hrun, rfl⟩ := List.mem_map.mp h
  obtain ⟨hpiece, hne⟩ := List.mem_filter.mp hrun
  refine ⟨?_, ?_⟩
  · intro hempty
    have hnil : run = [] := by simpa using congrArg String.toList hempty
    simp [hnil] at hne
  · intro c hc
    rw [String.toList_ofList] at hc
    exact mark_eq_false_of_mem_pieces hpiece hc

theorem ne_empty_of_mem_words {s word : String} (h : word ∈ words s) : word ≠ "" :=
  (isWord_of_mem_words h).1

theorem IsWord.append {front back : String} (hfront : IsWord front)
    (hback : ∀ c ∈ back.toList, isBlank c = false) : IsWord (front ++ back) := by
  refine ⟨?_, ?_⟩
  · intro hempty
    exact hfront.1 (String.append_eq_empty_iff.mp hempty).1
  · rw [String.toList_append, List.forall_mem_append]
    exact ⟨hfront.2, hback⟩

theorem IsWord.words_eq {word : String} (h : IsWord word) : words word = [word] := by
  have hne : word.toList ≠ [] := fun hnil => h.1 (String.toList_eq_nil_iff.mp hnil)
  rw [words, pieces_of_forall h.2]
  simp [hne]

/-- Words put on one line are the words of that line. -/
theorem words_intercalate {ws : List String} (h : ∀ word ∈ ws, IsWord word) :
    words (" ".intercalate ws) = ws := by
  induction ws with
  | nil => rfl
  | cons word rest ih =>
    obtain ⟨hword, hrest⟩ := List.forall_mem_cons.mp h
    cases rest with
    | nil => rw [String.intercalate_singleton, hword.words_eq]
    | cons next rest =>
      rw [String.intercalate_cons_cons, words_append (by decide) (List.all_eq_true.mp (by decide)),
        hword.words_eq, ih hrest, List.singleton_append]

/-! ## Pieces with nothing in between -/

section

variable {α : Type} {piece : α → List Char → Prop}

/-- A text that consists of one piece for each element, in order. -/
inductive Pieced (piece : α → List Char → Prop) : List α → List Char → Prop
  | nil : Pieced piece [] []
  | cons {a : α} {as : List α} {front rest : List Char} (hfront : piece a front)
      (hrest : Pieced piece as rest) : Pieced piece (a :: as) (front ++ rest)

theorem pieced_flatMap {text : α → List Char} (h : ∀ a, piece a (text a)) (as : List α) :
    Pieced piece as (as.flatMap text) := by
  induction as with
  | nil => exact .nil
  | cons a rest ih => exact .cons (h a) ih

end

end CrossFlags.Text
