import CrossFlags.Text.Spelling
import Mathlib.Data.List.DropRight

/-!
# What trimming leaves

`Text.trim` takes the blanks off both ends, and everything that is later said about a supplied text
(it is a sentinel, it is empty, it is a path) is said about what is left. The one fact that the rest
of the theory needs is the fixed points: a text is its own trimming exactly when it neither begins
nor ends with a blank, and a trimmed text is one of them.
-/

set_option autoImplicit false

namespace CrossFlags.Text

def NoBlankFirst (cs : List Char) : Prop := ∀ c ∈ cs.head?, isBlank c = false

def NoBlankLast (cs : List Char) : Prop := ∀ c ∈ cs.getLast?, isBlank c = false

/-! ## Both ends of a trimmed list -/

theorem noBlankLast_trimmed (cs : List Char) : NoBlankLast (trimmed cs) := by
  intro c hc
  obtain ⟨hne, hlast⟩ := List.mem_getLast?_eq_getLast hc
  have hnot := List.rdropWhile_last_not isBlank (cs.dropWhile isBlank) hne
  rw [hlast]
  exact Bool.not_eq_true _ ▸ hnot

theorem noBlankFirst_trimmed (cs : List Char) : NoBlankFirst (trimmed cs) := by
  -- What is cut off the end comes last: a list that is not empty afterwards begins as before.
  intro c hc
  have hcut : ((cs.dropWhile isBlank).rdropWhile isBlank).head? = some c := hc
  obtain ⟨blanks, happend⟩ := List.rdropWhile_prefix isBlank (cs.dropWhile isBlank)
  have hhead : (cs.dropWhile isBlank).head? = some c := by
    rw [← happend, List.head?_append, hcut]
    rfl
  have hnot := List.head?_dropWhile_not isBlank cs
  rw [hhead] at hnot
  simpa using hnot

/-! ## The fixed points -/

theorem trimmed_eq_self_iff {cs : List Char} :
    trimmed cs = cs ↔ NoBlankFirst cs ∧ NoBlankLast cs := by
  constructor
  · intro h
    rw [← h]
    exact ⟨noBlankFirst_trimmed cs, noBlankLast_trimmed cs⟩
  · rintro ⟨hfirst, hlast⟩
    have hdrop : cs.dropWhile isBlank = cs := by
      cases cs with
      | nil => rfl
      | cons c rest =>
        refine List.dropWhile_cons_of_neg ?_
        simpa using hfirst c rfl
    unfold trimmed
    rw [hdrop]
    refine (List.rdropWhile_eq_self_iff (p := isBlank)).mpr fun hne => ?_
    simpa using hlast _ (List.getLast?_eq_some_getLast hne)

theorem trimmed_trimmed (cs : List Char) : trimmed (trimmed cs) = trimmed cs :=
  trimmed_eq_self_iff.mpr ⟨noBlankFirst_trimmed cs, noBlankLast_trimmed cs⟩

/-! ## The same for texts -/

@[simp] theorem trim_trim (s : String) : trim (trim s) = trim s := by
  unfold trim
  rw [String.toList_ofList, trimmed_trimmed]

/-- A text is its own trimming exactly when there is no blank at either end. -/
theorem trim_eq_self_iff {s : String} :
    trim s = s ↔ NoBlankFirst s.toList ∧ NoBlankLast s.toList := by
  rw [← trimmed_eq_self_iff, trim, ← String.toList_inj, String.toList_ofList]

theorem trim_of_forall {s : String} (h : ∀ c ∈ s.toList, isBlank c = false) : trim s = s := by
  refine trim_eq_self_iff.mpr ⟨?_, ?_⟩
  · intro c hc
    exact h c (List.mem_of_mem_head? hc)
  · intro c hc
    exact h c (List.mem_of_mem_getLast? hc)

/-! ## What is cut off -/

/-- Only blanks are cut off, and only at the ends. -/
theorem exists_blanks_trim (s : String) :
    ∃ front back : List Char, s.toList = front ++ (trim s).toList ++ back ∧
      ∀ c ∈ front ++ back, isBlank c = true := by
  let kept := s.toList.dropWhile isBlank
  have hfront : s.toList.takeWhile isBlank ++ kept = s.toList := List.takeWhile_append_dropWhile
  have hback : kept.rdropWhile isBlank ++ kept.rtakeWhile isBlank = kept :=
    List.rdropWhile_append_rtakeWhile
  have htrim : (trim s).toList = kept.rdropWhile isBlank := String.toList_ofList
  refine ⟨s.toList.takeWhile isBlank, kept.rtakeWhile isBlank, ?_, ?_⟩
  · rw [htrim, List.append_assoc, hback, hfront]
  · intro c hc
    rcases List.mem_append.mp hc with hc | hc
    · exact List.mem_takeWhile_imp hc
    · exact List.mem_rtakeWhile_imp hc

/-! ## Numbers hold no blank -/

theorem isBlank_of_isDigit {c : Char} (h : c.isDigit = true) : isBlank c = false := by
  simp only [Char.isDigit, Bool.and_eq_true, decide_eq_true_eq, ge_iff_le,
    UInt32.le_iff_toNat_le] at h
  have hrange : 48 ≤ c.toNat ∧ c.toNat ≤ 57 := h
  simp only [isBlank, blankRanges, List.any_cons, List.any_nil, Bool.or_false, Bool.or_eq_false_iff,
    Bool.and_eq_false_iff, decide_eq_false_iff_not]
  omega

theorem isDigit_of_mem_naturalText {n : Nat} {c : Char} (h : c ∈ (naturalText n).toList) :
    c.isDigit = true := by
  rw [naturalText, String.toList_ofList] at h
  exact Nat.isDigit_of_mem_toDigits (by decide) (by decide) h

theorem eq_minus_or_isDigit_of_mem_integerText {n : Int64} {c : Char}
    (h : c ∈ (integerText n).toList) : c = '-' ∨ c.isDigit = true := by
  unfold integerText at h
  split at h
  · rw [String.toList_append] at h
    rcases List.mem_append.mp h with hsign | hdigit
    · exact .inl (List.mem_singleton.mp hsign)
    · exact .inr (isDigit_of_mem_naturalText hdigit)
  · exact .inr (isDigit_of_mem_naturalText h)

theorem trim_integerText (n : Int64) : trim (integerText n) = integerText n := by
  refine trim_of_forall ?_
  intro c hc
  rcases eq_minus_or_isDigit_of_mem_integerText hc with rfl | hdigit
  · decide
  · exact isBlank_of_isDigit hdigit

theorem naturalText_ne_empty (n : Nat) : naturalText n ≠ "" := by
  rw [naturalText, ← String.toList_inj.ne, String.toList_ofList]
  exact Nat.toDigits_ne_nil

theorem integerText_ne_empty (n : Int64) : integerText n ≠ "" := by
  unfold integerText
  split
  · simp
  · exact naturalText_ne_empty _

end CrossFlags.Text
