import CrossFlags.OptionFile.Number
import CrossFlags.Proofs.Text.Words
import CrossFlags.Text.Spelling

/-!
# Decimal text is read back

The reader of option files knows four bases, signs, groups of digits and a rule against leading
zeros; the decimal text of an integer uses next to none of that. What has to be shown is that it
does not meet any of it by accident: digits hold no underscore, only zero begins with a zero, so no
number looks like one in another base, and no 64-bit integer is out of range. The same goes for the
code point that an escaped character is written by (`codePoint?_of_lt`).
-/

set_option autoImplicit false

namespace CrossFlags

namespace OptionFile

theorem digit?_of_isDigit {c : Char} (h : c.isDigit = true) :
    digit? 10 c = some (c.toNat - '0'.toNat) := by
  have hlt : c.toNat - '0'.toNat < 10 := by
    have hle := (Char.isDigit_iff_toNat.mp h).2
    have hzero : '0'.toNat = 48 := rfl
    have hnine : '9'.toNat = 57 := rfl
    omega
  unfold digit?
  rw [if_pos h, Option.filter_some, if_pos (decide_eq_true hlt)]

theorem digits?_of_isDigit {cs : List Char} (h : ∀ c ∈ cs, c.isDigit = true) :
    digits? 10 cs = some (Nat.ofDigitChars 10 cs 0) := by
  have hvalues : cs.mapM (digit? 10) = some (cs.map fun c => c.toNat - '0'.toNat) := by
    induction cs with
    | nil => rfl
    | cons c rest ih =>
      rw [List.forall_mem_cons] at h
      rw [List.mapM_cons, digit?_of_isDigit h.1, ih h.2]
      rfl
  unfold digits?
  rw [hvalues, Option.map_some, List.foldl_map, Nat.ofDigitChars_eq_foldl]
  simp only [Nat.mul_comm]

theorem grouped?_of_isDigit {cs : List Char} (h : ∀ c ∈ cs, c.isDigit = true) (hne : cs ≠ []) :
    grouped? 10 cs = some (Nat.ofDigitChars 10 cs 0) := by
  have hplain : ∀ c ∈ cs, (c == '_') = false := by
    intro c hc
    rw [beq_eq_false_iff_ne]
    rintro rfl
    exact absurd (h _ hc) (by decide)
  unfold grouped?
  rw [Text.pieces_of_forall hplain]
  simpa [hne] using digits?_of_isDigit h

theorem isDigit_of_mem_digits {n : Nat} {c : Char} (h : c ∈ Nat.toDigits 10 n) :
    c.isDigit = true :=
  Nat.isDigit_of_mem_toDigits (by decide) (by decide) h

/-- Only zero is written with a zero in front. -/
theorem head?_toDigits_ne {n : Nat} (h : n ≠ 0) : (Nat.toDigits 10 n).head? ≠ some '0' := by
  have hone : ∀ digit < 10, digit ≠ 0 → [Nat.digitChar digit].head? ≠ some '0' := by decide
  induction n using Nat.strongRecOn with
  | ind n ih =>
    rw [Nat.toDigits_eq_if (by decide)]
    split
    · rename_i hlt
      exact hone n hlt h
    · rename_i hge
      have hhead := ih (n / 10) (by omega) (by omega)
      obtain ⟨first, rest, hcons⟩ :=
        List.exists_cons_of_ne_nil (Nat.toDigits_ne_nil (n := n / 10) (b := 10))
      rw [hcons] at hhead ⊢
      exact hhead

/-- Digits with no zero in front are read as a decimal. -/
theorem decimal?_of_head? {cs : List Char} (h : cs.head? ≠ some '0') :
    decimal? cs = grouped? 10 cs := by
  unfold decimal?
  split
  · exact absurd rfl h
  · exact absurd rfl h
  · rfl

theorem decimal?_toDigits (n : Nat) : decimal? (Nat.toDigits 10 n) = some n := by
  by_cases h : n = 0
  · subst h
    rfl
  · rw [decimal?_of_head? (head?_toDigits_ne h),
      grouped?_of_isDigit (fun _ => isDigit_of_mem_digits) Nat.toDigits_ne_nil,
      Nat.ofDigitChars_ten_toDigits]

/-- Digits with no zero in front look like no signed number, and like none in another base. -/
theorem unbounded?_of_isDigit {cs : List Char} (hdigits : ∀ c ∈ cs, c.isDigit = true)
    (hhead : cs.head? ≠ some '0') : unbounded? cs = (decimal? cs).map Int.ofNat := by
  unfold unbounded?
  split
  · exact absurd rfl hhead
  · exact absurd rfl hhead
  · exact absurd rfl hhead
  · exact absurd (hdigits '+' List.mem_cons_self) (by decide)
  · exact absurd (hdigits '-' List.mem_cons_self) (by decide)
  · rfl

theorem unbounded?_toDigits (n : Nat) : unbounded? (Nat.toDigits 10 n) = some (Int.ofNat n) := by
  by_cases h : n = 0
  · subst h
    rfl
  · rw [unbounded?_of_isDigit (fun _ => isDigit_of_mem_digits) (head?_toDigits_ne h),
      decimal?_toDigits, Option.map_some]

theorem integer?_integerText (n : Int64) :
    integer? (Text.integerText n).toList = some n := by
  have hread : unbounded? (Text.integerText n).toList = some n.toInt := by
    unfold Text.integerText
    split
    · rename_i hneg
      rw [Text.naturalText, String.toList_append, String.toList_ofList, String.toList_ofList]
      have hsigned : unbounded? ('-' :: Nat.toDigits 10 n.toInt.natAbs) =
          some (-Int.ofNat n.toInt.natAbs) :=
        congrArg (Option.map fun m => -Int.ofNat m) (decimal?_toDigits n.toInt.natAbs)
      rw [Int.ofNat_eq_natCast, Int.ofNat_natAbs_of_nonpos (Int.le_of_lt hneg),
        Int.neg_neg] at hsigned
      exact hsigned
    · rename_i hpos
      rw [Text.naturalText, String.toList_ofList, unbounded?_toDigits, Int.ofNat_eq_natCast,
        Int.natAbs_of_nonneg (Int.not_lt.mp hpos)]
  have hbounds : Int64.minValue.toInt ≤ n.toInt ∧ n.toInt ≤ Int64.maxValue.toInt :=
    ⟨n.minValue_le_toInt, n.toInt_le⟩
  unfold integer?
  rw [hread, Option.filter_some, if_pos (decide_eq_true hbounds), Option.map_some,
    Int64.ofInt_toInt]

/-- Two digits are enough for the first two blocks. -/
theorem codePoint?_of_lt {c : Char} (h : c.toNat < 256) :
    codePoint? ['0', '0', Nat.digitChar (c.toNat / 16), Nat.digitChar (c.toNat % 16)] = some c := by
  have hdigit : ∀ digit < 16, digit? 16 (Nat.digitChar digit) = some digit := by decide
  have hvalue : digits? 16 ['0', '0', Nat.digitChar (c.toNat / 16),
      Nat.digitChar (c.toNat % 16)] = some c.toNat := by
    have hzero : digit? 16 '0' = some 0 := rfl
    simp only [digits?, List.mapM_cons, List.mapM_nil, hzero, hdigit (c.toNat / 16) (by omega),
      hdigit (c.toNat % 16) (by omega), Option.pure_def, Option.bind_eq_bind, Option.bind_some,
      Option.map_some, List.foldl_cons, List.foldl_nil, Option.some.injEq]
    omega
  have hvalid : c.toNat.isValidChar := c.valid
  unfold codePoint?
  rw [hvalue, Option.filter_some, if_pos (decide_eq_true hvalid), Option.map_some,
    Char.ofNat_toNat]

end OptionFile
end CrossFlags
