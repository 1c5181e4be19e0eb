import CrossFlags.OptionFile.Number

/-!
# Strings in option files

Four forms. Double quotes allow escapes, single quotes take everything literally; three of either
open a form that may run over several lines. Each reader starts behind the opening quotes and
gives the text with what stands behind the closing ones.

Inside the long forms a line break is one newline however the file writes it, the one right behind
the opening quotes does not count, and up to two quotes in a row are text. So are up to two more
in front of the closing three: the quotes that close are the last three of a run of at most five.
-/

set_option autoImplicit false

namespace CrossFlags.OptionFile

/-- The double quote. -/
def doubleQuote : Char := '"'

/-- The single quote. -/
def singleQuote : Char := '\x27'

/-- A blank inside a line. -/
def isInline (c : Char) : Bool := c == ' ' || c == '\t'

/-- May stand in comments and strings as it is: the tab, and everything that is no control
character of ASCII. -/
def isPrintable (c : Char) : Bool := c == '\t' || (0x20 ≤ c.toNat && c.toNat != 0x7F)

/-- What stands behind a line break, if the text begins with one. -/
def afterBreak? : List Char → Option (List Char)
  | '\n' :: rest => some rest
  | '\r' :: '\n' :: rest => some rest
  | _ => none

/-- The character that a letter behind a backslash stands for. -/
def shortEscape? : Char → Option Char
  | 'b' => some '\x08'
  | 't' => some '\t'
  | 'n' => some '\n'
  | 'f' => some '\x0c'
  | 'r' => some '\r'
  | '"' => some '"'
  | '\\' => some '\\'
  | _ => none

/-- A character in front of a text that has been read. -/
def push (c? : Option Char) (read? : Option (List Char × List Char)) :
    Option (List Char × List Char) := do
  let c ← c?
  let (text, rest) ← read?
  return (c :: text, rest)

/-- The character itself, where `allowed` holds. -/
def allow (allowed : Char → Bool) (c : Char) : Option Char := if allowed c then some c else none

/-- A text in double quotes, on one line. -/
def readBasic : List Char → Option (List Char × List Char)
  | [] => none
  | '"' :: rest => some ([], rest)
  | '\\' :: 'u' :: a :: b :: c :: d :: rest => push (codePoint? [a, b, c, d]) (readBasic rest)
  | '\\' :: 'U' :: a :: b :: c :: d :: e :: f :: g :: h :: rest =>
    push (codePoint? [a, b, c, d, e, f, g, h]) (readBasic rest)
  | '\\' :: c :: rest => push (shortEscape? c) (readBasic rest)
  | c :: rest => push (allow isPrintable c) (readBasic rest)

/-- A text in single quotes, on one line. -/
def readLiteral : List Char → Option (List Char × List Char)
  | [] => none
  | c :: rest =>
    if c = singleQuote then some ([], rest) else push (allow isPrintable c) (readLiteral rest)

/-- The end of a long form, behind its first three closing quotes: up to two further quotes are
text. -/
def closeLong (quote : Char) (rest : List Char) : List Char × List Char :=
  let extra := (rest.take 2).takeWhile (· == quote)
  (extra, rest.drop extra.length)

/-- A text in three double quotes. A backslash at the end of a line takes the break with it and
every blank and break behind it; `skipping` says that such a run is under way. -/
def readLongBasic (skipping : Bool) : List Char → Option (List Char × List Char)
  | [] => none
  | '"' :: '"' :: '"' :: rest => some (closeLong '"' rest)
  | '\\' :: 'u' :: a :: b :: c :: d :: rest =>
    push (codePoint? [a, b, c, d]) (readLongBasic false rest)
  | '\\' :: 'U' :: a :: b :: c :: d :: e :: f :: g :: h :: rest =>
    push (codePoint? [a, b, c, d, e, f, g, h]) (readLongBasic false rest)
  | '\\' :: c :: rest =>
    -- Only blanks may stand between the backslash and the break that it takes away.
    match afterBreak? ((c :: rest).dropWhile isInline) with
    | some _ => readLongBasic true (c :: rest)
    | none => push (shortEscape? c) (readLongBasic false rest)
  | '\r' :: '\n' :: rest =>
    if skipping then readLongBasic true rest else push (some '\n') (readLongBasic false rest)
  | '\n' :: rest =>
    if skipping then readLongBasic true rest else push (some '\n') (readLongBasic false rest)
  | c :: rest =>
    if skipping && isInline c then readLongBasic true rest
    else push (allow isPrintable c) (readLongBasic false rest)

/-- A text in three single quotes. -/
def readLongLiteral : List Char → Option (List Char × List Char)
  | [] => none
  | '\x27' :: '\x27' :: '\x27' :: rest => some (closeLong singleQuote rest)
  | '\r' :: '\n' :: rest => push (some '\n') (readLongLiteral rest)
  | '\n' :: rest => push (some '\n') (readLongLiteral rest)
  | c :: rest => push (allow isPrintable c) (readLongLiteral rest)

/-- What stands behind the line break that a long form may begin with. -/
def dropBreak (cs : List Char) : List Char := (afterBreak? cs).getD cs

/-- A text in quotes of any form, from its opening quotes on. -/
def readQuoted? : List Char → Option (List Char × List Char)
  | '"' :: '"' :: '"' :: rest => readLongBasic false (dropBreak rest)
  | '"' :: rest => readBasic rest
  | '\x27' :: '\x27' :: '\x27' :: rest => readLongLiteral (dropBreak rest)
  | '\x27' :: rest => readLiteral rest
  | _ => none

/-! ## Reading goes forward -/

theorem eq_of_push_eq_some {c? : Option Char} {read? : Option (List Char × List Char)}
    {text rest : List Char} (h : push c? read? = some (text, rest)) :
    ∃ tail, read? = some (tail, rest) := by
  cases hc : c? with
  | none => simp [push, hc] at h
  | some c =>
    cases hr : read? with
    | none => simp [push, hc, hr] at h
    | some r => simp [push, hc, hr] at h; exact ⟨r.1, by simp [← h.2]⟩

theorem suffix_of_readBasic {cs text rest : List Char} (h : readBasic cs = some (text, rest)) :
    rest <:+ cs := by
  fun_induction readBasic cs generalizing text with
  | case1 => simp at h
  | case2 => simp at h; simp [← h.2]
  | _ =>
    rename_i ih
    obtain ⟨tail, ht⟩ := eq_of_push_eq_some h
    exact (ih ht).trans (by simp [List.suffix_cons_iff])

theorem suffix_of_readLiteral {cs text rest : List Char}
    (h : readLiteral cs = some (text, rest)) : rest <:+ cs := by
  fun_induction readLiteral cs generalizing text with
  | case1 => simp at h
  | case2 => simp at h; simp [← h.2]
  | case3 _ _ _ ih =>
    obtain ⟨tail, ht⟩ := eq_of_push_eq_some h
    exact (ih ht).trans (List.suffix_cons _ _)

theorem suffix_closeLong (quote : Char) (cs : List Char) : (closeLong quote cs).2 <:+ cs :=
  List.drop_suffix _ _

theorem suffix_of_readLongBasic {skipping : Bool} {cs text rest : List Char}
    (h : readLongBasic skipping cs = some (text, rest)) : rest <:+ cs := by
  fun_induction readLongBasic skipping cs generalizing text with
  | case1 => simp at h
  | case2 skipping rest' =>
    have := suffix_closeLong '"' rest'
    simp only [Option.some.injEq] at h
    rw [h] at this
    exact this.trans (by simp [List.suffix_cons_iff])
  | case5 | case7 | case9 | case11 =>
    rename_i ih
    exact (ih h).trans (by simp [List.suffix_cons_iff])
  | _ =>
    rename_i ih
    obtain ⟨tail, ht⟩ := eq_of_push_eq_some h
    exact (ih ht).trans (by simp [List.suffix_cons_iff])

theorem suffix_of_readLongLiteral {cs text rest : List Char}
    (h : readLongLiteral cs = some (text, rest)) : rest <:+ cs := by
  fun_induction readLongLiteral cs generalizing text with
  | case1 => simp at h
  | case2 rest' =>
    have := suffix_closeLong singleQuote rest'
    simp only [Option.some.injEq] at h
    rw [h] at this
    exact this.trans (by simp [List.suffix_cons_iff])
  | _ =>
    rename_i ih
    obtain ⟨tail, ht⟩ := eq_of_push_eq_some h
    exact (ih ht).trans (by simp [List.suffix_cons_iff])

theorem suffix_of_afterBreak? {cs rest : List Char} (h : afterBreak? cs = some rest) :
    rest <:+ cs := by
  unfold afterBreak? at h
  split at h <;> simp at h <;> subst h <;> simp [List.suffix_cons_iff]

theorem length_lt_of_afterBreak? {cs rest : List Char} (h : afterBreak? cs = some rest) :
    rest.length < cs.length := by
  unfold afterBreak? at h
  split at h <;> simp at h <;> subst h <;> simp only [List.length_cons] <;> omega

theorem suffix_dropBreak (cs : List Char) : dropBreak cs <:+ cs := by
  cases h : afterBreak? cs with
  | none => simp [dropBreak, h]
  | some rest => simpa [dropBreak, h] using suffix_of_afterBreak? h

/-- A quoted text takes at least its opening quote with it. -/
theorem length_lt_of_readQuoted? {cs text rest : List Char}
    (h : readQuoted? cs = some (text, rest)) : rest.length < cs.length := by
  unfold readQuoted? at h
  split at h
  · have := ((suffix_of_readLongBasic h).trans (suffix_dropBreak _)).length_le
    simp only [List.length_cons]; omega
  · have := (suffix_of_readBasic h).length_le
    simp only [List.length_cons]; omega
  · have := ((suffix_of_readLongLiteral h).trans (suffix_dropBreak _)).length_le
    simp only [List.length_cons]; omega
  · have := (suffix_of_readLiteral h).length_le
    simp only [List.length_cons]; omega
  · simp at h

end CrossFlags.OptionFile
