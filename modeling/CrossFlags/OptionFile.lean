import CrossFlags.Bag
import CrossFlags.OptionFile.Quoted

/-!
# Option files

A file of supplied values is a flat sequence of lines `name = value` in the notation of TOML:
truth values, 64-bit integers and strings, comments behind `#`, no tables, no lists, no other
kind of value. A name is a bare word or a string on one line. Anything else anywhere in a file
spoils all of it, and so does a name that occurs twice.

A file is read line by line, where a line is what ends at a line break outside of strings.
-/

set_option autoImplicit false

namespace CrossFlags.OptionFile

/-! ## Inside a line -/

/-- May stand in a name without quotes. -/
def isBare (c : Char) : Bool := c.isAlphanum || c == '_' || c == '-'

/-- May stand in a value without quotes: all but blanks, line breaks and the start of a
comment. -/
def isWordChar (c : Char) : Bool := !isInline c && c != '\n' && c != '\r' && c != '#'

/-- What stands behind a line without anything but blanks and a comment. -/
def afterEmpty? (cs : List Char) : Option (List Char) :=
  let rest := match cs.dropWhile isInline with
    | '#' :: comment => comment.dropWhile isPrintable
    | rest => rest
  if rest.isEmpty then some [] else afterBreak? rest

/-- A name. -/
def readName? (cs : List Char) : Option (List Char × List Char) :=
  match cs with
  | '"' :: rest => readBasic rest
  | '\x27' :: rest => readLiteral rest
  | _ =>
    if (cs.takeWhile isBare).isEmpty then none
    else some (cs.takeWhile isBare, cs.dropWhile isBare)

/-- The value that a word without quotes stands for. -/
def wordValue? (cs : List Char) : Option RawValue :=
  if cs = "true".toList then some (.bool true)
  else if cs = "false".toList then some (.bool false)
  else (integer? cs).map .integer

/-- A value. -/
def readValue? (cs : List Char) : Option (RawValue × List Char) :=
  match cs.head? with
  | some '"' | some '\x27' =>
    (readQuoted? cs).map fun (text, rest) => (.text (String.ofList text), rest)
  | _ => (wordValue? (cs.takeWhile isWordChar)).map fun value => (value, cs.dropWhile isWordChar)

/-- A name, the sign between name and value, and a value. -/
def readOption? (cs : List Char) : Option ((String × RawValue) × List Char) := do
  let (name, rest) ← readName? cs
  match rest.dropWhile isInline with
  | '=' :: rest =>
    let (value, rest) ← readValue? (rest.dropWhile isInline)
    return ((String.ofList name, value), rest)
  | _ => none

/-! ## Line by line -/

/-- One line: the entry that stands on it, if any, and what stands behind it. -/
def readLine? (cs : List Char) : Option (Option (String × RawValue) × List Char) :=
  match afterEmpty? cs with
  | some rest => some (none, rest)
  | none => do
    let (entry, rest) ← readOption? (cs.dropWhile isInline)
    let rest ← afterEmpty? rest
    return (some entry, rest)

/-- What stands behind an empty line is shorter than what begins with it, unless that is the end
of the text. -/
theorem length_lt_of_afterEmpty? {cs rest : List Char} (hcs : cs ≠ [])
    (h : afterEmpty? cs = some rest) : rest.length < cs.length := by
  have hpos : 0 < cs.length := List.length_pos_iff.mpr hcs
  have hle : ∀ tail : List Char, tail <:+ cs →
      (if tail.isEmpty then some [] else afterBreak? tail) = some rest →
        rest.length < cs.length := by
    intro tail htail h
    split at h
    · obtain rfl := Option.some.inj h
      exact hpos
    · exact Nat.lt_of_lt_of_le (length_lt_of_afterBreak? h) htail.length_le
  have hblank := List.dropWhile_suffix (l := cs) isInline
  simp only [afterEmpty?] at h
  split at h
  · rename_i comment heq
    exact hle _ (((List.dropWhile_suffix _).trans (List.suffix_cons '#' comment)).trans
      (heq ▸ hblank)) h
  · exact hle _ hblank h

theorem length_le_of_afterEmpty? {cs rest : List Char} (h : afterEmpty? cs = some rest) :
    rest.length ≤ cs.length := by
  by_cases hcs : cs = []
  · subst hcs
    simp [afterEmpty?] at h
    simp [← h]
  · exact Nat.le_of_lt (length_lt_of_afterEmpty? hcs h)

theorem length_lt_of_readName? {cs name rest : List Char}
    (h : readName? cs = some (name, rest)) : rest.length < cs.length := by
  unfold readName? at h
  split at h
  · have := (suffix_of_readBasic h).length_le
    simp only [List.length_cons]; omega
  · have := (suffix_of_readLiteral h).length_le
    simp only [List.length_cons]; omega
  · split at h
    · simp at h
    · rename_i hne
      simp only [Option.some.injEq, Prod.mk.injEq] at h
      have hsum := congrArg List.length (List.takeWhile_append_dropWhile (p := isBare) (l := cs))
      have hpos : 0 < (cs.takeWhile isBare).length :=
        List.length_pos_iff.mpr (by simpa using hne)
      rw [List.length_append] at hsum
      rw [← h.2]; omega

theorem length_le_of_readValue? {cs rest : List Char} {value : RawValue}
    (h : readValue? cs = some (value, rest)) : rest.length ≤ cs.length := by
  unfold readValue? at h
  split at h
  case h_3 =>
    obtain ⟨_, _, h⟩ := Option.map_eq_some_iff.mp h
    simp only [Prod.mk.injEq] at h
    rw [← h.2]
    exact (List.dropWhile_suffix _).length_le
  all_goals
    obtain ⟨⟨text, tail⟩, hread, h⟩ := Option.map_eq_some_iff.mp h
    simp only [Prod.mk.injEq] at h
    rw [← h.2]
    exact Nat.le_of_lt (length_lt_of_readQuoted? hread)

theorem length_lt_of_readOption? {cs rest : List Char} {entry : String × RawValue}
    (h : readOption? cs = some (entry, rest)) : rest.length < cs.length := by
  simp only [readOption?, Option.bind_eq_bind, Option.bind_eq_some_iff] at h
  obtain ⟨⟨name, behind⟩, hname, h⟩ := h
  split at h
  · rename_i tail heq
    obtain ⟨⟨value, final⟩, hvalue, h⟩ := Option.bind_eq_some_iff.mp h
    simp only [Option.pure_def, Option.some.injEq, Prod.mk.injEq] at h
    have h1 := length_lt_of_readName? hname
    have h2 : ('=' :: tail).length ≤ behind.length :=
      (heq ▸ List.dropWhile_suffix (l := behind) isInline).length_le
    have h3 := (List.dropWhile_suffix (l := tail) isInline).length_le
    have h4 := length_le_of_readValue? hvalue
    simp only [List.length_cons] at h2
    rw [← h.2]; omega
  · simp at h

/-- A line is at least one character long. -/
theorem length_lt_of_readLine? {cs rest : List Char} {supplied? : Option (String × RawValue)}
    (hcs : cs ≠ []) (h : readLine? cs = some (supplied?, rest)) : rest.length < cs.length := by
  unfold readLine? at h
  split at h
  · rename_i hempty
    simp only [Option.some.injEq, Prod.mk.injEq] at h
    exact h.2 ▸ length_lt_of_afterEmpty? hcs hempty
  · simp only [Option.bind_eq_bind, Option.bind_eq_some_iff] at h
    obtain ⟨⟨entry, behind⟩, hentry, tail, hend, h⟩ := h
    simp only [Option.pure_def, Option.some.injEq, Prod.mk.injEq] at h
    have h1 := (List.dropWhile_suffix (l := cs) isInline).length_le
    have h2 := length_lt_of_readOption? hentry
    have h3 : tail.length ≤ behind.length := length_le_of_afterEmpty? hend
    rw [← h.2]; omega

/-- The entries of a text, in order. -/
def readLines? (cs : List Char) : Option Entries :=
  if _ : cs = [] then some []
  else match _ : readLine? cs with
    | none => none
    | some (supplied?, rest) => (readLines? rest).map (supplied?.toList ++ ·)
termination_by cs.length
decreasing_by exact length_lt_of_readLine? ‹_› ‹_›

/-- Without the mark that some editors put in front of a file. -/
def dropMark (cs : List Char) : List Char :=
  match cs with
  | '\uFEFF' :: rest => rest
  | _ => cs

/-- The options that a file supplies, unless it is malformed. -/
def read? (file : String) : Option Bag := do
  let entries ← readLines? (dropMark file.toList)
  if nodup : entries.names.Nodup then some ⟨entries, nodup⟩ else none

end CrossFlags.OptionFile
