import CrossFlags.Text.Alphanumeric
import CrossFlags.Text.Spelling

/-!
# Patterns for field values

A directive may demand that a field's value matches a pattern. Values are only ever looked at
inside spans, and no stage of this program opens one, so nothing here matches anything: what
counts is which texts are patterns, because a filter with a text that is none cannot be read.

Patterns are regular expressions for a matcher without look-around, back-references and the
Unicode tables: classes such as `\w` and boundaries such as `\b` need the ASCII mode `(?-u)`, and
ignoring case does too as soon as a character has to be compared. In that mode nothing may match
half a character, which rules out the dot and every complement. Patterns stand between braces and
commas, so counted repetition cannot be written.

A pattern is read from left to right. `step` takes one character with what follows it and says
how much of that it used; what is open then — groups, and brackets inside brackets — is the state.
-/

set_option autoImplicit false

namespace CrossFlags.Log.Pattern

/-- What is in force where a part of a pattern stands. -/
structure Mode where
  ignoresCase : Bool := false
  unicode : Bool := true
  /-- Blanks mean nothing, and a hash begins a comment. -/
  spaced : Bool := false
  deriving DecidableEq

namespace Mode

/-- Characters cannot be compared: ignoring case beyond ASCII takes tables. -/
def lacksTables (mode : Mode) : Bool := mode.ignoresCase && mode.unicode

/-- A letter of a mode group switched on or off. -/
def set (mode : Mode) (letter : Char) (value : Bool) : Mode :=
  match letter with
  | 'i' => { mode with ignoresCase := value }
  | 'u' => { mode with unicode := value }
  | 'x' => { mode with spaced := value }
  | _ => mode

/-- The letters of mode groups. -/
def letters : List Char := ['i', 's', 'm', 'U', 'u', 'R', 'x']

/-- A mode under the letters of a group: each at most once, behind at most one dash, which may not
be the last. -/
def read? (mode : Mode) (value : Bool) (seen : List Char) : List Char → Option Mode
  | [] => some mode
  | '-' :: rest => if value && !rest.isEmpty then read? mode false seen rest else none
  | c :: rest =>
    if letters.contains c && !seen.contains c then
      read? (mode.set c value) value (c :: seen) rest
    else none

/-- How many characters in front mean nothing. -/
def gap (mode : Mode) (comment : Bool) : List Char → Nat
  | [] => 0
  | c :: rest =>
    if comment then gap mode (c != '\n') rest + 1
    else if mode.spaced && Text.isBlank c then gap mode false rest + 1
    else if mode.spaced && c == '#' then gap mode true rest + 1
    else 0

end Mode

/-! ## Escapes -/

/-- What a character or an escape stands for. -/
inductive Atom where
  /-- One character, by its code. -/
  | literal (code : Nat)
  /-- One octet that is no character. -/
  | octet
  /-- A set of characters. -/
  | set
  /-- A place between characters. -/
  | place
  deriving DecidableEq

/-- The value of a hexadecimal digit. -/
def hexDigit? (c : Char) : Option Nat :=
  if c.isDigit then some (c.toNat - '0'.toNat)
  else if 'a' ≤ c ∧ c ≤ 'f' then some (c.toNat - 'a'.toNat + 10)
  else if 'A' ≤ c ∧ c ≤ 'F' then some (c.toNat - 'A'.toNat + 10)
  else none

/-- The number that so many hexadecimal digits spell, and how many characters they take. -/
def hex? (mode : Mode) : (digits value used : Nat) → List Char → Option (Nat × Nat)
  | 0, value, used, _ => some (value, used)
  | digits + 1, value, used, rest =>
    let skipped := mode.gap false rest
    match rest.drop skipped with
    | [] => none
    | c :: more =>
      (hexDigit? c).bind fun d => hex? mode digits (value * 16 + d) (used + skipped + 1) more

/-- A character by its code. Two digits name an octet where octets are what is matched. -/
def coded? (mode : Mode) (digits : Nat) (rest : List Char) : Option (Atom × Nat) :=
  (hex? mode digits 0 0 rest).bind fun (code, used) =>
    if !code.isValidChar then none
    else if digits = 2 && !mode.unicode && 0x80 ≤ code then some (.octet, used)
    else some (.literal code, used)

/-- An escape by what follows its backslash, and how many characters that is. -/
def escape? (mode : Mode) : List Char → Option (Atom × Nat)
  | [] => none
  | c :: rest =>
    let one (atom : Atom) : Option (Atom × Nat) := some (atom, 1)
    let ascii (atom : Atom) : Option (Atom × Nat) := if mode.unicode then none else one atom
    match c with
    | 'x' => (coded? mode 2 rest).map fun (atom, used) => (atom, used + 1)
    | 'u' => (coded? mode 4 rest).map fun (atom, used) => (atom, used + 1)
    | 'U' => (coded? mode 8 rest).map fun (atom, used) => (atom, used + 1)
    | 'd' | 's' | 'w' => ascii .set
    | 'b' => if rest.head? = some '{' then none else ascii .place
    | 'B' | '<' | '>' => ascii .place
    | 'A' | 'z' => one .place
    | 'a' => one (.literal 0x07)
    | 'f' => one (.literal 0x0C)
    | 't' => one (.literal 0x09)
    | 'n' => one (.literal 0x0A)
    | 'r' => one (.literal 0x0D)
    | 'v' => one (.literal 0x0B)
    -- Signs stand for themselves; other letters and digits are kept for later.
    | c => if c.toNat < 0x80 && !c.isAlphanum then one (.literal c.toNat) else none

/-- A character as it stands, or the escape that it begins. -/
def atom? (mode : Mode) (c : Char) (rest : List Char) : Option (Atom × Nat) :=
  if c = '\\' then escape? mode rest else some (.literal c.toNat, 0)

/-! ## States -/

/-- What is open, and what has been read right before. -/
structure State where
  mode : Mode := {}
  /-- The modes to go back to where groups end, innermost first. -/
  groups : List Mode := []
  /-- How many brackets are open. -/
  brackets : Nat := 0
  /-- Something stands right before that can be repeated. -/
  repeatable : Bool := false
  /-- The names of groups so far. -/
  names : List String := []
  deriving DecidableEq

/-- The next state, and how many further characters it took to get there. -/
abbrev Step := Option (State × Nat)

namespace State

/-- Something that can be repeated has been read. -/
def operand (state : State) : State := { state with repeatable := true }

/-- A group begins. -/
def enter (state : State) (mode : Mode) : State :=
  { state with groups := state.mode :: state.groups, mode, repeatable := false }

/-! ## Groups -/

/-- May stand in the name of a group. -/
def isNameChar (c : Char) : Bool :=
  c == '_' || c == '.' || c == '[' || c == ']' || Text.isAlphanumeric c

/-- A named group, from its name on. -/
def namedGroup (state : State) (used : Nat) (rest : List Char) : Step :=
  let name := rest.takeWhile (· != '>')
  let text := String.ofList name
  if name.head?.any (fun c => c == '_' || Text.isAlphabetic c) && name.all isNameChar &&
      name.length < rest.length && !state.names.contains text then
    some ({ state.enter state.mode with names := text :: state.names }, used + name.length + 1)
  else none

/-- A group of mode letters: for what it holds, or for what follows it. -/
def modeGroup (state : State) (used : Nat) (rest : List Char) : Step :=
  let letters := rest.takeWhile fun c => c != ':' && c != ')'
  (state.mode.read? true [] letters).bind fun mode =>
    match rest.drop letters.length with
    | ':' :: _ => some (state.enter mode, used + letters.length + 1)
    | ')' :: _ =>
      if letters.isEmpty then none
      else some ({ state with mode, repeatable := false }, used + letters.length + 1)
    | _ => none

/-- A group, by what follows its parenthesis. -/
def openGroup (state : State) (rest : List Char) : Step :=
  let skipped := state.mode.gap false rest
  match rest.drop skipped with
  | '?' :: 'P' :: '<' :: more => state.namedGroup (skipped + 3) more
  | '?' :: '<' :: more => state.namedGroup (skipped + 2) more
  | '?' :: more => state.modeGroup (skipped + 1) more
  | _ => some (state.enter state.mode, skipped)

/-- The innermost group ends. -/
def closeGroup (state : State) : Step :=
  match state.groups with
  | [] => none
  | mode :: groups => some ({ state with mode, groups, repeatable := true }, 0)

/-! ## Brackets -/

/-- The names of character classes. -/
def classNames : List String :=
  ["alnum", "alpha", "ascii", "blank", "cntrl", "digit", "graph", "lower", "print", "punct",
   "space", "upper", "word", "xdigit"]

/-- A named class, by what follows its bracket: whether it is a complement, and how many
characters it takes. -/
def namedClass? : List Char → Option (Bool × Nat)
  | ':' :: rest =>
    let negated := rest.head? = some '^'
    let rest := if negated then rest.drop 1 else rest
    let name := rest.takeWhile (· != ':')
    if classNames.contains (String.ofList name) && (rest.drop name.length).take 2 = [':', ']'] then
      some (negated, name.length + if negated then 4 else 3)
    else none
  | _ => none

/-- How many dashes in front stand for themselves, with what means nothing behind each. -/
def dashes (mode : Mode) : Nat → List Char → Nat
  | 0, _ => 0
  | fuel + 1, rest =>
    match rest with
    | '-' :: more =>
      let skipped := mode.gap false more
      skipped + 1 + dashes mode fuel (more.drop skipped)
    | _ => 0

/-- A bracket, by what follows it. A complement sign, dashes and a closing bracket at its
beginning have to be told from the same signs elsewhere. -/
def openBracket (state : State) (rest : List Char) : Step :=
  let mode := state.mode
  let skipped := mode.gap false rest
  let negated := (rest.drop skipped).head? = some '^'
  let inner := if negated then skipped + 1 + mode.gap false (rest.drop (skipped + 1)) else skipped
  let dashed := inner + dashes mode rest.length (rest.drop inner)
  let used := if dashed = inner && (rest.drop inner).head? = some ']' then inner + 1 else dashed
  if mode.lacksTables || (negated && !mode.unicode) then none
  else some ({ state with brackets := state.brackets + 1 }, used)

/-- The innermost bracket ends. -/
def closeBracket (state : State) : State :=
  { state with brackets := state.brackets - 1, repeatable := true }

/-- May stand in a bracket. -/
def allowed (mode : Mode) : Atom → Bool
  | .literal code => mode.unicode || code < 0x80
  | .set => true
  | .octet | .place => false

/-- A member of a bracket, or a range of members. A dash before another dash or before the end of
the bracket makes no range. -/
def member (state : State) (c : Char) (rest : List Char) : Step :=
  let mode := state.mode
  (atom? mode c rest).bind fun (low, used) =>
    if !allowed mode low then none
    else
      let used := used + mode.gap false (rest.drop used)
      match rest.drop used with
      | '-' :: more =>
        let skipped := mode.gap false more
        match more.drop skipped with
        | [] => none
        | ']' :: _ | '-' :: _ => some (state, used)
        | d :: after =>
          (atom? mode d after).bind fun (high, usedAfter) =>
            match low, high with
            | .literal a, .literal b =>
              if a ≤ b && allowed mode high then some (state, used + 1 + skipped + 1 + usedAfter)
              else none
            | _, _ => none
      | _ => some (state, used)

/-! ## Reading -/

/-- One character inside a bracket, with what follows it. -/
def stepInside (state : State) (c : Char) (rest : List Char) : Step :=
  if c = '[' then
    match namedClass? rest with
    | some (negated, used) => if negated && !state.mode.unicode then none else some (state, used)
    | none => state.openBracket rest
  else if c = ']' then some (state.closeBracket, 0)
  else if ['&', '-', '~'].contains c && rest.head? = some c then some (state, 1)
  else state.member c rest

/-- One character outside of brackets, with what follows it. -/
def stepOutside (state : State) (c : Char) (rest : List Char) : Step :=
  match c with
  | '(' => state.openGroup rest
  | ')' => state.closeGroup
  | '[' => state.openBracket rest
  | '|' => some ({ state with repeatable := false }, 0)
  | '?' | '*' | '+' => if state.repeatable then some (state, 0) else none
  | '\x7b' => none
  | '.' => if state.mode.unicode then some (state.operand, 0) else none
  | '^' | '$' => some (state.operand, 0)
  | c =>
    match atom? state.mode c rest with
    | some (.literal _, used) =>
      if state.mode.lacksTables then none else some (state.operand, used)
    | some (.octet, _) | none => none
    | some (_, used) => some (state.operand, used)

/-- One character, with what follows it. -/
def step (state : State) (c : Char) (rest : List Char) : Step :=
  let skipped := state.mode.gap false (c :: rest)
  if skipped ≠ 0 then some (state, skipped - 1)
  else if state.brackets ≠ 0 then state.stepInside c rest
  else state.stepOutside c rest

/-- The state behind a text. -/
def run (state : State) (cs : List Char) : Option State :=
  match cs with
  | [] => some state
  | c :: rest =>
    match state.step c rest with
    | none => none
    | some (next, used) => next.run (rest.drop used)
termination_by cs.length
decreasing_by simp only [List.length_drop, List.length_cons]; omega

end State

/-- The text is a regular expression. -/
def isExpression (cs : List Char) : Bool :=
  match State.run {} cs with
  | some state => state.groups.isEmpty && state.brackets == 0
  | none => false

/-! ## Numbers -/

/-- The text is an exponent, or nothing. -/
def isExponent : List Char → Bool
  | [] => true
  | e :: rest =>
    let digits := match rest with
      | '+' :: digits | '-' :: digits => digits
      | digits => digits
    (e == 'e' || e == 'E') && !digits.isEmpty && digits.all Char.isDigit

/-- The text is a decimal number without a sign. -/
def isDecimal (cs : List Char) : Bool :=
  let (whole, rest) := cs.span Char.isDigit
  match rest with
  | '.' :: rest =>
    let (fraction, rest) := rest.span Char.isDigit
    !(whole.isEmpty && fraction.isEmpty) && isExponent rest
  | rest => !whole.isEmpty && isExponent rest

/-- The text is a number, and then it is compared as one. -/
def isNumber (cs : List Char) : Bool :=
  let unsigned := match cs with
    | '+' :: rest | '-' :: rest => rest
    | cs => cs
  ["inf", "infinity", "nan"].contains (Text.lower (String.ofList unsigned)) || isDecimal unsigned

end Pattern

/-- The text may stand for a field's value: a number or a regular expression. -/
def isPattern (text : String) : Bool :=
  Pattern.isNumber text.toList || Pattern.isExpression text.toList

end CrossFlags.Log
