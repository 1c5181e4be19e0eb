import CrossFlags.Text.Pieces

/-!
# Numbers in option files

Integers are decimal with an optional sign, or hexadecimal, octal or binary behind `0x`, `0o` and
`0b`. Digits may be grouped by single underscores; an underscore always stands between two digits.
Whatever lies outside 64 bits is no integer of a file.
-/

set_option autoImplicit false

namespace CrossFlags.OptionFile

/-- The value of a digit in a base of at most sixteen; letters count in either case. -/
def digit? (base : Nat) (c : Char) : Option Nat :=
  let value? : Option Nat :=
    if c.isDigit then some (c.toNat - '0'.toNat)
    else if 'a' ≤ c ∧ c ≤ 'f' then some (c.toNat - 'a'.toNat + 10)
    else if 'A' ≤ c ∧ c ≤ 'F' then some (c.toNat - 'A'.toNat + 10)
    else none
  value?.filter (· < base)

/-- The value of digits, the first being the most significant. -/
def digits? (base : Nat) (cs : List Char) : Option Nat :=
  (cs.mapM (digit? base)).map (List.foldl (fun value digit => value * base + digit) 0)

/-- The value of digits in groups: every group has a digit, and underscores are between groups. -/
def grouped? (base : Nat) (cs : List Char) : Option Nat :=
  let groups := Text.pieces (· == '_') cs
  if groups.any List.isEmpty then none else digits? base groups.flatten

/-- The value of an unsigned decimal: a zero stands in front of no other digit. -/
def decimal? : List Char → Option Nat
  | ['0'] => some 0
  | '0' :: _ => none
  | cs => grouped? 10 cs

/-- The value of an integer of any size. -/
def unbounded? : List Char → Option Int
  | '0' :: 'x' :: cs => (grouped? 16 cs).map Int.ofNat
  | '0' :: 'o' :: cs => (grouped? 8 cs).map Int.ofNat
  | '0' :: 'b' :: cs => (grouped? 2 cs).map Int.ofNat
  | '+' :: cs => (decimal? cs).map Int.ofNat
  | '-' :: cs => (decimal? cs).map fun n => -Int.ofNat n
  | cs => (decimal? cs).map Int.ofNat

/-- The 64-bit integer that a word spells. -/
def integer? (cs : List Char) : Option Int64 :=
  ((unbounded? cs).filter fun n => Int64.minValue.toInt ≤ n ∧ n ≤ Int64.maxValue.toInt).map
    Int64.ofInt

/-- The character with a hexadecimal code point. Surrogates are no characters. -/
def codePoint? (cs : List Char) : Option Char :=
  ((digits? 16 cs).filter fun n => n.isValidChar).map Char.ofNat

example : integer? "-1_000".toList = some (-1000) := by decide
example : integer? "0xFf".toList = some 255 := by decide
example : integer? "007".toList = none := by decide
example : integer? "1__0".toList = none := by decide
example : integer? "9223372036854775808".toList = none := by decide

end CrossFlags.OptionFile
