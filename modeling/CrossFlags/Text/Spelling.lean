import CrossFlags.Text.Pieces

/-!
# Spelling

The same value is spelled in more than one way, by people and by other programs. What the library
knows about that stands here: which characters are blank, which letters fold, and how an integer is
written.

Supplied values are trimmed and a flag tool's output is cut into words. Both go by Unicode's
`White_Space` property, which is wider than the ASCII blanks that `Char.isWhitespace` knows, so
the property's table stands here once and nothing else in the library decides what is blank.

Option values that are words of the program (`yes`, `release`, `auto`, …) may be written in any
letter case. Only the twenty-six ASCII letters fold: a dotless `ı` or a Kelvin sign stays what it
is, so no look-alike of a keyword is one.

Integers have 64 bits and are written in plain decimal: a minus sign where needed, no plus sign, no
leading zero.
-/

set_option autoImplicit false

namespace CrossFlags.Text

/-! ## Blanks -/

/-- The code point ranges of Unicode's `White_Space` property, both ends included. -/
def blankRanges : List (Nat × Nat) :=
  [(0x09, 0x0D), (0x20, 0x20), (0x85, 0x85), (0xA0, 0xA0), (0x1680, 0x1680), (0x2000, 0x200A),
   (0x2028, 0x2029), (0x202F, 0x202F), (0x205F, 0x205F), (0x3000, 0x3000)]

/-- Has the property `White_Space`. -/
def isBlank (c : Char) : Bool :=
  blankRanges.any fun range => range.1 ≤ c.toNat && c.toNat ≤ range.2

/-- Drops the elements at the end that satisfy `p`. -/
def dropEndWhile {α : Type} (p : α → Bool) (as : List α) : List α :=
  (as.reverse.dropWhile p).reverse

/-- Without the blanks at both ends; inner blanks stay. -/
def trimmed (cs : List Char) : List Char := dropEndWhile isBlank (cs.dropWhile isBlank)

/-- `trimmed`, on strings. -/
def trim (s : String) : String := String.ofList (trimmed s.toList)

/-- The nonempty runs between blanks. -/
def words (s : String) : List String :=
  ((pieces isBlank s.toList).filter fun run => !run.isEmpty).map String.ofList

example : trim " \u3000 auto\t" = "auto" := by decide
example : words " -lm\u00a0 -O2\n" = ["-lm", "-O2"] := by decide

/-! ## Keywords -/

/-- ASCII letters in lower case, every other character as it is. -/
def lower (s : String) : String := String.ofList (s.toList.map Char.toLower)

/-- ASCII letters in upper case, every other character as it is. -/
def upper (s : String) : String := String.ofList (s.toList.map Char.toUpper)

/-- The same word but for the case of ASCII letters. -/
def sameKeyword (s t : String) : Bool := lower s == lower t

theorem sameKeyword_iff {s t : String} : sameKeyword s t = true ↔ lower s = lower t := by
  simp [sameKeyword]

example : sameKeyword "AUTO" "auto" = true := by decide
example : lower "\u212Aey" = "\u212Aey" := by decide

/-! ## Integers -/

/-- The decimal digits of a natural number, most significant first. -/
def naturalText (n : Nat) : String := String.ofList (Nat.toDigits 10 n)

/-- The decimal text of a 64-bit integer. -/
def integerText (n : Int64) : String :=
  if n.toInt < 0 then "-" ++ naturalText n.toInt.natAbs else naturalText n.toInt.natAbs

example : integerText (-9223372036854775808) = "-9223372036854775808" := by decide
example : integerText 0 = "0" := by decide

end CrossFlags.Text
