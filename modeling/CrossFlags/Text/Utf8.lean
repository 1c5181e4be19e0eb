/-!
# Octets and their text

Environment variables, file contents and the output of other programs are octet sequences; names
and values inside the library are text. There are two ways across:

* `Utf8.decode?` — strict: the whole sequence is UTF-8 or there is no text;
* `Utf8.decodeLossy` — every octet run that begins no character becomes one replacement
  character, where a run is as long as some character could still have been read.

Both are read off one scan, `Utf8.scan`, which remembers between octets how many more the current
character needs and in which range the next one must lie. The range of the *second* octet depends
on the first; that is what keeps surrogates, values past the last code point and overlong forms
out, and it is also what decides how far a broken run reaches.
-/

set_option autoImplicit false

namespace CrossFlags

/-- A sequence of octets. -/
abbrev Octets := List UInt8

namespace Utf8

/-- A character that has begun: the bits read so far, how many octets are still needed (at least
one), and the range of the next one. -/
structure Pending where
  bits : Nat
  needed : Nat
  low : UInt8
  high : UInt8
  deriving DecidableEq

/-- The scan's output and its state after an octet that stands at the start of a character. A
`none` in the output stands for octets that are no character. -/
def start (b : UInt8) : List (Option Char) × Option Pending :=
  let n := b.toNat
  if n < 0x80 then ([some (Char.ofNat n)], none)
  else if n < 0xC2 then ([none], none)
  else if n < 0xE0 then ([], some ⟨n - 0xC0, 1, 0x80, 0xBF⟩)
  else if n = 0xE0 then ([], some ⟨0, 2, 0xA0, 0xBF⟩)
  else if n = 0xED then ([], some ⟨0xD, 2, 0x80, 0x9F⟩)
  else if n < 0xF0 then ([], some ⟨n - 0xE0, 2, 0x80, 0xBF⟩)
  else if n = 0xF0 then ([], some ⟨0, 3, 0x90, 0xBF⟩)
  else if n < 0xF4 then ([], some ⟨n - 0xF0, 3, 0x80, 0xBF⟩)
  else if n = 0xF4 then ([], some ⟨4, 3, 0x80, 0x8F⟩)
  else ([none], none)

/-- Characters in order, with a `none` for every maximal run that is no character. A run that
breaks off leaves the octet that broke it to be read afresh. -/
def scan : Option Pending → Octets → List (Option Char)
  | none, [] => []
  | some _, [] => [none]
  | none, b :: rest => (start b).1 ++ scan (start b).2 rest
  | some p, b :: rest =>
    if p.low ≤ b ∧ b ≤ p.high then
      let bits := p.bits * 64 + (b.toNat - 0x80)
      if p.needed ≤ 1 then some (Char.ofNat bits) :: scan none rest
      else scan (some ⟨bits, p.needed - 1, 0x80, 0xBF⟩) rest
    else none :: (start b).1 ++ scan (start b).2 rest

/-- The text that the octets spell, if they are UTF-8 throughout. -/
def decode? (octets : Octets) : Option String :=
  ((scan none octets).mapM id).map String.ofList

/-- The text that the octets spell, with U+FFFD for every run that spells none. -/
def decodeLossy (octets : Octets) : String :=
  String.ofList ((scan none octets).map fun c => c.getD '\uFFFD')

/-- The octets of a text. -/
def encode (s : String) : Octets := s.toList.flatMap String.utf8EncodeChar

theorem mapM_id_map_some {α : Type} (as : List α) : (as.map some).mapM id = some as := by
  rw [List.mapM_map]
  exact List.mapM_pure.trans (congrArg some (List.map_id as))

theorem mapM_id_eq_some_iff {α : Type} {as : List (Option α)} {bs : List α} :
    as.mapM id = some bs ↔ as = bs.map some := by
  constructor
  · intro h
    induction as generalizing bs with
    | nil =>
      cases h
      rfl
    | cons a rest ih =>
      cases a with
      | none => simp at h
      | some b =>
        rw [List.mapM_cons] at h
        cases hothers : rest.mapM id with
        | none => simp [hothers] at h
        | some others =>
          obtain rfl : b :: others = bs := by simpa [hothers] using h
          rw [List.map_cons, ← ih hothers]
  · rintro rfl
    exact mapM_id_map_some bs

example : decode? [0x63, 0xC3, 0xA9] = some "c\u00e9" := by decide
example : decode? [0x63, 0xC3] = none := by decide
example : decodeLossy [0xED, 0xA0, 0x80, 0x20, 0xE2, 0x82] = "\uFFFD\uFFFD\uFFFD \uFFFD" := by
  decide
example : encode "\u00e9" = [0xC3, 0xA9] := by decide

end Utf8
end CrossFlags
