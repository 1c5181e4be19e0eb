import CrossFlags.Text.Utf8

/-!
# Encoding and decoding

`Utf8.encode` is core's encoding of characters, one after the other, so "is UTF-8" needs no word of
its own: it is being the encoding of some text. What has to be shown is that the scanner agrees,
and that is a statement about one character and whatever follows it (`scan_utf8EncodeChar_append`).
Its four cases are the four lengths of an encoded character; in each of them the first octet fixes
how many are to come and where the second one lies.

The way back has the same four cases. A first octet is taken apart into what it can be the beginning
of (`start_cases`), and the ranges of the octets behind it are just wide enough that the number they
spell has this encoding and no shorter one (`exists_of_scan_eq_cons`). So octets are read exactly if
they are the encoding of some text (`decode?_eq_some_iff`).
-/

set_option autoImplicit false

namespace CrossFlags.Utf8

theorem toNat_ofNat_of_lt {n : Nat} (h : n < 256) : (UInt8.ofNat n).toNat = n := by
  simpa using h

/-! ## How a character is encoded -/

section

variable {n : Nat}

theorem val_ofNat (h : n.isValidChar) : (Char.ofNat n).val.toNat = n := by
  rw [Char.ofNat, dif_pos h]
  rfl

theorem utf8EncodeChar_one (h : n < 0x80) :
    String.utf8EncodeChar (Char.ofNat n) = [UInt8.ofNat n] := by
  rw [String.utf8EncodeChar, val_ofNat (.inl (by omega))]
  exact if_pos (by omega)

theorem utf8EncodeChar_two (hlow : 0x80 ≤ n) (hhigh : n < 0x800) :
    String.utf8EncodeChar (Char.ofNat n) =
      [UInt8.ofNat (n / 64 + 0xC0), UInt8.ofNat (n % 64 + 0x80)] := by
  rw [String.utf8EncodeChar, val_ofNat (.inl (by omega))]
  rw [if_neg (by omega), if_pos (by omega), Nat.mod_eq_of_lt (show n / 64 < 0x20 by omega)]

theorem utf8EncodeChar_three (hlow : 0x800 ≤ n) (hhigh : n < 0x10000) (hvalid : n.isValidChar) :
    String.utf8EncodeChar (Char.ofNat n) =
      [UInt8.ofNat (n / 4096 + 0xE0), UInt8.ofNat (n / 64 % 64 + 0x80),
        UInt8.ofNat (n % 64 + 0x80)] := by
  rw [String.utf8EncodeChar, val_ofNat hvalid]
  rw [if_neg (by omega), if_neg (by omega), if_pos (by omega),
    Nat.mod_eq_of_lt (show n / 4096 < 0x10 by omega)]

theorem utf8EncodeChar_four (hlow : 0x10000 ≤ n) (hhigh : n < 0x110000) :
    String.utf8EncodeChar (Char.ofNat n) =
      [UInt8.ofNat (n / 262144 + 0xF0), UInt8.ofNat (n / 4096 % 64 + 0x80),
        UInt8.ofNat (n / 64 % 64 + 0x80), UInt8.ofNat (n % 64 + 0x80)] := by
  rw [String.utf8EncodeChar, val_ofNat (.inr ⟨by omega, hhigh⟩)]
  rw [if_neg (by omega), if_neg (by omega), if_neg (by omega),
    Nat.mod_eq_of_lt (show n / 262144 < 0x08 by omega)]

end

/-! ## One octet -/

theorem scan_start {b : UInt8} {p : Pending} (rest : Octets) (h : start b = ([], some p)) :
    scan none (b :: rest) = scan (some p) rest := by
  rw [scan, h]
  rfl

/-- An octet given by its number lies where the number does. -/
theorem ofNat_between {n : Nat} {low high : UInt8} (hlow : low.toNat ≤ n) (hhigh : n ≤ high.toNat) :
    (UInt8.ofNat n).toNat = n ∧ low ≤ UInt8.ofNat n ∧ UInt8.ofNat n ≤ high := by
  have hn : (UInt8.ofNat n).toNat = n :=
    toNat_ofNat_of_lt (Nat.lt_of_le_of_lt hhigh high.toNat_lt)
  rw [UInt8.le_iff_toNat_le, UInt8.le_iff_toNat_le, hn]
  exact ⟨rfl, hlow, hhigh⟩

theorem scan_more {bits needed n : Nat} {low high : UInt8} (rest : Octets) (hneeded : 1 < needed)
    (hlow : low.toNat ≤ n + 0x80) (hhigh : n + 0x80 ≤ high.toNat) :
    scan (some ⟨bits, needed, low, high⟩) (UInt8.ofNat (n + 0x80) :: rest) =
      scan (some ⟨bits * 64 + n, needed - 1, 0x80, 0xBF⟩) rest := by
  obtain ⟨hn, hrange⟩ := ofNat_between hlow hhigh
  rw [scan, if_pos hrange, if_neg (Nat.not_le.mpr hneeded), hn, Nat.add_sub_cancel]

theorem scan_last {bits n : Nat} {low high : UInt8} (rest : Octets)
    (hlow : low.toNat ≤ n + 0x80) (hhigh : n + 0x80 ≤ high.toNat) :
    scan (some ⟨bits, 1, low, high⟩) (UInt8.ofNat (n + 0x80) :: rest) =
      some (Char.ofNat (bits * 64 + n)) :: scan none rest := by
  obtain ⟨hn, hrange⟩ := ofNat_between hlow hhigh
  rw [scan, if_pos hrange, if_pos (Nat.le_refl 1), hn, Nat.add_sub_cancel]

theorem start_one {n : Nat} (h : n < 0x80) :
    start (UInt8.ofNat n) = ([some (Char.ofNat n)], none) := by
  unfold start
  rw [toNat_ofNat_of_lt (by omega)]
  exact if_pos h

theorem start_two {n : Nat} (hlow : 0x80 ≤ n) (hhigh : n < 0x800) :
    start (UInt8.ofNat (n / 64 + 0xC0)) = ([], some ⟨n / 64, 1, 0x80, 0xBF⟩) := by
  unfold start
  rw [toNat_ofNat_of_lt (by omega)]
  simp only
  rw [if_neg (by omega), if_neg (by omega), if_pos (by omega), Nat.add_sub_cancel]

/-- Of three octets the second one is bounded below where the first is as low as it can be, and
above where a surrogate would begin. -/
theorem start_three {n : Nat} (hlow : 0x800 ≤ n) (hhigh : n < 0x10000)
    (hvalid : n < 0xD800 ∨ 0xDFFF < n) :
    ∃ low high, start (UInt8.ofNat (n / 4096 + 0xE0)) = ([], some ⟨n / 4096, 2, low, high⟩) ∧
      low.toNat ≤ n / 64 % 64 + 0x80 ∧ n / 64 % 64 + 0x80 ≤ high.toNat := by
  unfold start
  rw [toNat_ofNat_of_lt (by omega)]
  simp only
  rw [if_neg (by omega), if_neg (by omega), if_neg (by omega)]
  split
  · rename_i h
    refine ⟨0xA0, 0xBF, by rw [show n / 4096 = 0 by omega], ?_, ?_⟩
    · show 0xA0 ≤ _
      omega
    · show _ ≤ 0xBF
      omega
  · split
    · rename_i h
      refine ⟨0x80, 0x9F, by rw [show n / 4096 = 0xD by omega], ?_, ?_⟩
      · show 0x80 ≤ _
        omega
      · show _ ≤ 0x9F
        omega
    · rw [if_pos (by omega), Nat.add_sub_cancel]
      refine ⟨0x80, 0xBF, rfl, ?_, ?_⟩
      · show 0x80 ≤ _
        omega
      · show _ ≤ 0xBF
        omega

/-- Of four octets the second one is bounded in the same way, above by the last character. -/
theorem start_four {n : Nat} (hlow : 0x10000 ≤ n) (hhigh : n < 0x110000) :
    ∃ low high, start (UInt8.ofNat (n / 262144 + 0xF0)) = ([], some ⟨n / 262144, 3, low, high⟩) ∧
      low.toNat ≤ n / 4096 % 64 + 0x80 ∧ n / 4096 % 64 + 0x80 ≤ high.toNat := by
  unfold start
  rw [toNat_ofNat_of_lt (by omega)]
  simp only
  rw [if_neg (by omega), if_neg (by omega), if_neg (by omega), if_neg (by omega),
    if_neg (by omega), if_neg (by omega)]
  split
  · rename_i h
    refine ⟨0x90, 0xBF, by rw [show n / 262144 = 0 by omega], ?_, ?_⟩
    · show 0x90 ≤ _
      omega
    · show _ ≤ 0xBF
      omega
  · split
    · rw [Nat.add_sub_cancel]
      refine ⟨0x80, 0xBF, rfl, ?_, ?_⟩
      · show 0x80 ≤ _
        omega
      · show _ ≤ 0xBF
        omega
    · rw [if_pos (by omega)]
      refine ⟨0x80, 0x8F, by rw [show n / 262144 = 4 by omega], ?_, ?_⟩
      · show 0x80 ≤ _
        omega
      · show _ ≤ 0x8F
        omega

/-! ## One character, and texts -/

theorem toNat_low_le (n : Nat) : (0x80 : UInt8).toNat ≤ n + 0x80 := Nat.le_add_left _ _

theorem le_toNat_high (n : Nat) : n % 64 + 0x80 ≤ (0xBF : UInt8).toNat := by
  show n % 64 + 0x80 ≤ 0xBF
  omega

/-- **Scanning what a character is encoded as gives that character, and goes on behind it.** -/
theorem scan_utf8EncodeChar_append (c : Char) (rest : Octets) :
    scan none (String.utf8EncodeChar c ++ rest) = some c :: scan none rest := by
  have hvalid : c.toNat < 0xD800 ∨ (0xDFFF < c.toNat ∧ c.toNat < 0x110000) := c.valid
  rw [← Char.ofNat_toNat c]
  generalize c.toNat = n at hvalid ⊢
  by_cases hone : n < 0x80
  · rw [utf8EncodeChar_one hone, List.singleton_append, scan, start_one hone]
    rfl
  by_cases htwo : n < 0x800
  · rw [utf8EncodeChar_two (by omega) htwo, List.cons_append, List.singleton_append,
      scan_start _ (start_two (by omega) htwo), scan_last _ (toNat_low_le _) (le_toNat_high n),
      show n / 64 * 64 + n % 64 = n by omega]
  by_cases hthree : n < 0x10000
  · obtain ⟨low, high, hstart, hlow, hhigh⟩ :=
      start_three (n := n) (by omega) hthree (by omega)
    rw [utf8EncodeChar_three (by omega) hthree hvalid, List.cons_append, List.cons_append,
      List.singleton_append, scan_start _ hstart, scan_more _ (by decide) hlow hhigh,
      scan_last _ (toNat_low_le _) (le_toNat_high n),
      show (n / 4096 * 64 + n / 64 % 64) * 64 + n % 64 = n by omega]
  · obtain ⟨low, high, hstart, hlow, hhigh⟩ := start_four (n := n) (by omega) (by omega)
    rw [utf8EncodeChar_four (by omega) (by omega), List.cons_append, List.cons_append,
      List.cons_append, List.singleton_append, scan_start _ hstart,
      scan_more _ (by decide) hlow hhigh,
      scan_more _ (by decide) (toNat_low_le _) (le_toNat_high (n / 64)),
      scan_last _ (toNat_low_le _) (le_toNat_high n),
      show ((n / 262144 * 64 + n / 4096 % 64) * 64 + n / 64 % 64) * 64 + n % 64 = n by omega]

theorem scan_flatMap_utf8EncodeChar (cs : List Char) :
    scan none (cs.flatMap String.utf8EncodeChar) = cs.map some := by
  induction cs with
  | nil => rfl
  | cons c rest ih => rw [List.flatMap_cons, scan_utf8EncodeChar_append, ih, List.map_cons]

/-- **The octets of a text are read as that text.** -/
@[simp] theorem decode?_encode (s : String) : decode? (encode s) = some s := by
  rw [decode?, encode, scan_flatMap_utf8EncodeChar, mapM_id_map_some, Option.map_some,
    String.ofList_toList]

/-! ## Octets that are read -/

/-- What may come of an octet that begins a longer character. The bounds of the next octet are the
usual ones, except that they keep out what a shorter encoding could say, surrogates, and what lies
behind the last character. -/
inductive Begun (n : Nat) : Pending → Prop
  | two (hlow : 0xC2 ≤ n) (hhigh : n < 0xE0) : Begun n ⟨n - 0xC0, 1, 0x80, 0xBF⟩
  | three {low high : UInt8} (hlow : 0xE0 ≤ n) (hhigh : n < 0xF0) (hnext : 0x80 ≤ low.toNat)
      (hlast : high.toNat ≤ 0xBF) (hshort : n = 0xE0 → 0xA0 ≤ low.toNat)
      (hsurrogate : n = 0xED → high.toNat ≤ 0x9F) : Begun n ⟨n - 0xE0, 2, low, high⟩
  | four {low high : UInt8} (hlow : 0xF0 ≤ n) (hhigh : n < 0xF5) (hnext : 0x80 ≤ low.toNat)
      (hlast : high.toNat ≤ 0xBF) (hshort : n = 0xF0 → 0x90 ≤ low.toNat)
      (hend : n = 0xF4 → high.toNat ≤ 0x8F) : Begun n ⟨n - 0xF0, 3, low, high⟩

/-- An octet at the start of a character is a character, or none, or begins one. -/
theorem start_cases (b : UInt8) :
    (b.toNat < 0x80 ∧ start b = ([some (Char.ofNat b.toNat)], none)) ∨
      start b = ([none], none) ∨ ∃ p, start b = ([], some p) ∧ Begun b.toNat p := by
  unfold start
  simp only
  split
  · rename_i h
    exact .inl ⟨h, rfl⟩
  refine .inr ?_
  split
  · exact .inl rfl
  split
  · exact .inr ⟨_, rfl, .two (by omega) (by omega)⟩
  split
  · rename_i h
    rw [h]
    refine .inr ⟨_, rfl, .three ?_ ?_ ?_ ?_ ?_ ?_⟩ <;> simp
  split
  · rename_i h
    rw [h]
    refine .inr ⟨_, rfl, .three ?_ ?_ ?_ ?_ ?_ ?_⟩ <;> simp
  split
  · exact .inr ⟨_, rfl, .three (by omega) (by omega) (by decide) (by decide) (by omega) (by omega)⟩
  split
  · rename_i h
    rw [h]
    refine .inr ⟨_, rfl, .four ?_ ?_ ?_ ?_ ?_ ?_⟩ <;> simp
  split
  · exact .inr ⟨_, rfl, .four (by omega) (by omega) (by decide) (by decide) (by omega) (by omega)⟩
  split
  · rename_i h
    rw [h]
    refine .inr ⟨_, rfl, .four ?_ ?_ ?_ ?_ ?_ ?_⟩ <;> simp
  · exact .inl rfl

section

variable {octets : Octets} {c : Char} {out : List (Option Char)} {bits needed : Nat}
  {low high : UInt8}

/-- A character that has begun is read only where an octet in its range follows. -/
theorem exists_of_scan_some
    (h : scan (some ⟨bits, needed, low, high⟩) octets = some c :: out) :
    ∃ (b : UInt8) (rest : Octets), octets = b :: rest ∧
      low.toNat ≤ b.toNat ∧ b.toNat ≤ high.toNat ∧
      (if needed ≤ 1 then some (Char.ofNat (bits * 64 + (b.toNat - 0x80))) :: scan none rest
        else scan (some ⟨bits * 64 + (b.toNat - 0x80), needed - 1, 0x80, 0xBF⟩) rest) =
        some c :: out := by
  cases octets with
  | nil => cases h
  | cons b rest =>
    rw [scan] at h
    by_cases hrange : low ≤ b ∧ b ≤ high
    · rw [if_pos hrange] at h
      exact ⟨b, rest, rfl, UInt8.le_iff_toNat_le.mp hrange.1, UInt8.le_iff_toNat_le.mp hrange.2, h⟩
    · rw [if_neg hrange] at h
      cases h

theorem exists_of_scan_last (h : scan (some ⟨bits, 1, 0x80, 0xBF⟩) octets = some c :: out) :
    ∃ (b : UInt8) (rest : Octets), octets = b :: rest ∧ 0x80 ≤ b.toNat ∧ b.toNat ≤ 0xBF ∧
      Char.ofNat (bits * 64 + (b.toNat - 0x80)) = c ∧ scan none rest = out := by
  obtain ⟨b, rest, hoctets, hlow, hhigh, hread⟩ := exists_of_scan_some h
  rw [if_pos (Nat.le_refl 1)] at hread
  obtain ⟨hc, hout⟩ := List.cons.inj hread
  exact ⟨b, rest, hoctets, hlow, hhigh, Option.some.inj hc, hout⟩

theorem exists_of_scan_more (hneeded : 1 < needed)
    (h : scan (some ⟨bits, needed, low, high⟩) octets = some c :: out) :
    ∃ (b : UInt8) (rest : Octets), octets = b :: rest ∧
      low.toNat ≤ b.toNat ∧ b.toNat ≤ high.toNat ∧
      scan (some ⟨bits * 64 + (b.toNat - 0x80), needed - 1, 0x80, 0xBF⟩) rest = some c :: out := by
  obtain ⟨b, rest, hoctets, hlow, hhigh, hread⟩ := exists_of_scan_some h
  rw [if_neg (Nat.not_le.mpr hneeded)] at hread
  exact ⟨b, rest, hoctets, hlow, hhigh, hread⟩

/-- **A character that is read from octets is encoded as the first of them.** -/
theorem exists_of_scan_eq_cons (h : scan none octets = some c :: out) :
    ∃ rest, octets = String.utf8EncodeChar c ++ rest ∧ scan none rest = out := by
  cases octets with
  | nil => cases h
  | cons b rest =>
    rw [scan] at h
    obtain ⟨hone, hstart⟩ | hstart | ⟨p, hstart, hbegun⟩ := start_cases b
    · rw [hstart] at h
      obtain ⟨hc, hout⟩ := List.cons.inj h
      refine ⟨rest, ?_, hout⟩
      rw [← Option.some.inj hc, utf8EncodeChar_one hone, UInt8.ofNat_toNat]
      rfl
    · rw [hstart] at h
      cases h
    · rw [hstart] at h
      change scan (some p) rest = some c :: out at h
      cases hbegun with
      | two hlow hhigh =>
        obtain ⟨b₂, rest, rfl, hlow₂, hhigh₂, rfl, hout⟩ := exists_of_scan_last h
        refine ⟨rest, ?_, hout⟩
        rw [utf8EncodeChar_two (by omega) (by omega),
          show ((b.toNat - 0xC0) * 64 + (b₂.toNat - 0x80)) / 64 + 0xC0 = b.toNat by omega,
          show ((b.toNat - 0xC0) * 64 + (b₂.toNat - 0x80)) % 64 + 0x80 = b₂.toNat by omega,
          UInt8.ofNat_toNat, UInt8.ofNat_toNat]
        rfl
      | three hlow hhigh hnext hlast hshort hsurrogate =>
        obtain ⟨b₂, rest, rfl, hlow₂, hhigh₂, h⟩ := exists_of_scan_more (by decide) h
        obtain ⟨b₃, rest, rfl, hlow₃, hhigh₃, rfl, hout⟩ := exists_of_scan_last h
        refine ⟨rest, ?_, hout⟩
        generalize hn : ((b.toNat - 0xE0) * 64 + (b₂.toNat - 0x80)) * 64 + (b₃.toNat - 0x80) = n
        rw [utf8EncodeChar_three (by omega) (by omega) (by unfold Nat.isValidChar; omega),
          show n / 4096 + 0xE0 = b.toNat by omega,
          show n / 64 % 64 + 0x80 = b₂.toNat by omega, show n % 64 + 0x80 = b₃.toNat by omega,
          UInt8.ofNat_toNat, UInt8.ofNat_toNat, UInt8.ofNat_toNat]
        rfl
      | four hlow hhigh hnext hlast hshort hend =>
        obtain ⟨b₂, rest, rfl, hlow₂, hhigh₂, h⟩ := exists_of_scan_more (by decide) h
        obtain ⟨b₃, rest, rfl, hlow₃, hhigh₃, h⟩ := exists_of_scan_more (by decide) h
        obtain ⟨b₄, rest, rfl, hlow₄, hhigh₄, rfl, hout⟩ := exists_of_scan_last h
        change 0x80 ≤ b₃.toNat at hlow₃
        change b₃.toNat ≤ 0xBF at hhigh₃
        refine ⟨rest, ?_, hout⟩
        generalize hn : (((b.toNat - 0xF0) * 64 + (b₂.toNat - 0x80)) * 64 + (b₃.toNat - 0x80)) * 64 +
          (b₄.toNat - 0x80) = n
        rw [utf8EncodeChar_four (by omega) (by omega),
          show n / 262144 + 0xF0 = b.toNat by omega,
          show n / 4096 % 64 + 0x80 = b₂.toNat by omega,
          show n / 64 % 64 + 0x80 = b₃.toNat by omega, show n % 64 + 0x80 = b₄.toNat by omega,
          UInt8.ofNat_toNat, UInt8.ofNat_toNat, UInt8.ofNat_toNat, UInt8.ofNat_toNat]
        rfl

theorem scan_some_ne_nil (p : Pending) (octets : Octets) : scan (some p) octets ≠ [] := by
  induction octets generalizing p with
  | nil => exact List.cons_ne_nil _ _
  | cons b rest ih =>
    rw [scan]
    split
    · split
      · exact List.cons_ne_nil _ _
      · exact ih _
    · exact List.cons_ne_nil _ _

theorem scan_eq_nil_iff : scan none octets = [] ↔ octets = [] := by
  constructor
  · intro h
    cases octets with
    | nil => rfl
    | cons b rest =>
      rw [scan] at h
      obtain ⟨-, hstart⟩ | hstart | ⟨p, hstart, -⟩ := start_cases b
      · rw [hstart] at h
        cases h
      · rw [hstart] at h
        cases h
      · rw [hstart] at h
        exact absurd h (scan_some_ne_nil p rest)
  · rintro rfl
    rfl

end

theorem eq_flatMap_of_scan {octets : Octets} {cs : List Char} (h : scan none octets = cs.map some) :
    octets = cs.flatMap String.utf8EncodeChar := by
  induction cs generalizing octets with
  | nil => exact scan_eq_nil_iff.mp h
  | cons c rest ih =>
    obtain ⟨others, rfl, hothers⟩ := exists_of_scan_eq_cons h
    rw [List.flatMap_cons, ← ih hothers]

/-- **Exactly the encodings of texts can be read.** -/
theorem decode?_eq_some_iff {octets : Octets} {s : String} :
    decode? octets = some s ↔ octets = encode s := by
  constructor
  · intro h
    obtain ⟨cs, hcs, rfl⟩ := Option.map_eq_some_iff.mp h
    rw [encode, String.toList_ofList]
    exact eq_flatMap_of_scan (mapM_id_eq_some_iff.mp hcs)
  · rintro rfl
    exact decode?_encode s

end CrossFlags.Utf8
