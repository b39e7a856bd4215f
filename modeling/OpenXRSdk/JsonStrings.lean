import OpenXRSdk.JsonWriter

/-!
# Strings, written and read

A quoted string is read back as the bytes that it was made from, when they are UTF-8.
-/
namespace OpenXRSdk.Json

def utf8Char (c : Char) : StdString := (String.utf8EncodeChar c).map fun b => Char.ofNat b.toNat

def utf8 (s : List Char) : StdString := s.flatMap utf8Char

/-! ## Bytes -/

theorem toNat_ofNat_of_lt {n : ℕ} (h : n < 0xD800) : (Char.ofNat n).toNat = n := by
  rw [Char.toNat_ofNat, if_pos (Or.inl h)]

theorem and_low (i n : ℕ) : (2 ^ i - 1) &&& n = n % 2 ^ i := by
  rw [Nat.and_comm, Nat.and_two_pow_sub_one_eq_mod]

theorem or_low {i b : ℕ} (a : ℕ) (h : b < 2 ^ i) : 2 ^ i * a ||| b = 2 ^ i * a + b :=
  (Nat.two_pow_add_eq_or_of_lt h a).symm

theorem continuation_eq (n : ℕ) : 0x80 ||| (0x3f &&& n) = n % 64 + 128 := by
  have hand : 0x3f &&& n = n % 64 := and_low 6 n
  have hor : 0x80 ||| n % 64 = 0x80 + n % 64 := or_low (i := 6) 2 (Nat.mod_lt _ (by decide))
  rw [hand, hor, Nat.add_comm]

theorem leadTwo_eq (n : ℕ) : 0xC0 ||| (0x1f &&& n) = n % 32 + 192 := by
  have hand : 0x1f &&& n = n % 32 := and_low 5 n
  have hor : 0xC0 ||| n % 32 = 0xC0 + n % 32 := or_low (i := 5) 6 (Nat.mod_lt _ (by decide))
  rw [hand, hor, Nat.add_comm]

theorem leadThree_eq (n : ℕ) : 0xE0 ||| (0xf &&& n) = n % 16 + 224 := by
  have hand : 0xf &&& n = n % 16 := and_low 4 n
  have hor : 0xE0 ||| n % 16 = 0xE0 + n % 16 := or_low (i := 4) 14 (Nat.mod_lt _ (by decide))
  rw [hand, hor, Nat.add_comm]

theorem leadFour_eq (n : ℕ) : 0xF0 ||| (0x7 &&& n) = n % 8 + 240 := by
  have hand : 0x7 &&& n = n % 8 := and_low 3 n
  have hor : 0xF0 ||| n % 8 = 0xF0 + n % 8 := or_low (i := 3) 30 (Nat.mod_lt _ (by decide))
  rw [hand, hor, Nat.add_comm]

theorem toNat_le (c : Char) : c.toNat ≤ 0x10FFFF := by
  have := c.valid
  simp only [UInt32.isValidChar, Nat.isValidChar] at this
  change c.val.toNat ≤ _
  omega

/-- The four lengths. -/
theorem utf8Char_cases (c : Char) :
    (c.toNat < 0x80 ∧ utf8Char c = [c]) ∨
    (0x80 ≤ c.toNat ∧ c.toNat < 0x800 ∧
      utf8Char c = [Char.ofNat (c.toNat / 64 + 192), Char.ofNat (c.toNat % 64 + 128)]) ∨
    (0x800 ≤ c.toNat ∧ c.toNat < 0x10000 ∧
      utf8Char c = [Char.ofNat (c.toNat / 4096 + 224), Char.ofNat (c.toNat / 64 % 64 + 128),
        Char.ofNat (c.toNat % 64 + 128)]) ∨
    (0x10000 ≤ c.toNat ∧
      utf8Char c = [Char.ofNat (c.toNat / 262144 + 240), Char.ofNat (c.toNat / 4096 % 64 + 128),
        Char.ofNat (c.toNat / 64 % 64 + 128), Char.ofNat (c.toNat % 64 + 128)]) := by
  have hle := toNat_le c
  have hval : c.val.toNat = c.toNat := rfl
  unfold utf8Char String.utf8EncodeChar
  simp only [hval]
  rcases Nat.lt_or_ge c.toNat 0x80 with h₁ | h₁
  · rw [if_pos (by omega)]
    simp (disch := omega) only [List.map, UInt8.toNat_ofNat', Nat.mod_eq_of_lt, Char.ofNat_toNat]
    exact .inl ⟨h₁, trivial⟩
  rcases Nat.lt_or_ge c.toNat 0x800 with h₂ | h₂
  · rw [if_neg (by omega), if_pos (by omega)]
    simp (disch := omega) only [List.map, UInt8.toNat_ofNat', Nat.mod_eq_of_lt]
    exact .inr (.inl ⟨h₁, h₂, trivial⟩)
  rcases Nat.lt_or_ge c.toNat 0x10000 with h₃ | h₃
  · rw [if_neg (by omega), if_neg (by omega), if_pos (by omega)]
    simp (disch := omega) only [List.map, UInt8.toNat_ofNat', Nat.mod_eq_of_lt]
    exact .inr (.inr (.inl ⟨h₂, h₃, trivial⟩))
  · rw [if_neg (by omega), if_neg (by omega), if_neg (by omega)]
    simp (disch := omega) only [List.map, UInt8.toNat_ofNat', Nat.mod_eq_of_lt]
    exact .inr (.inr (.inr ⟨h₃, trivial⟩))

/-- The library's encoder agrees with the standard. -/
theorem codePointToUTF8_toNat (c : Char) : codePointToUTF8 c.toNat = utf8Char c := by
  have hle := toNat_le c
  unfold codePointToUTF8
  simp only [continuation_eq, leadTwo_eq, leadThree_eq, leadFour_eq, Nat.shiftRight_eq_div_pow,
    Nat.reducePow]
  rcases utf8Char_cases c with ⟨h, hc⟩ | ⟨h, h', hc⟩ | ⟨h, h', hc⟩ | ⟨h, hc⟩ <;> rw [hc]
  · rw [if_pos (by omega), Char.ofNat_toNat]
  · rw [if_neg (by omega), if_pos (by omega), Nat.mod_eq_of_lt (by omega)]
  · rw [if_neg (by omega), if_neg (by omega), if_pos (by omega),
      Nat.mod_eq_of_lt (show c.toNat / 4096 < 16 by omega)]
  · rw [if_neg (by omega), if_neg (by omega), if_neg (by omega), if_pos (by omega),
      Nat.mod_eq_of_lt (show c.toNat / 262144 < 8 by omega)]

/-! ## From bytes to code points -/

/-- The number a continuation byte adds. -/
theorem and_continuation {n : ℕ} (h : n < 64) : (n + 128) &&& 0x3F = n := by
  rw [Nat.and_comm, show 0x3F &&& (n + 128) = (n + 128) % 64 from and_low 6 _]
  omega

theorem utf8ToCodepoint_one {c : Char} (h : c.toNat < 0x80) (rest : StdString) :
    utf8ToCodepoint c rest = (c.toNat, 0) := by
  simp [utf8ToCodepoint, h]

theorem utf8ToCodepoint_two {a b : ℕ} (ha : 2 ≤ a) (ha' : a < 32) (hb : b < 64) (rest : StdString) :
    utf8ToCodepoint (Char.ofNat (a + 192)) (Char.ofNat (b + 128) :: rest) = (64 * a + b, 1) := by
  have hlead : (a + 192) &&& 0x1F = a := by
    rw [Nat.and_comm, show 0x1F &&& (a + 192) = (a + 192) % 32 from and_low 5 _]
    omega
  have hsum : a <<< 6 ||| b = 64 * a + b := by
    rw [Nat.shiftLeft_eq, Nat.mul_comm]
    exact or_low (i := 6) a hb
  unfold utf8ToCodepoint
  simp only [toNat_ofNat_of_lt (show a + 192 < 0xD800 by omega),
    toNat_ofNat_of_lt (show b + 128 < 0xD800 by omega), hlead, and_continuation hb, hsum]
  rw [if_neg (by omega), if_pos (by omega), if_neg (by omega)]

theorem utf8ToCodepoint_three {a b d : ℕ} (ha : a < 16) (hb : b < 64) (hd : d < 64)
    (hlong : 0x800 ≤ 4096 * a + 64 * b + d)
    (hscalar : 4096 * a + 64 * b + d < 0xD800 ∨ 0xDFFF < 4096 * a + 64 * b + d) (rest : StdString) :
    utf8ToCodepoint (Char.ofNat (a + 224)) (Char.ofNat (b + 128) :: Char.ofNat (d + 128) :: rest) =
      (4096 * a + 64 * b + d, 2) := by
  have hlead : (a + 224) &&& 0x0F = a := by
    rw [Nat.and_comm, show 0x0F &&& (a + 224) = (a + 224) % 16 from and_low 4 _]
    omega
  have hsum : a <<< 12 ||| b <<< 6 ||| d = 4096 * a + 64 * b + d := by
    have hhigh : a <<< 12 ||| b <<< 6 = 64 * (64 * a + b) := by
      rw [Nat.shiftLeft_eq, Nat.shiftLeft_eq, Nat.mul_comm a, or_low (i := 12) a (by omega)]
      omega
    rw [hhigh, show 64 * (64 * a + b) ||| d = 64 * (64 * a + b) + d from or_low (i := 6) _ hd]
    omega
  unfold utf8ToCodepoint
  simp only [toNat_ofNat_of_lt (show a + 224 < 0xD800 by omega),
    toNat_ofNat_of_lt (show b + 128 < 0xD800 by omega),
    toNat_ofNat_of_lt (show d + 128 < 0xD800 by omega), hlead, and_continuation hb,
    and_continuation hd, hsum]
  rw [if_neg (by omega), if_neg (by omega), if_pos (by omega), if_neg (by omega), if_neg (by omega)]

theorem utf8ToCodepoint_four {a b d e : ℕ} (ha : a < 8) (hb : b < 64) (hd : d < 64) (he : e < 64)
    (hlong : 0x10000 ≤ 262144 * a + 4096 * b + 64 * d + e) (rest : StdString) :
    utf8ToCodepoint (Char.ofNat (a + 240))
        (Char.ofNat (b + 128) :: Char.ofNat (d + 128) :: Char.ofNat (e + 128) :: rest) =
      (262144 * a + 4096 * b + 64 * d + e, 3) := by
  have hlead : (a + 240) &&& 0x07 = a := by
    rw [Nat.and_comm, show 0x07 &&& (a + 240) = (a + 240) % 8 from and_low 3 _]
    omega
  have hsum : a <<< 18 ||| b <<< 12 ||| d <<< 6 ||| e = 262144 * a + 4096 * b + 64 * d + e := by
    have hhigh : a <<< 18 ||| b <<< 12 = 4096 * (64 * a + b) := by
      rw [Nat.shiftLeft_eq, Nat.shiftLeft_eq, Nat.mul_comm a, or_low (i := 18) a (by omega)]
      omega
    have hmiddle : 4096 * (64 * a + b) ||| d <<< 6 = 64 * (64 * (64 * a + b) + d) := by
      rw [Nat.shiftLeft_eq,
        show 4096 * (64 * a + b) ||| d * 2 ^ 6 = 4096 * (64 * a + b) + d * 2 ^ 6 from
          or_low (i := 12) _ (by omega)]
      omega
    rw [hhigh, hmiddle, show 64 * (64 * (64 * a + b) + d) ||| e = 64 * (64 * (64 * a + b) + d) + e from
      or_low (i := 6) _ he]
    omega
  unfold utf8ToCodepoint
  simp only [toNat_ofNat_of_lt (show a + 240 < 0xD800 by omega),
    toNat_ofNat_of_lt (show b + 128 < 0xD800 by omega),
    toNat_ofNat_of_lt (show d + 128 < 0xD800 by omega),
    toNat_ofNat_of_lt (show e + 128 < 0xD800 by omega), hlead, and_continuation hb,
    and_continuation hd, and_continuation he, hsum]
  rw [if_neg (by omega), if_neg (by omega), if_neg (by omega), if_pos (by omega), if_neg (by omega)]

/-- A character is not a surrogate. -/
theorem toNat_not_surrogate (c : Char) : c.toNat < 0xD800 ∨ 0xDFFF < c.toNat := by
  have := c.valid
  simp only [UInt32.isValidChar, Nat.isValidChar] at this
  change c.val.toNat < _ ∨ _ < c.val.toNat
  omega

/-- The writer finds the code point of a character, and goes on after its last byte. -/
theorem utf8Char_eq_cons (c : Char) : ∃ first tail, utf8Char c = first :: tail ∧
    (first = c ∨ 0x80 ≤ first.toNat ∧ 0x80 ≤ c.toNat) ∧
    ∀ rest, utf8ToCodepoint first (tail ++ rest) = (c.toNat, tail.length) := by
  have hle := toNat_le c
  rcases utf8Char_cases c with ⟨h, hc⟩ | ⟨h, h', hc⟩ | ⟨h, h', hc⟩ | ⟨h, hc⟩
  · exact ⟨c, [], hc, .inl rfl, utf8ToCodepoint_one h⟩
  · refine ⟨_, _, hc, .inr ⟨?_, h⟩, fun rest => ?_⟩
    · rw [toNat_ofNat_of_lt (by omega)]
      omega
    · refine (utf8ToCodepoint_two (by omega) (by omega) (by omega) rest).trans ?_
      rw [Prod.mk.injEq]
      exact ⟨by omega, rfl⟩
  · refine ⟨_, _, hc, .inr ⟨?_, by omega⟩, fun rest => ?_⟩
    · rw [toNat_ofNat_of_lt (by omega)]
      omega
    · have hscalar := toNat_not_surrogate c
      refine (utf8ToCodepoint_three (by omega) (by omega) (by omega) (by omega) (by omega) rest).trans ?_
      rw [Prod.mk.injEq]
      exact ⟨by omega, rfl⟩
  · refine ⟨_, _, hc, .inr ⟨?_, by omega⟩, fun rest => ?_⟩
    · rw [toNat_ofNat_of_lt (by omega)]
      omega
    · refine (utf8ToCodepoint_four (by omega) (by omega) (by omega) (by omega) (by omega) rest).trans ?_
      rw [Prod.mk.injEq]
      exact ⟨by omega, rfl⟩

/-! ## Escapes -/

def escapeOf (c : Char) : StdString := (shortEscape? c).getD (writeCodepoint c.toNat)

theorem shortEscape?_of_le {c : Char} (h : 0x80 ≤ c.toNat) : shortEscape? c = none := by
  unfold shortEscape?
  split <;> first | rfl | exact absurd h (by decide)

theorem escapeCharacters_utf8Char (c : Char) (rest : StdString) :
    escapeCharacters (utf8Char c ++ rest) = escapeOf c ++ escapeCharacters rest := by
  obtain ⟨first, tail, hc, hfirst, hcode⟩ := utf8Char_eq_cons c
  have hshort : shortEscape? first = shortEscape? c := by
    rcases hfirst with rfl | ⟨hfirst, hc⟩
    · rfl
    · rw [shortEscape?_of_le hfirst, shortEscape?_of_le hc]
  rw [hc, List.cons_append, escapeCharacters, hshort, hcode rest, List.drop_left, escapeOf]
  cases hs : shortEscape? c with
  | none => rfl
  | some escape =>
    have htail : tail = [] := by
      rcases utf8Char_cases c with ⟨h, h'⟩ | ⟨h, -⟩ | ⟨h, -⟩ | ⟨h, -⟩
      · rw [h'] at hc
        exact (List.cons.inj hc).2.symm
      all_goals
        rw [shortEscape?_of_le (by omega)] at hs
        cases hs
    simp [htail]

theorem escapeCharacters_utf8 (s : List Char) : escapeCharacters (utf8 s) = s.flatMap escapeOf := by
  induction s with
  | nil => simp [utf8, escapeCharacters]
  | cons c s ih => rw [utf8, List.flatMap_cons, escapeCharacters_utf8Char, List.flatMap_cons, ← ih, utf8]

theorem hexDigit?_digitChar {d : ℕ} (h : d < 16) : hexDigit? (Nat.digitChar d) = some d := by
  interval_cases d <;> decide

/-- Four hexadecimal digits are read as the number that they were written for. -/
theorem decodeUnicodeEscapeSequence_toHex16Bit {x : ℕ} (h : x < 0x10000) (rest : StdString) :
    decodeUnicodeEscapeSequence (toHex16Bit x ++ rest) = .ok x := by
  have hhigh : (x >>> 8) &&& 0xff = x / 256 := by
    rw [Nat.and_comm, show 0xff &&& (x >>> 8) = (x >>> 8) % 256 from and_low 8 _,
      Nat.shiftRight_eq_div_pow]
    omega
  have hlow : x &&& 0xff = x % 256 := by
    rw [Nat.and_comm]
    exact and_low 8 x
  have hlength : ¬ (toHex16Bit x ++ rest).length < 4 := by simp [toHex16Bit, hex2]
  rw [decodeUnicodeEscapeSequence, if_neg hlength]
  simp only [toHex16Bit, hex2, hhigh, hlow, List.cons_append, List.nil_append, decodeHexDigits,
    hexDigit?_digitChar (show x / 256 / 16 < 16 by omega),
    hexDigit?_digitChar (show x / 256 % 16 < 16 by omega),
    hexDigit?_digitChar (show x % 256 / 16 < 16 by omega),
    hexDigit?_digitChar (show x % 256 % 16 < 16 by omega)]
  congr 1
  omega

theorem length_toHex16Bit (x : ℕ) : (toHex16Bit x).length = 4 := rfl

theorem decodeCharacters_appendHex {x : ℕ} (h : x < 0x10000) (hscalar : x < 0xD800 ∨ 0xDBFF < x)
    (rest : StdString) : decodeCharacters (appendHex x ++ rest) =
      (codePointToUTF8 x ++ ·) <$> decodeCharacters rest := by
  have hcode : decodeUnicodeCodePoint (toHex16Bit x ++ rest) = .ok (x, 4) := by
    rw [decodeUnicodeCodePoint, decodeUnicodeEscapeSequence_toHex16Bit h]
    change (if 0xD800 ≤ x ∧ x ≤ 0xDBFF then _ else _) = _
    rw [if_neg (by omega)]
    rfl
  rw [appendHex, List.cons_append, List.cons_append, decodeCharacters]
  simp only [decodeEscape, hcode]
  change (do return codePointToUTF8 x ++ (← decodeCharacters ((toHex16Bit x ++ rest).drop 4))) = _
  rw [← length_toHex16Bit x, List.drop_left]
  rfl

theorem decodeSurrogate_appendHex (unicode : ℕ) {x : ℕ} (h : x < 0x10000) (rest : StdString) :
    decodeSurrogate unicode (appendHex x ++ rest) =
      .ok (0x10000 + ((unicode &&& 0x3FF) <<< 10) + (x &&& 0x3FF)) := by
  have hlength : ¬ ('\\' :: 'u' :: (toHex16Bit x ++ rest)).length < 6 := by simp [length_toHex16Bit]
  rw [appendHex, List.cons_append, List.cons_append, decodeSurrogate, if_neg hlength,
    decodeUnicodeEscapeSequence_toHex16Bit h]
  rfl

theorem decodeUnicodeCodePoint_surrogates {x y : ℕ} (hx : 0xD800 ≤ x) (hx' : x ≤ 0xDBFF)
    (hy : y < 0x10000) (rest : StdString) :
    decodeUnicodeCodePoint (toHex16Bit x ++ (appendHex y ++ rest)) =
      .ok (0x10000 + ((x &&& 0x3FF) <<< 10) + (y &&& 0x3FF), 10) := by
  have hdrop : (toHex16Bit x ++ (appendHex y ++ rest)).drop 4 = appendHex y ++ rest :=
    List.drop_left' (length_toHex16Bit x)
  rw [decodeUnicodeCodePoint, decodeUnicodeEscapeSequence_toHex16Bit (by omega), hdrop]
  simp only [bind, Except.bind]
  rw [if_pos ⟨hx, hx'⟩, decodeSurrogate_appendHex x hy]
  rfl

theorem decodeCharacters_surrogates {cp : ℕ} (h : 0x10000 ≤ cp) (h' : cp ≤ 0x10FFFF)
    (rest : StdString) : decodeCharacters (writeCodepoint cp ++ rest) =
      (codePointToUTF8 cp ++ ·) <$> decodeCharacters rest := by
  obtain ⟨high, low, hhigh, hlow, hcp⟩ : ∃ high low, high < 1024 ∧ low < 1024 ∧
      cp = 0x10000 + 1024 * high + low :=
    ⟨(cp - 0x10000) / 1024, (cp - 0x10000) % 1024, by omega, by omega, by omega⟩
  have hten (n : ℕ) : n &&& 0x3ff = n % 1024 := by
    rw [Nat.and_comm]
    exact and_low 10 n
  have hwrite : writeCodepoint cp = appendHex (0xd800 + high) ++ appendHex (0xdc00 + low) := by
    rw [writeCodepoint, if_neg (by omega), if_neg (by omega), if_neg (by omega), hten, hten,
      Nat.shiftRight_eq_div_pow, show (cp - 0x10000) / 2 ^ 10 % 1024 = high by omega,
      show (cp - 0x10000) % 1024 = low by omega]
  have hcode := decodeUnicodeCodePoint_surrogates (x := 0xd800 + high) (y := 0xdc00 + low) (by omega)
    (by omega) (by omega) rest
  rw [hten, hten, Nat.shiftLeft_eq, show 0x10000 + (0xd800 + high) % 1024 * 2 ^ 10 +
    (0xdc00 + low) % 1024 = cp by omega] at hcode
  have hdrop : (toHex16Bit (0xd800 + high) ++ (appendHex (0xdc00 + low) ++ rest)).drop 10 = rest := by
    rw [← List.append_assoc]
    exact List.drop_left' (by simp [appendHex, length_toHex16Bit])
  rw [hwrite, List.append_assoc, appendHex, List.cons_append, List.cons_append, decodeCharacters]
  simp only [decodeEscape, hcode, bind, Except.bind, pure, Except.pure, hdrop]
  rfl

/-- A character with a short escape is one byte. -/
theorem decodeCharacters_shortEscape {c : Char} {escape : StdString} (h : shortEscape? c = some escape)
    (rest : StdString) :
    decodeCharacters (escape ++ rest) = (utf8Char c ++ ·) <$> decodeCharacters rest := by
  unfold shortEscape? at h
  split at h
  case h_8 => cases h
  all_goals
    cases h
    rw [List.cons_append, List.cons_append, decodeCharacters]
    rfl

theorem ne_of_shortEscape?_eq_none {c : Char} (h : shortEscape? c = none) : c ≠ '"' ∧ c ≠ '\\' := by
  constructor <;> rintro rfl <;> cases h

/-- Reading what was written for a character yields its bytes. -/
theorem decodeCharacters_escapeOf (c : Char) (rest : StdString) :
    decodeCharacters (escapeOf c ++ rest) = (utf8Char c ++ ·) <$> decodeCharacters rest := by
  rw [escapeOf]
  cases hs : shortEscape? c with
  | some escape => exact decodeCharacters_shortEscape hs rest
  | none =>
    obtain ⟨hquote, hbackslash⟩ := ne_of_shortEscape?_eq_none hs
    rw [Option.getD_none, ← codePointToUTF8_toNat]
    have hscalar := toNat_not_surrogate c
    by_cases h₁ : c.toNat < 0x20
    · rw [writeCodepoint, if_pos h₁]
      exact decodeCharacters_appendHex (by omega) (by omega) rest
    by_cases h₂ : c.toNat < 0x80
    · rw [writeCodepoint, if_neg h₁, if_pos h₂, Char.ofNat_toNat, codePointToUTF8, if_pos (by omega),
        Char.ofNat_toNat, List.cons_append, decodeCharacters]
      · rfl
      · exact hquote
      · exact fun h _ => hbackslash h
      · exact fun _ _ h _ => hbackslash h
    by_cases h₃ : c.toNat < 0x10000
    · rw [writeCodepoint, if_neg h₁, if_neg h₂, if_pos h₃]
      exact decodeCharacters_appendHex h₃ (by omega) rest
    · exact decodeCharacters_surrogates (by omega) (toNat_le c) rest

/-! ## Quoted strings -/

def IsPlain (c : Char) : Prop := c ≠ '"' ∧ c ≠ '\\'

theorem readString_cons {c : Char} (h : IsPlain c) (rest : StdString) :
    readString (c :: rest) = readString rest := by
  rw [readString]
  · exact fun hc _ => h.2 hc
  · exact fun _ _ hc _ => h.2 hc
  · exact h.1

theorem readString_append {s : StdString} (h : ∀ c ∈ s, IsPlain c) (rest : StdString) :
    readString (s ++ rest) = readString rest := by
  induction s with
  | nil => rfl
  | cons c s ih =>
    rw [List.cons_append, readString_cons (h c (by simp)), ih fun d hd => h d (by simp [hd])]

theorem isPlain_digitChar {d : ℕ} (h : d < 16) : IsPlain (Nat.digitChar d) := by
  interval_cases d <;> constructor <;> decide

theorem isPlain_of_mem_toHex16Bit {x : ℕ} {c : Char} (hc : c ∈ toHex16Bit x) : IsPlain c := by
  have hand (n : ℕ) : n &&& 0xff = n % 256 := by
    rw [Nat.and_comm]
    exact and_low 8 n
  simp only [toHex16Bit, hex2, hand, List.cons_append, List.nil_append, List.mem_cons,
    List.not_mem_nil, or_false] at hc
  rcases hc with rfl | rfl | rfl | rfl <;> exact isPlain_digitChar (by omega)

theorem readString_appendHex (x : ℕ) (rest : StdString) :
    readString (appendHex x ++ rest) = readString rest := by
  rw [appendHex, List.cons_append, List.cons_append, readString]
  exact readString_append (fun c hc => isPlain_of_mem_toHex16Bit hc) rest

theorem readString_escapeOf (c : Char) (rest : StdString) :
    readString (escapeOf c ++ rest) = readString rest := by
  rw [escapeOf]
  cases hs : shortEscape? c with
  | some escape =>
    unfold shortEscape? at hs
    split at hs
    case h_8 => cases hs
    all_goals
      cases hs
      rfl
  | none =>
    rw [Option.getD_none, writeCodepoint]
    split_ifs
    · exact readString_appendHex _ rest
    · rw [Char.ofNat_toNat]
      exact readString_cons (ne_of_shortEscape?_eq_none hs) rest
    · exact readString_appendHex _ rest
    · rw [List.append_assoc, readString_appendHex, readString_appendHex]

/-- The scanner finds the closing quote. -/
theorem readString_escaped (s : List Char) (rest : StdString) :
    readString (s.flatMap escapeOf ++ '"' :: rest) = (true, rest) := by
  induction s with
  | nil => rfl
  | cons c s ih => rw [List.flatMap_cons, List.append_assoc, readString_escapeOf, ih]

theorem decodeCharacters_escaped (s : List Char) :
    decodeCharacters (s.flatMap escapeOf) = .ok (utf8 s) := by
  induction s with
  | nil => rw [List.flatMap_nil, decodeCharacters]; rfl
  | cons c s ih =>
    rw [List.flatMap_cons, decodeCharacters_escapeOf, ih]
    rfl

/-- Where no character requires it, escaping changes nothing. -/
theorem escapeCharacters_eq_self {value : StdString} (h : doesAnyCharRequireEscaping value = false) :
    escapeCharacters value = value ∧ cString value = value := by
  induction value with
  | nil => exact ⟨by rw [escapeCharacters], rfl⟩
  | cons c value ih =>
    simp only [doesAnyCharRequireEscaping, List.any_cons, Bool.or_eq_false_iff, decide_eq_false_iff_not,
      not_lt] at h
    obtain ⟨⟨⟨⟨hbackslash, hquote⟩, hcontrol⟩, hascii⟩, hvalue⟩ := h
    obtain ⟨hescape, hcstring⟩ := ih hvalue
    have hshort : shortEscape? c = none := by
      unfold shortEscape?
      split <;> first | rfl | exact absurd rfl hquote | exact absurd rfl hbackslash |
        exact absurd hcontrol (by decide)
    have hnul : c ≠ '\x00' := by
      rintro rfl
      exact absurd hcontrol (by decide)
    constructor
    · rw [escapeCharacters, hshort, utf8ToCodepoint_one (by omega), List.drop_zero, hescape,
        writeCodepoint, if_neg (by omega), if_pos (by omega), Char.ofNat_toNat]
      rfl
    · rw [cString, List.takeWhile_cons_of_pos (by simpa using hnul)]
      exact congrArg (c :: ·) hcstring

theorem valueToQuotedString_eq (value : StdString) :
    valueToQuotedString value = '"' :: escapeCharacters value ++ ['"'] := by
  rw [valueToQuotedString]
  split_ifs with h
  · rw [Bool.not_eq_true'] at h
    obtain ⟨hescape, hcstring⟩ := escapeCharacters_eq_self h
    rw [hescape, hcstring]
  · rfl

theorem valueToQuotedString_utf8 (s : List Char) (rest : StdString) :
    valueToQuotedString (utf8 s) ++ rest = '"' :: (s.flatMap escapeOf ++ '"' :: rest) := by
  rw [valueToQuotedString_eq, escapeCharacters_utf8]
  simp

theorem skipSpaces_cons {c : Char} (h : isBlank c = false) (rest : Location) :
    skipSpaces (c :: rest) = c :: rest :=
  List.dropWhile_cons_of_neg (by simp [h])

theorem text_of_append (type : TokenType) (text rest : StdString) :
    (Token.mk type (text ++ rest) rest).text = text := by
  simp [Token.text]

end OpenXRSdk.Json
