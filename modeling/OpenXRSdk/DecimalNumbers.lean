import OpenXRSdk.ManifestFile

/-!
# Decimal numbers in strings

What the conversions of the C library make of a string that starts with a digit.
-/
namespace OpenXRSdk

/-- The number `n` in decimal digits, of which the first ones may be zero. -/
structure IsDecimal (n : ℕ) (digits : StdString) : Prop where
  nonempty : digits ≠ []
  digit : ∀ c ∈ digits, c.isDigit
  value : decimalValue digits = n

def StartsWithDigit (s : StdString) : Prop := ∃ c ∈ s.head?, c.isDigit

instance (s : StdString) : Decidable (StartsWithDigit s) :=
  decidable_of_iff (s.head?.any Char.isDigit) (by cases s <;> simp [StartsWithDigit])

/-- The string begins with these numbers, each as long as it can be, with dots between them. -/
def BeginsWith : List ℕ → StdString → Prop
  | [], _ => True
  | n :: numbers, s => ∃ digits rest, s = digits ++ rest ∧ IsDecimal n digits ∧
      ¬ StartsWithDigit rest ∧ (numbers = [] ∨ ∃ rest', rest = '.' :: rest' ∧ BeginsWith numbers rest')

/-- Numbers without a sign or white space before them, each below its bound; a single character
stands between them. -/
def PlainFields : List ℕ → StdString → Prop
  | [], _ => True
  | bound :: bounds, s => StartsWithDigit s ∧ decimalValue (s.takeWhile Char.isDigit) < bound ∧
      PlainFields bounds ((s.dropWhile Char.isDigit).drop 1)

instance decidablePlainFields : (bounds : List ℕ) → (s : StdString) → Decidable (PlainFields bounds s)
  | [], _ => isTrue trivial
  | bound :: bounds, s =>
    have := decidablePlainFields bounds ((s.dropWhile Char.isDigit).drop 1)
    inferInstanceAs (Decidable (StartsWithDigit s ∧ decimalValue (s.takeWhile Char.isDigit) < bound ∧
      PlainFields bounds ((s.dropWhile Char.isDigit).drop 1)))

section Prefix
variable {s digits rest : StdString} {n : ℕ}

theorem not_startsWithDigit_dropWhile (s : StdString) :
    ¬ StartsWithDigit (s.dropWhile Char.isDigit) := by
  rintro ⟨c, hc, hdigit⟩
  have := List.head?_dropWhile_not Char.isDigit s
  rw [Option.mem_def.mp hc] at this
  simp [hdigit] at this

theorem StartsWithDigit.takeWhile_ne_nil (h : StartsWithDigit s) : s.takeWhile Char.isDigit ≠ [] := by
  obtain ⟨c, hc, hdigit⟩ := h
  cases s with
  | nil => cases hc
  | cons d t =>
    cases hc
    rw [List.takeWhile_cons_of_pos hdigit]
    exact List.cons_ne_nil _ _

/-- The number at the start of a string. -/
theorem StartsWithDigit.isDecimal (h : StartsWithDigit s) :
    IsDecimal (decimalValue (s.takeWhile Char.isDigit)) (s.takeWhile Char.isDigit) :=
  ⟨h.takeWhile_ne_nil, fun _ hc => List.mem_takeWhile_imp hc, rfl⟩

theorem takeWhile_digits (hdigits : ∀ c ∈ digits, c.isDigit) (hrest : ¬ StartsWithDigit rest) :
    (digits ++ rest).takeWhile Char.isDigit = digits := by
  rw [List.takeWhile_append_of_pos hdigits]
  cases rest with
  | nil => simp
  | cons c t =>
    have hc : ¬ c.isDigit := fun hc => hrest ⟨c, rfl, hc⟩
    rw [List.takeWhile_cons_of_neg hc, List.append_nil]

theorem dropWhile_digits (hdigits : ∀ c ∈ digits, c.isDigit) (hrest : ¬ StartsWithDigit rest) :
    (digits ++ rest).dropWhile Char.isDigit = rest := by
  rw [List.dropWhile_append_of_pos hdigits]
  cases rest with
  | nil => rfl
  | cons c t => exact List.dropWhile_cons_of_neg fun hc => hrest ⟨c, rfl, hc⟩

theorem IsDecimal.startsWithDigit (h : IsDecimal n digits) (rest : StdString) :
    StartsWithDigit (digits ++ rest) := by
  cases digits with
  | nil => exact absurd rfl h.nonempty
  | cons c t => exact ⟨c, rfl, h.digit c (List.mem_cons_self)⟩

end Prefix

/-! ## C strings -/

section CStrings
variable {s : StdString}

theorem cString_cons {c : Char} (hc : c ≠ '\x00') (t : StdString) :
    cString (c :: t) = c :: cString t := List.takeWhile_cons_of_pos (by simpa using hc)

theorem cString_cString (s : StdString) : cString (cString s) = cString s :=
  List.takeWhile_idem

theorem cString_eq_self (h : '\x00' ∉ s) : cString s = s := by
  refine List.takeWhile_eq_self_iff.mpr fun c hc => ?_
  have hne : c ≠ '\x00' := fun heq => h (heq ▸ hc)
  simpa using hne

theorem ne_nul_of_isDigit {c : Char} (h : c.isDigit) : c ≠ '\x00' := by
  rintro rfl
  cases h

/-- A C string ends where it ends, whatever is read of it first. -/
theorem takeWhile_cString (s : StdString) :
    (cString s).takeWhile Char.isDigit = s.takeWhile Char.isDigit ∧
      (cString s).dropWhile Char.isDigit = cString (s.dropWhile Char.isDigit) := by
  induction s with
  | nil => exact ⟨rfl, rfl⟩
  | cons c t ih =>
    by_cases hc : c.isDigit
    · rw [cString_cons (ne_nul_of_isDigit hc), List.takeWhile_cons_of_pos hc,
        List.takeWhile_cons_of_pos hc, List.dropWhile_cons_of_pos hc, List.dropWhile_cons_of_pos hc]
      exact ⟨congrArg (c :: ·) ih.1, ih.2⟩
    · rw [List.takeWhile_cons_of_neg hc, List.dropWhile_cons_of_neg hc]
      by_cases hnul : c = '\x00'
      · subst hnul
        exact ⟨rfl, rfl⟩
      · rw [cString_cons hnul, List.takeWhile_cons_of_neg hc, List.dropWhile_cons_of_neg hc]
        exact ⟨rfl, rfl⟩

theorem toNat_of_isDigit {c : Char} (h : c.isDigit) : 48 ≤ c.toNat := by
  unfold Char.isDigit at h
  rw [Bool.and_eq_true, decide_eq_true_eq] at h
  exact UInt32.le_iff_toNat_le.mp h.1

theorem not_isSpace_of_isDigit {c : Char} (h : c.isDigit) : ¬ isSpace c := by
  have hge := toNat_of_isDigit h
  unfold isSpace
  rw [Bool.or_eq_true, decide_eq_true_eq, Bool.and_eq_true, decide_eq_true_eq, decide_eq_true_eq]
  rintro (rfl | ⟨-, hle⟩)
  · exact absurd hge (by decide)
  · omega

/-- There is no white space and no sign to skip. -/
theorem numberPrefix_of_startsWithDigit (h : StartsWithDigit s) : numberPrefix s =
    (false, s.takeWhile Char.isDigit, cString (s.dropWhile Char.isDigit)) := by
  obtain ⟨htake, hdrop⟩ := takeWhile_cString s
  rw [← htake, ← hdrop]
  obtain ⟨c, hc, hdigit⟩ := h
  cases s with
  | nil => cases hc
  | cons d t =>
    cases hc
    unfold numberPrefix
    rw [cString_cons (ne_nul_of_isDigit hdigit),
      List.dropWhile_cons_of_neg (not_isSpace_of_isDigit hdigit)]
    split
    · next heq =>
      cases heq
      cases hdigit
    · next heq =>
      cases heq
      cases hdigit
    · rfl

theorem eq_cons_of_cString {c : Char} {t : StdString} (h : cString s = c :: t) :
    ∃ t', s = c :: t' ∧ cString t' = t := by
  cases s with
  | nil => cases h
  | cons d t' =>
    by_cases hd : d = '\x00'
    · subst hd
      cases h
    · rw [cString_cons hd] at h
      cases h
      exact ⟨t', rfl, rfl⟩

/-- All of a number is converted, unless it is too large. -/
theorem strtoul_of_isDecimal {n : ℕ} (h : IsDecimal n s) :
    strtoul s = (if 2 ^ 64 ≤ n then 2 ^ 64 - 1 else n, []) := by
  have hstart : StartsWithDigit s := by
    have := h.startsWithDigit []
    rwa [List.append_nil] at this
  have htake : s.takeWhile Char.isDigit = s := List.takeWhile_eq_self_iff.mpr h.digit
  have hdrop : s.dropWhile Char.isDigit = [] := List.dropWhile_eq_nil_iff.mpr h.digit
  unfold strtoul
  rw [numberPrefix_of_startsWithDigit hstart, htake, hdrop]
  simp only [List.isEmpty_eq_false_iff.mpr h.nonempty, unsignedLong, h.value]
  rfl

/-- One conversion: the number below `2 ^ 32` that the string starts with. -/
theorem scanUInt32_of_startsWithDigit (h : StartsWithDigit s)
    (hlt : decimalValue (s.takeWhile Char.isDigit) < 2 ^ 32) : scanUInt32 s =
      some (decimalValue (s.takeWhile Char.isDigit), cString (s.dropWhile Char.isDigit)) := by
  have hsmall : ¬ 2 ^ 64 ≤ decimalValue (s.takeWhile Char.isDigit) := by omega
  unfold scanUInt32
  rw [numberPrefix_of_startsWithDigit h]
  simp only [List.isEmpty_eq_false_iff.mpr h.takeWhile_ne_nil, unsignedLong, if_neg hsmall,
    Bool.false_eq_true, if_false, Nat.mod_eq_of_lt hlt]

theorem scanFields_cString (count : ℕ) (s : StdString) :
    scanFields count (cString s) = scanFields count s := by
  cases count with
  | zero => rfl
  | succ count =>
    have hscan : scanUInt32 (cString s) = scanUInt32 s := by
      unfold scanUInt32 numberPrefix
      rw [cString_cString]
    rw [scanFields, scanFields, hscan]

end CStrings

/-! ## Fields -/

theorem plainFields_of_beginsWith {numbers bounds : List ℕ} {s : StdString}
    (hbounds : List.Forall₂ (· < ·) numbers bounds) (h : BeginsWith numbers s) :
    PlainFields bounds s := by
  induction hbounds generalizing s with
  | nil => trivial
  | cons hlt hbounds ih =>
    obtain ⟨digits, rest, rfl, hdecimal, hrest, hmore⟩ := h
    unfold PlainFields
    rw [takeWhile_digits hdecimal.digit hrest, dropWhile_digits hdecimal.digit hrest, hdecimal.value]
    refine ⟨hdecimal.startsWithDigit rest, hlt, ?_⟩
    rcases hmore with rfl | ⟨rest', rfl, hbegins⟩
    · cases hbounds
      trivial
    · exact ih hbegins

/-- Of fields without signs and white space, the numbers are converted that are there. -/
theorem beginsWith_of_plainFields {bounds numbers : List ℕ} {s : StdString}
    (hbounds : ∀ bound ∈ bounds, bound ≤ 2 ^ 32) (h : PlainFields bounds s)
    (hscan : scanFields bounds.length s = numbers) (hlength : numbers.length = bounds.length) :
    BeginsWith numbers s ∧ List.Forall₂ (· < ·) numbers bounds := by
  induction bounds generalizing s numbers with
  | nil =>
    obtain rfl := List.length_eq_zero_iff.mp hlength
    exact ⟨trivial, .nil⟩
  | cons bound bounds ih =>
    obtain ⟨hstart, hlt, hrest⟩ := h
    have hbound := hbounds bound List.mem_cons_self
    have hsplit : s = s.takeWhile Char.isDigit ++ s.dropWhile Char.isDigit :=
      List.takeWhile_append_dropWhile.symm
    rw [List.length_cons, scanFields, scanUInt32_of_startsWithDigit hstart (by omega)] at hscan
    split at hscan
    · next heq => cases heq
    · next v rest heq =>
      obtain ⟨rfl, hdot⟩ := Prod.mk.inj (Option.some.inj heq)
      obtain ⟨t, hdrop, rfl⟩ := eq_cons_of_cString hdot
      rw [hdrop, List.drop_one, List.tail_cons] at hrest
      rw [scanFields_cString] at hscan
      subst hscan
      obtain ⟨hbegins, hless⟩ := ih (fun b hb => hbounds b (List.mem_cons_of_mem _ hb)) hrest rfl
        (Nat.succ.inj hlength)
      exact ⟨⟨_, _, hsplit, hstart.isDecimal, not_startsWithDigit_dropWhile s,
        Or.inr ⟨t, hdrop, hbegins⟩⟩, .cons hlt hless⟩
    · next v rest hnot heq =>
      obtain ⟨rfl, -⟩ := Prod.mk.inj (Option.some.inj heq)
      subst hscan
      obtain rfl : bounds = [] := List.length_eq_zero_iff.mp (Nat.succ.inj hlength).symm
      exact ⟨⟨_, _, hsplit, hstart.isDecimal, not_startsWithDigit_dropWhile s, Or.inl rfl⟩,
        .cons hlt .nil⟩

end OpenXRSdk
