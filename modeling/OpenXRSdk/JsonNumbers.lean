import OpenXRSdk.JsonWriter
import OpenXRSdk.DecimalNumbers

/-!
# Numbers in a JSON text

The scanner takes the longest text that a number can have. An integer is decoded exactly
when it fits into 64 bits, and every other text of a number goes to the conversion of doubles.
-/
namespace OpenXRSdk.Json

/-! ## The texts of numbers -/

def IsDigits (s : StdString) : Prop := ∀ c ∈ s, c.isDigit

def IsFraction (s : StdString) : Prop := s = [] ∨ ∃ digits, s = '.' :: digits ∧ IsDigits digits

def IsSign (s : StdString) : Prop := s = [] ∨ s = ['+'] ∨ s = ['-']

def IsExponent (s : StdString) : Prop :=
  s = [] ∨ ∃ c sign digits, s = c :: (sign ++ digits) ∧ (c = 'e' ∨ c = 'E') ∧ IsSign sign ∧
    IsDigits digits

/-- What may follow the first character of a number. -/
def NumberTail (s : StdString) : Prop :=
  ∃ digits fraction exponent, s = digits ++ (fraction ++ exponent) ∧ IsDigits digits ∧
    IsFraction fraction ∧ IsExponent exponent

/-- What the scanner calls a number: also a sign alone, and no digits after a dot. -/
def NumberText (s : StdString) : Prop :=
  ∃ first tail, s = first :: tail ∧ (first = '-' ∨ first = '+' ∨ first.isDigit) ∧ NumberTail tail

def readTail (current : Location) : Location := skipExponent (skipFraction (skipDigits current))

theorem skipDigits_append {digits : StdString} (h : IsDigits digits) (rest : Location) :
    skipDigits (digits ++ rest) = skipDigits rest :=
  List.dropWhile_append_of_pos h

theorem skipDigits_cons {c : Char} (h : ¬ c.isDigit) (rest : Location) :
    skipDigits (c :: rest) = c :: rest :=
  List.dropWhile_cons_of_neg h

theorem skipDigits_eq (current : Location) :
    ∃ digits, current = digits ++ skipDigits current ∧ IsDigits digits :=
  ⟨current.takeWhile Char.isDigit, List.takeWhile_append_dropWhile.symm,
    fun _ hc => List.mem_takeWhile_imp hc⟩

theorem skipFraction_eq (current : Location) :
    ∃ fraction, current = fraction ++ skipFraction current ∧ IsFraction fraction := by
  fun_cases skipFraction current with
  | case1 current =>
    obtain ⟨digits, hdigits, h⟩ := skipDigits_eq current
    exact ⟨'.' :: digits, congrArg ('.' :: ·) hdigits, .inr ⟨digits, rfl, h⟩⟩
  | case2 => exact ⟨[], rfl, .inl rfl⟩

theorem skipSign_eq (current : Location) :
    ∃ sign, current = sign ++ skipSign current ∧ IsSign sign := by
  fun_cases skipSign current with
  | case1 => exact ⟨['+'], rfl, .inr (.inl rfl)⟩
  | case2 => exact ⟨['-'], rfl, .inr (.inr rfl)⟩
  | case3 => exact ⟨[], rfl, .inl rfl⟩

theorem skipExponent_eq (current : Location) :
    ∃ exponent, current = exponent ++ skipExponent current ∧ IsExponent exponent := by
  have hsigned (c : Char) (hc : c = 'e' ∨ c = 'E') (s : Location) : ∃ exponent,
      c :: s = exponent ++ skipDigits (skipSign s) ∧ IsExponent exponent := by
    obtain ⟨sign, hsign, hs⟩ := skipSign_eq s
    obtain ⟨digits, hdigits, hd⟩ := skipDigits_eq (skipSign s)
    refine ⟨c :: (sign ++ digits), ?_, .inr ⟨c, sign, digits, rfl, hc, hs, hd⟩⟩
    rw [List.cons_append, List.append_assoc, ← hdigits, ← hsign]
  fun_cases skipExponent current with
  | case1 current => exact hsigned 'e' (.inl rfl) current
  | case2 current => exact hsigned 'E' (.inr rfl) current
  | case3 => exact ⟨[], rfl, .inl rfl⟩

/-- What the scanner takes after the first character of a number is what may follow it. -/
theorem readTail_eq (current : Location) :
    ∃ tail, current = tail ++ readTail current ∧ NumberTail tail := by
  obtain ⟨digits, hdigits, hd⟩ := skipDigits_eq current
  obtain ⟨fraction, hfraction, hf⟩ := skipFraction_eq (skipDigits current)
  obtain ⟨exponent, hexponent, he⟩ := skipExponent_eq (skipFraction (skipDigits current))
  refine ⟨digits ++ (fraction ++ exponent), ?_, digits, fraction, exponent, rfl, hd, hf, he⟩
  rw [readTail, List.append_assoc, List.append_assoc, ← hexponent, ← hfraction, ← hdigits]

theorem length_skipDigits_append_le {digits : StdString} (h : IsDigits digits) (rest : Location) :
    (skipDigits (digits ++ rest)).length ≤ rest.length := by
  rw [skipDigits_append h]
  exact (suffix_skipDigits rest).length_le

theorem length_skipSign_append_le {sign digits : StdString} (hsign : IsSign sign)
    (hdigits : IsDigits digits) (rest : Location) :
    (skipDigits (skipSign (sign ++ (digits ++ rest)))).length ≤ rest.length := by
  rcases hsign with rfl | rfl | rfl
  · cases digits with
    | nil => exact (suffix_skipDigits _).length_le.trans (suffix_skipSign rest).length_le
    | cons c digits =>
      have hc := hdigits c (by simp)
      have hskip : skipSign ([] ++ (c :: digits ++ rest)) = c :: digits ++ rest := by
        rw [List.nil_append, List.cons_append, skipSign]
        · rintro _ h
          cases h
          cases hc
        · rintro _ h
          cases h
          cases hc
      rw [hskip]
      exact length_skipDigits_append_le hdigits rest
  · exact length_skipDigits_append_le hdigits rest
  · exact length_skipDigits_append_le hdigits rest

theorem length_skipExponent_append_le {exponent : StdString} (h : IsExponent exponent)
    (rest : Location) : (skipExponent (exponent ++ rest)).length ≤ rest.length := by
  rcases h with rfl | ⟨c, sign, digits, rfl, hc, hsign, hdigits⟩
  · exact (suffix_skipExponent rest).length_le
  · rw [List.cons_append, List.append_assoc]
    rcases hc with rfl | rfl <;> exact length_skipSign_append_le hsign hdigits rest

/-- An exponent is not taken for digits, and not for a fraction. -/
theorem length_skipExponent_skipFraction_le {exponent : StdString} (h : IsExponent exponent)
    (rest : Location) :
    (skipExponent (skipFraction (skipDigits (exponent ++ rest)))).length ≤ rest.length := by
  rcases h with rfl | ⟨c, sign, digits, rfl, hc, hsign, hdigits⟩
  · exact (suffix_skipExponent _).length_le.trans
      ((suffix_skipFraction _).length_le.trans (suffix_skipDigits rest).length_le)
  · have hskip : skipFraction (skipDigits (c :: (sign ++ digits) ++ rest)) =
        c :: (sign ++ digits) ++ rest := by
      rcases hc with rfl | rfl <;> rfl
    rw [hskip]
    exact length_skipExponent_append_le (.inr ⟨c, sign, digits, rfl, hc, hsign, hdigits⟩) rest

/-- The scanner takes at least as much as may follow the first character. -/
theorem length_readTail_append_le {tail : StdString} (h : NumberTail tail) (rest : Location) :
    (readTail (tail ++ rest)).length ≤ rest.length := by
  obtain ⟨digits, fraction, exponent, rfl, hdigits, hfraction, hexponent⟩ := h
  rw [readTail, List.append_assoc, skipDigits_append hdigits]
  rcases hfraction with rfl | ⟨digits', rfl, hdigits'⟩
  · exact length_skipExponent_skipFraction_le hexponent rest
  · rw [List.cons_append, List.cons_append, skipDigits_cons (by decide), skipFraction,
      List.append_assoc, skipDigits_append hdigits']
    rcases hexponent with rfl | ⟨c, sign, digits, rfl, hc, hsign, hdigits⟩
    · exact (suffix_skipExponent _).length_le.trans (suffix_skipDigits rest).length_le
    · have hskip : skipDigits (c :: (sign ++ digits) ++ rest) = c :: (sign ++ digits) ++ rest := by
        rcases hc with rfl | rfl <;> rfl
      rw [hskip]
      exact length_skipExponent_append_le (.inr ⟨c, sign, digits, rfl, hc, hsign, hdigits⟩) rest

/-- The number cannot be made longer by what follows it; and it is no sign before the letter
that the scanner refuses after one. -/
def EndsNumber (text rest : StdString) : Prop :=
  (∀ longer, NumberText longer → longer <+: text ++ rest → longer.length ≤ text.length) ∧
    (text = ['-'] ∨ text = ['+'] → rest.head? ≠ some 'I')

/-- The scanner stops where the longest number ends. -/
theorem readTail_of_endsNumber {first : Char} {tail rest : StdString} (h : NumberText (first :: tail))
    (hends : EndsNumber (first :: tail) rest) : readTail (tail ++ rest) = rest := by
  obtain ⟨first', tail', heq, hfirst, htail⟩ := h
  cases heq
  obtain ⟨taken, htaken, htaken'⟩ := readTail_eq (tail ++ rest)
  have hle := length_readTail_append_le htail rest
  have hlonger := hends.1 (first :: taken) ⟨first, taken, rfl, hfirst, htaken'⟩
    ⟨readTail (tail ++ rest), by rw [List.cons_append, ← htaken, List.cons_append]⟩
  have hlength := congrArg List.length htaken
  simp only [List.length_append, List.length_cons] at hlength hlonger
  exact (List.append_inj' htaken (by omega)).2.symm

theorem endsNumber_readTail {first : Char} (current : Location) {taken : StdString}
    (htaken : current = taken ++ readTail current)
    (hsign : first = '-' ∨ first = '+' → taken = [] → (readTail current).head? ≠ some 'I') :
    EndsNumber (first :: taken) (readTail current) := by
  constructor
  · rintro longer ⟨first', tail, rfl, hfirst, htail⟩ ⟨rest, hrest⟩
    rw [List.cons_append, List.cons_append, ← htaken] at hrest
    obtain ⟨-, hrest⟩ := List.cons.inj hrest
    have hle := length_readTail_append_le htail rest
    rw [hrest] at hle
    have hlength := congrArg List.length htaken
    have hlength' := congrArg List.length hrest
    simp only [List.length_append, List.length_cons] at hlength hlength' ⊢
    omega
  · rintro (h | h) <;> obtain ⟨rfl, rfl⟩ := List.cons.inj h
    · exact hsign (.inl rfl) rfl
    · exact hsign (.inr rfl) rfl

theorem isBlank_of_isDigit {c : Char} (h : c.isDigit) : isBlank c = false := by
  have hge := toNat_of_isDigit h
  unfold isBlank
  simp only [Bool.or_eq_false_iff, decide_eq_false_iff_not]
  refine ⟨⟨⟨?_, ?_⟩, ?_⟩, ?_⟩ <;> rintro rfl <;> exact absurd hge (by decide)

theorem readNumber_eq (checkInf : Bool) {current : Location}
    (h : checkInf = true → current.head? ≠ some 'I') :
    readNumber checkInf current = (true, readTail current) := by
  rw [readNumber, if_neg]
  · rfl
  · rw [Bool.and_eq_true, decide_eq_true_eq]
    rintro ⟨hcheck, hhead⟩
    exact h hcheck hhead

theorem readFrom_of_isDigit {c : Char} (h : c.isDigit) (current : Location) :
    readFrom c current = (.number, readTail current) := by
  unfold readFrom
  split
  case h_15 => rw [if_pos h, readNumber_eq false (by simp)]; rfl
  all_goals cases h

/-- A number, read as one token. -/
theorem readToken_number {text rest : StdString} (h : NumberText text) (hends : EndsNumber text rest) :
    readToken (text ++ rest) = ⟨.number, text ++ rest, rest⟩ := by
  obtain ⟨first, tail, rfl, hfirst, htail⟩ := id h
  have hread := readTail_of_endsNumber h hends
  have hhead (hsign : first = '-' ∨ first = '+') : (tail ++ rest).head? ≠ some 'I' := by
    cases tail with
    | nil => exact hends.2 (hsign.imp (congrArg (· :: [])) (congrArg (· :: [])))
    | cons c tail =>
      rintro hI
      cases Option.some.inj hI
      obtain ⟨digits, fraction, exponent, heq, hdigits, hfraction, hexponent⟩ := htail
      cases digits with
      | cons d digits =>
        cases heq
        exact absurd (hdigits 'I' (by simp)) (by decide)
      | nil =>
        rcases hfraction with rfl | ⟨digits, rfl, -⟩
        · rcases hexponent with rfl | ⟨c, sign, digits, rfl, hc, -⟩
          · cases heq
          · cases heq
            exact absurd hc (by decide)
        · cases heq
  have hblank : isBlank first = false := by
    rcases hfirst with rfl | rfl | hdigit
    · rfl
    · rfl
    · exact isBlank_of_isDigit hdigit
  have hfrom : readFrom first (tail ++ rest) = (.number, rest) := by
    rcases hfirst with rfl | rfl | hdigit
    · simp only [readFrom, readNumber_eq true fun _ => hhead (.inl rfl), hread]
      rfl
    · simp only [readFrom, readNumber_eq true fun _ => hhead (.inr rfl), hread]
      rfl
    · rw [readFrom_of_isDigit hdigit, hread]
  rw [List.cons_append, readToken, skipSpaces, List.dropWhile_cons_of_neg (by simp [hblank])]
  simp only [hfrom]

/-- A number token is a number, and as long as can be. -/
theorem numberText_of_readFrom {c : Char} {current : Location}
    (h : (readFrom c current).1 = .number) :
    ∃ text, c :: current = text ++ (readFrom c current).2 ∧ NumberText text ∧
      EndsNumber text (readFrom c current).2 := by
  have hread (hc : c = '-' ∨ c = '+' ∨ c.isDigit) (hfrom : readFrom c current = (.number, readTail current))
      (hsign : c = '-' ∨ c = '+' → current.head? ≠ some 'I') :
      ∃ text, c :: current = text ++ (readFrom c current).2 ∧ NumberText text ∧
        EndsNumber text (readFrom c current).2 := by
    obtain ⟨taken, htaken, htail⟩ := readTail_eq current
    rw [hfrom]
    refine ⟨c :: taken, congrArg (c :: ·) htaken, ⟨c, taken, rfl, hc, htail⟩,
      endsNumber_readTail current htaken fun hs hnil => ?_⟩
    rw [hnil, List.nil_append] at htaken
    rw [← htaken]
    exact hsign hs
  have hsigned (hread' : readFrom c current = accept .number (readNumber true current)) :
      readFrom c current = (.number, readTail current) ∧ current.head? ≠ some 'I' := by
    by_cases hI : current.head? = some 'I'
    · rw [hread', readNumber, if_pos (by simp [hI])] at h
      cases h
    · rw [hread', readNumber_eq true fun _ => hI]
      exact ⟨rfl, hI⟩
  by_cases hdigit : c.isDigit
  · refine hread (.inr (.inr hdigit)) (readFrom_of_isDigit hdigit current) ?_
    rintro (rfl | rfl) <;> cases hdigit
  by_cases hminus : c = '-'
  · obtain ⟨hfrom, hI⟩ := hsigned (by rw [hminus]; rfl)
    exact hread (.inl hminus) hfrom fun _ => hI
  by_cases hplus : c = '+'
  · obtain ⟨hfrom, hI⟩ := hsigned (by rw [hplus]; rfl)
    exact hread (.inr (.inl hplus)) hfrom fun _ => hI
  · unfold readFrom at h
    split at h
    case h_7 => exact absurd rfl hminus
    case h_8 => exact absurd rfl hplus
    case h_15 =>
      rw [if_neg hdigit] at h
      cases h
    all_goals first
      | (cases h)
      | (unfold accept at h; split at h <;> cases h)

/-! ### Where a number ends by itself -/

def IsNumberChar (c : Char) : Prop := c.isDigit ∨ c = '.' ∨ c = '+' ∨ c = '-' ∨ c = 'e' ∨ c = 'E'

theorem isNumberChar_of_mem {text : StdString} (h : NumberText text) {c : Char} (hc : c ∈ text) :
    IsNumberChar c := by
  obtain ⟨first, tail, rfl, hfirst, digits, fraction, exponent, rfl, hdigits, hfraction, hexponent⟩ := h
  simp only [List.mem_cons, List.mem_append] at hc
  unfold IsNumberChar
  rcases hc with rfl | hc | hc | hc
  · rcases hfirst with h | h | h <;> simp [h]
  · exact .inl (hdigits c hc)
  · rcases hfraction with rfl | ⟨digits', rfl, hdigits'⟩
    · cases hc
    · rcases List.mem_cons.mp hc with rfl | hc
      · simp
      · exact .inl (hdigits' c hc)
  · rcases hexponent with rfl | ⟨e, sign, digits', rfl, he, hsign, hdigits'⟩
    · cases hc
    · rcases List.mem_cons.mp hc with rfl | hc
      · rcases he with h | h <;> simp [h]
      · rcases List.mem_append.mp hc with hc | hc
        · rcases hsign with rfl | rfl | rfl <;> simp_all
        · exact .inl (hdigits' c hc)

/-- Before a character that no number has, a number ends. -/
theorem endsNumber_of_head {text : StdString} {rest : Location}
    (h : ∀ c ∈ rest.head?, ¬ IsNumberChar c ∧ c ≠ 'I') : EndsNumber text rest := by
  constructor
  · rintro longer hlonger ⟨after, hafter⟩
    by_contra hlt
    obtain ⟨c, rest', rfl⟩ : ∃ c rest', rest = c :: rest' := by
      cases rest with
      | nil =>
        have hlength := congrArg List.length hafter
        simp only [List.length_append, List.length_nil] at hlength
        omega
      | cons c rest' => exact ⟨c, rest', rfl⟩
    refine (h c rfl).1 (isNumberChar_of_mem hlonger ?_)
    have hone : text ++ [c] <+: text ++ c :: rest' := ⟨rest', by simp⟩
    have hprefix : text ++ [c] <+: longer := by
      refine List.prefix_of_prefix_length_le hone ⟨after, hafter⟩ ?_
      simp only [List.length_append, List.length_cons, List.length_nil]
      omega
    exact hprefix.subset (by simp)
  · rintro - hI
    exact (h 'I' hI).2 rfl

/-! ## Integers -/

/-- The value of digits after the value of those before them. -/
def valueFrom (value : ℕ) (digits : StdString) : ℕ :=
  digits.foldl (fun n c => 10 * n + (c.toNat - 48)) value

theorem le_valueFrom (value : ℕ) (digits : StdString) : value ≤ valueFrom value digits := by
  induction digits generalizing value with
  | nil => exact Nat.le_refl _
  | cons c digits ih => exact le_trans (by omega) (ih (10 * value + (c.toNat - 48)))

theorem digit_le {c : Char} (h : c.isDigit) : c.toNat - 48 ≤ 9 := by
  unfold Char.isDigit at h
  rw [Bool.and_eq_true, decide_eq_true_eq, decide_eq_true_eq] at h
  have := UInt32.le_iff_toNat_le.mp h.2
  change c.toNat ≤ 57 at this
  omega

/-- The loop over the digits stops exactly when the value would exceed the bound. Below the bound
nothing wraps. -/
theorem decodeInteger_digits {threshold maxLastDigit : ℕ} (hthreshold : 0 < threshold)
    (hdigit : maxLastDigit ≤ 9) (hbound : threshold * 10 + maxLastDigit < 2 ^ 64)
    {digits : StdString} (h : IsDigits digits) {value : ℕ}
    (hvalue : value ≤ threshold * 10 + maxLastDigit) :
    decodeInteger threshold maxLastDigit value digits =
      if valueFrom value digits ≤ threshold * 10 + maxLastDigit then some (valueFrom value digits)
      else none := by
  induction digits generalizing value with
  | nil => rw [decodeInteger, valueFrom, List.foldl_nil, if_pos hvalue]
  | cons c digits ih =>
    have hc := h c (by simp)
    have hle := digit_le hc
    have hzero : '0'.toNat = 48 := rfl
    have hnext : valueFrom value (c :: digits) = valueFrom (value * 10 + (c.toNat - 48)) digits := by
      rw [valueFrom, List.foldl_cons, Nat.mul_comm]
      rfl
    have hgrow := le_valueFrom (value * 10 + (c.toNat - 48)) digits
    rw [decodeInteger, if_neg (not_not.mpr hc), hzero, hnext]
    by_cases hstop : threshold ≤ value ∧
        (threshold < value ∨ digits ≠ [] ∨ maxLastDigit < c.toNat - 48)
    · rw [if_pos hstop, if_neg]
      obtain ⟨hreached, hover | hmore | hlast⟩ := hstop
      · omega
      · obtain ⟨d, digits, rfl⟩ := List.exists_cons_of_ne_nil hmore
        have hgrow' := le_valueFrom (10 * (value * 10 + (c.toNat - 48)) + (d.toNat - 48)) digits
        change _ ≤ valueFrom (value * 10 + (c.toNat - 48)) (d :: digits) at hgrow'
        omega
      · omega
    · have hnext' : value * 10 + (c.toNat - 48) ≤ threshold * 10 + maxLastDigit := by omega
      rw [if_neg hstop, Nat.mod_eq_of_lt (lt_of_le_of_lt hnext' hbound)]
      exact ih (fun d hd => h d (by simp [hd])) hnext'

/-- With any other character in it the text is no integer. -/
theorem decodeInteger_of_not_isDigits (threshold maxLastDigit value : ℕ) {text : StdString}
    (h : ¬ IsDigits text) : decodeInteger threshold maxLastDigit value text = none := by
  induction text generalizing value with
  | nil => exact absurd (by simp [IsDigits]) h
  | cons c text ih =>
    rw [decodeInteger]
    split_ifs with hc hstop
    · rfl
    · refine ih _ fun htext => h fun d hd => ?_
      rcases List.mem_cons.mp hd with rfl | hd
      · exact hc
      · exact htext d hd
    · rfl

variable (readDouble : StdString → Option ℚ)

theorem decodeNumber_digits {digits : StdString} (h : IsDigits digits) :
    decodeNumber readDouble digits =
      if decimalValue digits < 2 ^ 63 then .ok (.int (decimalValue digits))
      else if decimalValue digits < 2 ^ 64 then .ok (.uint (decimalValue digits))
      else decodeDouble readDouble digits := by
  have hsign : digits.head? ≠ some '-' := by
    rintro hhead
    exact absurd (h '-' (List.mem_of_mem_head? hhead)) (by decide)
  have hread : decodeInteger (maxLargestUInt / 10) (maxLargestUInt % 10) 0 digits =
      if decimalValue digits ≤ 18446744073709551615 then some (decimalValue digits) else none :=
    decodeInteger_digits (by decide) (by decide) (by decide) h (by decide)
  rw [decodeNumber, if_neg hsign, hread]
  by_cases h₁ : decimalValue digits < 2 ^ 64
  · rw [if_pos (by omega)]
    by_cases h₂ : decimalValue digits < 2 ^ 63
    · rw [if_pos h₂]
      exact congrArg Except.ok (if_pos (show _ ≤ 2 ^ 63 - 1 by omega))
    · rw [if_neg h₂, if_pos h₁]
      exact congrArg Except.ok (if_neg (show ¬ _ ≤ 2 ^ 63 - 1 by omega))
  · rw [if_neg (by omega), if_neg (by omega), if_neg h₁]

theorem decodeNumber_minus {digits : StdString} (h : IsDigits digits) :
    decodeNumber readDouble ('-' :: digits) =
      if decimalValue digits ≤ 2 ^ 63 then .ok (.int (-decimalValue digits))
      else decodeDouble readDouble ('-' :: digits) := by
  have hread : decodeInteger ((maxLargestInt + 1) / 10) ((maxLargestInt + 1) % 10) 0 digits =
      if decimalValue digits ≤ 9223372036854775808 then some (decimalValue digits) else none :=
    decodeInteger_digits (by decide) (by decide) (by decide) h (by decide)
  rw [decodeNumber, if_pos (by rfl), List.drop_succ_cons, List.drop_zero, hread]
  by_cases hle : decimalValue digits ≤ 2 ^ 63
  · rw [if_pos (by omega), if_pos hle]
    have hvalue : -((decimalValue digits / 10 : ℕ) : ℤ) * 10 - (decimalValue digits % 10 : ℕ) =
        -decimalValue digits := by omega
    exact congrArg (fun value => Except.ok (Value.int value)) hvalue
  · rw [if_neg (by omega), if_neg hle]

def unsignedPart (text : StdString) : StdString := if text.head? = some '-' then text.drop 1 else text

theorem decodeNumber_of_not_isDigits {text : StdString} (h : ¬ IsDigits (unsignedPart text)) :
    decodeNumber readDouble text = decodeDouble readDouble text := by
  rw [decodeNumber]
  unfold unsignedPart at h
  split_ifs at h with hsign
  · rw [if_pos hsign, decodeInteger_of_not_isDigits _ _ _ h]
  · rw [if_neg hsign, decodeInteger_of_not_isDigits _ _ _ h]

instance : DecidablePred IsDigits := fun s => inferInstanceAs (Decidable (∀ c ∈ s, c.isDigit))

/-- What a text of digits stands for, behind a minus sign or not. -/
def integerValue (text : StdString) : ℤ :=
  if text.head? = some '-' then -decimalValue (text.drop 1) else decimalValue text

/-- An integer that fits into 64 bits, with or without a sign, is read exactly. Every other text
is read as a double, and no value is ever wrapped or cut off. -/
theorem decodeNumber_exact (text : StdString) : decodeNumber readDouble text =
    if IsDigits (unsignedPart text) ∧ -2 ^ 63 ≤ integerValue text ∧ integerValue text < 2 ^ 64 then
      .ok (if integerValue text < 2 ^ 63 then .int (integerValue text)
        else .uint (integerValue text).toNat)
    else decodeDouble readDouble text := by
  by_cases hdigits : IsDigits (unsignedPart text)
  · by_cases hsign : text.head? = some '-'
    · obtain ⟨digits, rfl⟩ : ∃ digits, text = '-' :: digits := List.head?_eq_some_iff.mp hsign
      have hvalue : integerValue ('-' :: digits) = -decimalValue digits := rfl
      rw [decodeNumber_minus readDouble (show IsDigits digits from hdigits), hvalue]
      by_cases hle : decimalValue digits ≤ 2 ^ 63
      · rw [if_pos hle, if_pos ⟨hdigits, by omega, by omega⟩, if_pos (by omega)]
      · rw [if_neg hle, if_neg fun h => hle (by omega)]
    · have hvalue : integerValue text = decimalValue text := if_neg hsign
      have hunsigned : unsignedPart text = text := if_neg hsign
      rw [decodeNumber_digits readDouble (hunsigned ▸ hdigits), hvalue]
      by_cases hint : decimalValue text < 2 ^ 63
      · rw [if_pos hint, if_pos ⟨hdigits, by omega, by omega⟩, if_pos (by omega)]
      · rw [if_neg hint]
        by_cases huint : decimalValue text < 2 ^ 64
        · rw [if_pos huint, if_pos ⟨hdigits, by omega, by omega⟩, if_neg (by omega), Int.toNat_natCast]
        · rw [if_neg huint, if_neg fun h => huint (by omega)]
  · rw [decodeNumber_of_not_isDigits readDouble hdigits, if_neg fun h => hdigits h.1]

/-! ## Numbers written -/

theorem isDigits_uintToString (value : ℕ) : IsDigits (uintToString value) :=
  fun _ hc => Nat.isDigit_of_mem_toDigits (by decide) (by decide) hc

theorem uintToString_ne_nil (value : ℕ) : uintToString value ≠ [] := by
  rw [uintToString, Nat.toDigits_eq_if (by decide)]
  split_ifs <;> simp

theorem decimalValue_uintToString (value : ℕ) : decimalValue (uintToString value) = value :=
  Nat.ofDigitChars_ten_toDigits

theorem decodeNumber_uintToString {value : ℕ} (h : value < 2 ^ 64) :
    decodeNumber readDouble (uintToString value) =
      .ok (if value < 2 ^ 63 then .int value else .uint value) := by
  rw [decodeNumber_digits readDouble (isDigits_uintToString value), decimalValue_uintToString]
  split_ifs <;> rfl

theorem decodeNumber_intToString {value : ℤ} (h : -2 ^ 63 ≤ value) (h' : value < 2 ^ 63) :
    decodeNumber readDouble (intToString value) = .ok (.int value) := by
  rw [intToString]
  split_ifs with hneg
  · rw [decodeNumber_minus readDouble (isDigits_uintToString _), decimalValue_uintToString,
      if_pos (by omega), Int.toNat_of_nonneg (by omega), neg_neg]
  · rw [decodeNumber_uintToString readDouble (by omega), if_pos (by omega),
      Int.toNat_of_nonneg (by omega)]

theorem numberTail_of_isDigits {digits : StdString} (h : IsDigits digits) : NumberTail digits :=
  ⟨digits, [], [], by simp, h, .inl rfl, .inl rfl⟩

theorem numberText_uintToString (value : ℕ) : NumberText (uintToString value) := by
  obtain ⟨c, digits, heq⟩ := List.exists_cons_of_ne_nil (uintToString_ne_nil value)
  have hdigits := isDigits_uintToString value
  rw [heq] at hdigits ⊢
  exact ⟨c, digits, rfl, .inr (.inr (hdigits c (by simp))),
    numberTail_of_isDigits fun d hd => hdigits d (by simp [hd])⟩

theorem numberText_intToString (value : ℤ) : NumberText (intToString value) := by
  rw [intToString]
  split_ifs
  · exact ⟨'-', _, rfl, .inl rfl, numberTail_of_isDigits (isDigits_uintToString _)⟩
  · exact numberText_uintToString _

end OpenXRSdk.Json
