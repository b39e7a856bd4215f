import OpenXRSdk.JsonParsing

/-!
# Failures of the reader

However a document is broken, the reader comes back with one error for it, at a place that lies
in the document, or raises an exception, unless it loses count of the elements of an array.
-/
namespace OpenXRSdk.Json

variable {features : OurFeatures}

/-! ## Places in the document -/

theorem suffix_readTokenSkippingComments (features : OurFeatures) (current : Location) :
    (readTokenSkippingComments features current).stop <:+
        (readTokenSkippingComments features current).start ∧
      (readTokenSkippingComments features current).start <:+ current := by
  fun_induction readTokenSkippingComments features current with
  | case1 current h ih =>
    have htoken := suffix_readToken current
    exact ⟨ih.1, ih.2.trans (htoken.1.trans htoken.2)⟩
  | case2 current h => exact suffix_readToken current

theorem length_readTokenSkippingComments_lt {current : Location}
    (h : (readTokenSkippingComments features current).type ≠ .endOfStream) :
    (readTokenSkippingComments features current).stop.length < current.length := by
  fun_induction readTokenSkippingComments features current with
  | case1 current hcomment ih =>
    exact (ih h).trans (length_readToken_lt (by rw [hcomment.2]; decide))
  | case2 current _ => exact length_readToken_lt h

theorem suffix_skipUntil (type : TokenType) (current : Location) :
    skipUntil type current <:+ current := by
  fun_induction skipUntil type current with
  | case1 current h =>
    have htoken := suffix_readToken current
    exact htoken.1.trans htoken.2
  | case2 current h ih =>
    have htoken := suffix_readToken current
    exact ih.trans (htoken.1.trans htoken.2)

theorem except_bind_eq_error {ε α β : Type} {x : Except ε α} {f : α → Except ε β} {e : ε} :
    x >>= f = .error e ↔ x = .error e ∨ ∃ a, x = .ok a ∧ f a = .error e := by
  cases x with
  | error e' => simp [bind, Except.bind]
  | ok a => simp [bind, Except.bind]

section DecodeErrors
variable {why : DecodeError}

theorem suffix_decodeHexDigits {count unicode : ℕ} {current : StdString}
    (h : decodeHexDigits count unicode current = .error why) : why.2 <:+ current := by
  fun_induction decodeHexDigits count unicode current with
  | case1 => cases h
  | case2 count unicode c current digit _ ih => exact (ih h).trans (List.suffix_cons c current)
  | case3 count unicode c current _ =>
    cases h
    exact List.suffix_cons c current
  | case4 =>
    cases h
    exact List.suffix_rfl

theorem suffix_decodeUnicodeEscapeSequence {current : StdString}
    (h : decodeUnicodeEscapeSequence current = .error why) : why.2 <:+ current := by
  unfold decodeUnicodeEscapeSequence at h
  split_ifs at h
  · cases h
    exact List.suffix_rfl
  · exact suffix_decodeHexDigits h

theorem suffix_decodeSurrogate {unicode : ℕ} {current : StdString}
    (h : decodeSurrogate unicode current = .error why) : why.2 <:+ current := by
  unfold decodeSurrogate at h
  split_ifs at h
  · cases h
    exact List.suffix_rfl
  split at h
  · rename_i current _
    rcases except_bind_eq_error.mp h with h | ⟨_, _, h⟩
    · exact (suffix_decodeUnicodeEscapeSequence h).trans (List.suffix_append ['\\', 'u'] current)
    · cases h
  · rename_i c current _ _
    cases h
    exact List.suffix_append ['\\', c] current
  · cases h
    exact List.drop_suffix _ _

theorem suffix_decodeUnicodeCodePoint {current : StdString}
    (h : decodeUnicodeCodePoint current = .error why) : why.2 <:+ current := by
  unfold decodeUnicodeCodePoint at h
  rcases except_bind_eq_error.mp h with h | ⟨unicode, _, h⟩
  · exact suffix_decodeUnicodeEscapeSequence h
  split_ifs at h
  · rcases except_bind_eq_error.mp h with h | ⟨_, _, h⟩
    · exact (suffix_decodeSurrogate h).trans (List.drop_suffix _ _)
    · cases h
  · cases h

theorem suffix_decodeEscape {c : Char} {current : StdString}
    (h : decodeEscape c current = .error why) : why.2 <:+ current := by
  unfold decodeEscape at h
  split at h
  case h_9 =>
    rcases except_bind_eq_error.mp h with h | ⟨_, _, h⟩
    · exact suffix_decodeUnicodeCodePoint h
    · cases h
  case h_10 =>
    cases h
    exact List.suffix_rfl
  all_goals cases h

/-- A string is found wrong at a place in it. -/
theorem suffix_decodeCharacters {s : StdString} (h : decodeCharacters s = .error why) :
    why.2 <:+ s := by
  fun_induction decodeCharacters s with
  | case1 => cases h
  | case2 => cases h
  | case3 =>
    cases h
    exact List.nil_suffix
  | case4 c current ih =>
    rcases except_bind_eq_error.mp h with h | ⟨first, _, h⟩
    · exact (suffix_decodeEscape h).trans (List.suffix_append ['\\', c] current)
    · rcases except_bind_eq_error.mp h with h | ⟨_, _, h⟩
      · exact (ih _ h).trans ((List.drop_suffix _ _).trans (List.suffix_append ['\\', c] current))
      · cases h
  | case5 c current h₁ h₂ h₃ ih =>
    rcases except_bind_eq_error.mp h with h | ⟨_, _, h⟩
    · exact (ih h).trans (List.suffix_cons c current)
    · cases h

end DecodeErrors

/-! ## Outcomes -/

/-- The token of an error, and the place that it gives for detail, lie in the document. -/
structure ErrorInfo.LiesIn (e : ErrorInfo) (document : Location) : Prop where
  start : e.token.start <:+ document
  stop : e.token.stop <:+ document
  extra : ∀ place ∈ e.extra, place <:+ document

/-- The reader has gone on and added no error. -/
structure Reached (s t : ReaderState) : Prop where
  suffix : t.current <:+ s.current
  errors : t.errors = s.errors

structure Failed (s t : ReaderState) : Prop where
  suffix : t.current <:+ s.current
  errors : ∃ e, t.errors = s.errors ++ [e] ∧ e.LiesIn s.current

/-- How a part of the reader may end, in a document of the given size: it has gone on, it has added
one error, or it has raised an exception. A large document may have more elements in an array
than an `int` counts. -/
structure Outcome {α : Type} (size : ℕ) (failed : α → Prop) (s : ReaderState)
    (result : EStateM.Result Fault ReaderState α) : Prop where
  reached : ∀ a t, result = .ok a t → ¬ failed a →
    Reached s t ∧ t.current.length < s.current.length
  failed : ∀ a t, result = .ok a t → failed a → Failed s t
  fault : ∀ fault t, result = .error fault t →
    fault = .exception ∨ fault = .undefinedBehaviour ∧ 2 ^ 32 ≤ size + 1

theorem ErrorInfo.LiesIn.mono {e : ErrorInfo} {document document' : Location}
    (h : e.LiesIn document) (hsuffix : document <:+ document') : e.LiesIn document' :=
  ⟨h.start.trans hsuffix, h.stop.trans hsuffix, fun place hplace =>
    (h.extra place hplace).trans hsuffix⟩

theorem Reached.trans {s t u : ReaderState} (h : Reached s t) (h' : Reached t u) : Reached s u :=
  ⟨h'.suffix.trans h.suffix, h'.errors.trans h.errors⟩

theorem Reached.failed {s t u : ReaderState} (h : Reached s t) (h' : Failed t u) : Failed s u := by
  obtain ⟨hsuffix, e, herrors, he⟩ := h'
  exact ⟨hsuffix.trans h.suffix, e, by rw [herrors, h.errors], he.mono h.suffix⟩

theorem reached_moveTo {s : ReaderState} {current : Location} (h : current <:+ s.current) :
    Reached s (s.moveTo current) := ⟨h, rfl⟩

theorem Failed.recover {s t : ReaderState} (h : Failed s t) (type : TokenType) :
    Failed s (t.recover type) :=
  ⟨(suffix_skipUntil type t.current).trans h.suffix, h.errors⟩

theorem Reached.addError {s t : ReaderState} (h : Reached s t) (message : StdString) {token : Token}
    (hstart : token.start <:+ s.current) (hstop : token.stop <:+ s.current)
    {extra : Option Location} (hextra : ∀ place ∈ extra, place <:+ s.current) :
    Failed s (t.addError message token extra) :=
  ⟨h.suffix, _, by rw [ReaderState.addError_errors, h.errors], hstart, hstop, hextra⟩

section Outcomes
variable {size : ℕ}

/-- A part that has gone on may be followed by another. -/
theorem Outcome.after {α : Type} {failed : α → Prop} {s t : ReaderState}
    {result : EStateM.Result Fault ReaderState α} (hreached : Reached s t)
    (h : Outcome size failed t result) : Outcome size failed s result := by
  refine ⟨fun a u heq ha => ?_, fun a u heq ha => hreached.failed (h.failed a u heq ha), h.fault⟩
  obtain ⟨hu, hlt⟩ := h.reached a u heq ha
  exact ⟨hreached.trans hu, lt_of_lt_of_le hlt hreached.suffix.length_le⟩

theorem outcome_failed {α : Type} {failed : α → Prop} {s t : ReaderState} {a : α} (ha : failed a)
    (h : Failed s t) : Outcome size failed s (.ok a t) := by
  refine ⟨fun _ _ heq hnot => ?_, fun _ _ heq _ => ?_, nofun⟩
  · cases heq
    exact absurd ha hnot
  · cases heq
    exact h

theorem outcome_reached {α : Type} {failed : α → Prop} {s t : ReaderState} {a : α}
    (ha : ¬ failed a) (h : Reached s t) (hlt : t.current.length < s.current.length) :
    Outcome size failed s (.ok a t) := by
  refine ⟨fun _ _ heq _ => ?_, fun _ _ heq hfailed => ?_, nofun⟩
  · cases heq
    exact ⟨h, hlt⟩
  · cases heq
    exact absurd hfailed ha

theorem outcome_fault {α : Type} {failed : α → Prop} {fault : Fault} (s t : ReaderState)
    (h : fault = .exception ∨ fault = .undefinedBehaviour ∧ 2 ^ 32 ≤ size + 1) :
    Outcome size failed s (.error fault t : EStateM.Result Fault ReaderState α) := by
  refine ⟨nofun, nofun, fun _ _ heq => ?_⟩
  cases heq
  exact h

/-- A value was read without success. -/
def Unsuccessful {α : Type} (read : Bool × α) : Prop := read.1 = false

/-- What is made of a value that has been read does not matter. -/
theorem Outcome.replace {α β : Type} {s t : ReaderState} {ok : Bool} {a : α}
    {result : EStateM.Result Fault ReaderState (Bool × α)} (h : Outcome size Unsuccessful s result)
    (heq : result = .ok (ok, a) t) (b : β) : Outcome size Unsuccessful s (.ok (ok, b) t) := by
  cases ok with
  | false => exact outcome_failed rfl (h.failed _ _ heq rfl)
  | true =>
    obtain ⟨hreached, hlt⟩ := h.reached _ _ heq nofun
    exact outcome_reached nofun hreached hlt

end Outcomes

theorem reached_stop (features : OurFeatures) {s t : ReaderState} (h : Reached s t) :
    Reached s (t.moveTo (readTokenSkippingComments features t.current).stop) :=
  h.trans (reached_moveTo
    ((suffix_readTokenSkippingComments features _).1.trans
      (suffix_readTokenSkippingComments features _).2))

/-- A token that should not be there is an error in the document. -/
theorem failed_token {s t : ReaderState} (h : Reached s t) (message : StdString) (type : TokenType) :
    Failed s (((t.moveTo (readTokenSkippingComments features t.current).stop).addError message
      (readTokenSkippingComments features t.current)).recover type) := by
  have htoken := suffix_readTokenSkippingComments features t.current
  exact ((reached_stop features h).addError message (htoken.2.trans h.suffix)
    (htoken.1.trans (htoken.2.trans h.suffix)) (by simp)).recover type

/-- A string that cannot be decoded is an error in the document. -/
theorem failed_decode {s : ReaderState} {why : DecodeError}
    (htype : (readTokenSkippingComments features s.current).type = .string)
    (hdecode : decodeCharacters (readTokenSkippingComments features s.current).inside = .error why) :
    Failed s (noteDecodeError (s.moveTo (readTokenSkippingComments features s.current).stop)
      (readTokenSkippingComments features s.current) why) := by
  have htoken := suffix_readTokenSkippingComments features s.current
  obtain ⟨gap, key, -, -, hinside, heq⟩ := string_of_readTokenSkippingComments htype
  obtain ⟨read, hread⟩ := suffix_decodeCharacters hdecode
  rw [hinside] at hread
  refine Reached.addError (reached_moveTo (htoken.1.trans htoken.2)) why.1 htoken.2
    (htoken.1.trans htoken.2) fun place hplace => ?_
  cases hplace
  refine ⟨gap ++ '"' :: read, ?_⟩
  conv_rhs => rw [heq, ← hread]
  simp

/-! ## The reader -/

section Parts
variable {rec : Value → Reader (Bool × Value)} {size : ℕ}
  (hrec : ∀ current s, s.current.length ≤ size → Outcome size Unsuccessful s (rec current s))
include hrec

/-- Each element of an array has at least one character, and a comma. -/
theorem readElements_outcome (features : OurFeatures) {turns : ℕ} {s : ReaderState}
    (elements : List Value) (hturns : s.current.length < turns)
    (hsize : 2 * elements.length + s.current.length < size) :
    Outcome size Unsuccessful s (readElements features rec turns elements s) := by
  induction turns generalizing s elements with
  | zero => exact absurd hturns (Nat.not_lt_zero _)
  | succ turns ih =>
    have hskip := suffix_skipSpaces s.current
    have hskipped : (skipSpaces s.current).length ≤ size := hskip.length_le.trans (by omega)
    rw [readElements_run]
    split_ifs with hdone hmany
    · have htoken := suffix_readToken (skipSpaces s.current)
      have htype : (readToken (skipSpaces s.current)).type ≠ .endOfStream := by
        obtain ⟨c, rest, hc⟩ : ∃ c rest, skipSpaces s.current = c :: rest := by
          cases h : skipSpaces s.current with
          | nil => simp [h] at hdone
          | cons c rest => exact ⟨c, rest, rfl⟩
        rw [hc] at hdone ⊢
        cases hdone.1
        rw [readToken_cons (by decide)]
        nofun
      exact outcome_reached nofun (reached_moveTo (htoken.1.trans (htoken.2.trans hskip)))
        (lt_of_lt_of_le (length_readToken_lt htype) hskip.length_le)
    · refine outcome_fault _ _ (.inr ⟨rfl, ?_⟩)
      have hint : Value.maxInt = 2 ^ 31 - 1 := rfl
      omega
    · have hread := hrec .null (s.moveTo (skipSpaces s.current)) hskipped
      split
      · rename_i fault t heq
        exact outcome_fault s t (hread.fault _ _ heq)
      · rename_i value t heq
        exact outcome_failed rfl (((reached_moveTo hskip).failed (hread.failed _ _ heq rfl)).recover _)
      · rename_i value t heq
        obtain ⟨hreached, hlt⟩ := hread.reached _ _ heq nofun
        have ht := (reached_moveTo hskip).trans hreached
        have hstop := reached_stop features ht
        have hlt' : t.current.length < s.current.length := lt_of_lt_of_le hlt hskip.length_le
        have hle := (reached_stop features ⟨List.suffix_rfl, rfl⟩ :
          Reached t _).suffix.length_le
        dsimp only
        split_ifs with _ hcomma
        · exact outcome_reached nofun hstop (lt_of_le_of_lt hle hlt')
        · have hcomma' : (readTokenSkippingComments features t.current).stop.length <
              t.current.length := length_readTokenSkippingComments_lt (by rw [hcomma]; decide)
          refine Outcome.after hstop (ih _ (lt_of_le_of_lt hle (by omega)) ?_)
          rw [List.length_append, List.length_singleton, ReaderState.moveTo_current]
          omega
        · exact outcome_failed rfl (failed_token ht _ _)

theorem readMember_outcome (features : OurFeatures) (name : StdString)
    (members : List (StdString × Value)) {s : ReaderState} (hsize : s.current.length ≤ size) :
    Outcome size (fun read => read.1 = some false) s (readMember features rec name members s) := by
  have hcolon := suffix_readToken s.current
  have hstart := reached_moveTo (hcolon.1.trans hcolon.2)
  rw [readMember_run]
  dsimp only
  split_ifs with htype
  · exact outcome_failed rfl
      ((hstart.addError _ hcolon.2 (hcolon.1.trans hcolon.2) (by simp)).recover _)
  · have hread := hrec ((Value.object members).lookup name) (s.moveTo (readToken s.current).stop)
      ((hcolon.1.trans hcolon.2).length_le.trans hsize)
    split
    · rename_i fault t heq
      exact outcome_fault s t (hread.fault _ _ heq)
    · rename_i value t heq
      exact outcome_failed rfl ((hstart.failed (hread.failed _ _ heq rfl)).recover _)
    · rename_i value t heq
      obtain ⟨hreached, hlt⟩ := hread.reached _ _ heq nofun
      have ht := hstart.trans hreached
      have hstop := reached_stop features ht
      have hlt' : t.current.length < s.current.length := lt_of_lt_of_le hlt hstart.suffix.length_le
      have hle := (reached_stop features ⟨List.suffix_rfl, rfl⟩ :
        Reached t _).suffix.length_le
      split_ifs
      · exact outcome_reached nofun hstop (lt_of_le_of_lt hle hlt')
      · exact outcome_reached nofun hstop (lt_of_le_of_lt hle hlt')
      · exact outcome_failed rfl (failed_token ht _ _)

theorem readMembers_outcome (features : OurFeatures) {turns : ℕ} {s : ReaderState}
    (hturns : s.current.length < turns) (hsize : s.current.length ≤ size) (previous : StdString)
    (members : List (StdString × Value)) :
    Outcome size Unsuccessful s (readMembers features rec turns previous members s) := by
  induction turns generalizing s previous members with
  | zero => exact absurd hturns (Nat.not_lt_zero _)
  | succ turns ih =>
    have hself : Reached s s := ⟨List.suffix_rfl, rfl⟩
    have hstop := reached_stop features hself
    have htoken := suffix_readTokenSkippingComments features s.current
    rw [readMembers_run]
    dsimp only
    split_ifs with hend hstring
    · have hlt : (readTokenSkippingComments features s.current).stop.length < s.current.length :=
        length_readTokenSkippingComments_lt (by rw [hend.1]; decide)
      exact outcome_reached nofun hstop hlt
    · exact outcome_failed rfl (failed_token hself _ _)
    split
    · rename_i why hdecode
      exact outcome_failed rfl ((failed_decode (not_not.mp hstring) hdecode).recover _)
    · rename_i name _
      split_ifs
      · exact outcome_fault _ _ (.inl rfl)
      · exact outcome_failed rfl (failed_token hself _ _)
      · have hmember := readMember_outcome hrec features name members
          (s := s.moveTo (readTokenSkippingComments features s.current).stop)
          (hstop.suffix.length_le.trans hsize)
        split
        · rename_i fault u hread
          exact outcome_fault _ _ (hmember.fault _ _ hread)
        · rename_i ok members' u hread
          cases ok with
          | false => exact outcome_failed rfl (hstop.failed (hmember.failed _ _ hread rfl))
          | true =>
            obtain ⟨hreached, hlt⟩ := hmember.reached _ _ hread nofun
            exact outcome_reached nofun (hstop.trans hreached)
              (lt_of_lt_of_le hlt hstop.suffix.length_le)
        · rename_i members' u hread
          obtain ⟨hreached, hlt⟩ := hmember.reached _ _ hread nofun
          have hle : u.current.length < s.current.length :=
            lt_of_lt_of_le hlt hstop.suffix.length_le
          exact Outcome.after (hstop.trans hreached) (ih (by omega) (by omega) _ _)

end Parts

variable {readDouble : StdString → Option ℚ}

/-- Reading a value takes characters of the document, or adds one error, or fails;
it goes round no loop more often than the document allows. -/
theorem readValue_outcome (features : OurFeatures) (readDouble : StdString → Option ℚ) (room : ℕ)
    {size : ℕ} (current : Value) (s : ReaderState) (hsize : s.current.length ≤ size) :
    Outcome size Unsuccessful s (readValue features readDouble room current s) := by
  induction room generalizing current s with
  | zero => exact outcome_fault s s (.inl rfl)
  | succ room ih =>
    have hself : Reached s s := ⟨List.suffix_rfl, rfl⟩
    have hstop := reached_stop features hself
    have htoken := suffix_readTokenSkippingComments features s.current
    have hlt (type : TokenType) (htype : (readTokenSkippingComments features s.current).type = type)
        (hne : type ≠ .endOfStream) :
        (readTokenSkippingComments features s.current).stop.length < s.current.length :=
      length_readTokenSkippingComments_lt (by rwa [htype])
    rw [readValue_run]
    dsimp only
    split
    case h_1 =>
      have hmembers := Outcome.after hstop (readMembers_outcome ih features
        (Nat.lt_succ_self _) (hstop.suffix.length_le.trans hsize) [] [])
      split
      · rename_i fault u heq
        exact outcome_fault _ _ (hmembers.fault _ _ heq)
      · rename_i ok members u heq
        exact hmembers.replace heq _
    case h_2 htype =>
      have hopen := hlt _ htype (by decide)
      have helements := Outcome.after hstop (readElements_outcome ih features [] (Nat.lt_succ_self _)
        (by simp; omega))
      split
      · rename_i fault u heq
        exact outcome_fault _ _ (helements.fault _ _ heq)
      · rename_i ok elements u heq
        exact helements.replace heq _
    case h_3 htype =>
      split
      · exact outcome_reached nofun hstop (hlt _ htype (by decide))
      · exact outcome_failed rfl
          (hstop.addError _ htoken.2 (htoken.1.trans htoken.2) (by simp))
    case h_4 htype =>
      split
      · rename_i decoded _
        cases hvalue : Value.ofString decoded with
        | ok value => exact outcome_reached nofun hstop (hlt _ htype (by decide))
        | error fault => exact outcome_fault _ _ (.inl (Value.ofString_eq_error hvalue))
      · rename_i why hdecode
        exact outcome_failed rfl (failed_decode htype hdecode)
    case h_5 htype => exact outcome_reached nofun hstop (hlt _ htype (by decide))
    case h_6 htype => exact outcome_reached nofun hstop (hlt _ htype (by decide))
    case h_7 htype => exact outcome_reached nofun hstop (hlt _ htype (by decide))
    case h_8 =>
      exact outcome_failed rfl (hstop.addError _ htoken.2 (htoken.1.trans htoken.2) (by simp))

theorem suffix_skipBom (features : OurFeatures) (document : Location) : skipBom features document <:+ document := by
  unfold skipBom
  dsimp only
  split_ifs
  · exact List.drop_suffix _ _
  · exact List.suffix_rfl

/-- Reading a document ends; only in a document of almost 2³² bytes can an index overflow. It
succeeds exactly when there are no errors. There is at most one error for the root and at most one
for what surrounds it, each at a place in the document. -/
theorem parse_errors (document : Location) (root : Value) :
    parse features readDouble document root = .error .exception ∨
      parse features readDouble document root = .error .undefinedBehaviour ∧
        2 ^ 32 ≤ document.length + 1 ∨
      ∃ ok value errors, parse features readDouble document root = .ok ((ok, value), errors) ∧
        (ok = true ↔ errors = []) ∧
        errors.length ≤ (if features.failIfExtra ∨ features.strictRoot then 2 else 1) ∧
        ∀ e ∈ errors, e.LiesIn document := by
  have hbom := suffix_skipBom features document
  have hroot := readValue_outcome features readDouble
    features.stackLimit root ⟨skipBom features document, []⟩ hbom.length_le
  cases hread : readValue features readDouble features.stackLimit root
      ⟨skipBom features document, []⟩ with
  | error fault t =>
    rw [parse_of_error hread]
    rcases hroot.fault _ _ hread with rfl | ⟨rfl, hlong⟩
    · exact .inl rfl
    · exact .inr (.inl ⟨rfl, hlong⟩)
  | ok read t =>
    refine .inr (.inr ?_)
    obtain ⟨ok, value⟩ := read
    have htoken := suffix_readTokenSkippingComments features t.current
    obtain ⟨hsuffix, hok, hlength, hlies⟩ : t.current <:+ document ∧ (ok = true ↔ t.errors = []) ∧
        t.errors.length ≤ 1 ∧ ∀ e ∈ t.errors, e.LiesIn document := by
      cases ok with
      | true =>
        obtain ⟨hreached, -⟩ := hroot.reached _ _ hread nofun
        have herrors : t.errors = [] := hreached.errors
        exact ⟨hreached.suffix.trans hbom, by simp [herrors]⟩
      | false =>
        obtain ⟨hsuffix, e, herrors, he⟩ := hroot.failed _ _ hread rfl
        rw [List.nil_append] at herrors
        refine ⟨hsuffix.trans hbom, by simp [herrors], by simp [herrors], fun e' he' => ?_⟩
        rw [herrors, List.mem_singleton] at he'
        exact he' ▸ he.mono hbom
    have hcheck := checkRoot_run features document (ok, value) t
    split_ifs at hcheck with hextra hstrict
    · refine ⟨_, _, _, parse_of_ok hread hcheck, by simp, ?_, fun e he => ?_⟩
      · simp [hextra.1]
        exact hlength
      · rcases List.mem_append.mp he with he | he
        · exact hlies e he
        · rw [List.mem_singleton.mp he]
          exact ⟨htoken.2.trans hsuffix, htoken.1.trans (htoken.2.trans hsuffix), by simp⟩
    · refine ⟨_, _, _, parse_of_ok hread hcheck, by simp, ?_, fun e he => ?_⟩
      · simp [hstrict.1]
        exact hlength
      · rcases List.mem_append.mp he with he | he
        · exact hlies e he
        · rw [List.mem_singleton.mp he]
          exact ⟨List.suffix_rfl, List.nil_suffix, by simp⟩
    · refine ⟨_, _, _, parse_of_ok hread hcheck, hok, ?_, hlies⟩
      split_ifs
      · exact hlength.trans (by decide)
      · exact hlength

end OpenXRSdk.Json
