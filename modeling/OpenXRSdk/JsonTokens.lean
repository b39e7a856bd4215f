import OpenXRSdk.JsonValue

/-!
# Tokens of a JSON text

The scanner of `Json::OurReader`, and what it makes of the texts of strings and numbers. A
document is a string of bytes: the code of each of its characters is below 256. The features
of `CharReaderBuilder` that every mode leaves off (single quotes, special floats, numeric keys,
dropped null placeholders) are off.
-/
namespace OpenXRSdk.Json

/-- A place in the document, as what is left of the document from there on. -/
abbrev Location := StdString

inductive TokenType
  | endOfStream
  | objectBegin
  | objectEnd
  | arrayBegin
  | arrayEnd
  | string
  | number
  | true
  | false
  | null
  | arraySeparator
  | memberSeparator
  | comment
  | error
  deriving DecidableEq, Repr

/-- `Token`. The scanner stands at `stop` when it has read one. -/
structure Token where
  type : TokenType
  start : Location
  stop : Location
  deriving DecidableEq, Repr

namespace Token

def text (token : Token) : StdString := token.start.take (token.start.length - token.stop.length)

end Token

/-! ## The scanner -/

def isBlank (c : Char) : Bool := c = ' ' || c = '\t' || c = '\r' || c = '\n'

def skipSpaces (current : Location) : Location := current.dropWhile isBlank

def matchPattern (pattern : StdString) (current : Location) : Bool × Location :=
  if pattern <+: current then (true, current.drop pattern.length) else (false, current)

/-- A comment that its end does not close counts as closed when the document ends in a slash. -/
def readCStyleComment : Location → Bool × Location
  | [] => (false, [])
  | [c] => (c = '/', [])
  | c :: d :: current =>
    if c = '*' ∧ d = '/' then (true, current) else readCStyleComment (d :: current)

def readCppStyleComment : Location → Location
  | [] => []
  | '\n' :: current => current
  | '\r' :: '\n' :: current => current
  | '\r' :: current => current
  | _ :: current => readCppStyleComment current

def readComment : Location → Bool × Location
  | '*' :: current => readCStyleComment current
  | '/' :: current => (true, readCppStyleComment current)
  | current => (false, current.drop 1)

def readString : Location → Bool × Location
  | [] => (false, [])
  | ['\\'] => (false, [])
  | '\\' :: _ :: current => readString current
  | '"' :: current => (true, current)
  | _ :: current => readString current

def skipDigits (current : Location) : Location := current.dropWhile Char.isDigit

def skipFraction : Location → Location
  | '.' :: current => skipDigits current
  | current => current

def skipSign : Location → Location
  | '+' :: current => current
  | '-' :: current => current
  | current => current

def skipExponent : Location → Location
  | 'e' :: current => skipDigits (skipSign current)
  | 'E' :: current => skipDigits (skipSign current)
  | current => current

/-- After the first character of a number. -/
def readNumber (checkInf : Bool) (current : Location) : Bool × Location :=
  if checkInf && current.head? = some 'I' then (false, current.drop 1)
  else (true, skipExponent (skipFraction (skipDigits current)))

def accept (type : TokenType) (read : Bool × Location) : TokenType × Location :=
  (if read.1 then type else .error, read.2)

/-- The type of the token that begins with `c`, and where it ends. -/
def readFrom (c : Char) (current : Location) : TokenType × Location :=
  match c with
  | '{' => (.objectBegin, current)
  | '}' => (.objectEnd, current)
  | '[' => (.arrayBegin, current)
  | ']' => (.arrayEnd, current)
  | '"' => accept .string (readString current)
  | '/' => accept .comment (readComment current)
  | '-' => accept .number (readNumber true current)
  | '+' => accept .number (readNumber true current)
  | 't' => accept .true (matchPattern "rue".toList current)
  | 'f' => accept .false (matchPattern "alse".toList current)
  | 'n' => accept .null (matchPattern "ull".toList current)
  | ',' => (.arraySeparator, current)
  | ':' => (.memberSeparator, current)
  | '\x00' => (.endOfStream, current)
  | c => if c.isDigit then accept .number (readNumber false current) else (.error, current)

def readToken (current : Location) : Token :=
  match skipSpaces current with
  | [] => ⟨.endOfStream, [], []⟩
  | c :: rest => ⟨(readFrom c rest).1, c :: rest, (readFrom c rest).2⟩

/-! ### What the scanner leaves -/

theorem suffix_skipSpaces (current : Location) : skipSpaces current <:+ current :=
  List.dropWhile_suffix _

theorem suffix_matchPattern (pattern : StdString) (current : Location) :
    (matchPattern pattern current).2 <:+ current := by
  unfold matchPattern
  split_ifs
  · exact List.drop_suffix _ _
  · exact List.suffix_rfl

theorem suffix_readCStyleComment (current : Location) : (readCStyleComment current).2 <:+ current := by
  fun_induction readCStyleComment current with
  | case1 => exact List.suffix_rfl
  | case2 => exact List.nil_suffix
  | case3 c d current h => exact List.suffix_append [c, d] current
  | case4 c d current h ih => exact ih.trans (List.suffix_cons c _)

theorem suffix_readCppStyleComment (current : Location) : readCppStyleComment current <:+ current := by
  fun_induction readCppStyleComment current with
  | case1 => exact List.suffix_rfl
  | case2 => exact List.suffix_cons _ _
  | case3 current => exact List.suffix_append ['\r', '\n'] current
  | case4 => exact List.suffix_cons _ _
  | case5 c current h₁ h₂ h₃ ih => exact ih.trans (List.suffix_cons c _)

theorem suffix_readComment (current : Location) : (readComment current).2 <:+ current := by
  fun_cases readComment current with
  | case1 current => exact (suffix_readCStyleComment current).trans (List.suffix_cons _ _)
  | case2 current => exact (suffix_readCppStyleComment current).trans (List.suffix_cons _ _)
  | case3 => exact List.drop_suffix _ _

theorem suffix_readString (current : Location) : (readString current).2 <:+ current := by
  fun_induction readString current with
  | case1 => exact List.suffix_rfl
  | case2 => exact List.nil_suffix
  | case3 c current ih => exact ih.trans (List.suffix_append ['\\', c] current)
  | case4 => exact List.suffix_cons _ _
  | case5 c current h₁ h₂ h₃ ih => exact ih.trans (List.suffix_cons c _)

theorem suffix_skipDigits (current : Location) : skipDigits current <:+ current :=
  List.dropWhile_suffix _

theorem suffix_skipFraction (current : Location) : skipFraction current <:+ current := by
  fun_cases skipFraction current with
  | case1 current => exact (suffix_skipDigits current).trans (List.suffix_cons _ _)
  | case2 => exact List.suffix_rfl

theorem suffix_skipSign (current : Location) : skipSign current <:+ current := by
  fun_cases skipSign current with
  | case1 => exact List.suffix_cons _ _
  | case2 => exact List.suffix_cons _ _
  | case3 => exact List.suffix_rfl

theorem suffix_skipExponent (current : Location) : skipExponent current <:+ current := by
  have h (s : Location) : skipDigits (skipSign s) <:+ s :=
    (suffix_skipDigits _).trans (suffix_skipSign s)
  fun_cases skipExponent current with
  | case1 current => exact (h current).trans (List.suffix_cons _ _)
  | case2 current => exact (h current).trans (List.suffix_cons _ _)
  | case3 => exact List.suffix_rfl

theorem suffix_readNumber (checkInf : Bool) (current : Location) :
    (readNumber checkInf current).2 <:+ current := by
  unfold readNumber
  split_ifs
  · exact List.drop_suffix _ _
  · exact (suffix_skipExponent _).trans
      ((suffix_skipFraction _).trans (suffix_skipDigits current))

theorem suffix_readFrom (c : Char) (current : Location) : (readFrom c current).2 <:+ current := by
  unfold readFrom
  split
  case h_15 =>
    split
    · exact suffix_readNumber false current
    · exact List.suffix_rfl
  all_goals first
    | exact List.suffix_rfl
    | exact suffix_readString current
    | exact suffix_readComment current
    | exact suffix_readNumber true current
    | exact suffix_matchPattern _ current

/-- A token lies in what is left of the document. -/
theorem suffix_readToken (current : Location) :
    (readToken current).stop <:+ (readToken current).start ∧ (readToken current).start <:+ current := by
  have hskip := suffix_skipSpaces current
  unfold readToken
  cases hs : skipSpaces current with
  | nil => exact ⟨List.suffix_rfl, List.nil_suffix⟩
  | cons c rest =>
    rw [hs] at hskip
    exact ⟨(suffix_readFrom c rest).trans (List.suffix_cons c rest), hskip⟩

/-- Each token takes a character of the document, until there are none. -/
theorem length_readToken_lt {current : Location} (h : (readToken current).type ≠ .endOfStream) :
    (readToken current).stop.length < current.length := by
  have hle := (suffix_skipSpaces current).length_le
  unfold readToken at h ⊢
  cases hs : skipSpaces current with
  | nil => simp [hs] at h
  | cons c rest =>
    rw [hs, List.length_cons] at hle
    exact Nat.lt_of_le_of_lt (suffix_readFrom c rest).length_le (Nat.lt_of_succ_le hle)

/-! ## Strings -/

def codePointToUTF8 (cp : ℕ) : StdString :=
  if cp ≤ 0x7f then [Char.ofNat cp]
  else if cp ≤ 0x7FF then
    [Char.ofNat (0xC0 ||| (0x1f &&& (cp >>> 6))), Char.ofNat (0x80 ||| (0x3f &&& cp))]
  else if cp ≤ 0xFFFF then
    [Char.ofNat (0xE0 ||| (0xf &&& (cp >>> 12))), Char.ofNat (0x80 ||| (0x3f &&& (cp >>> 6))),
      Char.ofNat (0x80 ||| (0x3f &&& cp))]
  else if cp ≤ 0x10FFFF then
    [Char.ofNat (0xF0 ||| (0x7 &&& (cp >>> 18))), Char.ofNat (0x80 ||| (0x3f &&& (cp >>> 12))),
      Char.ofNat (0x80 ||| (0x3f &&& (cp >>> 6))), Char.ofNat (0x80 ||| (0x3f &&& cp))]
  else []

/-- Why a string cannot be decoded, and what is left of it at the place that shows it. -/
abbrev DecodeError := StdString × StdString

def hexDigit? (c : Char) : Option ℕ :=
  if '0' ≤ c ∧ c ≤ '9' then some (c.toNat - '0'.toNat)
  else if 'a' ≤ c ∧ c ≤ 'f' then some (c.toNat - 'a'.toNat + 10)
  else if 'A' ≤ c ∧ c ≤ 'F' then some (c.toNat - 'A'.toNat + 10)
  else none

/-- The loop of `decodeUnicodeEscapeSequence` for `count` more digits. -/
def decodeHexDigits : (count unicode : ℕ) → StdString → Except DecodeError ℕ
  | 0, unicode, _ => .ok unicode
  | count + 1, unicode, c :: current =>
    match hexDigit? c with
    | some digit => decodeHexDigits count (unicode * 16 + digit) current
    | none => .error
      ("Bad unicode escape sequence in string: hexadecimal digit expected.".toList, current)
  | _ + 1, _, [] => .error
      ("Bad unicode escape sequence in string: four digits expected.".toList, [])

def decodeUnicodeEscapeSequence (current : StdString) : Except DecodeError ℕ :=
  if current.length < 4 then
    .error ("Bad unicode escape sequence in string: four digits expected.".toList, current)
  else decodeHexDigits 4 0 current

def decodeSurrogate (unicode : ℕ) (current : StdString) : Except DecodeError ℕ :=
  if current.length < 6 then
    .error ("additional six characters expected to parse unicode surrogate pair.".toList, current)
  else
    match current with
    | '\\' :: 'u' :: current => do
      let surrogatePair ← decodeUnicodeEscapeSequence current
      return 0x10000 + ((unicode &&& 0x3FF) <<< 10) + (surrogatePair &&& 0x3FF)
    | '\\' :: _ :: current => .error
      (("expecting another \\u token to begin the second half of a unicode surrogate " ++
        "pair").toList, current)
    | current => .error
      (("expecting another \\u token to begin the second half of a unicode surrogate " ++
        "pair").toList, current.drop 1)

/-- The code point, and how many characters it is read from. -/
def decodeUnicodeCodePoint (current : StdString) : Except DecodeError (ℕ × ℕ) := do
  let unicode ← decodeUnicodeEscapeSequence current
  if 0xD800 ≤ unicode ∧ unicode ≤ 0xDBFF then
    return (← decodeSurrogate unicode (current.drop 4), 10)
  else return (unicode, 4)

/-- What an escape stands for, and how many characters follow the one after the backslash. -/
def decodeEscape (escape : Char) (current : StdString) : Except DecodeError (StdString × ℕ) :=
  match escape with
  | '"' => .ok (['"'], 0)
  | '/' => .ok (['/'], 0)
  | '\\' => .ok (['\\'], 0)
  | 'b' => .ok (['\x08'], 0)
  | 'f' => .ok (['\x0c'], 0)
  | 'n' => .ok (['\n'], 0)
  | 'r' => .ok (['\r'], 0)
  | 't' => .ok (['\t'], 0)
  | 'u' => do
    let (unicode, length) ← decodeUnicodeCodePoint current
    return (codePointToUTF8 unicode, length)
  | _ => .error ("Bad escape sequence in string".toList, current)

/-- The loop of `decodeString`, between the quotes. -/
def decodeCharacters : StdString → Except DecodeError StdString
  | [] => .ok []
  | '"' :: _ => .ok []
  | ['\\'] => .error ("Empty escape sequence in string".toList, [])
  | '\\' :: escape :: current => do
    let (decoded, length) ← decodeEscape escape current
    return decoded ++ (← decodeCharacters (current.drop length))
  | c :: current => return c :: (← decodeCharacters current)
termination_by s => s.length
decreasing_by all_goals simp only [List.length_cons, List.length_drop]; omega

def Token.inside (token : Token) : StdString := (token.text.drop 1).dropLast

/-! ## Numbers -/

def maxLargestInt : ℕ := 2 ^ 63 - 1

def maxLargestUInt : ℕ := 2 ^ 64 - 1

/-- The loop of `decodeNumber`: the value, a `LargestUInt` that wraps, unless the text has to be
read as a double. -/
def decodeInteger (threshold maxLastDigit : ℕ) : (value : ℕ) → StdString → Option ℕ
  | value, [] => some value
  | value, c :: current =>
    if ¬ c.isDigit then none
    else if threshold ≤ value ∧
        (threshold < value ∨ current ≠ [] ∨ maxLastDigit < c.toNat - '0'.toNat) then none
    else decodeInteger threshold maxLastDigit ((value * 10 + (c.toNat - '0'.toNat)) % 2 ^ 64) current

/-- `decodeDouble`. What a stream extracts from the text is a parameter: none where the text is
no number. An infinity stands for no exact value; it is whatever the parameter says. -/
def decodeDouble (readDouble : StdString → Option ℚ) (text : StdString) : Except StdString Value :=
  match readDouble text with
  | some value => .ok (.real value)
  | none => .error ("'".toList ++ text ++ "' is not a number.".toList)

def decodeNumber (readDouble : StdString → Option ℚ) (text : StdString) : Except StdString Value :=
  if text.head? = some '-' then
    match decodeInteger ((maxLargestInt + 1) / 10) ((maxLargestInt + 1) % 10) 0 (text.drop 1) with
    | some value => .ok (.int (-(value / 10 : ℕ) * 10 - (value % 10 : ℕ)))
    | none => decodeDouble readDouble text
  else
    match decodeInteger (maxLargestUInt / 10) (maxLargestUInt % 10) 0 text with
    | some value => .ok (if value ≤ maxLargestInt then .int value else .uint value)
    | none => decodeDouble readDouble text

end OpenXRSdk.Json
