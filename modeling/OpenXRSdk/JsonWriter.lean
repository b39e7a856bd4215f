import OpenXRSdk.JsonTokens

/-!
# The writer of JSON texts

`Json::FastWriter`, and the quoted strings and numbers that all writers of the library share.
-/
namespace OpenXRSdk.Json

def doesAnyCharRequireEscaping (s : StdString) : Bool :=
  s.any fun c => c = '\\' || c = '"' || c.toNat < 0x20 || 0x7F < c.toNat

def replacementCharacter : ℕ := 0xFFFD

/-- `utf8ToCodepoint` at the byte `c` before `rest`: the code point, and how many bytes of `rest`
it takes. -/
def utf8ToCodepoint (c : Char) (rest : StdString) : ℕ × ℕ :=
  let firstByte := c.toNat
  if firstByte < 0x80 then (firstByte, 0)
  else if firstByte < 0xE0 then
    match rest with
    | s₁ :: _ =>
      let calculated := ((firstByte &&& 0x1F) <<< 6) ||| (s₁.toNat &&& 0x3F)
      (if calculated < 0x80 then replacementCharacter else calculated, 1)
    | _ => (replacementCharacter, 0)
  else if firstByte < 0xF0 then
    match rest with
    | s₁ :: s₂ :: _ =>
      let calculated := ((firstByte &&& 0x0F) <<< 12) ||| ((s₁.toNat &&& 0x3F) <<< 6) |||
        (s₂.toNat &&& 0x3F)
      -- surrogates are no code points of their own
      (if 0xD800 ≤ calculated ∧ calculated ≤ 0xDFFF then replacementCharacter
        else if calculated < 0x800 then replacementCharacter else calculated, 2)
    | _ => (replacementCharacter, 0)
  else if firstByte < 0xF8 then
    match rest with
    | s₁ :: s₂ :: s₃ :: _ =>
      let calculated := ((firstByte &&& 0x07) <<< 18) ||| ((s₁.toNat &&& 0x3F) <<< 12) |||
        ((s₂.toNat &&& 0x3F) <<< 6) ||| (s₃.toNat &&& 0x3F)
      (if calculated < 0x10000 then replacementCharacter else calculated, 3)
    | _ => (replacementCharacter, 0)
  else (replacementCharacter, 0)

/-- The entry of the table `hex2` for a byte. -/
def hex2 (byte : ℕ) : StdString := [Nat.digitChar (byte / 16), Nat.digitChar (byte % 16)]

def toHex16Bit (x : ℕ) : StdString := hex2 ((x >>> 8) &&& 0xff) ++ hex2 (x &&& 0xff)

def appendHex (ch : ℕ) : StdString := '\\' :: 'u' :: toHex16Bit ch

/-- What is written for a code point that has no short escape. -/
def writeCodepoint (codepoint : ℕ) : StdString :=
  if codepoint < 0x20 then appendHex codepoint
  else if codepoint < 0x80 then [Char.ofNat codepoint]
  else if codepoint < 0x10000 then appendHex codepoint
  else
    -- a surrogate pair
    appendHex (0xd800 + (((codepoint - 0x10000) >>> 10) &&& 0x3ff)) ++
      appendHex (0xdc00 + ((codepoint - 0x10000) &&& 0x3ff))

def shortEscape? (c : Char) : Option StdString :=
  match c with
  | '"' => some ['\\', '"']
  | '\\' => some ['\\', '\\']
  | '\x08' => some ['\\', 'b']
  | '\x0c' => some ['\\', 'f']
  | '\n' => some ['\\', 'n']
  | '\r' => some ['\\', 'r']
  | '\t' => some ['\\', 't']
  | _ => none

def escapeCharacters : StdString → StdString
  | [] => []
  | c :: rest =>
    match shortEscape? c with
    | some escape => escape ++ escapeCharacters rest
    | none => writeCodepoint (utf8ToCodepoint c rest).1 ++
        escapeCharacters (rest.drop (utf8ToCodepoint c rest).2)
termination_by s => s.length
decreasing_by all_goals simp only [List.length_cons, List.length_drop]; omega

def valueToQuotedString (value : StdString) : StdString :=
  if !doesAnyCharRequireEscaping value then '"' :: cString value ++ ['"']
  else '"' :: escapeCharacters value ++ ['"']

/-- `uintToString`: the last digit first, from the end of the buffer. -/
def uintToString (value : ℕ) : StdString := Nat.toDigits 10 value

def intToString (value : ℤ) : StdString :=
  if value < 0 then '-' :: uintToString (-value).toNat else uintToString value.toNat

/-- `FastWriter` with the options that its object has. -/
structure FastWriter where
  yamlCompatibilityEnabled : Bool
  dropNullPlaceholders : Bool
  omitEndingLineFeed : Bool

namespace FastWriter

variable (writer : FastWriter) (printDouble : ℚ → StdString)

mutual

def writeValue : Value → StdString
  | .null => if writer.dropNullPlaceholders then [] else "null".toList
  | .int value => intToString value
  | .uint value => uintToString value
  | .real value => printDouble value
  | .string value => valueToQuotedString value
  | .boolean value => if value then "true".toList else "false".toList
  | .array elements => '[' :: writeElements elements ++ [']']
  | .object members => '{' :: writeMembers members ++ ['}']

def writeElements : List Value → StdString
  | [] => []
  | [element] => writeValue element
  | element :: elements => writeValue element ++ ',' :: writeElements elements

def writeMembers : List (StdString × Value) → StdString
  | [] => []
  | [(name, value)] => valueToQuotedString name ++
      (if writer.yamlCompatibilityEnabled then ": ".toList else ":".toList) ++ writeValue value
  | (name, value) :: members => valueToQuotedString name ++
      (if writer.yamlCompatibilityEnabled then ": ".toList else ":".toList) ++ writeValue value ++
      ',' :: writeMembers members

end

def write (root : Value) : StdString :=
  writer.writeValue printDouble root ++ if writer.omitEndingLineFeed then [] else ['\n']

end FastWriter
end OpenXRSdk.Json
