import OpenXRSdk.JsonTokens
import OpenXRSdk.OrderedEntries
import OpenXRSdk.StateProgram

/-!
# The reader of JSON texts

`Json::OurReader`, which `Json::parseFromStream` runs on the text of a manifest file. The values
on the stack `nodes_` are the arguments of the nested calls; how many more fit below
`stackLimit` bounds the nesting. Comments and offsets, which the reader can attach to the values
it reads, are not kept.
-/
namespace OpenXRSdk.Json

open StateProgram

/-- `OurFeatures`, but for the four that none of the modes of `CharReaderBuilder` turns on. -/
structure OurFeatures where
  allowComments : Bool
  allowTrailingCommas : Bool
  strictRoot : Bool
  failIfExtra : Bool
  rejectDupKeys : Bool
  skipBom : Bool
  stackLimit : ℕ

namespace OurFeatures

def setDefaults : OurFeatures := ⟨true, true, false, false, false, true, 1000⟩

def strictMode : OurFeatures := ⟨false, false, true, true, true, true, 1000⟩

end OurFeatures

variable (features : OurFeatures) (readDouble : StdString → Option ℚ)

def readTokenSkippingComments (current : Location) : Token :=
  if _ : features.allowComments ∧ (readToken current).type = .comment then
    readTokenSkippingComments (readToken current).stop
  else readToken current
termination_by current.length
decreasing_by exact length_readToken_lt (by simp_all)

/-- Where `recoverFromError` stops. -/
def skipUntil (skipUntilToken : TokenType) (current : Location) : Location :=
  if _ : (readToken current).type = skipUntilToken ∨ (readToken current).type = .endOfStream then
    (readToken current).stop
  else skipUntil skipUntilToken (readToken current).stop
termination_by current.length
decreasing_by exact length_readToken_lt (by simp_all)

/-! ## Values -/

structure ErrorInfo where
  token : Token
  message : StdString
  extra : Option Location

structure ReaderState where
  current : Location
  errors : List ErrorInfo

abbrev Reader (α : Type) := EStateM Fault ReaderState α

def advance (read : Location → Token) : Reader Token := do
  let token := read (← get).current
  modify fun s => { s with current := token.stop }
  return token

def addError (message : StdString) (token : Token) (extra : Option Location := none) : Reader Bool := do
  modify fun s => { s with errors := s.errors ++ [⟨token, message, extra⟩] }
  return false

/-- `recoverFromError`. The scanner adds no errors, so there are none to discard. -/
def recoverFromError (skipUntilToken : TokenType) : Reader Bool := do
  modify fun s => { s with current := skipUntil skipUntilToken s.current }
  return false

def addErrorAndRecover (message : StdString) (token : Token) (skipUntilToken : TokenType) :
    Reader Bool := do
  let _ ← addError message token
  recoverFromError skipUntilToken

def decodeString (token : Token) : Reader (Option StdString) :=
  match decodeCharacters token.inside with
  | .ok decoded => return some decoded
  | .error (message, rest) => do
    let _ ← addError message token (some (rest ++ '"' :: token.stop))
    return none

/-- The loop of `readArray`, with the elements read so far. The document bounds how often it
goes round. -/
def readElements (readValue : Value → Reader (Bool × Value)) :
    ℕ → List Value → Reader (Bool × List Value)
  | 0, _ => throw .undefinedBehaviour
  | turns + 1, elements => do
    modify fun s => { s with current := skipSpaces s.current }
    if (← get).current.head? = some ']' ∧ (elements = [] ∨ features.allowTrailingCommas) then
      let _ ← advance readToken
      return (true, elements)
    if Value.maxInt ≤ elements.length then throw .undefinedBehaviour  -- `index++` overflows
    let (ok, value) ← readValue .null
    if !ok then return (← recoverFromError .arrayEnd, elements ++ [value])
    let token ← advance (readTokenSkippingComments features)
    if token.type = .arrayEnd then return (true, elements ++ [value])
    else if token.type = .arraySeparator then readElements readValue turns (elements ++ [value])
    else
      return (← addErrorAndRecover "Missing ',' or ']' in array declaration".toList token .arrayEnd,
        elements ++ [value])

def isMember (name : StdString) (members : List (StdString × Value)) : Bool :=
  members.any (·.1 = name)

/-- Assign to a member of an object, whose members are kept in the order of their names. -/
def insertMember (name : StdString) (value : Value) (members : List (StdString × Value)) :
    List (StdString × Value) := OrderedEntries.insertEntry name value members

/-- The part of the loop of `readObject` from the colon on: whether the loop goes on, which it
does after a comma, or else the result. -/
def readMember (readValue : Value → Reader (Bool × Value)) (name : StdString)
    (members : List (StdString × Value)) : Reader (Option Bool × List (StdString × Value)) := do
  let colon ← advance readToken
  if colon.type ≠ .memberSeparator then
    return (← addErrorAndRecover "Missing ':' after object member name".toList colon .objectEnd,
      members)
  let (ok, value) ← readValue ((Value.object members).lookup name)
  let members := insertMember name value members
  if !ok then return (← recoverFromError .objectEnd, members)
  let comma ← advance (readTokenSkippingComments features)
  if comma.type = .objectEnd then return (some true, members)
  else if comma.type = .arraySeparator then return (none, members)
  else
    return (← addErrorAndRecover "Missing ',' or '\x7d' in object declaration".toList comma .objectEnd,
      members)

/-- The loop of `readObject`, with the name read last and the members read so far. -/
def readMembers (readValue : Value → Reader (Bool × Value)) :
    ℕ → StdString → List (StdString × Value) → Reader (Bool × List (StdString × Value))
  | 0, _, _ => throw .undefinedBehaviour
  | turns + 1, name, members => do
    let tokenName ← advance (readTokenSkippingComments features)
    if tokenName.type = .objectEnd ∧ (name = [] ∨ features.allowTrailingCommas) then
      return (true, members)
    if tokenName.type ≠ .string then
      return (← addErrorAndRecover "Missing '\x7d' or object member name".toList tokenName .objectEnd,
        members)
    match ← decodeString tokenName with
    | none => return (← recoverFromError .objectEnd, members)
    | some name =>
      if 2 ^ 30 ≤ name.length then throw .exception
      else if features.rejectDupKeys ∧ isMember name members then
        return (← addErrorAndRecover ("Duplicate key: '".toList ++ name ++ "'".toList) tokenName
          .objectEnd, members)
      else
        match ← readMember features readValue name members with
        | (some ok, members) => return (ok, members)
        | (none, members) => readMembers readValue turns name members

/-- `readValue`, which turns the current value, of which it is told, into the value it reads.
There is room for so many more nested values on the stack. -/
def readValue : (room : ℕ) → Value → Reader (Bool × Value)
  | 0, _ => throw .exception
  | room + 1, current => do
    let token ← advance (readTokenSkippingComments features)
    match token.type with
    | .objectBegin =>
      let (ok, members) ← readMembers features (readValue room) (token.stop.length + 1) [] []
      return (ok, .object members)
    | .arrayBegin =>
      let (ok, elements) ← readElements features (readValue room) (token.stop.length + 1) []
      return (ok, .array elements)
    | .number =>
      match decodeNumber readDouble token.text with
      | .ok value => return (true, value)
      | .error message => return (← addError message token, current)
    | .string =>
      match ← decodeString token with
      | some decoded =>
        match Value.ofString decoded with
        | .ok value => return (true, value)
        | .error fault => throw fault
      | none => return (false, current)
    | .true => return (true, .boolean true)
    | .false => return (true, .boolean false)
    | .null => return (true, .null)
    | _ => return (← addError "Syntax error: value, object or array expected.".toList token, current)

def skipBom (document : Location) : Location :=
  let bom : StdString := ['\xef', '\xbb', '\xbf']
  if features.skipBom ∧ bom <+: document then document.drop 3 else document

def isContainer : Value → Bool
  | .array _ => true
  | .object _ => true
  | _ => false

/-- What follows the root value in `parse`. -/
def checkRoot (document : Location) (read : Bool × Value) : Reader (Bool × Value) := do
  let token ← advance (readTokenSkippingComments features)
  if features.failIfExtra ∧ token.type ≠ .endOfStream then
    return (← addError "Extra non-whitespace after JSON value.".toList token, read.2)
  if features.strictRoot ∧ !isContainer read.2 then
    return (← addError ("A valid JSON document must be either an array or an object " ++
      "value.").toList ⟨.error, document, []⟩, read.2)
  return read

/-- `parse`, with the root it is given: whether it was successful, the root, and the errors. -/
def parse (document : Location) (root : Value) : Except Fault ((Bool × Value) × List ErrorInfo) :=
  match (readValue features readDouble features.stackLimit root >>= checkRoot features document)
      ⟨skipBom features document, []⟩ with
  | .ok result s => .ok (result, s.errors)
  | .error fault _ => .error fault

/-! ## One turn at a time -/

namespace ReaderState

def moveTo (s : ReaderState) (current : Location) : ReaderState := { s with current }

def addError (s : ReaderState) (message : StdString) (token : Token)
    (extra : Option Location := none) : ReaderState :=
  { s with errors := s.errors ++ [⟨token, message, extra⟩] }

def recover (s : ReaderState) (skipUntilToken : TokenType) : ReaderState :=
  s.moveTo (skipUntil skipUntilToken s.current)

variable (s : ReaderState)

@[simp] theorem moveTo_current (current : Location) : (s.moveTo current).current = current := rfl

@[simp] theorem moveTo_errors (current : Location) : (s.moveTo current).errors = s.errors := rfl

@[simp] theorem addError_current (message : StdString) (token : Token) (extra : Option Location) :
    (s.addError message token extra).current = s.current := rfl

@[simp] theorem addError_errors (message : StdString) (token : Token) (extra : Option Location) :
    (s.addError message token extra).errors = s.errors ++ [⟨token, message, extra⟩] := rfl

@[simp] theorem recover_current (skipUntilToken : TokenType) :
    (s.recover skipUntilToken).current = skipUntil skipUntilToken s.current := rfl

@[simp] theorem recover_errors (skipUntilToken : TokenType) :
    (s.recover skipUntilToken).errors = s.errors := rfl

end ReaderState

theorem advance_run (read : Location → Token) (s : ReaderState) :
    advance read s = .ok (read s.current) (s.moveTo (read s.current).stop) := rfl

/-- What `decodeString` leaves of a string that cannot be decoded. -/
def noteDecodeError (s : ReaderState) (token : Token) (why : DecodeError) : ReaderState :=
  s.addError why.1 token (some (why.2 ++ '"' :: token.stop))

theorem decodeString_of_ok {token : Token} {decoded : StdString}
    (h : decodeCharacters token.inside = .ok decoded) (s : ReaderState) :
    decodeString token s = .ok (some decoded) s := by
  rw [decodeString, h]
  rfl

theorem decodeString_of_error {token : Token} {why : DecodeError}
    (h : decodeCharacters token.inside = .error why) (s : ReaderState) :
    decodeString token s = .ok none (noteDecodeError s token why) := by
  rw [decodeString, h]
  rfl

section Turns
variable (rec : Value → Reader (Bool × Value)) (turns : ℕ) (s : ReaderState)

theorem readElements_run (elements : List Value) :
    readElements features rec (turns + 1) elements s =
      if (skipSpaces s.current).head? = some ']' ∧ (elements = [] ∨ features.allowTrailingCommas) then
        .ok (true, elements) (s.moveTo (readToken (skipSpaces s.current)).stop)
      else if Value.maxInt ≤ elements.length then
        .error .undefinedBehaviour (s.moveTo (skipSpaces s.current))
      else
        match rec .null (s.moveTo (skipSpaces s.current)) with
        | .error fault t => .error fault t
        | .ok (false, value) t => .ok (false, elements ++ [value]) (t.recover .arrayEnd)
        | .ok (true, value) t =>
          let token := readTokenSkippingComments features t.current
          if token.type = .arrayEnd then .ok (true, elements ++ [value]) (t.moveTo token.stop)
          else if token.type = .arraySeparator then
            readElements features rec turns (elements ++ [value]) (t.moveTo token.stop)
          else .ok (false, elements ++ [value]) (((t.moveTo token.stop).addError
            "Missing ',' or ']' in array declaration".toList token).recover .arrayEnd) := by
  rw [readElements, bind_of_ok ((modify_eq_ok (u := ⟨⟩)).mpr rfl), bind_of_ok (get_eq_ok.mpr ⟨rfl, rfl⟩)]
  dsimp only
  split_ifs with h hmany
  · rfl
  · rfl
  · cases hrec : rec .null (s.moveTo (skipSpaces s.current)) with
    | error fault t => exact bind_of_error hrec
    | ok read t =>
      obtain ⟨ok, value⟩ := read
      refine (bind_of_ok hrec).trans ?_
      cases ok with
      | false => rfl
      | true =>
        dsimp only
        rw [if_neg (by decide), bind_of_ok (advance_run _ t)]
        split_ifs <;> rfl

theorem readMember_run (name : StdString) (members : List (StdString × Value)) :
    readMember features rec name members s =
      let colon := readToken s.current
      if colon.type ≠ .memberSeparator then
        .ok (some false, members) (((s.moveTo colon.stop).addError
          "Missing ':' after object member name".toList colon).recover .objectEnd)
      else
        match rec ((Value.object members).lookup name) (s.moveTo colon.stop) with
        | .error fault t => .error fault t
        | .ok (false, value) t =>
          .ok (some false, insertMember name value members) (t.recover .objectEnd)
        | .ok (true, value) t =>
          let comma := readTokenSkippingComments features t.current
          let members := insertMember name value members
          if comma.type = .objectEnd then .ok (some true, members) (t.moveTo comma.stop)
          else if comma.type = .arraySeparator then .ok (none, members) (t.moveTo comma.stop)
          else .ok (some false, members) (((t.moveTo comma.stop).addError
            "Missing ',' or '\x7d' in object declaration".toList comma).recover .objectEnd) := by
  rw [readMember, bind_of_ok (advance_run _ s)]
  dsimp only
  split_ifs with hcolon
  · rfl
  · cases hrec : rec ((Value.object members).lookup name) (s.moveTo (readToken s.current).stop) with
    | error fault t => exact bind_of_error hrec
    | ok read t =>
      obtain ⟨ok, value⟩ := read
      refine (bind_of_ok hrec).trans ?_
      cases ok with
      | false => rfl
      | true =>
        dsimp only
        rw [if_neg (by decide), bind_of_ok (advance_run _ t)]
        split_ifs <;> rfl

theorem readMembers_run (name : StdString) (members : List (StdString × Value)) :
    readMembers features rec (turns + 1) name members s =
      let tokenName := readTokenSkippingComments features s.current
      let t := s.moveTo tokenName.stop
      if tokenName.type = .objectEnd ∧ (name = [] ∨ features.allowTrailingCommas) then
        .ok (true, members) t
      else if tokenName.type ≠ .string then
        .ok (false, members) ((t.addError "Missing '\x7d' or object member name".toList
          tokenName).recover .objectEnd)
      else
        match decodeCharacters tokenName.inside with
        | .error why => .ok (false, members) ((noteDecodeError t tokenName why).recover .objectEnd)
        | .ok name =>
          if 2 ^ 30 ≤ name.length then .error .exception t
          else if features.rejectDupKeys ∧ isMember name members then
            .ok (false, members) ((t.addError ("Duplicate key: '".toList ++ name ++ "'".toList)
              tokenName).recover .objectEnd)
          else
            match readMember features rec name members t with
            | .error fault u => .error fault u
            | .ok (some ok, members) u => .ok (ok, members) u
            | .ok (none, members) u => readMembers features rec turns name members u := by
  rw [readMembers, bind_of_ok (advance_run _ s)]
  dsimp only
  by_cases hend : (readTokenSkippingComments features s.current).type = .objectEnd ∧
      (name = [] ∨ features.allowTrailingCommas)
  · rw [if_pos hend, if_pos hend]
    rfl
  rw [if_neg hend, if_neg hend]
  by_cases hstring : (readTokenSkippingComments features s.current).type ≠ .string
  · rw [if_pos hstring, if_pos hstring]
    rfl
  rw [if_neg hstring, if_neg hstring]
  cases hdecode : decodeCharacters (readTokenSkippingComments features s.current).inside with
  | error why =>
    refine (bind_of_ok (decodeString_of_error hdecode _)).trans ?_
    rfl
  | ok name' =>
    refine (bind_of_ok (decodeString_of_ok hdecode _)).trans ?_
    dsimp only
    split_ifs with hlong hdup
    · rfl
    · rfl
    · cases hmember : readMember features rec name' members
          (s.moveTo (readTokenSkippingComments features s.current).stop) with
      | error fault u => exact bind_of_error hmember
      | ok read u =>
        obtain ⟨_ | ok, members'⟩ := read
        · exact bind_of_ok hmember
        · exact bind_of_ok hmember

end Turns

/-- What `readValue` makes of its first token. -/
theorem readValue_run (room : ℕ) (current : Value) (s : ReaderState) :
    readValue features readDouble (room + 1) current s =
      let token := readTokenSkippingComments features s.current
      let t := s.moveTo token.stop
      match token.type with
      | .objectBegin =>
        match readMembers features (readValue features readDouble room) (token.stop.length + 1) [] [] t with
        | .error fault u => .error fault u
        | .ok (ok, members) u => .ok (ok, .object members) u
      | .arrayBegin =>
        match readElements features (readValue features readDouble room) (token.stop.length + 1) [] t with
        | .error fault u => .error fault u
        | .ok (ok, elements) u => .ok (ok, .array elements) u
      | .number =>
        match decodeNumber readDouble token.text with
        | .ok value => .ok (true, value) t
        | .error message => .ok (false, current) (t.addError message token)
      | .string =>
        match decodeCharacters token.inside with
        | .ok decoded =>
          match Value.ofString decoded with
          | .ok value => .ok (true, value) t
          | .error fault => .error fault t
        | .error why => .ok (false, current) (noteDecodeError t token why)
      | .true => .ok (true, .boolean true) t
      | .false => .ok (true, .boolean false) t
      | .null => .ok (true, .null) t
      | _ => .ok (false, current)
          (t.addError "Syntax error: value, object or array expected.".toList token) := by
  rw [readValue, bind_of_ok (advance_run _ s)]
  dsimp only
  cases (readTokenSkippingComments features s.current).type
  case objectBegin =>
    dsimp only
    cases hread : readMembers features (readValue features readDouble room)
        ((readTokenSkippingComments features s.current).stop.length + 1) [] []
        (s.moveTo (readTokenSkippingComments features s.current).stop) with
    | error fault u => exact bind_of_error hread
    | ok read u => exact bind_of_ok hread
  case arrayBegin =>
    dsimp only
    cases hread : readElements features (readValue features readDouble room)
        ((readTokenSkippingComments features s.current).stop.length + 1) []
        (s.moveTo (readTokenSkippingComments features s.current).stop) with
    | error fault u => exact bind_of_error hread
    | ok read u => exact bind_of_ok hread
  case number =>
    dsimp only
    cases decodeNumber readDouble (readTokenSkippingComments features s.current).text <;> rfl
  case string =>
    dsimp only
    cases hdecode : decodeCharacters (readTokenSkippingComments features s.current).inside with
    | error why => exact bind_of_ok (decodeString_of_error hdecode _)
    | ok decoded =>
      refine (bind_of_ok (decodeString_of_ok hdecode _)).trans ?_
      dsimp only
      cases Value.ofString decoded <;> rfl
  all_goals rfl

end OpenXRSdk.Json
