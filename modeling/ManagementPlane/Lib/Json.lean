import ManagementPlane.Lib.Strings

/-!
# Go's encoding/json

The encoder for strings, string slices, raw messages and structs with field
tags, as `json.Marshal` writes them (HTML characters escaped), and the scanner
that decides whether a raw message is valid while `compact` copies it without
insignificant white space. A document that has been decoded into an interface
value, or is stored in a JSONB column, is a `Json`.

Text is a list of characters. A Go string that is not valid UTF-8 has no
counterpart here.
-/

namespace GoJson

/-- A decoded JSON document. Numbers keep their literal. -/
inductive Json where
  | null
  | bool (value : Bool)
  | num (literal : String)
  | str (value : String)
  | arr (items : List Json)
  | obj (fields : List (String × Json))

/-- The field of an object; decoding into a map keeps the last duplicate. -/
def Json.field (name : String) : Json → Option Json
  | .obj fields => (fields.reverse.find? fun entry => entry.1 = name).map Prod.snd
  | _ => none

def Json.asString : Json → Option String
  | .str value => some value
  | _ => none

/-- One element of an array decoded into a string slot: anything but a string
leaves the slot empty. -/
def stringSlot : Json → String
  | .str value => value
  | _ => ""

/-- Decoding with `json.Unmarshal` into a nil `[]string` with the error ignored: an array fills
the slice, anything else leaves it nil. -/
def unmarshalStrings : Json → Option (List String)
  | .arr items => some (items.map stringSlot)
  | _ => none

def stringsDocument (slice : List String) : Json := .arr (slice.map .str)

/-! ## Decoding

`json.Unmarshal` into a fresh variable; `none` is an error. A null leaves the zero value, and
the name of a field may differ in case. -/

def decodeString : Json → Option String
  | .str value => some value
  | .null => some ""
  | _ => none

def decodeBool : Json → Option Bool
  | .bool value => some value
  | .null => some false
  | _ => none

/-- A string field of a struct: the last of its occurrences that is not null. -/
def stringField (name : String) (fields : List (String × Json)) : Option String :=
  fields.foldlM (fun current entry =>
    if GoStrings.equalFold entry.1 name then
      (match entry.2 with
        | .str value => some value
        | .null => some current
        | _ => none)
    else some current) ""

def boolField (name : String) (fields : List (String × Json)) : Option Bool :=
  fields.foldlM (fun current entry =>
    if GoStrings.equalFold entry.1 name then
      (match entry.2 with
        | .bool value => some value
        | .null => some current
        | _ => none)
    else some current) false

/-- A struct whose fields are read by `read`. -/
def decodeStruct {α : Type} (read : List (String × Json) → Option α) : Json → Option α
  | .obj fields => read fields
  | .null => read []
  | _ => none

def decodeSlice {α : Type} (decode : Json → Option α) : Json → Option (List α)
  | .arr items => items.mapM decode
  | .null => some []
  | _ => none

def hexDigit (n : Nat) : Char := "0123456789abcdef".toList.getD n '0'

def unicodeEscape (code : Nat) : List Char :=
  ['\\', 'u', hexDigit (code / 4096 % 16), hexDigit (code / 256 % 16),
    hexDigit (code / 16 % 16), hexDigit (code % 16)]

/-- Characters that are written as an escape in every string and in every
compacted raw message: the HTML ones and the two line separators. -/
def htmlEscaped (c : Char) : Bool :=
  c = '<' || c = '>' || c = '&' || c.toNat = 0x2028 || c.toNat = 0x2029

def escapeChar (c : Char) : List Char :=
  if c = '"' then ['\\', '"']
  else if c = '\\' then ['\\', '\\']
  else if c.toNat = 8 then ['\\', 'b']
  else if c.toNat = 12 then ['\\', 'f']
  else if c = '\n' then ['\\', 'n']
  else if c = '\r' then ['\\', 'r']
  else if c = '\t' then ['\\', 't']
  else if c.toNat < 0x20 || htmlEscaped c then unicodeEscape c.toNat
  else [c]

def encodeString (s : String) : List Char :=
  '"' :: s.toList.flatMap escapeChar ++ ['"']

def encodeBool (b : Bool) : List Char := (if b then "true" else "false").toList

def encodeInt (n : Int) : List Char := (toString n).toList

def bracketed (opening closing : Char) (elements : List (List Char)) : List Char :=
  opening :: (elements.intersperse [',']).flatten ++ [closing]

/-- A `[]string` field: a nil slice is `null`, an empty one `[]`. -/
def encodeStrings : Option (List String) → List Char
  | none => "null".toList
  | some slice => bracketed '[' ']' (slice.map encodeString)

inductive ParseState where
  | objectKey
  | objectValue
  | arrayValue

/-- The step functions of the scanner. `literal` holds the characters of `true`,
`false` or `null` that are still expected. -/
inductive ScanState where
  | beginValueOrEmpty
  | beginValue
  | beginStringOrEmpty
  | beginString
  | endValue
  | endTop
  | inString
  | inStringEsc
  | inStringEscU (digitsLeft : Nat)
  | neg
  | one
  | zero
  | dot
  | dot0
  | e
  | eSign
  | e0
  | literal (rest : List Char)
  | error

structure Scanner where
  state : ScanState
  stack : List ParseState
  endTop : Bool
  failed : Bool

/-- What the caller does with the character just scanned. -/
inductive Verdict where
  | keep
  | skip
  | error

def newScanner : Scanner := ⟨.beginValue, [], false, false⟩

def maxNestingDepth : Nat := 10000

def isSpace (c : Char) : Bool := c = ' ' || c = '\t' || c = '\r' || c = '\n'

def Scanner.fail (s : Scanner) : Scanner × Verdict :=
  ({ s with state := .error, failed := true }, .error)

def Scanner.goto (s : Scanner) (state : ScanState) : Scanner × Verdict :=
  ({ s with state := state }, .keep)

/-- White space, and anything else after the top-level value, is not copied; the
latter is reported when the input ends. -/
def Scanner.stateEndTop (s : Scanner) (c : Char) : Scanner × Verdict :=
  if isSpace c then (s, .skip) else (s.fail.1, .skip)

def Scanner.pushParseState (s : Scanner) (inner : ParseState) (next : ScanState) :
    Scanner × Verdict :=
  if s.stack.length + 1 ≤ maxNestingDepth then
    ({ s with stack := inner :: s.stack, state := next }, .keep)
  else s.fail

def Scanner.popParseState (s : Scanner) : Scanner × Verdict :=
  match s.stack.tail with
  | [] => ({ s with stack := [], state := .endTop, endTop := true }, .keep)
  | rest => ({ s with stack := rest, state := .endValue }, .keep)

def Scanner.stateEndValue (s : Scanner) (c : Char) : Scanner × Verdict :=
  match s.stack with
  | [] => ({ s with state := .endTop, endTop := true } : Scanner).stateEndTop c
  | top :: rest =>
    if isSpace c then ({ s with state := .endValue }, .skip)
    else
      match top with
      | .objectKey =>
        if c = ':' then
          ({ s with stack := .objectValue :: rest, state := .beginValue }, .keep)
        else s.fail
      | .objectValue =>
        if c = ',' then
          ({ s with stack := .objectKey :: rest, state := .beginString }, .keep)
        else if c = '}' then s.popParseState
        else s.fail
      | .arrayValue =>
        if c = ',' then s.goto .beginValue
        else if c = ']' then s.popParseState
        else s.fail

def Scanner.stateBeginValue (s : Scanner) (c : Char) : Scanner × Verdict :=
  if isSpace c then (s, .skip)
  else if c = '{' then s.pushParseState .objectKey .beginStringOrEmpty
  else if c = '[' then s.pushParseState .arrayValue .beginValueOrEmpty
  else if c = '"' then s.goto .inString
  else if c = '-' then s.goto .neg
  else if c = '0' then s.goto .zero
  else if c = 't' then s.goto (.literal ['r', 'u', 'e'])
  else if c = 'f' then s.goto (.literal ['a', 'l', 's', 'e'])
  else if c = 'n' then s.goto (.literal ['u', 'l', 'l'])
  else if c.isDigit then s.goto .one
  else s.fail

def Scanner.stateBeginString (s : Scanner) (c : Char) : Scanner × Verdict :=
  if isSpace c then (s, .skip)
  else if c = '"' then s.goto .inString
  else s.fail

def isHexDigit (c : Char) : Bool :=
  c.isDigit || ('a' ≤ c && c ≤ 'f') || ('A' ≤ c && c ≤ 'F')

def Scanner.state0 (s : Scanner) (c : Char) : Scanner × Verdict :=
  if c = '.' then s.goto .dot
  else if c = 'e' || c = 'E' then s.goto .e
  else s.stateEndValue c

def Scanner.stateESign (s : Scanner) (c : Char) : Scanner × Verdict :=
  if c.isDigit then s.goto .e0 else s.fail

def Scanner.step (s : Scanner) (c : Char) : Scanner × Verdict :=
  match s.state with
  | .beginValueOrEmpty =>
    if isSpace c then (s, .skip)
    else if c = ']' then s.stateEndValue c
    else s.stateBeginValue c
  | .beginValue => s.stateBeginValue c
  | .beginStringOrEmpty =>
    if isSpace c then (s, .skip)
    else if c = '}' then
      ({ s with stack := .objectValue :: s.stack.tail } : Scanner).stateEndValue c
    else s.stateBeginString c
  | .beginString => s.stateBeginString c
  | .endValue => s.stateEndValue c
  | .endTop => s.stateEndTop c
  | .inString =>
    if c = '"' then s.goto .endValue
    else if c = '\\' then s.goto .inStringEsc
    else if c.toNat < 0x20 then s.fail
    else (s, .keep)
  | .inStringEsc =>
    if c ∈ ['b', 'f', 'n', 'r', 't', '\\', '/', '"'] then s.goto .inString
    else if c = 'u' then s.goto (.inStringEscU 4)
    else s.fail
  | .inStringEscU digitsLeft =>
    if isHexDigit c then
      (if digitsLeft ≤ 1 then s.goto .inString else s.goto (.inStringEscU (digitsLeft - 1)))
    else s.fail
  | .neg =>
    if c = '0' then s.goto .zero
    else if c.isDigit then s.goto .one
    else s.fail
  | .one => if c.isDigit then s.goto .one else s.state0 c
  | .zero => s.state0 c
  | .dot => if c.isDigit then s.goto .dot0 else s.fail
  | .dot0 =>
    if c.isDigit then (s, .keep)
    else if c = 'e' || c = 'E' then s.goto .e
    else s.stateEndValue c
  | .e => if c = '+' || c = '-' then s.goto .eSign else s.stateESign c
  | .eSign => s.stateESign c
  | .e0 => if c.isDigit then (s, .keep) else s.stateEndValue c
  | .literal [] => s.stateEndValue c
  | .literal (expected :: rest) =>
    if c = expected then
      (match rest with
        | [] => s.goto .endValue
        | _ => s.goto (.literal rest))
    else s.fail
  | .error => (s, .error)

def Scanner.eof (s : Scanner) : Bool :=
  if s.failed then false
  else if s.endTop then true
  else (s.step ' ').1.endTop

def compactFrom : Scanner → List Char → Option (List Char)
  | s, [] => if s.eof then some [] else none
  | s, c :: rest =>
    match s.step c with
    | (_, .error) => none
    | (next, .skip) => compactFrom next rest
    | (next, .keep) =>
      (compactFrom next rest).map fun out =>
        (if htmlEscaped c then unicodeEscape c.toNat else [c]) ++ out

/-- The text `json.Marshal` writes for a raw message, or `none` when the message
is not valid JSON. -/
def compact (raw : String) : Option (List Char) := compactFrom newScanner raw.toList

example : compact " [1, 2.5e3 ,null] " = some "[1,2.5e3,null]".toList := by decide

/-- One tagged field of a struct value: the outer option is the error of the
field's encoder, the inner one a field left out by `omitempty`. -/
structure Field where
  name : String
  value : Option (Option (List Char))

def Field.string (name value : String) : Field := ⟨name, some (some (encodeString value))⟩
def Field.int (name : String) (value : Int) : Field := ⟨name, some (some (encodeInt value))⟩
def Field.bool (name : String) (value : Bool) : Field := ⟨name, some (some (encodeBool value))⟩

def Field.strings (name : String) (value : Option (List String)) : Field :=
  ⟨name, some (some (encodeStrings value))⟩

def Field.stringOmitEmpty (name value : String) : Field :=
  ⟨name, some (if value = "" then none else some (encodeString value))⟩

def Field.intOmitEmpty (name : String) (value : Int) : Field :=
  ⟨name, some (if value = 0 then none else some (encodeInt value))⟩

/-- A raw message tagged `omitempty`: nil and empty messages are left out. -/
def Field.rawOmitEmpty (name : String) (value : Option String) : Field :=
  ⟨name,
    match value with
    | none => some none
    | some raw => if raw = "" then some none else (compact raw).map some⟩

def encodeFields : List Field → Option (List (List Char))
  | [] => some []
  | field :: rest =>
    match field.value, encodeFields rest with
    | some (some text), some members =>
      some ((encodeString field.name ++ ':' :: text) :: members)
    | some none, some members => some members
    | _, _ => none

def marshalStruct (fields : List Field) : Option (List Char) :=
  (encodeFields fields).map (bracketed '{' '}')

end GoJson
