import Mathlib
import EcSystemCore.Adapter.Identity
import EcSystemCore.Protocol.Utf8

/-!
# The daemon's JSON reader

`mini_json.hpp`: a recursive-descent reader over the bytes of a text, with limits on the
size of the text, the nesting, the number of values and the length of a string, and the
accessors the configuration loader uses.  The reader is a function of the bytes that are
left and of the number of values read so far; an exception is its text.

The recursion of the reader is bounded by a `fuel` that starts above the length of the
text.  Every value takes at least one byte, so the fuel should not run out; this is not
proved here.  A number keeps its lexeme; of its `double` only the check that there is one
is modelled, since no caller reads it.
-/

namespace EcSystemCore

/-- `Json`.  The members of an object are those of a `std::map`, in the order of the
keys. -/
inductive Json where
  | null
  | object (members : List (Bytes × Json))
  | array (items : List Json)
  | string (text : Bytes)
  | bool (value : Bool)
  | number (lexeme : Bytes)
  deriving Repr

namespace Json

/-! ### Accessors -/

/-- `isObject`. -/
def isObject : Json → Bool
  | object _ => true
  | _ => false

/-- The members of an object. -/
def members : Json → List (Bytes × Json)
  | object members => members
  | _ => []

/-- The value of a key, in members. -/
def lookup (key : Bytes) (members : List (Bytes × Json)) : Option Json :=
  (members.find? fun member => member.1 = key).map Prod.snd

/-- `find`. -/
def find (json : Json) (key : String) : Option Json := lookup (ascii key) json.members

/-- The number that decimal digits write. -/
def digitsValue (digits : Bytes) : ℕ :=
  digits.foldl (fun value digit => value * 10 + (digit.toNat - 0x30)) 0

/-- `integer`. -/
def integer : Json → Except Bytes ℤ
  | number lexeme =>
    if lexeme = [] ∨ lexeme.any fun c => c = asciiChar '.' || c = asciiChar 'e' ||
        c = asciiChar 'E' then
      .error (ascii "JSON integer must use integer syntax")
    else
      let parsed : ℤ := match lexeme with
        | 0x2d :: digits => -digitsValue digits
        | digits => digitsValue digits
      if parsed < -2 ^ 63 ∨ parsed ≥ 2 ^ 63 then
        .error (ascii "JSON integer is outside the signed 64-bit range")
      else .ok parsed
  | _ => .error (ascii "JSON value must be an integer")

/-- The exception of a field of the wrong type. -/
def fieldError {α : Type} (key complaint : String) : Except Bytes α :=
  .error (ascii ("JSON field '" ++ key ++ "' " ++ complaint))

/-- `stringValue`. -/
def stringValue (json : Json) (key : String) (fallback : Bytes := []) : Except Bytes Bytes :=
  match json.find key with
  | none => .ok fallback
  | some (string text) => .ok text
  | some _ => fieldError key "must be a string"

/-- `boolValue`. -/
def boolValue (json : Json) (key : String) (fallback : Bool := false) : Except Bytes Bool :=
  match json.find key with
  | none => .ok fallback
  | some (bool value) => .ok value
  | some _ => fieldError key "must be a boolean"

/-- `integerValue`. -/
def integerValue (json : Json) (key : String) (fallback : ℤ := 0) : Except Bytes ℤ :=
  match json.find key with
  | none => .ok fallback
  | some (number lexeme) =>
    match (number lexeme).integer with
    | .ok value => .ok value
    | .error _ => fieldError key "is outside the signed 64-bit integer range"
  | some _ => fieldError key "must be an integer"

/-! ### The reader -/

/-- `Json::Limits`. -/
structure Limits where
  maximumBytes : ℕ := 1024 * 1024
  maximumDepth : ℕ := 64
  maximumNodes : ℕ := 16384
  maximumStringBytes : ℕ := 65536

namespace Parser

/-- An exception. -/
def throwing {α : Type} (message : String) : Except Bytes α := .error (ascii message)

/-- `IsJsonWhitespace`. -/
def isJsonWhitespace (c : UInt8) : Bool :=
  c = asciiChar ' ' || c = asciiChar '\t' || c = asciiChar '\r' || c = asciiChar '\n'

/-- `skipWhitespace`. -/
def skipWhitespace (text : Bytes) : Bytes := text.dropWhile isJsonWhitespace

/-- `get`. -/
def get : Bytes → Except Bytes (UInt8 × Bytes)
  | [] => throwing "unexpected end of JSON input"
  | c :: text => .ok (c, text)

/-- `expect`. -/
def expect (expected : Char) (text : Bytes) : Except Bytes Bytes := do
  let (c, text) ← get text
  if c ≠ asciiChar expected then throwing "unexpected JSON character" else .ok text

/-- `consumeLiteral`. -/
def consumeLiteral : Bytes → Bytes → Except Bytes Bytes
  | [], text => .ok text
  | expected :: literal, text => do
      let (c, text) ← get text
      if c ≠ expected then throwing "invalid JSON literal" else consumeLiteral literal text

/-- The value of a hexadecimal digit. -/
def hexDigit? (c : UInt8) : Option ℕ :=
  if asciiChar '0' ≤ c ∧ c ≤ asciiChar '9' then some (c.toNat - 0x30)
  else if asciiChar 'a' ≤ c ∧ c ≤ asciiChar 'f' then some (c.toNat - 0x61 + 10)
  else if asciiChar 'A' ≤ c ∧ c ≤ asciiChar 'F' then some (c.toNat - 0x41 + 10)
  else none

/-- The loop of `parseUnicodeCodeUnit` over `count` digits. -/
def hexDigits : ℕ → ℕ → Bytes → Except Bytes (ℕ × Bytes)
  | 0, value, text => .ok (value, text)
  | count + 1, value, text => do
      let (c, text) ← get text
      match hexDigit? c with
      | some digit => hexDigits count (value * 16 + digit) text
      | none => throwing "invalid JSON unicode escape"

/-- `parseUnicodeCodeUnit`. -/
def parseUnicodeCodeUnit (text : Bytes) : Except Bytes (ℕ × Bytes) := hexDigits 4 0 text

/-- The code point of an escape whose first code unit has been read. -/
def escapedCodePoint (unit : ℕ) (text : Bytes) : Except Bytes (ℕ × Bytes) :=
  if 0xd800 ≤ unit ∧ unit ≤ 0xdbff then do
    let (c, text) ← get text
    if c ≠ asciiChar '\\' then throwing "invalid JSON unicode surrogate pair" else do
    let (c, text) ← get text
    if c ≠ asciiChar 'u' then throwing "invalid JSON unicode surrogate pair" else do
    let (low, text) ← parseUnicodeCodeUnit text
    if low < 0xdc00 ∨ low > 0xdfff then throwing "invalid JSON unicode surrogate pair"
    else .ok (0x10000 + (unit - 0xd800) <<< 10 + (low - 0xdc00), text)
  else if 0xdc00 ≤ unit ∧ unit ≤ 0xdfff then throwing "unpaired JSON unicode low surrogate"
  else .ok (unit, text)

/-- The bytes `appendUnicodeEscape` stores for a code point. -/
def encodeCodePoint (codePoint : ℕ) : Bytes :=
  if codePoint ≤ 0x7f then [.ofNat codePoint]
  else if codePoint ≤ 0x7ff then
    [.ofNat (0xc0 ||| codePoint >>> 6), .ofNat (0x80 ||| codePoint &&& 0x3f)]
  else if codePoint ≤ 0xffff then
    [.ofNat (0xe0 ||| codePoint >>> 12), .ofNat (0x80 ||| codePoint >>> 6 &&& 0x3f),
      .ofNat (0x80 ||| codePoint &&& 0x3f)]
  else
    [.ofNat (0xf0 ||| codePoint >>> 18), .ofNat (0x80 ||| codePoint >>> 12 &&& 0x3f),
      .ofNat (0x80 ||| codePoint >>> 6 &&& 0x3f), .ofNat (0x80 ||| codePoint &&& 0x3f)]

/-- `isValidUtf8`; unlike the check of the protocol, it lets a NUL through. -/
def isValidUtf8 : Bytes → Bool
  | [] => true
  | first :: text =>
    if first ≤ 0x7f then isValidUtf8 text
    else if first &&& 0xe0 = 0xc0 then
      match text with
      | b₁ :: text =>
        isContinuation b₁ && isScalar 1 (appendBits (first &&& 0x1f).toNat b₁) &&
          isValidUtf8 text
      | _ => false
    else if first &&& 0xf0 = 0xe0 then
      match text with
      | b₁ :: b₂ :: text =>
        isContinuation b₁ && isContinuation b₂ &&
          isScalar 2 (appendBits (appendBits (first &&& 0x0f).toNat b₁) b₂) &&
          isValidUtf8 text
      | _ => false
    else if first &&& 0xf8 = 0xf0 then
      match text with
      | b₁ :: b₂ :: b₃ :: text =>
        isContinuation b₁ && isContinuation b₂ && isContinuation b₃ &&
          isScalar 3 (appendBits (appendBits (appendBits (first &&& 0x07).toNat b₁) b₂) b₃) &&
          isValidUtf8 text
      | _ => false
    else false

section

variable (limits : Limits)

/-- `appendByte`, and the append at the end of `appendUnicodeEscape`: the value is extended
if it stays within the limit. -/
def append (value bytes : Bytes) : Except Bytes Bytes :=
  if value.length + bytes.length > limits.maximumStringBytes then
    throwing "JSON string exceeds the configured size limit"
  else .ok (value ++ bytes)

/-- What an escape other than `\u` stands for. -/
def simpleEscape? (escaped : UInt8) : Option UInt8 :=
  if escaped = asciiChar '"' ∨ escaped = asciiChar '\\' ∨ escaped = asciiChar '/' then some escaped
  else if escaped = asciiChar 'b' then some 0x08
  else if escaped = asciiChar 'f' then some 0x0c
  else if escaped = asciiChar 'n' then some 0x0a
  else if escaped = asciiChar 'r' then some 0x0d
  else if escaped = asciiChar 't' then some 0x09
  else none

/-- The loop of `parseString`, with the value read so far.  The loop ends with the text, so
its fuel is the length of the text. -/
def parseCharacters : ℕ → Bytes → Bytes → Except Bytes (Bytes × Bytes)
  | fuel + 1, value, ch :: text =>
    if ch = asciiChar '"' then
      if isValidUtf8 value then .ok (value, text)
      else throwing "JSON string contains malformed UTF-8"
    else if ch < 0x20 then throwing "invalid control character in JSON string"
    else if ch ≠ asciiChar '\\' then do
      parseCharacters fuel (← append limits value [ch]) text
    else do
      let (escaped, text) ← get text
      if escaped = asciiChar 'u' then do
        let (unit, text) ← parseUnicodeCodeUnit text
        let (codePoint, text) ← escapedCodePoint unit text
        parseCharacters fuel (← append limits value (encodeCodePoint codePoint)) text
      else
        match simpleEscape? escaped with
        | some byte => do parseCharacters fuel (← append limits value [byte]) text
        | none => throwing "unsupported JSON string escape"
  | _, _, _ => throwing "unterminated JSON string"

/-- `parseString`. -/
def parseString (text : Bytes) : Except Bytes (Bytes × Bytes) := do
  let text ← expect '"' text
  parseCharacters limits text.length [] text

end

/-! ### Numbers -/

/-- `std::from_chars` finds no `double` for `mantissa * 10 ^ scale`: the value is at least
halfway from the largest one to `2 ^ 1024`, or not zero and at most halfway from zero to
the smallest one.  The first two cases keep the powers small. -/
def outOfRange (mantissa : ℕ) (digits : ℕ) (scale : ℤ) : Bool :=
  if mantissa = 0 then false
  else if digits + scale > 400 ∨ digits + scale < -400 then true
  else if 0 ≤ scale then mantissa * 10 ^ scale.toNat ≥ 2 ^ 1024 - 2 ^ 970
  else mantissa ≥ (2 ^ 1024 - 2 ^ 970) * 10 ^ (-scale).toNat ||
    mantissa * 2 ^ 1075 ≤ 10 ^ (-scale).toNat

/-- The digits at the front of a text, and the rest. -/
def spanDigits (text : Bytes) : Bytes × Bytes := (text.takeWhile isDigit, text.dropWhile isDigit)

/-- The digits `parseNumber` requires at this point. -/
def digitsOr (message : String) (text : Bytes) : Except Bytes (Bytes × Bytes) :=
  if text.head?.any isDigit then .ok (spanDigits text) else throwing message

/-- The digits in front of a fraction or an exponent. -/
def parseWhole (text : Bytes) : Except Bytes (Bytes × Bytes) :=
  match text with
  | 0x30 :: text =>
    if text.head?.any isDigit then throwing "invalid leading zero in JSON number"
    else .ok ([0x30], text)
  | _ => digitsOr "invalid JSON number" text

/-- The point and the digits of a fraction, if there is one. -/
def parseFraction (text : Bytes) : Except Bytes ((Bytes × Bytes) × Bytes) :=
  match text with
  | 0x2e :: text => do
      let (digits, text) ← digitsOr "invalid JSON fraction" text
      return (([0x2e], digits), text)
  | _ => .ok (([], []), text)

/-- The sign in front of the digits of an exponent. -/
def parseSign (text : Bytes) : Bytes × Bytes :=
  match text with
  | 0x2b :: text => ([0x2b], text)
  | 0x2d :: text => ([0x2d], text)
  | _ => ([], text)

/-- The letter, sign and digits of an exponent, if there is one. -/
def parseExponent (text : Bytes) : Except Bytes ((Bytes × Bytes × Bytes) × Bytes) :=
  match text with
  | c :: text =>
    if c = asciiChar 'e' ∨ c = asciiChar 'E' then do
      let (sign, text) := parseSign text
      let (digits, text) ← digitsOr "invalid JSON exponent" text
      return (([c], sign, digits), text)
    else .ok (([], [], []), c :: text)
  | [] => .ok (([], [], []), [])

/-- The minus sign in front of a number. -/
def parseMinus (text : Bytes) : Bytes × Bytes :=
  match text with
  | 0x2d :: text => ([0x2d], text)
  | _ => ([], text)

/-- `parseNumber`: the lexeme. -/
def parseNumber (text : Bytes) : Except Bytes (Bytes × Bytes) := do
  let (minus, text) := parseMinus text
  let (whole, text) ← parseWhole text
  let ((point, fraction), text) ← parseFraction text
  let ((letter, sign, digits), text) ← parseExponent text
  let exponent : ℤ := if sign = [0x2d] then -digitsValue digits else digitsValue digits
  let significant := (whole ++ fraction).dropWhile (· = 0x30)
  if outOfRange (digitsValue significant) significant.length (exponent - fraction.length) then
    throwing "non-finite JSON number"
  else .ok (minus ++ whole ++ point ++ fraction ++ letter ++ sign ++ digits, text)

/-! ### Values -/

/-- `emplace` of an object: no value, if the key is there. -/
def emplace (key : Bytes) (value : Json) :
    List (Bytes × Json) → Option (List (Bytes × Json))
  | [] => some [(key, value)]
  | member :: members =>
    if key = member.1 then none
    else if key < member.1 then some ((key, value) :: member :: members)
    else (emplace key value members).map (member :: ·)

mutual

/-- `parseValue`: the value, the number of values read so far and the rest of the text. -/
def parseValue (limits : Limits) : ℕ → ℕ → ℕ → Bytes → Except Bytes (Json × ℕ × Bytes)
  | 0, _, _, _ => throwing "unexpected end of JSON input"
  | fuel + 1, depth, nodeCount, text =>
    if depth > limits.maximumDepth then throwing "JSON nesting exceeds the configured limit"
    else if nodeCount + 1 > limits.maximumNodes then
      throwing "JSON node count exceeds the configured limit"
    else
      match skipWhitespace text with
      | [] => throwing "unexpected end of JSON input"
      | c :: text =>
        if c = asciiChar '\x7b' then
          match skipWhitespace text with
          | 0x7d :: text => .ok (object [], nodeCount + 1, text)
          | text => parseObject limits fuel depth (nodeCount + 1) [] text
        else if c = asciiChar '[' then
          match skipWhitespace text with
          | 0x5d :: text => .ok (array [], nodeCount + 1, text)
          | text => parseArray limits fuel depth (nodeCount + 1) [] text
        else if c = asciiChar '"' then do
          let (value, text) ← parseString limits (c :: text)
          return (string value, nodeCount + 1, text)
        else if c = asciiChar 't' then do
          return (bool true, nodeCount + 1, ← consumeLiteral (ascii "true") (c :: text))
        else if c = asciiChar 'f' then do
          return (bool false, nodeCount + 1, ← consumeLiteral (ascii "false") (c :: text))
        else if c = asciiChar 'n' then do
          return (null, nodeCount + 1, ← consumeLiteral (ascii "null") (c :: text))
        else if c = asciiChar '-' ∨ isDigit c = true then do
          let (lexeme, text) ← parseNumber (c :: text)
          return (number lexeme, nodeCount + 1, text)
        else throwing "unexpected JSON token"

/-- The loop of `parseObject`, with the members read so far. -/
def parseObject (limits : Limits) :
    ℕ → ℕ → ℕ → List (Bytes × Json) → Bytes → Except Bytes (Json × ℕ × Bytes)
  | 0, _, _, _, _ => throwing "unexpected end of JSON input"
  | fuel + 1, depth, nodeCount, members, text => do
      let text := skipWhitespace text
      if text.head? ≠ some (asciiChar '"') then throwing "JSON object key must be a string"
      else
        let (key, text) ← parseString limits text
        let text ← expect ':' (skipWhitespace text)
        let (value, nodeCount, text) ← parseValue limits fuel (depth + 1) nodeCount text
        match emplace key value members with
        | none => throwing "duplicate JSON object key"
        | some members =>
          let (separator, text) ← get (skipWhitespace text)
          if separator = asciiChar '\x7d' then .ok (object members, nodeCount, text)
          else if separator ≠ asciiChar ',' then
            throwing "expected ',' or '\x7d' in JSON object"
          else parseObject limits fuel depth nodeCount members text

/-- The loop of `parseArray`, with the items read so far. -/
def parseArray (limits : Limits) :
    ℕ → ℕ → ℕ → List Json → Bytes → Except Bytes (Json × ℕ × Bytes)
  | 0, _, _, _, _ => throwing "unexpected end of JSON input"
  | fuel + 1, depth, nodeCount, items, text => do
      let (value, nodeCount, text) ← parseValue limits fuel (depth + 1) nodeCount text
      let (separator, text) ← get (skipWhitespace text)
      if separator = asciiChar ']' then .ok (array (items ++ [value]), nodeCount, text)
      else if separator ≠ asciiChar ',' then throwing "expected ',' or ']' in JSON array"
      else parseArray limits fuel depth nodeCount (items ++ [value]) text

end

end Parser

/-- `Json::Parse`. -/
def parse (text : Bytes) (limits : Limits := {}) : Except Bytes Json :=
  if text.length > limits.maximumBytes then
    Parser.throwing "JSON input exceeds the configured size limit"
  else if limits.maximumDepth = 0 ∨ limits.maximumNodes = 0 ∨ limits.maximumStringBytes = 0 then
    Parser.throwing "invalid JSON parser limits"
  else do
    let (result, _, rest) ← Parser.parseValue limits (2 * text.length + 1) 0 0 text
    if Parser.skipWhitespace rest ≠ [] then Parser.throwing "unexpected trailing JSON data"
    else return result

end Json

end EcSystemCore
