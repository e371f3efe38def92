import Mathlib.Data.List.TakeWhile
import EcSystemCore.Web.JsValue

/-!
# JSON trees

`JSON.parse` works in two parts, as its standard has it: a text is read by the grammar of JSON
into a `JsonTree`, and the tree is evaluated.  A tree still has every member of an object, in
the order of the text, and every number as it is written; the value has the last of several
members of one name, and numbers rounded to `double`s.

Here are the trees, the readers of their ASCII parts, which are numbers, names and escapes, and
the evaluation.
-/

namespace EcSystemCore.Web

/-! ### Trees -/

/-- A number as it is written, part by part. -/
structure NumberText where
  minus : List Char
  whole : List Char
  point : List Char
  fraction : List Char
  letter : List Char
  sign : List Char
  digits : List Char
  deriving DecidableEq

/-- What a JSON text says. -/
inductive JsonTree where
  | null
  | bool (value : Bool)
  | number (text : NumberText)
  | string (text : JsString)
  | array (items : List JsonTree)
  | object (members : List (JsString × JsonTree))

namespace JsonTree

mutual

/-- The depth of the values inside a tree; the value itself has depth zero. -/
def nesting : JsonTree → ℕ
  | array items => nestingItems items
  | object members => nestingMembers members
  | _ => 0

/-- The depth of the values inside an array. -/
def nestingItems : List JsonTree → ℕ
  | [] => 0
  | item :: items => max (item.nesting + 1) (nestingItems items)

/-- The depth of the values inside an object. -/
def nestingMembers : List (JsString × JsonTree) → ℕ
  | [] => 0
  | (_, tree) :: members => max (tree.nesting + 1) (nestingMembers members)

end

end JsonTree

namespace NumberText

/-- The characters of the number. -/
def lexeme (number : NumberText) : List Char :=
  number.minus ++ number.whole ++ number.point ++ number.fraction ++ number.letter ++
    number.sign ++ number.digits

/-- The number that decimal digits write. -/
def decimal (digits : List Char) : ℕ :=
  digits.foldl (fun value digit => value * 10 + (digit.toNat - 0x30)) 0

/-- The exponent. -/
def exponent (number : NumberText) : ℤ :=
  if number.sign = ['-'] then -decimal number.digits else decimal number.digits

/-- The digits in front of the exponent, without zeros in front of them. -/
def significant (number : NumberText) : List Char :=
  (number.whole ++ number.fraction).dropWhile (· = '0')

/-- The value of the number. -/
def value (number : NumberText) : JsNumber :=
  .ofDecimal (number.minus ≠ []) (decimal number.significant) number.significant.length
    (number.exponent - number.fraction.length)

end NumberText

namespace JsonText

/-! ### Characters -/

/-- The code units of a character. -/
def utf16 (c : Char) : JsString :=
  if c.toNat < 0x10000 then [.ofNat c.toNat]
  else [.ofNat (0xd800 + (c.toNat - 0x10000) / 0x400), .ofNat (0xdc00 + (c.toNat - 0x10000) % 0x400)]

/-- The value of a hexadecimal digit. -/
def hexDigit? (c : Char) : Option ℕ :=
  if '0' ≤ c ∧ c ≤ '9' then some (c.toNat - 0x30)
  else if 'a' ≤ c ∧ c ≤ 'f' then some (c.toNat - 0x61 + 10)
  else if 'A' ≤ c ∧ c ≤ 'F' then some (c.toNat - 0x41 + 10)
  else none

/-- A code unit, of its four digits. -/
def hexUnit? (c₀ c₁ c₂ c₃ : Char) : Option UInt16 := do
  let d₀ ← hexDigit? c₀
  let d₁ ← hexDigit? c₁
  let d₂ ← hexDigit? c₂
  let d₃ ← hexDigit? c₃
  return .ofNat (((d₀ * 16 + d₁) * 16 + d₂) * 16 + d₃)

/-- What an escape other than `\u` stands for. -/
def simpleEscape? (c : Char) : Option UInt16 :=
  if c = '"' ∨ c = '\\' ∨ c = '/' then some (jsChar c)
  else if c = 'b' then some 0x08
  else if c = 'f' then some 0x0c
  else if c = 'n' then some 0x0a
  else if c = 'r' then some 0x0d
  else if c = 't' then some 0x09
  else none

/-- A literal name. -/
def readLiteral : List Char → List Char → Option (List Char)
  | [], text => some text
  | _ :: _, [] => none
  | expected :: literal, c :: text => if c = expected then readLiteral literal text else none

/-! ### Numbers -/

/-- A decimal digit. -/
def isDecimal (c : Char) : Bool := '0' ≤ c && c ≤ '9'

/-- The digits in front of a text, of which there is at least one. -/
def readDigits (text : List Char) : Option (List Char × List Char) :=
  if text.head?.any isDecimal then some (text.takeWhile isDecimal, text.dropWhile isDecimal)
  else none

/-- The digits of an integer: no zero in front of another digit. -/
def readWhole (text : List Char) : Option (List Char × List Char) :=
  match text with
  | [] => none
  | c :: rest =>
    if c = '0' then if rest.head?.any isDecimal then none else some (['0'], rest)
    else readDigits text

/-- The point and the digits of a fraction, if there is one. -/
def readFraction (text : List Char) : Option ((List Char × List Char) × List Char) :=
  match text with
  | [] => some (([], []), [])
  | c :: rest =>
    if c = '.' then do
      let (digits, rest) ← readDigits rest
      return ((['.'], digits), rest)
    else some (([], []), text)

/-- A sign, if there is one. -/
def readSign (text : List Char) : List Char × List Char :=
  match text with
  | [] => ([], [])
  | c :: rest => if c = '+' ∨ c = '-' then ([c], rest) else ([], text)

/-- The letter, sign and digits of an exponent, if there is one. -/
def readExponent (text : List Char) :
    Option ((List Char × List Char × List Char) × List Char) :=
  match text with
  | [] => some (([], [], []), [])
  | c :: rest =>
    if c = 'e' ∨ c = 'E' then do
      let (digits, rest') ← readDigits (readSign rest).2
      return (([c], (readSign rest).1, digits), rest')
    else some (([], [], []), text)

/-- A minus sign, if there is one. -/
def readMinus (text : List Char) : List Char × List Char :=
  match text with
  | [] => ([], [])
  | c :: rest => if c = '-' then (['-'], rest) else ([], text)

/-- A number. -/
def readNumber (text : List Char) : Option (NumberText × List Char) := do
  let (whole, rest) ← readWhole (readMinus text).2
  let ((point, fraction), rest) ← readFraction rest
  let ((letter, sign, digits), rest) ← readExponent rest
  return (⟨(readMinus text).1, whole, point, fraction, letter, sign, digits⟩, rest)

theorem isDecimal_of_readDigits {text digits rest : List Char}
    (h : readDigits text = some (digits, rest)) :
    digits ≠ [] ∧ ∀ c ∈ digits, isDecimal c = true := by
  unfold readDigits at h
  split at h
  case isTrue hhead =>
    cases h
    refine ⟨?_, fun c hc => List.mem_takeWhile_imp hc⟩
    cases text with
    | nil => simp at hhead
    | cons c text =>
      have hc : isDecimal c = true := by simpa using hhead
      simp [hc]
  case isFalse => cases h

end JsonText

/-! ### Evaluation -/

/-- The number of an array index that a key writes: digits without a zero in front, of a
number less than `2 ^ 32 - 1`. -/
def arrayIndex? (key : JsString) : Option ℕ :=
  let value := key.foldl (fun value digit => value * 10 + (digit.toNat - 0x30)) 0
  if key ≠ [] ∧ key.all isJsDigit ∧ (key.head? = some (jsChar '0') → key.length = 1) ∧
      value < 0xffffffff then some value
  else none

/-- In the order of `Object.keys`, a new key comes before the other. -/
def precedes (key other : JsString) : Bool :=
  match arrayIndex? key, arrayIndex? other with
  | some index, some otherIndex => index < otherIndex
  | some _, none => true
  | none, _ => false

/-- A new property, in its place. -/
def insertProperty (key : JsString) (value : JsValue) :
    List (JsString × JsValue) → List (JsString × JsValue)
  | [] => [(key, value)]
  | entry :: properties =>
    if precedes key entry.1 then (key, value) :: entry :: properties
    else entry :: insertProperty key value properties

/-- A property is created, or gets another value. -/
def setProperty (key : JsString) (value : JsValue) (properties : List (JsString × JsValue)) :
    List (JsString × JsValue) :=
  if properties.any fun entry => entry.1 = key then
    properties.map fun entry => if entry.1 = key then (key, value) else entry
  else insertProperty key value properties

namespace JsonTree

mutual

/-- The value of a tree. -/
def evaluate : JsonTree → JsValue
  | null => .null
  | bool value => .bool value
  | number text => .number text.value
  | string text => .string text
  | array items => .array (evaluateItems items)
  | object members => .object (evaluateMembers [] members)

/-- The values of the items of an array. -/
def evaluateItems : List JsonTree → List JsValue
  | [] => []
  | item :: items => item.evaluate :: evaluateItems items

/-- The properties of an object, after those set so far. -/
def evaluateMembers (properties : List (JsString × JsValue)) :
    List (JsString × JsonTree) → List (JsString × JsValue)
  | [] => properties
  | (key, value) :: members =>
    evaluateMembers (setProperty key value.evaluate properties) members

end

end JsonTree

end EcSystemCore.Web
