import Mathlib

/-!
# JavaScript values

The values the configuration server handles: what `JSON.parse` can return, and
`undefined`, which is what a missing property reads as.  A string is its UTF-16 code
units, and a number is a `double`, of which the server only ever asks whether it is an
integer and which one.
-/

namespace EcSystemCore.Web

/-! ### Strings -/

/-- A string, as its code units. -/
abbrev JsString := List UInt16

instance : LawfulBEq JsString := inferInstance

/-- The code units of an ASCII literal. -/
def js (text : String) : JsString := text.toList.map fun c => .ofNat c.toNat

/-- The code unit of an ASCII character. -/
def jsChar (c : Char) : UInt16 := .ofNat c.toNat

/-- The white space and line terminators of the language: what `trim` removes and `\s`
matches. -/
def isJsSpace (c : UInt16) : Bool :=
  (0x09 ≤ c && c ≤ 0x0d) || c = 0x20 || c = 0xa0 || c = 0x1680 || (0x2000 ≤ c && c ≤ 0x200a) ||
    c = 0x2028 || c = 0x2029 || c = 0x202f || c = 0x205f || c = 0x3000 || c = 0xfeff

/-- `trim`. -/
def trim (text : JsString) : JsString :=
  ((text.dropWhile isJsSpace).reverse.dropWhile isJsSpace).reverse

/-- The class `[0-9]`. -/
def isJsDigit (c : UInt16) : Bool := 0x30 ≤ c && c ≤ 0x39

/-- The class `[0-9a-f]` of an expression that ignores the case. -/
def isJsXDigit (c : UInt16) : Bool :=
  isJsDigit c || (0x41 ≤ c && c ≤ 0x46) || (0x61 ≤ c && c ≤ 0x66)

/-- The class `[A-Za-z0-9_-]`. -/
def isNameUnit (c : UInt16) : Bool :=
  isJsDigit c || (0x41 ≤ c && c ≤ 0x5a) || (0x61 ≤ c && c ≤ 0x7a) || c = jsChar '_' ||
    c = jsChar '-'

/-- `toLowerCase` of a code unit.  Letters outside ASCII stay as they are: the checks
that follow accept none of them, and none of them becomes an ASCII letter that they
accept. -/
def lowerUnit (c : UInt16) : UInt16 := if 0x41 ≤ c && c ≤ 0x5a then c + 0x20 else c

/-- The first code unit of a surrogate pair. -/
def isLeading (unit : UInt16) : Bool := 0xd800 ≤ unit && unit ≤ 0xdbff

/-- The second code unit of a surrogate pair. -/
def isTrailing (unit : UInt16) : Bool := 0xdc00 ≤ unit && unit ≤ 0xdfff

/-- The character of a surrogate pair. -/
def pairChar (leading trailing : UInt16) : Char :=
  .ofNat (0x10000 + (leading.toNat - 0xd800) * 0x400 + (trailing.toNat - 0xdc00))

/-- The text of an integer in a template. -/
def showInteger (value : ℤ) : JsString := js (toString value)

/-! ### Numbers -/

/-- A number.  A finite one is `significand * 2 ^ exponent`. -/
inductive JsNumber where
  | finite (significand exponent : ℤ)
  | infinite
  | notANumber
  deriving DecidableEq

namespace JsNumber

/-- The number of an integer that a `double` can hold. -/
def ofInt (value : ℤ) : JsNumber := finite value 0

/-- The integer a number is, if `Number.isInteger` accepts it. -/
def integer? : JsNumber → Option ℤ
  | finite significand exponent =>
    if 0 ≤ exponent then some (significand * 2 ^ exponent.toNat)
    else if significand % 2 ^ (-exponent).toNat = 0 then
      some (significand / 2 ^ (-exponent).toNat)
    else none
  | _ => none

@[simp] theorem integer?_ofInt (value : ℤ) : (ofInt value).integer? = some value := by
  simp [ofInt, integer?]

/-- The integer nearest to `n / d`, the even one of two. -/
def roundHalfEven (n d : ℕ) : ℕ :=
  if 2 * (n % d) < d ∨ (2 * (n % d) = d ∧ n / d % 2 = 0) then n / d else n / d + 1

/-- `n / d`, divided by `2 ^ exponent`, as a fraction. -/
def scaled (n d : ℕ) (exponent : ℤ) : ℕ × ℕ :=
  if 0 ≤ exponent then (n, d * 2 ^ exponent.toNat) else (n * 2 ^ (-exponent).toNat, d)

/-- The exponent at which a positive `n / d` has a significand of 53 bits, or the least
exponent there is. -/
def exponentOf (n d : ℕ) : ℤ :=
  let guess : ℤ := (n.log2 : ℤ) - d.log2 - 53
  max (-1074) (if (scaled n d guess).1 / (scaled n d guess).2 < 2 ^ 53 then guess else guess + 1)

/-- The number nearest to a positive `n / d`. -/
def ofRatio (negative : Bool) (n d : ℕ) : JsNumber :=
  let exponent := exponentOf n d
  let significand := roundHalfEven (scaled n d exponent).1 (scaled n d exponent).2
  if 0 ≤ exponent ∧ significand * 2 ^ exponent.toNat ≥ 2 ^ 1024 then infinite
  else finite (if negative then -significand else significand) exponent

/-- The number of the literal `mantissa * 10 ^ scale`, where the mantissa has as many
digits as given.  The cases for very large and very small ones keep the powers small. -/
def ofDecimal (negative : Bool) (mantissa digits : ℕ) (scale : ℤ) : JsNumber :=
  if mantissa = 0 ∨ digits + scale < -400 then finite 0 0
  else if digits + scale > 400 then infinite
  else if 0 ≤ scale then ofRatio negative (mantissa * 10 ^ scale.toNat) 1
  else ofRatio negative mantissa (10 ^ (-scale).toNat)

end JsNumber

/-! ### Values -/

/-- A value.  The properties of an object stand in the order of `Object.keys`, and their
keys are distinct. -/
inductive JsValue where
  | undefined
  | null
  | bool (value : Bool)
  | number (value : JsNumber)
  | string (text : JsString)
  | array (items : List JsValue)
  | object (properties : List (JsString × JsValue))

/-- The property of an object, `undefined` if it has none of that name. -/
def property (properties : List (JsString × JsValue)) (key : String) : JsValue :=
  ((properties.find? fun entry => entry.1 = js key).map Prod.snd).getD .undefined

end EcSystemCore.Web
