import EcSystemCore.Adapter.Scan
import EcSystemCore.Web.Validation

/-!
# ASCII texts on both sides

The daemon keeps texts as bytes, the configuration server as code units.  An ASCII text is
the same on both sides up to `units`, and then the two sides' character classes, trimming
and normal forms are the same as well: a MAC address or USB id in the daemon's normal form
is accepted unchanged by the server (`normalizeMac_units`, `normalizeUsbId_units`), and what
the server accepts it stores in the daemon's normal form (`exists_mac_of_normalizeMac`,
`exists_id_of_normalizeUsbId`).
-/

namespace EcSystemCore.Web

open Checks Trimming

/-! ### Code units of bytes -/

/-- The code units of an ASCII text. -/
def units (text : Bytes) : JsString := text.map (·.toUInt16)

/-- The bytes of an ASCII text. -/
def bytesOf (text : JsString) : Bytes := text.map (·.toUInt8)

@[simp] theorem bytesOf_units (text : Bytes) : bytesOf (units text) = text := by
  unfold bytesOf units
  rw [List.map_map]
  conv_rhs => rw [← List.map_id text]
  refine List.map_congr_left fun c _ => ?_
  show c.toUInt16.toUInt8 = c
  simp

theorem units_injective : Function.Injective units := fun text text' h => by
  rw [← bytesOf_units text, h, bytesOf_units]

@[simp] theorem units_inj {text text' : Bytes} : units text = units text' ↔ text = text' :=
  units_injective.eq_iff

@[simp] theorem units_eq_nil {text : Bytes} : units text = [] ↔ text = [] := List.map_eq_nil_iff

@[simp] theorem length_units (text : Bytes) : (units text).length = text.length := List.length_map _

/-- Every byte is an ASCII character. -/
def IsAscii (text : Bytes) : Prop := ∀ c ∈ text, c < 0x80

/-- The classes of the two sides, byte by byte. -/
theorem unit_classes (c : UInt8) :
    (c < 0x80 → isJsSpace c.toUInt16 = isSpace c) ∧
      isJsDigit c.toUInt16 = isDigit c ∧ isJsXDigit c.toUInt16 = isXDigit c ∧
      lowerUnit c.toUInt16 = (toLower c).toUInt16 ∧
      (c.toUInt16 = jsChar ':' ↔ c = asciiChar ':') ∧
      (c.toUInt16 = jsChar '-' ↔ c = asciiChar '-') ∧
      (0x20 ≤ c.toUInt16 && c.toUInt16 ≤ 0x7e) = (0x20 ≤ c && c ≤ 0x7e) ∧
      (0x20 ≤ c ∧ c ≤ 0x7e → c < 0x80 ∧ (c.toUInt16 ≤ 0x1f || c.toUInt16 = 0x7f) = false) :=
  forall_byte c (by decide +kernel)

theorem isAscii_of_printable {text : Bytes} (h : printableAscii text = true) : IsAscii text := by
  intro c hc
  have hprintable := List.all_eq_true.mp h c hc
  simp only [Bool.and_eq_true, decide_eq_true_eq] at hprintable
  exact ((unit_classes c).2.2.2.2.2.2.2 hprintable).1

theorem isPrintable_units (text : Bytes) : isPrintable (units text) = printableAscii text := by
  unfold isPrintable units printableAscii
  rw [List.all_map]
  exact congrArg (List.all text) (funext fun c => (unit_classes c).2.2.2.2.2.2.1)

theorem containsControlCharacters_units {text : Bytes} (h : printableAscii text = true) :
    containsControlCharacters (units text) = false := by
  unfold containsControlCharacters units
  rw [List.any_map, List.any_eq_false]
  intro c hc
  have hprintable := List.all_eq_true.mp h c hc
  simp only [Bool.and_eq_true, decide_eq_true_eq] at hprintable
  have hcontrol := ((unit_classes c).2.2.2.2.2.2.2 hprintable).2
  simpa using hcontrol

/-- A text of small code units is the text of its bytes. -/
theorem units_bytesOf {text : JsString} (h : ∀ unit ∈ text, unit < 0x100) :
    units (bytesOf text) = text := by
  unfold bytesOf units
  rw [List.map_map]
  conv_rhs => rw [← List.map_id text]
  refine List.map_congr_left fun unit hunit => ?_
  show unit.toUInt8.toUInt16 = unit
  have hlt : unit.toNat < 256 := UInt16.lt_iff_toNat_lt.mp (h unit hunit)
  apply UInt16.toNat_inj.mp
  simp [Nat.mod_eq_of_lt hlt]

theorem exists_units_of_printable {text : JsString} (h : isPrintable text = true) :
    ∃ bytes, text = units bytes ∧ printableAscii bytes = true := by
  have hsmall : ∀ unit ∈ text, unit < 0x100 := by
    intro unit hunit
    have hprintable := List.all_eq_true.mp h unit hunit
    simp only [Bool.and_eq_true, decide_eq_true_eq] at hprintable
    grind
  refine ⟨bytesOf text, (units_bytesOf hsmall).symm, ?_⟩
  rw [← isPrintable_units, units_bytesOf hsmall, h]

/-- A hexadecimal digit of the server is that of a byte. -/
theorem exists_byte_of_isJsXDigit {unit : UInt16} (h : isJsXDigit unit = true) :
    ∃ c : UInt8, unit = c.toUInt16 ∧ isXDigit c = true := by
  have hsmall : unit.toNat < 256 := by
    simp only [isJsXDigit, isJsDigit, Bool.or_eq_true, Bool.and_eq_true, decide_eq_true_eq,
      UInt16.le_iff_toNat_le] at h
    have h₁ : (0x39 : UInt16).toNat = 0x39 := rfl
    have h₂ : (0x46 : UInt16).toNat = 0x46 := rfl
    have h₃ : (0x66 : UInt16).toNat = 0x66 := rfl
    omega
  have hunit : unit = unit.toUInt8.toUInt16 := by
    apply UInt16.toNat_inj.mp
    simp [Nat.mod_eq_of_lt hsmall]
  exact ⟨unit.toUInt8, hunit, by rw [← (unit_classes unit.toUInt8).2.2.1, ← hunit, h]⟩

theorem trim_eq_strip (text : JsString) : trim text = strip isJsSpace text := rfl

theorem trim_idem (text : JsString) : trim (trim text) = trim text := strip_idem isJsSpace text

theorem trim_units {text : Bytes} (h : IsAscii text) : trim (units text) = units (trimAscii text) :=
  strip_map _ fun c hc => (unit_classes c).1 (h c hc)

/-! ### MAC addresses -/

/-- One character of a MAC address. -/
def macUnit (unit : UInt16) (digits : Option JsString) : Option JsString :=
  if isJsXDigit unit then digits.map (lowerUnit unit :: ·)
  else if unit = jsChar ':' || unit = jsChar '-' || isJsSpace unit then digits
  else none

theorem macDigits_units {text : Bytes} (h : IsAscii text) :
    macDigits (units text) = (EcSystemCore.macDigits text).map units := by
  induction text with
  | nil => rfl
  | cons c rest ih =>
    obtain ⟨hspace, -, hdigit, hlower, hcolon, hdash, -⟩ := unit_classes c
    show macUnit c.toUInt16 (macDigits (units rest)) = _
    rw [ih fun d hd => h d (by simp [hd]), macDigits_cons]
    simp only [macUnit, macDigit, hspace (h c (by simp)), hdigit, hlower, hcolon, hdash]
    split
    · cases EcSystemCore.macDigits rest <;> rfl
    · split <;> rfl

/-- The digits found are those of a text of lower-case hexadecimal digits. -/
theorem exists_digits_of_macDigits {text digits : JsString} (h : macDigits text = some digits) :
    ∃ bytes, digits = units bytes ∧ ∀ c ∈ bytes, isXDigit c = true ∧ toLower c = c := by
  induction text generalizing digits with
  | nil =>
    cases h
    exact ⟨[], rfl, by simp⟩
  | cons unit rest ih =>
    change macUnit unit (macDigits rest) = some digits at h
    rw [macUnit] at h
    split at h
    · rename_i hdigit
      obtain ⟨found, hfound, rfl⟩ := Option.map_eq_some_iff.mp h
      obtain ⟨bytes, rfl, hbytes⟩ := ih hfound
      obtain ⟨c, rfl, hc⟩ := exists_byte_of_isJsXDigit hdigit
      obtain ⟨hlower, hidem, -⟩ := toLower_xdigit hc
      refine ⟨toLower c :: bytes, ?_, ?_⟩
      · rw [(unit_classes c).2.2.2.1]
        rfl
      · intro d hd
        obtain rfl | hd := List.mem_cons.mp hd
        · exact ⟨hlower, hidem⟩
        · exact hbytes d hd
    · split at h
      · exact ih h
      · cases h

theorem colonPairs_units (digits : Bytes) :
    colonPairs (units digits) = units (EcSystemCore.colonPairs digits) := by
  fun_induction EcSystemCore.colonPairs digits with
  | case1 c₀ c₁ c₂ rest ih =>
    show c₀.toUInt16 :: c₁.toUInt16 :: jsChar ':' :: colonPairs (units (c₂ :: rest)) = _
    rw [ih]
    rfl
  | case2 short hshort =>
    rcases short with _ | ⟨c₀, _ | ⟨c₁, _ | ⟨c₂, rest⟩⟩⟩
    · rfl
    · rfl
    · rfl
    · exact absurd rfl (hshort c₀ c₁ c₂ rest)

theorem hexValue_units (c : UInt8) : hexValue c.toUInt16 = EcSystemCore.hexValue c := by
  unfold hexValue EcSystemCore.hexValue
  rw [(unit_classes c).2.1]
  simp

/-- A string of zeros or ones, on both sides. -/
theorem units_eq_replicate_iff {digits : Bytes} (hlength : digits.length = 12) (c : UInt8) :
    units digits = List.replicate 12 c.toUInt16 ↔ digits.all (· = c) = true := by
  have hunits : List.replicate 12 c.toUInt16 = units (List.replicate 12 c) := by
    unfold units
    rw [List.map_replicate]
  rw [hunits, units_inj, List.eq_replicate_iff, List.all_eq_true]
  simp [hlength]

/-- The checks of the server on the digits of a MAC address. -/
def AcceptsDigits (digits : JsString) : Prop :=
  digits.length = 12 ∧
    ¬((hexValue (digits.getD 0 0) * 16 + hexValue (digits.getD 1 0)) % 2 ≠ 0 ∨
      digits = js "000000000000" ∨ digits = js "ffffffffffff")

theorem acceptsDigits_units {digits : Bytes} : AcceptsDigits (units digits) ↔ IsUnicast digits := by
  have hget : ∀ i, hexValue ((units digits).getD i 0) = EcSystemCore.hexValue (digits.getD i 0) := by
    intro i
    rw [← hexValue_units]
    congr 1
    simp only [units, List.getD_eq_getElem?_getD, List.getElem?_map]
    cases digits[i]? <;> rfl
  unfold AcceptsDigits IsUnicast
  rw [length_units, hget, hget, show js "000000000000" = List.replicate 12 (asciiChar '0').toUInt16
    from rfl, show js "ffffffffffff" = List.replicate 12 (asciiChar 'f').toUInt16 from rfl]
  refine and_congr_right fun hlength => ?_
  rw [units_eq_replicate_iff hlength, units_eq_replicate_iff hlength, not_or, not_or, not_not]

theorem normalizeMac_eq_ok_iff {value : JsValue} {field mac : JsString} :
    normalizeMac value field = .ok mac ↔
      ∃ text digits, requireString value field 64 = .ok text ∧ macDigits text = some digits ∧
        AcceptsDigits digits ∧ mac = colonPairs digits := by
  unfold normalizeMac
  rw [bind_eq_ok_iff]
  refine exists_congr fun text => ?_
  cases hdigits : macDigits text with
  | none => simp
  | some digits =>
    simp only [check_bind_eq_ok_iff, Option.some.injEq, AcceptsDigits]
    constructor
    · rintro ⟨htext, hlength, hunicast, hmac⟩
      cases hmac
      exact ⟨digits, htext, rfl, ⟨hlength, hunicast⟩, rfl⟩
    · rintro ⟨_, htext, rfl, ⟨hlength, hunicast⟩, rfl⟩
      exact ⟨htext, hlength, hunicast, rfl⟩

/-- What `requireString` makes of a printable text. -/
theorem requireString_units {text : Bytes} (h : printableAscii text = true) {maximum : ℕ}
    (hlength : text.length ≤ maximum) (field : JsString) :
    requireString (.string (units text)) field maximum = .ok (units text) := by
  unfold requireString
  simp only [length_units]
  rw [if_neg (not_lt.mpr hlength), containsControlCharacters_units h]
  rfl

/-- The server stores a MAC address in the daemon's normal form. -/
theorem exists_mac_of_normalizeMac {value : JsValue} {field mac : JsString}
    (h : normalizeMac value field = .ok mac) :
    ∃ bytes, mac = units bytes ∧ EcSystemCore.normalizeMac bytes = some bytes := by
  obtain ⟨text, digits, -, hdigits, haccepts, rfl⟩ := normalizeMac_eq_ok_iff.mp h
  obtain ⟨bytes, rfl, hlower⟩ := exists_digits_of_macDigits hdigits
  refine ⟨EcSystemCore.colonPairs bytes, colonPairs_units bytes, ?_⟩
  refine normalizeMac_eq_some_iff.mpr ⟨bytes, ?_, acceptsDigits_units.mp haccepts, rfl⟩
  rw [macDigits_colonPairs, macDigits_of_lower hlower]

/-- The server leaves a MAC address in the daemon's normal form as it is. -/
theorem normalizeMac_units {mac : Bytes} (h : EcSystemCore.normalizeMac mac = some mac)
    (field : JsString) : normalizeMac (.string (units mac)) field = .ok (units mac) := by
  obtain ⟨digits, hdigits, hunicast, hmac⟩ := normalizeMac_eq_some_iff.mp h
  have hprintable : printableAscii mac = true := by
    rw [hmac]
    exact printableAscii_colonPairs (lower_of_macDigits hdigits)
  have hlength : mac.length ≤ 64 := by
    rw [hmac]
    rw [length_colonPairs, hunicast.1]
    decide
  refine normalizeMac_eq_ok_iff.mpr ⟨units mac, units digits, ?_, ?_, ?_, ?_⟩
  · exact requireString_units hprintable hlength field
  · rw [macDigits_units (isAscii_of_printable hprintable), hdigits]
    rfl
  · exact acceptsDigits_units.mpr hunicast
  · rw [colonPairs_units, ← hmac]

/-- The text is six pairs of lower-case hexadecimal digits, separated by colons. -/
def IsColonMac (mac : Bytes) : Prop :=
  mac.length = 17 ∧ ∀ i c, mac[i]? = some c →
    if i % 3 = 2 then c = asciiChar ':' else isXDigit c = true ∧ toLower c = c

/-- Apart from separators both texts are hexadecimal digits, the same ones up to case. -/
def SameDigits (text other : Bytes) : Prop :=
  (∀ c ∈ text ++ other, isXDigit c = true ∨ c = asciiChar ':' ∨ c = asciiChar '-' ∨
    isSpace c = true) ∧
  (text.filter isXDigit).map toLower = (other.filter isXDigit).map toLower

/-- `NormalizeMac` finds one normal form for all spellings of an address, and the server's
`normalizeMac` the same one. -/
theorem normalizeMac_canonical :
    (∀ text mac, EcSystemCore.normalizeMac text = some mac →
      IsColonMac mac ∧ EcSystemCore.normalizeMac mac = some mac) ∧
    (∀ text other, SameDigits text other →
      EcSystemCore.normalizeMac text = EcSystemCore.normalizeMac other) ∧
    ∀ text field, printableAscii text = true → text.length ≤ 64 → ∀ mac,
      normalizeMac (.string (units text)) field = .ok mac ↔
        ∃ bytes, EcSystemCore.normalizeMac text = some bytes ∧ mac = units bytes := by
  refine ⟨fun text mac h => ⟨?_, normalizeMac_idem h⟩, fun text other h => ?_,
    fun text field hprintable hlength mac => ?_⟩
  · obtain ⟨digits, hdigits, hunicast, rfl⟩ := normalizeMac_eq_some_iff.mp h
    refine ⟨by rw [length_colonPairs, hunicast.1], fun i c hc => ?_⟩
    have hplace := getElem?_colonPairs hc
    split_ifs at hplace ⊢ with hi
    · exact hplace
    · exact lower_of_macDigits hdigits c hplace
  · obtain ⟨hseparated, hdigits⟩ := h
    rw [List.forall_mem_append] at hseparated
    unfold EcSystemCore.normalizeMac
    rw [macDigits_of_separated hseparated.1, macDigits_of_separated hseparated.2, hdigits]
  · have hmac := macDigits_units (isAscii_of_printable hprintable)
    simp only [normalizeMac_eq_ok_iff, normalizeMac_eq_some_iff]
    constructor
    · rintro ⟨_, _, hread, hdigits, haccepts, rfl⟩
      rw [requireString_units hprintable hlength] at hread
      cases hread
      rw [hmac] at hdigits
      obtain ⟨digits, hfound, rfl⟩ := Option.map_eq_some_iff.mp hdigits
      exact ⟨_, ⟨digits, hfound, acceptsDigits_units.mp haccepts, rfl⟩, colonPairs_units digits⟩
    · rintro ⟨_, ⟨digits, hdigits, hunicast, rfl⟩, rfl⟩
      refine ⟨units text, units digits, requireString_units hprintable hlength field, ?_,
        acceptsDigits_units.mpr hunicast, (colonPairs_units digits).symm⟩
      rw [hmac, hdigits]
      rfl

/-- `toLowerCase` of a MAC address in normal form. -/
theorem map_lowerUnit_units {mac : Bytes} (h : EcSystemCore.normalizeMac mac = some mac) :
    (units mac).map lowerUnit = units mac := by
  obtain ⟨digits, hdigits, -, hmac⟩ := normalizeMac_eq_some_iff.mp h
  unfold units
  rw [List.map_map]
  refine List.map_congr_left fun c hc => ?_
  show lowerUnit c.toUInt16 = c.toUInt16
  rw [(unit_classes c).2.2.2.1]
  rw [hmac] at hc
  obtain rfl | hc := mem_colonPairs hc
  · rfl
  · rw [(lower_of_macDigits hdigits c hc).2]

/-! ### USB ids -/

theorem normalizeUsbId_eq_ok_iff {text field : JsString} {id : Option JsString} :
    normalizeUsbId (.string text) field = .ok id ↔
      ∃ raw, requireString (.string text) field 6 = .ok raw ∧
        ((withoutHexMark (trim raw)).map lowerUnit).length = 4 ∧
        ((withoutHexMark (trim raw)).map lowerUnit).all isJsXDigit = true ∧
        id = some ((withoutHexMark (trim raw)).map lowerUnit) := by
  unfold normalizeUsbId
  simp only [bind_eq_ok_iff, check_eq_ok_iff]
  refine exists_congr fun raw => ?_
  constructor
  · rintro ⟨hraw, -, ⟨hlength, hdigits⟩, hid⟩
    cases hid
    exact ⟨hraw, hlength, hdigits, rfl⟩
  · rintro ⟨hraw, hlength, hdigits, rfl⟩
    exact ⟨hraw, ⟨⟩, ⟨hlength, hdigits⟩, rfl⟩

/-- `toLowerCase` twice is `toLowerCase`. -/
theorem lowerUnit_idem (unit : UInt16) : lowerUnit (lowerUnit unit) = lowerUnit unit := by
  unfold lowerUnit
  by_cases h : (0x41 ≤ unit && unit ≤ 0x5a) = true
  · rw [if_pos h, if_neg]
    simp only [Bool.and_eq_true, decide_eq_true_eq, not_and] at h ⊢
    grind
  · rw [if_neg h, if_neg h]

/-- The server stores a USB id in the daemon's normal form. -/
theorem exists_id_of_normalizeUsbId {value : JsValue} {field id : JsString}
    (h : normalizeUsbId value field = .ok (some id)) :
    ∃ bytes, id = units bytes ∧ EcSystemCore.normalizeUsbId bytes = some bytes := by
  obtain ⟨text, rfl⟩ : ∃ text, value = .string text := by
    cases value with
    | string text => exact ⟨text, rfl⟩
    | _ => cases h
  obtain ⟨raw, -, hlength, hall, hid⟩ := normalizeUsbId_eq_ok_iff.mp h
  cases hid
  generalize withoutHexMark (trim raw) = digits at hlength hall
  have hdigits : ∀ unit ∈ digits.map lowerUnit, ∃ c : UInt8, unit = c.toUInt16 ∧
      isXDigit c = true ∧ toLower c = c := by
    intro unit hunit
    obtain ⟨c, rfl, hc⟩ := exists_byte_of_isJsXDigit (List.all_eq_true.mp hall unit hunit)
    refine ⟨c, rfl, hc, ?_⟩
    obtain ⟨digit, -, hdigit⟩ := List.mem_map.mp hunit
    have hlower : lowerUnit c.toUInt16 = c.toUInt16 := by rw [← hdigit, lowerUnit_idem]
    rw [(unit_classes c).2.2.2.1] at hlower
    simpa using congrArg UInt16.toUInt8 hlower
  have hunits : units (bytesOf (digits.map lowerUnit)) = digits.map lowerUnit := by
    refine units_bytesOf fun unit hunit => ?_
    obtain ⟨c, rfl, -⟩ := hdigits unit hunit
    have := c.toNat_lt
    rw [UInt16.lt_iff_toNat_lt]
    simpa using this
  refine ⟨bytesOf (digits.map lowerUnit), hunits.symm, normalizeUsbId_of_digits ?_ ?_⟩
  · rw [← length_units, hunits, hlength]
  · intro c hc
    obtain ⟨unit, hunit, rfl⟩ := List.mem_map.mp hc
    obtain ⟨d, rfl, hd, hlower⟩ := hdigits unit hunit
    obtain ⟨-, -, hspace, hx, hX⟩ := toLower_xdigit hd
    rw [hlower] at hspace hx hX
    simpa using ⟨hd, hlower, hspace, hx, hX⟩

/-- The server leaves a USB id in the daemon's normal form as it is. -/
theorem normalizeUsbId_units {id : Bytes} (h : EcSystemCore.normalizeUsbId id = some id)
    (field : JsString) :
    normalizeUsbId (.string (units id)) field = .ok (some (units id)) := by
  obtain ⟨hlength, hdigits⟩ := normalizeUsbId_digits h
  have hprintable : printableAscii id = true := by
    exact List.all_eq_true.mpr fun c hc => (xdigit_facts c (hdigits c hc).1).2
  have htrim : trim (units id) = units id := by
    rw [trim_units (isAscii_of_printable hprintable), trimAscii_of_digits hdigits]
  have hmark : withoutHexMark (units id) = units id := by
    match id, hlength with
    | [c₀, c₁, c₂, c₃], _ =>
      show withoutHexMark [c₀.toUInt16, c₁.toUInt16, c₂.toUInt16, c₃.toUInt16] = _
      rw [withoutHexMark, if_neg]
      · rfl
      · rintro ⟨-, hx | hX⟩
        · exact (hdigits c₁ (by simp)).2.2.2.1 ((UInt8.toUInt8_toUInt16 c₁).symm.trans
            (congrArg UInt16.toUInt8 hx))
        · exact (hdigits c₁ (by simp)).2.2.2.2 ((UInt8.toUInt8_toUInt16 c₁).symm.trans
            (congrArg UInt16.toUInt8 hX))
  have hlower : (units id).map lowerUnit = units id := by
    unfold units
    rw [List.map_map]
    refine List.map_congr_left fun c hc => ?_
    show lowerUnit c.toUInt16 = c.toUInt16
    rw [(unit_classes c).2.2.2.1, (hdigits c hc).2.1]
  refine normalizeUsbId_eq_ok_iff.mpr ⟨units id, ?_, ?_, ?_, ?_⟩
  · exact requireString_units hprintable (by rw [hlength]; decide) field
  · rw [htrim, hmark, hlower, length_units, hlength]
  · rw [htrim, hmark, hlower]
    unfold units
    rw [List.all_map, List.all_eq_true]
    intro c hc
    show isJsXDigit c.toUInt16 = true
    rw [(unit_classes c).2.2.1, (hdigits c hc).1]
  · rw [htrim, hmark, hlower]

end EcSystemCore.Web
