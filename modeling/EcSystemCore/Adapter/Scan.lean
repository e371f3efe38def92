import Mathlib.Data.Option.Basic
import EcSystemCore.Lib.Trimming
import EcSystemCore.Protocol.Utf8
import EcSystemCore.Adapter.Identity

/-!
# Scanned adapters

What `SysfsAdapterScanner::Scan` makes of the attribute files of one network interface, and
what every adapter it reports has in common: its `id_path` is empty or bounded printable
text, and its other values are in the normal form in which a lock is compared with them
(`ScannedAdapter`).  In particular the normal forms are normal forms: a second pass changes
nothing (`normalizeMac_idem`, `normalizeUsbId_idem`).

Where an `id_path` is found is not modelled; it may be any text.
-/

namespace EcSystemCore

open Trimming

/-! ### Attribute files -/

/-- `ReadFirstLine`, of the contents of a file. -/
def readFirstLine (contents : Option Bytes) : Option Bytes := do
  let line := (← contents).takeWhile (· ≠ asciiChar '\n')
  guard (line.length ≤ 4096)
  let value := trimAscii line
  guard (value ≠ [])
  return value

/-- The attribute files of a network interface.  A device has a file of each USB attribute
in its own directory and in those above it, nearest first. -/
structure SysfsEntry where
  name : Bytes
  type : Option Bytes := none
  carrier : Option Bytes := none
  operstate : Option Bytes := none
  /-- What `ReadIdPath` returns. -/
  idPath : Bytes := []
  permAddress : Option Bytes := none
  addrAssignType : Option Bytes := none
  address : Option Bytes := none
  serial : List (Option Bytes) := []
  idVendor : List (Option Bytes) := []
  idProduct : List (Option Bytes) := []

/-- `IsBoundedPrintableAscii`. -/
def isBoundedPrintableAscii (value : Bytes) (maximumBytes : ℕ) : Bool :=
  value ≠ [] && value.length ≤ maximumBytes && printableAscii value

namespace SysfsEntry

/-- `ReadCarrier`. -/
def readCarrier (entry : SysfsEntry) : Option Bool := do
  let value ← readFirstLine entry.carrier
  if value = ascii "1" ∨ value = ascii "up" then some true
  else if value = ascii "0" ∨ value = ascii "down" then some false
  else none

/-- `ReadOperstateUp`. -/
def readOperstateUp (entry : SysfsEntry) : Bool :=
  readFirstLine entry.operstate = some (ascii "up")

/-- `ReadPermanentMac`. -/
def readPermanentMac (entry : SysfsEntry) : Option Bytes :=
  match readFirstLine entry.permAddress with
  | some explicitAddress => normalizeMac explicitAddress
  | none =>
    if (readFirstLine entry.addrAssignType).any (· ≠ ascii "0") then none
    else (readFirstLine entry.address).bind normalizeMac

/-- `ReadParentAttribute`. -/
def readParentAttribute (files : List (Option Bytes)) (hexadecimal : Bool) : Option Bytes :=
  match files.findSome? readFirstLine with
  | none => none
  | some value => if hexadecimal then normalizeUsbId value else some value

/-- The adapter `Scan` reports for the interface, if it reports it. -/
def scan (entry : SysfsEntry) : Option AdapterIdentity :=
  if entry.name = [] ∨ entry.name.length > 255 ∨ entry.name = ascii "lo" then none
  else if readFirstLine entry.type ≠ some (ascii "1") then none
  else some
    { interfaceName := entry.name
      idPath := if isBoundedPrintableAscii entry.idPath 1024 then entry.idPath else []
      permanentMac := entry.readPermanentMac
      usbSerial := (readParentAttribute entry.serial false).filter
        fun serial => isBoundedPrintableAscii serial 256
      usbVendorId := readParentAttribute entry.idVendor true
      usbProductId := readParentAttribute entry.idProduct true
      ethernet := true
      linkUp := entry.readCarrier.getD entry.readOperstateUp }

end SysfsEntry

/-- A scan can report the adapter. -/
def Reported (adapter : AdapterIdentity) : Prop := ∃ entry : SysfsEntry, entry.scan = some adapter

/-! ### Normal forms -/

theorem trimAscii_eq_strip (value : Bytes) : trimAscii value = strip isSpace value := rfl

theorem trimAscii_idem (value : Bytes) : trimAscii (trimAscii value) = trimAscii value :=
  strip_idem isSpace value

/-- What a hexadecimal digit is, and what `tolower` makes of it. -/
theorem xdigit_facts (c : UInt8) :
    isXDigit c = true →
      (isXDigit (toLower c) = true ∧ toLower (toLower c) = toLower c ∧
        isSpace (toLower c) = false ∧ toLower c ≠ asciiChar 'x' ∧ toLower c ≠ asciiChar 'X') ∧
      (0x20 ≤ c && c ≤ 0x7e) = true :=
  forall_byte c (by decide +kernel)

theorem toLower_xdigit {c : UInt8} (h : isXDigit c = true) :
    isXDigit (toLower c) = true ∧ toLower (toLower c) = toLower c ∧
      isSpace (toLower c) = false ∧ toLower c ≠ asciiChar 'x' ∧ toLower c ≠ asciiChar 'X' :=
  (xdigit_facts c h).1

/-- One character of a MAC address. -/
def macDigit (c : UInt8) (digits : Option Bytes) : Option Bytes :=
  if isXDigit c then digits.map (toLower c :: ·)
  else if c = asciiChar ':' || c = asciiChar '-' || isSpace c then digits
  else none

theorem macDigits_cons (c : UInt8) (rest : Bytes) :
    macDigits (c :: rest) = macDigit c (macDigits rest) := rfl

/-- The colons between the pairs are skipped. -/
theorem macDigits_colonPairs (digits : Bytes) : macDigits (colonPairs digits) = macDigits digits := by
  fun_induction colonPairs digits with
  | case1 c₀ c₁ c₂ rest ih =>
    have hcolon : ∀ found, macDigit (asciiChar ':') found = found := fun found => rfl
    rw [macDigits_cons, macDigits_cons, macDigits_cons, hcolon, ih, macDigits_cons c₀,
      macDigits_cons c₁]
  | case2 short => rfl

/-- The digits found are lower-case hexadecimal digits. -/
theorem lower_of_macDigits {text digits : Bytes} (h : macDigits text = some digits) :
    ∀ c ∈ digits, isXDigit c = true ∧ toLower c = c := by
  induction text generalizing digits with
  | nil =>
    cases h
    simp
  | cons c rest ih =>
    rw [macDigits_cons, macDigit] at h
    split at h
    · rename_i hdigit
      obtain ⟨found, hfound, rfl⟩ := Option.map_eq_some_iff.mp h
      obtain ⟨hlower, hidem, -⟩ := toLower_xdigit hdigit
      intro d hd
      obtain rfl | hd := List.mem_cons.mp hd
      · exact ⟨hlower, hidem⟩
      · exact ih hfound d hd
    · split at h
      · exact ih h
      · cases h

theorem macDigits_of_separated {text : Bytes} (h : ∀ c ∈ text, isXDigit c = true ∨
    c = asciiChar ':' ∨ c = asciiChar '-' ∨ isSpace c = true) :
    macDigits text = some ((text.filter isXDigit).map toLower) := by
  induction text with
  | nil => rfl
  | cons c rest ih =>
    have hrest := ih fun d hd => h d (List.mem_cons_of_mem c hd)
    rw [macDigits_cons, macDigit, hrest, List.filter_cons]
    by_cases hdigit : isXDigit c = true
    · rw [if_pos hdigit, if_pos hdigit]
      rfl
    · have hseparator := (h c List.mem_cons_self).resolve_left hdigit
      rw [if_neg hdigit, if_neg hdigit, if_pos (by simpa [or_assoc] using hseparator)]

theorem macDigits_of_lower {digits : Bytes} (h : ∀ c ∈ digits, isXDigit c = true ∧ toLower c = c) :
    macDigits digits = some digits := by
  rw [macDigits_of_separated fun c hc => .inl (h c hc).1,
    List.filter_eq_self.mpr fun c hc => (h c hc).1, List.map_congr_left fun c hc => (h c hc).2,
    List.map_id']

/-- The digits are those of a unicast address that is neither all zeros nor all ones. -/
def IsUnicast (digits : Bytes) : Prop :=
  digits.length = 12 ∧
    (hexValue (digits.getD 0 0) * 16 + hexValue (digits.getD 1 0)) % 2 = 0 ∧
    (¬digits.all (· = asciiChar '0') = true) ∧ ¬digits.all (· = asciiChar 'f') = true

/-- What `NormalizeMac` accepts, and what it makes of it. -/
theorem normalizeMac_eq_some_iff {text mac : Bytes} :
    normalizeMac text = some mac ↔
      ∃ digits, macDigits text = some digits ∧ IsUnicast digits ∧ mac = colonPairs digits := by
  unfold normalizeMac
  simp only [Option.bind_eq_bind, Option.bind_eq_some_iff, Option.guard_eq_some', IsUnicast]
  constructor
  · rintro ⟨digits, hdigits, -, hlength, -, hunicast, hmac⟩
    cases hmac
    exact ⟨digits, hdigits, ⟨hlength, hunicast⟩, rfl⟩
  · rintro ⟨digits, hdigits, ⟨hlength, hunicast⟩, rfl⟩
    exact ⟨digits, hdigits, ⟨⟩, hlength, ⟨⟩, hunicast, rfl⟩

theorem normalizeMac_idem {text mac : Bytes} (h : normalizeMac text = some mac) :
    normalizeMac mac = some mac := by
  obtain ⟨digits, hdigits, hunicast, rfl⟩ := normalizeMac_eq_some_iff.mp h
  refine normalizeMac_eq_some_iff.mpr ⟨digits, ?_, hunicast, rfl⟩
  rw [macDigits_colonPairs, macDigits_of_lower (lower_of_macDigits hdigits)]

/-- What `colonPairs` leaves as it is. -/
theorem length_of_short {short : Bytes}
    (h : ∀ c₀ c₁ c₂ rest, short = c₀ :: c₁ :: c₂ :: rest → False) : short.length ≤ 2 := by
  rcases short with _ | ⟨c₀, _ | ⟨c₁, _ | ⟨c₂, rest⟩⟩⟩
  · simp
  · simp
  · simp
  · exact (h c₀ c₁ c₂ rest rfl).elim

theorem length_colonPairs (digits : Bytes) :
    (colonPairs digits).length = digits.length + (digits.length - 1) / 2 := by
  fun_induction colonPairs digits with
  | case1 c₀ c₁ c₂ rest ih =>
    simp only [List.length_cons] at ih ⊢
    omega
  | case2 short hshort =>
    have hlength := length_of_short hshort
    omega

/-- Every third place holds a colon, every other one a digit. -/
theorem getElem?_colonPairs {digits : Bytes} {i : ℕ} {c : UInt8}
    (h : (colonPairs digits)[i]? = some c) :
    if i % 3 = 2 then c = asciiChar ':' else c ∈ digits := by
  fun_induction colonPairs digits generalizing i with
  | case1 c₀ c₁ c₂ rest ih =>
    rcases i with _ | _ | _ | i
    · simp_all
    · simp_all
    · simp_all
    · have htail := ih (by simpa using h)
      rw [show (i + 1 + 1 + 1) % 3 = i % 3 by omega]
      split_ifs at htail ⊢ with hi
      · exact htail
      · exact List.mem_cons_of_mem _ (List.mem_cons_of_mem _ htail)
  | case2 short hshort =>
    obtain ⟨hi, -⟩ := List.getElem?_eq_some_iff.mp h
    have hlength := length_of_short hshort
    rw [if_neg (by omega)]
    exact List.mem_of_getElem? h

theorem mem_colonPairs {digits : Bytes} {c : UInt8} (h : c ∈ colonPairs digits) :
    c = asciiChar ':' ∨ c ∈ digits := by
  obtain ⟨i, hi⟩ := List.mem_iff_getElem?.mp h
  have hplace := getElem?_colonPairs hi
  split_ifs at hplace
  · exact .inl hplace
  · exact .inr hplace

theorem printableAscii_colonPairs {digits : Bytes}
    (h : ∀ c ∈ digits, isXDigit c = true ∧ toLower c = c) :
    printableAscii (colonPairs digits) = true := by
  refine List.all_eq_true.mpr fun c hc => ?_
  obtain rfl | hc := mem_colonPairs hc
  · rfl
  · exact (xdigit_facts c (h c hc).1).2

/-- What `NormalizeUsbId` returns: four lower-case hexadecimal digits. -/
theorem normalizeUsbId_digits {text value : Bytes} (h : normalizeUsbId text = some value) :
    value.length = 4 ∧ ∀ c ∈ value, isXDigit c = true ∧ toLower c = c ∧ isSpace c = false ∧
      c ≠ asciiChar 'x' ∧ c ≠ asciiChar 'X' := by
  unfold normalizeUsbId at h
  dsimp only at h
  generalize (if (trimAscii text).take 2 = ascii "0x" ∨ (trimAscii text).take 2 = ascii "0X" then
    (trimAscii text).drop 2 else trimAscii text) = digits at h
  split at h
  · cases h
  rename_i hvalid
  rw [not_or, not_not, not_not] at hvalid
  cases h
  refine ⟨by rw [List.length_map]; exact hvalid.1, ?_⟩
  intro c hc
  obtain ⟨d, hd, rfl⟩ := List.mem_map.mp hc
  exact toLower_xdigit (List.all_eq_true.mp hvalid.2 d hd)

/-- There is nothing to trim from digits. -/
theorem trimAscii_of_digits {value : Bytes}
    (hdigits : ∀ c ∈ value, isXDigit c = true ∧ toLower c = c ∧ isSpace c = false ∧
      c ≠ asciiChar 'x' ∧ c ≠ asciiChar 'X') : trimAscii value = value := by
  have hnone : ∀ text : Bytes, (∀ c ∈ text, isSpace c = false) → text.dropWhile isSpace = text := by
    intro text htext
    exact dropWhile_eq_self_of_head fun c hc => htext c (List.mem_of_mem_head? hc)
  unfold trimAscii
  rw [hnone value fun c hc => (hdigits c hc).2.2.1,
    hnone value.reverse fun c hc => (hdigits c (List.mem_reverse.mp hc)).2.2.1,
    List.reverse_reverse]

/-- Four lower-case hexadecimal digits stay as they are. -/
theorem normalizeUsbId_of_digits {value : Bytes} (hlength : value.length = 4)
    (hdigits : ∀ c ∈ value, isXDigit c = true ∧ toLower c = c ∧ isSpace c = false ∧
      c ≠ asciiChar 'x' ∧ c ≠ asciiChar 'X') :
    normalizeUsbId value = some value := by
  have hmark : ¬(value.take 2 = ascii "0x" ∨ value.take 2 = ascii "0X") := by
    rintro (h | h)
    · have hx : asciiChar 'x' ∈ value.take 2 := by
        rw [h]
        decide
      exact (hdigits _ (List.mem_of_mem_take hx)).2.2.2.1 rfl
    · have hx : asciiChar 'X' ∈ value.take 2 := by
        rw [h]
        decide
      exact (hdigits _ (List.mem_of_mem_take hx)).2.2.2.2 rfl
  have hall : value.all isXDigit = true := List.all_eq_true.mpr fun c hc => (hdigits c hc).1
  have hlower : value.map toLower = value := by
    conv_rhs => rw [← List.map_id value]
    exact List.map_congr_left fun c hc => (hdigits c hc).2.1
  unfold normalizeUsbId
  dsimp only
  rw [trimAscii_of_digits hdigits, if_neg hmark, if_neg (by simp [hlength, hall]), hlower]

theorem normalizeUsbId_idem {text value : Bytes} (h : normalizeUsbId text = some value) :
    normalizeUsbId value = some value := by
  obtain ⟨hlength, hdigits⟩ := normalizeUsbId_digits h
  exact normalizeUsbId_of_digits hlength hdigits

/-! ### What a scan reports -/

/-- An adapter as a scan reports it. -/
structure ScannedAdapter extends AdapterIdentity where
  idPath_valid : idPath ≠ [] → idPath.length ≤ 1024 ∧ printableAscii idPath = true
  permanentMac_normal : ∀ mac, permanentMac = some mac → normalizeMac mac = some mac
  usbSerial_valid : ∀ serial, usbSerial = some serial →
    serial ≠ [] ∧ serial.length ≤ 256 ∧ printableAscii serial = true ∧ trimAscii serial = serial
  usbVendorId_normal : ∀ vendor, usbVendorId = some vendor → normalizeUsbId vendor = some vendor
  usbProductId_normal : ∀ product, usbProductId = some product →
    normalizeUsbId product = some product

theorem isBoundedPrintableAscii_iff {value : Bytes} {maximumBytes : ℕ} :
    isBoundedPrintableAscii value maximumBytes = true ↔
      value ≠ [] ∧ value.length ≤ maximumBytes ∧ printableAscii value = true := by
  simp [isBoundedPrintableAscii, and_assoc]

/-- A first line has been trimmed. -/
theorem trimAscii_of_readFirstLine {contents : Option Bytes} {value : Bytes}
    (h : readFirstLine contents = some value) : trimAscii value = value := by
  unfold readFirstLine at h
  obtain ⟨text, -, h⟩ := Option.bind_eq_some_iff.mp h
  obtain ⟨-, -, h⟩ := Option.bind_eq_some_iff.mp h
  obtain ⟨-, -, h⟩ := Option.bind_eq_some_iff.mp h
  cases h
  exact trimAscii_idem _

namespace SysfsEntry

theorem readPermanentMac_normal {entry : SysfsEntry} {mac : Bytes}
    (h : entry.readPermanentMac = some mac) : normalizeMac mac = some mac := by
  unfold readPermanentMac at h
  split at h
  · exact normalizeMac_idem h
  · split at h
    · cases h
    · obtain ⟨address, -, h⟩ := Option.bind_eq_some_iff.mp h
      exact normalizeMac_idem h

theorem readParentAttribute_hexadecimal {files : List (Option Bytes)} {value : Bytes}
    (h : readParentAttribute files true = some value) : normalizeUsbId value = some value := by
  unfold readParentAttribute at h
  split at h
  · cases h
  · exact normalizeUsbId_idem h

theorem readParentAttribute_text {files : List (Option Bytes)} {value : Bytes}
    (h : readParentAttribute files false = some value) : trimAscii value = value := by
  unfold readParentAttribute at h
  split at h
  · cases h
  · rename_i found hfound
    cases h
    obtain ⟨contents, -, hcontents⟩ := List.exists_of_findSome?_eq_some hfound
    exact trimAscii_of_readFirstLine hcontents

/-- **Every adapter a scan reports is of this form.** -/
theorem exists_scannedAdapter (entry : SysfsEntry) {adapter : AdapterIdentity}
    (h : entry.scan = some adapter) :
    ∃ scanned : ScannedAdapter, scanned.toAdapterIdentity = adapter := by
  unfold scan at h
  split at h
  · cases h
  split at h
  · cases h
  cases h
  refine ⟨⟨_, ?_, ?_, ?_, ?_, ?_⟩, rfl⟩
  · intro hne
    dsimp only at hne ⊢
    split at hne
    · rename_i hbounded
      rw [if_pos hbounded]
      exact (isBoundedPrintableAscii_iff.mp hbounded).2
    · exact absurd rfl hne
  · intro mac hmac
    exact readPermanentMac_normal hmac
  · intro serial hserial
    obtain ⟨hread, hbounded⟩ := Option.filter_eq_some_iff.mp hserial
    obtain ⟨hne, hlength, hprintable⟩ := isBoundedPrintableAscii_iff.mp hbounded
    exact ⟨hne, hlength, hprintable, readParentAttribute_text hread⟩
  · intro vendor hvendor
    exact readParentAttribute_hexadecimal hvendor
  · intro product hproduct
    exact readParentAttribute_hexadecimal hproduct

end SysfsEntry

theorem Reported.exists_scannedAdapter {adapter : AdapterIdentity} (h : Reported adapter) :
    ∃ scanned : ScannedAdapter, scanned.toAdapterIdentity = adapter := by
  obtain ⟨entry, hentry⟩ := h
  exact entry.exists_scannedAdapter hentry

end EcSystemCore
