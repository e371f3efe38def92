import EcSystemCore.Config.Types

/-!
# Adapter identities and locks

`adapter_identity.hpp`: the normal forms of MAC addresses and USB ids, the check
of a configured lock, and `ResolveAdapter`, which chooses the adapter a mapping is
bound to.  A mapping without a lock, or unlocked at run time, takes the adapter
with its preferred interface name; a locked mapping takes the adapter with the
lock's `id_path`, whatever that adapter is called.

The character classes are those of the C locale.
-/

namespace EcSystemCore

/-! ### Character classes -/

/-- `std::isdigit`. -/
def isDigit (c : UInt8) : Bool := 0x30 ≤ c && c ≤ 0x39

/-- `std::isxdigit`. -/
def isXDigit (c : UInt8) : Bool :=
  isDigit c || (0x41 ≤ c && c ≤ 0x46) || (0x61 ≤ c && c ≤ 0x66)

/-- `std::isalnum`. -/
def isAlnum (c : UInt8) : Bool :=
  isDigit c || (0x41 ≤ c && c ≤ 0x5a) || (0x61 ≤ c && c ≤ 0x7a)

/-- `std::isspace`. -/
def isSpace (c : UInt8) : Bool := c = 0x20 || (0x09 ≤ c && c ≤ 0x0d)

/-- `std::tolower`. -/
def toLower (c : UInt8) : UInt8 := if 0x41 ≤ c && c ≤ 0x5a then c + 0x20 else c

/-- The byte of an ASCII character literal. -/
def asciiChar (c : Char) : UInt8 := UInt8.ofNat c.toNat

/-! ### Normal forms -/

/-- `TrimAscii`. -/
def trimAscii (value : Bytes) : Bytes :=
  ((value.dropWhile isSpace).reverse.dropWhile isSpace).reverse

/-- The value of a lower-case hexadecimal digit. -/
def hexValue (c : UInt8) : ℕ :=
  if isDigit c then c.toNat - 0x30 else c.toNat - 0x61 + 10

/-- The digits `NormalizeMac` collects, lower case; `none` at a character that is
neither a digit nor a separator. -/
def macDigits : Bytes → Option Bytes
  | [] => some []
  | c :: rest =>
    if isXDigit c then (macDigits rest).map (toLower c :: ·)
    else if c = asciiChar ':' || c = asciiChar '-' || isSpace c then macDigits rest
    else none

/-- The digits in pairs, separated by colons. -/
def colonPairs : Bytes → Bytes
  | c₀ :: c₁ :: c₂ :: rest => c₀ :: c₁ :: asciiChar ':' :: colonPairs (c₂ :: rest)
  | short => short

/-- `NormalizeMac`. -/
def normalizeMac (input : Bytes) : Option Bytes := do
  let hexadecimal ← macDigits input
  guard (hexadecimal.length = 12)
  let firstByte := hexValue (hexadecimal.getD 0 0) * 16 + hexValue (hexadecimal.getD 1 0)
  guard (firstByte % 2 = 0 ∧ ¬hexadecimal.all (· = asciiChar '0') ∧
    ¬hexadecimal.all (· = asciiChar 'f'))
  return colonPairs hexadecimal

/-- `NormalizeUsbId`. -/
def normalizeUsbId (input : Bytes) : Option Bytes :=
  let trimmed := trimAscii input
  let value := if trimmed.take 2 = ascii "0x" ∨ trimmed.take 2 = ascii "0X" then
    trimmed.drop 2 else trimmed
  if value.length ≠ 4 ∨ ¬value.all isXDigit then none else some (value.map toLower)

/-! ### Locks -/

/-- `AdapterIdentityLock::pathOnly`. -/
def AdapterIdentityLock.pathOnly (lock : AdapterIdentityLock) : Bool :=
  lock.permanentMac.isNone && lock.usbSerial.isNone && lock.usbVendorId.isNone &&
    lock.usbProductId.isNone

/-- `printableAscii` of `ValidateAdapterLock`. -/
def printableAscii (value : Bytes) : Bool := value.all fun c => 0x20 ≤ c && c ≤ 0x7e

/-- `ValidateAdapterLock`; the error is the text it stores. -/
def validateAdapterLock (lock : AdapterIdentityLock) : Except Bytes Unit :=
  if lock.idPath = [] ∨ lock.idPath.length > 1024 ∨ ¬printableAscii lock.idPath then
    .error (ascii "adapter lock id_path must contain 1..1024 bytes")
  else if lock.permanentMac.any fun mac => (normalizeMac mac).isNone then
    .error (ascii "adapter lock permanent_mac is invalid")
  else if lock.usbSerial.any fun serial =>
      serial = [] || serial.length > 256 || !printableAscii serial then
    .error (ascii "adapter lock usb_serial is invalid")
  else if lock.usbVendorId.any fun vendor => (normalizeUsbId vendor).isNone then
    .error (ascii "adapter lock usb_vendor_id is invalid")
  else if lock.usbProductId.any fun product => (normalizeUsbId product).isNone then
    .error (ascii "adapter lock usb_product_id is invalid")
  else .ok ()

/-! ### Resolution -/

/-- The `mismatch` closure of `ResolveAdapter`. -/
def lockMismatch (pathMatch : AdapterIdentity) (expected observed : Option Bytes)
    (reason : AdapterLockReason) : Option AdapterResolution :=
  match expected, observed with
  | none, _ => none
  | some _, none => some ⟨.mismatch, .identityUnavailable, some pathMatch⟩
  | some wanted, some found =>
    if wanted ≠ found then some ⟨.mismatch, reason, some pathMatch⟩ else none

/-- The four optional fields of a lock against the adapter its `id_path` names:
the first that differs, in the order of the source. -/
def fieldMismatch (expected : AdapterIdentityLock) (pathMatch : AdapterIdentity) :
    Option AdapterResolution :=
  (lockMismatch pathMatch (expected.permanentMac.bind normalizeMac) pathMatch.permanentMac
      .permanentMacMismatch).or <|
  (lockMismatch pathMatch expected.usbSerial pathMatch.usbSerial .usbSerialMismatch).or <|
  (lockMismatch pathMatch (expected.usbVendorId.bind normalizeUsbId) pathMatch.usbVendorId
      .usbVendorMismatch).or <|
  lockMismatch pathMatch (expected.usbProductId.bind normalizeUsbId) pathMatch.usbProductId
    .usbProductMismatch

/-- `relatedIdentity`: some adapter has the lock's MAC address or serial number. -/
def relatedIdentity (adapters : List AdapterIdentity) (expected : AdapterIdentityLock) :
    Bool :=
  let mac := expected.permanentMac.bind normalizeMac
  adapters.any fun identity =>
    (mac.isSome && identity.permanentMac = mac) ||
      (expected.usbSerial.isSome && identity.usbSerial = expected.usbSerial)

/-- `ResolveAdapter`. -/
def resolveAdapter (adapters : List AdapterIdentity) (preferredInterface : Bytes)
    (lock : Option AdapterIdentityLock) (runtimeUnlocked : Bool) : AdapterResolution :=
  let preferred := adapters.find? fun identity => identity.interfaceName = preferredInterface
  let unlocked : AdapterResolution :=
    match preferred with
    | none => {}
    | some selected =>
      ⟨if runtimeUnlocked then .runtimeUnlocked else .unlocked, .none, some selected⟩
  match lock with
  | none => unlocked
  | some expected =>
    if runtimeUnlocked then unlocked
    else
      match adapters.find? fun identity => identity.idPath = expected.idPath with
      | none =>
        let related := preferred.isSome || relatedIdentity adapters expected
        ⟨if related then .mismatch else .missing,
          if related then .idPathMismatch else .interfaceMissing, preferred⟩
      | some pathMatch =>
        if adapters.countP (fun identity => identity.idPath = expected.idPath) ≠ 1 then
          ⟨.mismatch, .identityUnavailable, none⟩
        else
          (fieldMismatch expected pathMatch).getD
            ⟨.matched, if expected.pathOnly then .pathOnlyIdentity else .none,
              some pathMatch⟩

/-- The states in which `ScanAdapters` lets a worker run on the resolved adapter. -/
def AdapterResolution.ready (resolution : AdapterResolution) : Bool :=
  resolution.identity.isSome &&
    (resolution.state = .unlocked || resolution.state = .matched ||
      resolution.state = .runtimeUnlocked)

end EcSystemCore
