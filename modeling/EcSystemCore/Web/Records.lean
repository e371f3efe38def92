import EcSystemCore.Web.Document
import EcSystemCore.Web.AsciiText

/-!
# Reading records back

The objects the server builds have their properties in a fixed order, some of them
optional.  Looking up a property of such an object finds the value it was built with
(`property_cons`), and an object with known properties only passes `rejectUnknownKeys`.
From this follows what `validateAdapterLock` accepts and returns: locks in the daemon's
normal form, with which it does nothing further.
-/

namespace EcSystemCore.Web

open Checks Trimming

/-! ### Properties -/

/-- The properties of a record. -/
def recordProperties (fields : List (String × Option Document)) : List (JsString × JsValue) :=
  Document.membersToJs (fields.filterMap fun (key, value) => value.map fun value => (js key, value))

theorem toJs_record (fields : List (String × Option Document)) :
    (Document.record fields).toJs = .object (recordProperties fields) := rfl

/-- The value of an optional property. -/
def optionalJs : Option Document → JsValue
  | some value => value.toJs
  | none => .undefined

theorem property_nil (key : String) : property (recordProperties []) key = .undefined := rfl

theorem property_cons (name : String) (value : Option Document)
    (fields : List (String × Option Document)) (key : String) :
    property (recordProperties ((name, value) :: fields)) key =
      if js name = js key then value.elim (property (recordProperties fields) key) Document.toJs
      else property (recordProperties fields) key := by
  cases value with
  | none => simp [recordProperties]
  | some value =>
    unfold property recordProperties
    simp only [List.filterMap_cons, Option.map_some, Document.membersToJs, List.find?_cons]
    by_cases h : js name = js key
    · simp [h]
    · simp [h]

theorem elim_undefined (value : Option Document) :
    value.elim .undefined Document.toJs = optionalJs value := by
  cases value <;> rfl

theorem mem_recordProperties {fields : List (String × Option Document)} {entry : JsString × JsValue}
    (h : entry ∈ recordProperties fields) : ∃ field ∈ fields, entry.1 = js field.1 := by
  induction fields with
  | nil => cases h
  | cons field fields ih =>
    obtain ⟨name, value⟩ := field
    cases value with
    | none =>
      obtain ⟨field, hfield, hentry⟩ := ih (by simpa [recordProperties] using h)
      exact ⟨field, List.mem_cons_of_mem _ hfield, hentry⟩
    | some value =>
      obtain rfl | h := List.mem_cons.mp (show entry ∈ (js name, value.toJs) ::
        recordProperties fields from h)
      · exact ⟨_, List.mem_cons_self, rfl⟩
      · obtain ⟨field, hfield, hentry⟩ := ih h
        exact ⟨field, List.mem_cons_of_mem _ hfield, hentry⟩

/-- A record of known properties has no unknown keys. -/
theorem rejectUnknownKeys_record {fields : List (String × Option Document)} {known : List String}
    (hfields : fields.map Prod.fst = known)
    (hknown : (known.map js).all (fun key => key ∉ forbiddenKeys) = true) (field : JsString) :
    rejectUnknownKeys (recordProperties fields) known field = .ok () := by
  refine forM_eq_ok_iff.mpr fun entry hentry => ?_
  obtain ⟨entry', hentry', hkey⟩ := mem_recordProperties hentry
  have hmem : entry.1 ∈ known.map js := by
    rw [hkey, ← hfields]
    exact List.mem_map_of_mem (List.mem_map_of_mem hentry')
  have hallowed := List.all_eq_true.mp hknown entry.1 hmem
  rw [decide_eq_true_eq] at hallowed
  exact check_bind_eq_ok_iff.mpr ⟨hallowed, check_eq_ok_iff.mpr (.inl hmem)⟩

/-! ### Strings -/

theorem requireString_eq_ok_iff {value : JsValue} {field text : JsString} {maximum : ℕ} :
    requireString value field maximum = .ok text ↔
      value = .string text ∧ text.length ≤ maximum ∧ containsControlCharacters text = false := by
  cases value with
  | string found =>
    unfold requireString
    dsimp only
    split
    · rename_i hlength
      constructor
      · rintro ⟨⟩
      · rintro ⟨⟨⟩, hle, -⟩
        omega
    · rename_i hlength
      split
      · rename_i hcontrol
        constructor
        · rintro ⟨⟩
        · rintro ⟨⟨⟩, -, hfalse⟩
          rw [hcontrol] at hfalse
          cases hfalse
      · rename_i hcontrol
        constructor
        · rintro ⟨⟩
          exact ⟨rfl, by omega, by simpa using hcontrol⟩
        · rintro ⟨⟨⟩, -, -⟩
          rfl
  | _ => simp [requireString]

/-! ### Locks -/

/-- A lock in normal form, as the daemon keeps it. -/
structure NormalLock (lock : AdapterIdentityLock) : Prop where
  idPath_ne : lock.idPath ≠ []
  idPath_length : lock.idPath.length ≤ 1024
  idPath_printable : printableAscii lock.idPath = true
  idPath_trimmed : trimAscii lock.idPath = lock.idPath
  permanentMac : ∀ mac, lock.permanentMac = some mac → EcSystemCore.normalizeMac mac = some mac
  usbSerial : ∀ serial, lock.usbSerial = some serial →
    serial ≠ [] ∧ serial.length ≤ 256 ∧ printableAscii serial = true ∧ trimAscii serial = serial
  usbVendorId : ∀ vendor, lock.usbVendorId = some vendor →
    EcSystemCore.normalizeUsbId vendor = some vendor
  usbProductId : ∀ product, lock.usbProductId = some product →
    EcSystemCore.normalizeUsbId product = some product

namespace AdapterLockIdentity

/-- The lock as the daemon reads it from the configuration. -/
def toDaemon (lock : AdapterLockIdentity) : AdapterIdentityLock :=
  ⟨bytesOf lock.idPath, lock.permanentMac.map bytesOf, lock.usbSerial.map bytesOf,
    lock.usbVendorId.map bytesOf, lock.usbProductId.map bytesOf⟩

/-- The lock of the server with the daemon's texts. -/
def ofDaemon (lock : AdapterIdentityLock) : AdapterLockIdentity :=
  ⟨units lock.idPath, lock.permanentMac.map units, lock.usbSerial.map units,
    lock.usbVendorId.map units, lock.usbProductId.map units⟩

theorem toDaemon_ofDaemon (lock : AdapterIdentityLock) : (ofDaemon lock).toDaemon = lock := by
  have hmap : ∀ text : Option Bytes, (text.map units).map bytesOf = text := by
    intro text
    cases text <;> simp
  simp only [toDaemon, ofDaemon, bytesOf_units, hmap]

end AdapterLockIdentity

open AdapterLockIdentity

/-- A trimmed text that passed the checks of an `id_path` or a serial number. -/
theorem exists_text_of_trim {raw : JsString} {maximum : ℕ} (hlength : raw.length ≤ maximum)
    (hne : trim raw ≠ []) (hprintable : isPrintable (trim raw) = true) :
    ∃ text, trim raw = units text ∧ text ≠ [] ∧ text.length ≤ maximum ∧
      printableAscii text = true ∧ trimAscii text = text := by
  obtain ⟨text, htext, hascii⟩ := exists_units_of_printable hprintable
  refine ⟨text, htext, ?_, ?_, hascii, ?_⟩
  · intro hnil
    exact hne (by rw [htext, hnil]; rfl)
  · rw [← length_units, ← htext]
    exact (length_strip_le isJsSpace raw).trans hlength
  · have htrim := trim_idem raw
    rw [htext, trim_units (isAscii_of_printable hascii), units_inj] at htrim
    exact htrim

theorem exists_mac_of_lockMac {value : JsValue} {field : JsString} {mac : Option JsString}
    (h : lockMac value field = .ok mac) :
    ∃ normal, mac = Option.map units normal ∧
      ∀ text, normal = some text → EcSystemCore.normalizeMac text = some text := by
  have hnone : ∃ normal, (none : Option JsString) = Option.map units normal ∧
      ∀ text, normal = some text → EcSystemCore.normalizeMac text = some text :=
    ⟨none, rfl, nofun⟩
  unfold lockMac at h
  split at h
  · cases h
    exact hnone
  · cases h
    exact hnone
  · obtain ⟨found, hfound, rfl⟩ := map_eq_ok_iff.mp h
    obtain ⟨text, rfl, htext⟩ := exists_mac_of_normalizeMac hfound
    exact ⟨some text, rfl, fun _ heq => by cases heq; exact htext⟩

theorem exists_serial_of_lockSerial {value : JsValue} {field : JsString} {serial : Option JsString}
    (h : lockSerial value field = .ok serial) :
    ∃ normal, serial = Option.map units normal ∧ ∀ text, normal = some text →
      text ≠ [] ∧ text.length ≤ 256 ∧ printableAscii text = true ∧ trimAscii text = text := by
  unfold lockSerial at h
  split at h
  · cases h
    exact ⟨none, rfl, nofun⟩
  · obtain ⟨raw, hraw, h⟩ := bind_eq_ok_iff.mp h
    obtain ⟨⟨hne, hprintable⟩, h⟩ := check_bind_eq_ok_iff.mp h
    cases h
    obtain ⟨-, hlength, -⟩ := requireString_eq_ok_iff.mp hraw
    obtain ⟨text, htext, hvalid⟩ := exists_text_of_trim hlength hne hprintable
    exact ⟨some text, by rw [htext]; rfl, fun _ heq => by cases heq; exact hvalid⟩

theorem exists_id_of_lock {value : JsValue} {field : JsString} {id : Option JsString}
    (h : normalizeUsbId value field = .ok id) :
    ∃ normal, id = Option.map units normal ∧
      ∀ text, normal = some text → EcSystemCore.normalizeUsbId text = some text := by
  cases id with
  | none => exact ⟨none, rfl, nofun⟩
  | some id =>
    obtain ⟨text, rfl, htext⟩ := exists_id_of_normalizeUsbId h
    exact ⟨some text, rfl, fun _ heq => by cases heq; exact htext⟩

/-- The server keeps locks in the daemon's normal form. -/
theorem exists_normal_of_validateAdapterLock {value : JsValue} {field : JsString}
    {lock : AdapterLockIdentity} (h : validateAdapterLock value field = .ok lock) :
    ∃ normal, NormalLock normal ∧ lock = ofDaemon normal := by
  unfold validateAdapterLock at h
  obtain ⟨properties, -, h⟩ := bind_eq_ok_iff.mp h
  obtain ⟨-, -, h⟩ := bind_eq_ok_iff.mp h
  obtain ⟨raw, hraw, h⟩ := bind_eq_ok_iff.mp h
  obtain ⟨⟨hne, hprintable⟩, h⟩ := check_bind_eq_ok_iff.mp h
  obtain ⟨mac, hmac, h⟩ := bind_eq_ok_iff.mp h
  obtain ⟨serial, hserial, h⟩ := bind_eq_ok_iff.mp h
  obtain ⟨vendor, hvendor, h⟩ := bind_eq_ok_iff.mp h
  obtain ⟨product, hproduct, h⟩ := bind_eq_ok_iff.mp h
  cases h
  obtain ⟨-, hlength, -⟩ := requireString_eq_ok_iff.mp hraw
  obtain ⟨path, hpath, hpath_ne, hpath_length, hpath_printable, hpath_trimmed⟩ :=
    exists_text_of_trim hlength hne hprintable
  obtain ⟨mac, rfl, hmac_normal⟩ := exists_mac_of_lockMac hmac
  obtain ⟨serial, rfl, hserial_valid⟩ := exists_serial_of_lockSerial hserial
  obtain ⟨vendor, rfl, hvendor_normal⟩ := exists_id_of_lock hvendor
  obtain ⟨product, rfl, hproduct_normal⟩ := exists_id_of_lock hproduct
  refine ⟨⟨path, mac, serial, vendor, product⟩, ⟨hpath_ne, hpath_length, hpath_printable,
    hpath_trimmed, hmac_normal, hserial_valid, hvendor_normal, hproduct_normal⟩, ?_⟩
  rw [hpath]
  rfl

/-- The fields of an object that describes an adapter: a lock, or what was observed. -/
def lockFields (idPath : JsString) (permanentMac usbSerial usbVendorId usbProductId :
    Option JsString) : List (String × Option Document) :=
  [("id_path", some (.string idPath)), ("permanent_mac", permanentMac.map .string),
    ("usb_serial", usbSerial.map .string), ("usb_vendor_id", usbVendorId.map .string),
    ("usb_product_id", usbProductId.map .string)]

theorem property_lockFields (idPath : JsString)
    (permanentMac usbSerial usbVendorId usbProductId : Option JsString) :
    ∀ properties,
      properties =
        recordProperties (lockFields idPath permanentMac usbSerial usbVendorId usbProductId) →
    property properties "id_path" = .string idPath ∧
      property properties "permanent_mac" = optionalJs (permanentMac.map .string) ∧
      property properties "usb_serial" = optionalJs (usbSerial.map .string) ∧
      property properties "usb_vendor_id" = optionalJs (usbVendorId.map .string) ∧
      property properties "usb_product_id" = optionalJs (usbProductId.map .string) := by
  rintro properties rfl
  unfold lockFields
  simp +decide only [property_cons, property_nil, if_true, if_false, elim_undefined,
    Option.elim_some, Document.toJs]

/-- The path of an accepted description is trimmed. -/
theorem idPath_of_validateAdapterLock {idPath field : JsString}
    {permanentMac usbSerial usbVendorId usbProductId : Option JsString} {lock : AdapterLockIdentity}
    (h : validateAdapterLock (Document.record (lockFields idPath permanentMac usbSerial usbVendorId
      usbProductId)).toJs field = .ok lock) : lock.idPath = trim idPath := by
  obtain ⟨hidPath, -⟩ :=
    property_lockFields idPath permanentMac usbSerial usbVendorId usbProductId _ rfl
  rw [toJs_record] at h
  unfold validateAdapterLock at h
  obtain ⟨properties, hproperties, h⟩ := bind_eq_ok_iff.mp h
  cases hproperties
  obtain ⟨-, -, h⟩ := bind_eq_ok_iff.mp h
  obtain ⟨raw, hraw, h⟩ := bind_eq_ok_iff.mp h
  obtain ⟨-, h⟩ := check_bind_eq_ok_iff.mp h
  obtain ⟨mac, -, h⟩ := bind_eq_ok_iff.mp h
  obtain ⟨serial, -, h⟩ := bind_eq_ok_iff.mp h
  obtain ⟨vendor, -, h⟩ := bind_eq_ok_iff.mp h
  obtain ⟨product, -, h⟩ := bind_eq_ok_iff.mp h
  cases h
  rw [hidPath] at hraw
  obtain ⟨hstring, -⟩ := requireString_eq_ok_iff.mp hraw
  cases hstring
  rfl

/-- What `validateAdapterLock` makes of a description in normal form; only the `id_path` may
still have to be trimmed, and an empty MAC address counts as none. -/
theorem validateAdapterLock_lockFields {path : Bytes} {mac serial vendor product : Option Bytes}
    (hpath : path.length ≤ 1024) (hprintable : printableAscii path = true)
    (htrimmed : trimAscii path ≠ [])
    (hmac : ∀ text, mac = some text → EcSystemCore.normalizeMac text = some text)
    (hserial : ∀ text, serial = some text →
      text ≠ [] ∧ text.length ≤ 256 ∧ printableAscii text = true ∧ trimAscii text = text)
    (hvendor : ∀ text, vendor = some text → EcSystemCore.normalizeUsbId text = some text)
    (hproduct : ∀ text, product = some text → EcSystemCore.normalizeUsbId text = some text)
    {macText : Option JsString}
    (hmacText : macText = mac.map units ∨ mac = none ∧ macText = some []) (field : JsString) :
    validateAdapterLock (Document.record (lockFields (units path) macText (serial.map units)
        (vendor.map units) (product.map units))).toJs field =
      .ok (ofDaemon ⟨trimAscii path, mac, serial, vendor, product⟩) := by
  obtain ⟨hidPath, hpermanentMac, husbSerial, husbVendorId, husbProductId⟩ :=
    property_lockFields (units path) macText (serial.map units) (vendor.map units)
      (product.map units) _ rfl
  rw [toJs_record]
  unfold validateAdapterLock
  refine bind_eq_ok_iff.mpr ⟨_, rfl, bind_eq_ok_iff.mpr ⟨_,
    @rejectUnknownKeys_record _ knownLockKeys rfl (by decide) _, ?_⟩⟩
  rw [hidPath, hpermanentMac, husbSerial, husbVendorId, husbProductId]
  have htrim := trim_units (isAscii_of_printable hprintable)
  refine bind_eq_ok_iff.mpr ⟨_, requireString_units hprintable hpath _, ?_⟩
  refine check_bind_eq_ok_iff.mpr ⟨?_, ?_⟩
  · rw [htrim]
    refine ⟨by simpa using htrimmed, ?_⟩
    rw [isPrintable_units]
    exact List.all_eq_true.mpr fun c hc => List.all_eq_true.mp hprintable c (mem_of_mem_strip hc)
  refine bind_eq_ok_iff.mpr ⟨mac.map units, ?_, bind_eq_ok_iff.mpr ⟨serial.map units, ?_,
    bind_eq_ok_iff.mpr ⟨vendor.map units, ?_, bind_eq_ok_iff.mpr ⟨product.map units, ?_, ?_⟩⟩⟩⟩
  · obtain rfl | ⟨rfl, rfl⟩ := hmacText
    · cases mac with
      | none => rfl
      | some text =>
        have hnormal := hmac text rfl
        show lockMac (.string (units text)) _ = _
        have hne : text ≠ [] := by
          rintro rfl
          cases hnormal
        obtain ⟨c, rest, rfl⟩ := List.exists_cons_of_ne_nil hne
        exact map_eq_ok_iff.mpr ⟨_, normalizeMac_units hnormal _, rfl⟩
    · rfl
  · cases serial with
    | none => rfl
    | some text =>
      obtain ⟨hne, hlength, hascii, hself⟩ := hserial text rfl
      show lockSerial (.string (units text)) _ = _
      refine bind_eq_ok_iff.mpr ⟨_, requireString_units hascii hlength _, ?_⟩
      rw [trim_units (isAscii_of_printable hascii), hself]
      refine check_bind_eq_ok_iff.mpr ⟨⟨by simpa using hne, ?_⟩, rfl⟩
      rw [isPrintable_units, hascii]
  · cases vendor with
    | none => rfl
    | some text => exact normalizeUsbId_units (hvendor text rfl) _
  · cases product with
    | none => rfl
    | some text => exact normalizeUsbId_units (hproduct text rfl) _
  · rw [htrim]
    rfl

end EcSystemCore.Web
