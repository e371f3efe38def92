import EcSystemCore.Lib.Coroutine
import EcSystemCore.Web.Utf8Text

/-!
# The ZIP writer of the configuration server

`zip.ts`: the records of an archive of stored files, the checks of its entries, and the
generator that writes it file by file.  Numbers are integers; the operators on bits see 32 of
them.  The file system answers reads and closes, and the calendar of the local time zone is
given.
-/

namespace EcSystemCore.Web.Zip

/-! ### The operators on bits -/

/-- The 32 bits that an operator sees of a number. -/
def bits32 (value : ℤ) : BitVec 32 := .ofInt 32 value

/-- `&`. -/
def bitAnd (a b : ℤ) : ℤ := (bits32 a &&& bits32 b).toInt

/-- `|`. -/
def bitOr (a b : ℤ) : ℤ := (bits32 a ||| bits32 b).toInt

/-- `^`. -/
def bitXor (a b : ℤ) : ℤ := (bits32 a ^^^ bits32 b).toInt

/-- `<<`. -/
def shiftLeft (a : ℤ) (n : ℕ) : ℤ := (bits32 a <<< n).toInt

/-- `>>>`, which is never negative. -/
def shiftRight (a : ℤ) (n : ℕ) : ℤ := (bits32 a >>> n).toNat

/-- An element of a `Uint8Array`. -/
def uint8 (value : ℤ) : UInt8 := .ofBitVec (.ofInt 8 value)

/-! ### Records -/

/-- `u16`. -/
def u16 (value : ℤ) : Bytes := [uint8 (bitAnd value 0xff), uint8 (bitAnd (shiftRight value 8) 0xff)]

/-- `u32`. -/
def u32 (value : ℤ) : Bytes :=
  [uint8 (bitAnd value 0xff), uint8 (bitAnd (shiftRight value 8) 0xff),
    uint8 (bitAnd (shiftRight value 16) 0xff), uint8 (bitAnd (shiftRight value 24) 0xff)]

/-- `ZIP_UTF8_DATA_DESCRIPTOR_FLAGS`. -/
def flags : ℤ := 0x0808

/-- `CentralEntry`. -/
structure CentralEntry where
  name : Bytes
  crc : ℤ
  size : ℤ
  offset : ℤ
  time : ℤ
  date : ℤ

/-- `localHeader`. -/
def localHeader (name : Bytes) (time date : ℤ) : Bytes :=
  [u32 0x04034b50, u16 20, u16 flags, u16 0, u16 time, u16 date, u32 0, u32 0, u32 0,
    u16 name.length, u16 0, name].flatten

/-- `dataDescriptor`. -/
def dataDescriptor (crc size : ℤ) : Bytes := [u32 0x08074b50, u32 crc, u32 size, u32 size].flatten

/-- `centralHeader`. -/
def centralHeader (entry : CentralEntry) : Bytes :=
  [u32 0x02014b50, u16 20, u16 20, u16 flags, u16 0, u16 entry.time, u16 entry.date, u32 entry.crc,
    u32 entry.size, u32 entry.size, u16 entry.name.length, u16 0, u16 0, u16 0, u16 0, u32 0,
    u32 entry.offset, entry.name].flatten

/-- `endOfCentralDirectory`. -/
def endOfCentralDirectory (entryCount centralBytes centralOffset : ℤ) : Bytes :=
  [u32 0x06054b50, u16 0, u16 0, u16 entryCount, u16 entryCount, u32 centralBytes,
    u32 centralOffset, u16 0].flatten

/-! ### The check sum -/

/-- The loop over the bits of an index of the table. -/
def crcBits : ℕ → ℤ → ℤ
  | 0, value => value
  | bits + 1, value =>
    crcBits bits
      (if bitAnd value 1 ≠ 0 then bitXor 0xedb88320 (shiftRight value 1) else shiftRight value 1)

/-- `crcTable`. -/
def crcTable : List ℤ :=
  (List.range 256).map fun index : ℕ => shiftRight (crcBits 8 (index : ℤ)) 0

/-- `updateCrc32`. -/
def updateCrc32 (crc : ℤ) (data : Bytes) : ℤ :=
  shiftRight (data.foldl (fun next byte =>
    bitXor (crcTable.getD (bitAnd (bitXor next byte.toNat) 0xff).toNat 0) (shiftRight next 8)) crc) 0

/-! ### Entries -/

/-- A file handle, told apart from the others. -/
abbrev Handle := ℕ

/-- `OpenZipEntry`. -/
structure OpenZipEntry where
  name : JsString
  size : JsNumber
  modifiedAt : JsNumber
  handle : Handle

/-- A time of the local calendar; months count from 0. -/
structure LocalTime where
  year : ℤ
  month : ℤ
  day : ℤ
  hours : ℤ
  minutes : ℤ
  seconds : ℤ

/-- `basename`. -/
def basename (name : JsString) : JsString :=
  ((name.reverse.dropWhile (· = jsChar '/')).takeWhile (· ≠ jsChar '/')).reverse

/-- A control character is in the name.  The second unit of a surrogate pair, which the source
skips, is none. -/
def hasControlCharacter (name : JsString) : Bool :=
  name.any fun unit => unit.toNat ≤ 0x1f || unit.toNat = 0x7f

/-- The number is accepted as the size of a file, in bytes. -/
def sizeOf? (size : JsNumber) : Option ℕ :=
  match size.integer? with
  | some value => if 0 ≤ value ∧ value ≤ 128 * 1024 * 1024 then some value.toNat else none
  | none => none

/-- The loop of `validateEntries`. -/
def validateFrom (total : ℕ) (names : List JsString) (handles : List Handle) :
    List OpenZipEntry → Except JsString Unit
  | [] => .ok ()
  | entry :: entries =>
    if basename entry.name ≠ entry.name ∨ jsChar '\\' ∈ entry.name ∨
        hasControlCharacter entry.name ∨ entry.name ∈ names then
      .error (js "archive filenames must be unique basenames")
    else if entry.handle ∈ handles then .error (js "archive file handles must be unique")
    else
      match sizeOf? entry.size with
      | none => .error (entry.name ++ js " exceeds the per-file archive limit")
      | some size =>
        -- `Number.isFinite`
        if entry.modifiedAt = .infinite ∨ entry.modifiedAt = .notANumber then
          .error (entry.name ++ js " has an invalid timestamp")
        else if total + size > 512 * 1024 * 1024 then
          .error (js "archive exceeds the total-byte limit")
        else
          validateFrom (total + size) (entry.name :: names) (entry.handle :: handles) entries

/-- `validateEntries`. -/
def validateEntries (entries : List OpenZipEntry) : Except JsString Unit :=
  if entries.length = 0 ∨ entries.length > 32 then .error (js "archive must contain 1 to 32 files")
  else validateFrom 0 [] [] entries

/-- The character of a unit that is not the first of a pair. -/
def unitScalar (unit : UInt16) : Char :=
  if isLeading unit || isTrailing unit then '�' else .ofNat unit.toNat

/-- `TextEncoder.encode`. -/
def encodeText : JsString → Bytes
  | [] => []
  | [unit] => String.utf8EncodeChar (unitScalar unit)
  | unit :: next :: text =>
    if isLeading unit && isTrailing next then
      String.utf8EncodeChar (pairChar unit next) ++ encodeText text
    else String.utf8EncodeChar (unitScalar unit) ++ encodeText (next :: text)

/-! ### The generator -/

/-- What is asked of the file system. -/
inductive Operation where
  | read (handle : Handle) (position requested : ℕ)
  | close (handle : Handle)
  /-- `Promise.allSettled` of the closes. -/
  | closeAll (handles : List Handle)

/-- The answers: a read gives no more than was requested, or fails, as a close can; all closes
together settle. -/
def Operation.Answer : Operation → Type
  | read _ _ requested => Except JsString {bytes : Bytes // bytes.length ≤ requested}
  | close _ => Except JsString Unit
  | closeAll _ => Unit

/-- The body of a generator of byte chunks. -/
abbrev Body := Coroutine Bytes JsString Operation.Answer

/-- The `finally` block, and how the generator ends behind it. -/
def settle (openHandles : List Handle) (result : Body) : Body :=
  .call (.closeAll openHandles) fun _ => result

/-- A `yield` inside the `try` block. -/
def yielding (openHandles : List Handle) (chunk : Bytes) (next : Body) : Body :=
  .yield chunk next (settle openHandles .complete)

/-- `ZIP_CHUNK_BYTES`. -/
def chunkBytes : ℕ := 64 * 1024

/-- The loop over the chunks of a file, and what comes after it with the check sum and the
offset in the archive.  Each turn takes at least a byte. -/
def readFile (openHandles : List Handle) (entry : OpenZipEntry) (size : ℕ)
    (next : ℤ → ℕ → Body) : ℕ → ℤ → ℕ → ℕ → Body
  | 0, crc, _, archiveOffset => next crc archiveOffset
  | fuel + 1, crc, position, archiveOffset =>
    if position < size then
      .call (.read entry.handle position (min chunkBytes (size - position))) fun
        | .error message => settle openHandles (.fail message)
        | .ok chunk =>
          if chunk.val.length = 0 then
            settle openHandles
              (.fail (entry.name ++ js " changed while it was downloaded"))
          else
            yielding openHandles chunk.val
              (readFile openHandles entry size next fuel (updateCrc32 crc chunk.val)
                (position + chunk.val.length) (archiveOffset + chunk.val.length))
    else next crc archiveOffset

/-- Behind the chunks of a file: its descriptor and its close, and what comes after them with
the final check sum and the offset in the archive. -/
def closeFile (openHandles : List Handle) (entry : OpenZipEntry) (size : ℕ)
    (next : ℤ → ℕ → Body) (crc : ℤ) (archiveOffset : ℕ) : Body :=
  let finalCrc := shiftRight (bitXor crc 0xffffffff) 0
  let descriptor := dataDescriptor finalCrc size
  yielding openHandles descriptor
    (.call (.close entry.handle) fun
      | .error message => settle openHandles (.fail message)
      | .ok _ => next finalCrc (archiveOffset + descriptor.length))

/-- The loop over the central directory, and the end. -/
def writeCentral (openHandles : List Handle) (entryCount centralOffset : ℕ) :
    ℕ → List CentralEntry → Body
  | centralBytes, [] =>
    yielding openHandles (endOfCentralDirectory entryCount centralBytes centralOffset)
      (settle openHandles .complete)
  | centralBytes, entry :: central =>
    yielding openHandles (centralHeader entry)
      (writeCentral openHandles entryCount centralOffset
        (centralBytes + (centralHeader entry).length) central)

section

variable (localTime : JsNumber → Option LocalTime)

/-- `zipDateParts`: the time and the date.  The parts of an invalid date are not numbers, of
which an operator on bits sees 0. -/
def zipDateParts (milliseconds : JsNumber) : ℤ × ℤ :=
  match localTime milliseconds with
  | none => (0, 0)
  | some date =>
    let year := max 1980 (min 2107 date.year)
    (bitOr (bitOr (shiftLeft (bitAnd date.hours 0x1f) 11)
        (shiftLeft (bitAnd date.minutes 0x3f) 5)) (date.seconds / 2),
      bitOr (bitOr (shiftLeft (bitAnd (year - 1980) 0x7f) 9)
        (shiftLeft (bitAnd (date.month + 1) 0x0f) 5)) (bitAnd date.day 0x1f))

/-- The loop over the entries, and the central directory behind it. -/
def writeEntries : List Handle → List CentralEntry → ℕ → List OpenZipEntry → Body
  | openHandles, central, archiveOffset, [] =>
    writeCentral openHandles central.length archiveOffset 0 central
  | openHandles, central, archiveOffset, entry :: entries =>
    let name := encodeText entry.name
    if name.length = 0 ∨ name.length > 255 then
      settle openHandles (.fail (js "archive filename is too long"))
    else
      let stamp := zipDateParts localTime entry.modifiedAt
      let header := localHeader name stamp.1 stamp.2
      let size := (sizeOf? entry.size).getD 0
      yielding openHandles header
        (readFile openHandles entry size
          (closeFile openHandles entry size fun finalCrc nextOffset =>
            writeEntries (openHandles.filter (· ≠ entry.handle))
              (central ++ [⟨name, finalCrc, size, archiveOffset, stamp.1, stamp.2⟩])
              nextOffset entries)
          size 0xffffffff 0 (archiveOffset + header.length))

/-- `generateStoredZip`. -/
def generateStoredZip (entries : List OpenZipEntry) : Body :=
  let openHandles := (entries.map (·.handle)).eraseDups
  match validateEntries entries with
  | .error message => settle openHandles (.fail message)
  | .ok _ => writeEntries localTime openHandles [] 0 entries

end

end EcSystemCore.Web.Zip
