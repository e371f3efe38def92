import Mathlib.Algebra.Order.BigOperators.Group.List
import Mathlib.Algebra.Order.Group.Nat
import EcSystemCore.Web.ZipArchive

/-!
# Reading an archive back

A reader of archives as the format has it: it looks for the end of the central directory from the
end of the archive on, goes through the directory, and finds each file at the offset its entry
gives.  It checks what it can: signatures, the name in the local header, the descriptor behind
the file and the check sum.
-/

namespace EcSystemCore.Web.Zip

/-! ### The reader -/

/-- An entry of the central directory. -/
structure DirectoryEntry where
  flags : UInt16
  method : UInt16
  crc : UInt32
  compressedSize : UInt32
  size : UInt32
  offset : UInt32
  name : Bytes

/-- The entry in front, and what is behind it. -/
def readCentral (bytes : Bytes) : Option (DirectoryEntry × Bytes) := do
  let ((signature, _, _, flags, method, _, _, crc, compressedSize, size, nameLength, extraLength,
    commentLength, _, _, _, offset), rest) ← centralLayout.read bytes
  guard (signature = 0x02014b50)
  guard (nameLength.toNat + extraLength.toNat + commentLength.toNat ≤ rest.length)
  return (⟨flags, method, crc, compressedSize, size, offset, rest.take nameLength.toNat⟩,
    rest.drop (nameLength.toNat + extraLength.toNat + commentLength.toNat))

/-- The entries of a directory, and what is behind it. -/
def readDirectory : ℕ → Bytes → Option (List DirectoryEntry × Bytes)
  | 0, bytes => some ([], bytes)
  | count + 1, bytes => do
      let (entry, rest) ← readCentral bytes
      let (entries, rest) ← readDirectory count rest
      return (entry :: entries, rest)

/-- The bytes of a stored file. -/
def readFileAt (bytes : Bytes) (entry : DirectoryEntry) : Option Bytes := do
  let ((signature, _, flags, method, _, _, localCrc, localCompressed, localSize, nameLength,
    extraLength), rest) ← localLayout.read (bytes.drop entry.offset.toNat)
  guard (signature = 0x04034b50 ∧ flags = entry.flags ∧ method = entry.method ∧ method = 0 ∧
    entry.compressedSize = entry.size)
  guard (rest.take nameLength.toNat = entry.name)
  let body := rest.drop (nameLength.toNat + extraLength.toNat)
  guard (entry.size.toNat ≤ body.length)
  let data := body.take entry.size.toNat
  -- with bit 3 of the flags, the check sum and the sizes stand behind the file
  if flags &&& 0x0008 ≠ 0 then
    let (descriptor, _) ← descriptorLayout.read (body.drop entry.size.toNat)
    guard (descriptor = (0x08074b50, entry.crc, entry.compressedSize, entry.size))
  else
    guard (localCrc = entry.crc ∧ localCompressed = entry.compressedSize ∧ localSize = entry.size)
  guard (crc32 data = entry.crc)
  return data

/-- The count, the length and the offset of the directory, if its end is at this position. -/
def endAt (bytes : Bytes) (position : ℕ) : Option (ℕ × ℕ × ℕ) := do
  let ((signature, disk, directoryDisk, diskCount, count, centralBytes, centralOffset,
    commentLength), rest) ← endLayout.read (bytes.drop position)
  guard (signature = 0x06054b50 ∧ disk = 0 ∧ directoryDisk = 0 ∧ diskCount = count)
  guard (rest.length = commentLength.toNat)
  return (count.toNat, centralBytes.toNat, centralOffset.toNat)

/-- The end of the directory, the one with the shortest comment behind it. -/
def findEnd (bytes : Bytes) : ℕ → ℕ → Option (ℕ × ℕ × ℕ × ℕ)
  | 0, _ => none
  | tries + 1, commentLength =>
    match endAt bytes (bytes.length - endLayout.size - commentLength) with
    | some directory => some (bytes.length - endLayout.size - commentLength, directory)
    | none => findEnd bytes tries (commentLength + 1)

/-- A text of UTF-8. -/
def decodeUtf8 (bytes : Bytes) : Option JsString :=
  bytes.toByteArray.utf8Decode?.map fun chars => chars.toList.flatMap JsonText.utf16

/-- The name and the bytes of the file of an entry. -/
def readEntry (bytes : Bytes) (entry : DirectoryEntry) : Option (JsString × Bytes) := do
  -- bit 11 of the flags says that the name is UTF-8
  guard (entry.flags &&& 0x0800 ≠ 0)
  let name ← decodeUtf8 entry.name
  let data ← readFileAt bytes entry
  return (name, data)

/-- The names and the bytes of the files of an archive. -/
def readArchive (bytes : Bytes) : Option (List (JsString × Bytes)) := do
  let (position, count, centralBytes, centralOffset) ← findEnd bytes 0x10000 0
  guard (centralOffset + centralBytes = position)
  let (entries, rest) ← readDirectory count (bytes.drop centralOffset)
  guard (rest = bytes.drop position)
  entries.mapM (readEntry bytes)

/-! ### Records are read back -/

/-- The file has lengths that fit in its records. -/
def StoredFile.Fits (file : StoredFile) : Prop :=
  file.name.length < 2 ^ 16 ∧ file.data.length < 2 ^ 32

/-- The entry of a file whose record starts at an offset. -/
def StoredFile.entry (file : StoredFile) (offset : ℕ) : DirectoryEntry :=
  ⟨0x0808, 0, crc32 file.data, .ofNat file.data.length, .ofNat file.data.length, .ofNat offset,
    file.name⟩

variable {file : StoredFile}

theorem StoredFile.Fits.nameLength (h : file.Fits) :
    (UInt16.ofNat file.name.length).toNat = file.name.length := UInt16.toNat_ofNat_of_lt h.1

theorem StoredFile.Fits.dataLength (h : file.Fits) :
    (UInt32.ofNat file.data.length).toNat = file.data.length := UInt32.toNat_ofNat_of_lt h.2

theorem readCentral_centralRecord (h : file.Fits) (offset : ℕ) (rest : Bytes) :
    readCentral (file.centralRecord offset ++ rest) = some (file.entry offset, rest) := by
  unfold readCentral StoredFile.centralRecord
  rw [List.append_assoc, Layout.read_write]
  simp [h.nameLength, StoredFile.entry]

theorem readFileAt_localRecord (h : file.Fits) {bytes rest : Bytes} {offset : ℕ}
    (hoffset : offset < 2 ^ 32) (hbytes : bytes.drop offset = file.localRecord ++ rest) :
    readFileAt bytes (file.entry offset) = some file.data := by
  have hat : (UInt32.ofNat offset).toNat = offset := UInt32.toNat_ofNat_of_lt hoffset
  unfold readFileAt StoredFile.entry
  simp only [hat, hbytes, StoredFile.localRecord, List.append_assoc, Layout.read_write,
    h.dataLength, Option.bind_eq_bind, Option.bind_some]
  have hbit : (0x0808 : UInt16) &&& 0x0008 ≠ 0 := by decide
  simp [h.nameLength, guard, hbit]

/-! ### Archives are read back -/

/-- The entries of files whose records start at an offset. -/
def entriesFrom : ℕ → List StoredFile → List DirectoryEntry
  | _, [] => []
  | offset, file :: files =>
    file.entry offset :: entriesFrom (offset + file.localRecord.length) files

theorem readDirectory_directory {files : List StoredFile} (h : ∀ file ∈ files, file.Fits)
    (offset : ℕ) (rest : Bytes) :
    readDirectory files.length (directory offset files ++ rest) =
      some (entriesFrom offset files, rest) := by
  induction files generalizing offset with
  | nil => rfl
  | cons file files ih =>
    have hothers := ih (fun other hother => h other (List.mem_cons_of_mem _ hother))
    rw [directory, List.append_assoc, List.length_cons, readDirectory,
      readCentral_centralRecord (h file List.mem_cons_self)]
    simp [hothers, entriesFrom]

theorem endAt_endRecord {bytes : Bytes} {position count centralBytes centralOffset : ℕ}
    (hbytes : bytes.drop position = endRecord count centralBytes centralOffset)
    (hcount : count < 2 ^ 16) (hcentral : centralBytes < 2 ^ 32) (hoffset : centralOffset < 2 ^ 32) :
    endAt bytes position = some (count, centralBytes, centralOffset) := by
  have hread := endLayout.read_write (0x06054b50, 0, 0, .ofNat count, .ofNat count,
    .ofNat centralBytes, .ofNat centralOffset, 0) []
  rw [List.append_nil] at hread
  unfold endAt
  rw [hbytes, endRecord, hread]
  simpa [guard] using ⟨hcount, hcentral, hoffset⟩

/-- The end of an archive without a comment is found at once. -/
theorem findEnd_endRecord (front : Bytes) {count centralBytes centralOffset : ℕ} (tries : ℕ)
    (hcount : count < 2 ^ 16) (hcentral : centralBytes < 2 ^ 32) (hoffset : centralOffset < 2 ^ 32) :
    findEnd (front ++ endRecord count centralBytes centralOffset) (tries + 1) 0 =
      some (front.length, count, centralBytes, centralOffset) := by
  have hposition : (front ++ endRecord count centralBytes centralOffset).length -
      endLayout.size - 0 = front.length := by
    rw [List.length_append, endRecord, endLayout.length_write]
    omega
  rw [findEnd, hposition, endAt_endRecord List.drop_left hcount hcentral hoffset]

/-- The file is read as this name and these bytes. -/
def StoredFile.Holds (file : StoredFile) (result : JsString × Bytes) : Prop :=
  file.Fits ∧ decodeUtf8 file.name = some result.1 ∧ file.data = result.2

theorem readEntry_entry {result : JsString × Bytes} (h : file.Holds result) {bytes rest : Bytes}
    {offset : ℕ} (hoffset : offset < 2 ^ 32)
    (hbytes : bytes.drop offset = file.localRecord ++ rest) :
    readEntry bytes (file.entry offset) = some result := by
  obtain ⟨hfits, hname, hdata⟩ := h
  have hread := readFileAt_localRecord hfits hoffset hbytes
  have hbit : (0x0808 : UInt16) &&& 0x0800 ≠ 0 := by decide
  have hname : decodeUtf8 (file.entry offset).name = some result.1 := hname
  unfold readEntry
  rw [hread, hname, hdata]
  simp [StoredFile.entry, guard, hbit]

theorem mapM_readEntry {bytes : Bytes} {files : List StoredFile}
    {results : List (JsString × Bytes)} (h : List.Forall₂ StoredFile.Holds files results)
    (hlength : bytes.length < 2 ^ 32) {offset : ℕ} {rest : Bytes} (hoffset : offset ≤ bytes.length)
    (hbytes : bytes.drop offset = records files ++ rest) :
    (entriesFrom offset files).mapM (readEntry bytes) = some results := by
  induction h generalizing offset with
  | nil => rfl
  | @cons file result files results hfile hfiles ih =>
    have hfirst : bytes.drop offset = file.localRecord ++ (records files ++ rest) := by
      rw [hbytes, records, List.flatMap_cons, List.append_assoc]
      rfl
    have hnext : bytes.drop (offset + file.localRecord.length) = records files ++ rest := by
      rw [← List.drop_drop, hfirst, List.drop_left]
    have hinside := congrArg List.length hfirst
    rw [List.length_drop, List.length_append] at hinside
    rw [entriesFrom, List.mapM_cons, readEntry_entry hfile (by omega) hfirst,
      ih (by omega) hnext]
    rfl

/-- **The reader reads every archive back.** -/
theorem readArchive_archive {files : List StoredFile} {results : List (JsString × Bytes)}
    (h : List.Forall₂ StoredFile.Holds files results) (hcount : files.length < 2 ^ 16)
    (hlength : (archive files).length < 2 ^ 32) :
    readArchive (archive files) = some results := by
  have hfits : ∀ file ∈ files, file.Fits := by
    clear hcount hlength
    induction h with
    | nil => simp
    | cons hfile _ ih => exact List.forall_mem_cons.mpr ⟨hfile.1, ih⟩
  have hparts : (records files).length + ((directory 0 files).length +
      (endRecord files.length (directory 0 files).length (records files).length).length) =
        (archive files).length := by
    simp [archive]
  have hend := findEnd_endRecord (records files ++ directory 0 files) 0xffff hcount
    (show (directory 0 files).length < 2 ^ 32 by omega)
    (show (records files).length < 2 ^ 32 by omega)
  rw [List.append_assoc, List.length_append] at hend
  have hdirectory : (archive files).drop (records files).length = _ := List.drop_left
  have hrest : (archive files).drop ((records files).length + (directory 0 files).length) =
      endRecord files.length (directory 0 files).length (records files).length := by
    rw [← List.drop_drop, hdirectory, List.drop_left]
  have hfiles : (archive files).drop 0 = records files ++ (directory 0 files ++
      endRecord files.length (directory 0 files).length (records files).length) := rfl
  unfold readArchive
  rw [show findEnd (archive files) 0x10000 0 = _ from hend]
  simp only [Option.bind_eq_bind, Option.bind_some]
  rw [hdirectory, readDirectory_directory hfits, hrest]
  simp only [guard, if_true, Option.bind_some]
  exact mapM_readEntry h hlength (Nat.zero_le _) hfiles

/-! ### Lengths -/

theorem length_localRecord (file : StoredFile) :
    file.localRecord.length = 46 + file.name.length + file.data.length := by
  have hlocal : localLayout.size = 30 := rfl
  have hdescriptor : descriptorLayout.size = 16 := rfl
  simp only [StoredFile.localRecord, List.length_append, Layout.length_write, hlocal, hdescriptor]
  omega

theorem length_centralRecord (file : StoredFile) (offset : ℕ) :
    (file.centralRecord offset).length = 46 + file.name.length := by
  have hcentral : centralLayout.size = 46 := rfl
  simp only [StoredFile.centralRecord, List.length_append, Layout.length_write, hcentral]

theorem length_records (files : List StoredFile) :
    (records files).length =
      (files.map fun file => 46 + file.name.length + file.data.length).sum := by
  simp [records, List.length_flatMap, length_localRecord]

theorem length_directory (offset : ℕ) (files : List StoredFile) :
    (directory offset files).length = (files.map fun file => 46 + file.name.length).sum := by
  induction files generalizing offset with
  | nil => rfl
  | cons file files ih =>
    rw [directory, List.length_append, ih, length_centralRecord, List.map_cons, List.sum_cons]

/-- An archive is not much longer than its files. -/
theorem length_archive_le {files : List StoredFile} (h : ∀ file ∈ files, file.name.length ≤ 255) :
    (archive files).length ≤
      (files.map fun file => file.data.length).sum + files.length * 602 + 22 := by
  have hend : endLayout.size = 22 := rfl
  have hparts : (archive files).length =
      (files.map fun file => 46 + file.name.length + file.data.length).sum +
        ((files.map fun file => 46 + file.name.length).sum + 22) := by
    simp only [archive, List.length_append, length_records, length_directory, endRecord,
      Layout.length_write, hend]
  have hfiles : (files.map fun file => 46 + file.name.length + file.data.length).sum +
      (files.map fun file => 46 + file.name.length).sum ≤
        (files.map fun file => file.data.length).sum + files.length * 602 := by
    clear hparts
    induction files with
    | nil => simp
    | cons file files ih =>
      have hname := h file List.mem_cons_self
      have hothers := ih fun other hother => h other (List.mem_cons_of_mem _ hother)
      simp only [List.map_cons, List.sum_cons, List.length_cons]
      omega
  omega

theorem sizeOf?_le (size : JsNumber) : (sizeOf? size).getD 0 ≤ 128 * 1024 * 1024 := by
  unfold sizeOf?
  split
  · split_ifs with hrange
    · rw [Option.getD_some]
      omega
    · exact Nat.zero_le _
  · exact Nat.zero_le _

/-- What the checks of the entries say about the sizes. -/
theorem sizes_of_validateFrom {total : ℕ} {names : List JsString} {handles : List Handle}
    {entries : List OpenZipEntry} (h : validateFrom total names handles entries = .ok ())
    (htotal : total ≤ 512 * 1024 * 1024) :
    total + (entries.map fun entry => (sizeOf? entry.size).getD 0).sum ≤ 512 * 1024 * 1024 := by
  induction entries generalizing total names handles with
  | nil => simpa using htotal
  | cons entry entries ih =>
    unfold validateFrom at h
    cases hsize : sizeOf? entry.size with
    | none =>
      simp only [hsize] at h
      split_ifs at h
    | some size =>
      simp only [hsize] at h
      split_ifs at h with hname hhandle hfinite hlimit
      have hothers := ih h (by omega)
      simp only [List.map_cons, List.sum_cons, hsize, Option.getD_some]
      omega

/-! ### Names -/

theorem encodeText_utf16 (c : Char) (text : JsString) :
    encodeText (JsonText.utf16 c ++ text) = String.utf8EncodeChar c ++ encodeText text := by
  obtain ⟨unit, hunit, hleading, htrailing, hc⟩ |
    ⟨leading, trailing, hunits, hleading, htrailing, hc⟩ := utf16_cases c
  · have hscalar : unitScalar unit = c := by simp [unitScalar, hleading, htrailing, hc]
    rw [hunit, List.singleton_append]
    cases text with
    | nil => simp [encodeText, hscalar]
    | cons next text => simp [encodeText, hleading, hscalar]
  · rw [hunits, List.cons_append, List.singleton_append, encodeText, hleading, htrailing, hc]
    rfl

/-- The encoder writes well-formed text as UTF-8. -/
theorem encodeText_wellFormed (chars : List Char) :
    encodeText (chars.flatMap JsonText.utf16) = utf8 chars := by
  induction chars with
  | nil => rfl
  | cons c chars ih => rw [List.flatMap_cons, encodeText_utf16, ih, utf8_cons]

theorem decodeUtf8_utf8 (chars : List Char) :
    decodeUtf8 (utf8 chars) = some (chars.flatMap JsonText.utf16) := by
  unfold decodeUtf8
  rw [show (utf8 chars).toByteArray = chars.utf8Encode from rfl, List.utf8Decode?_utf8Encode]
  rfl

/-! ### The generator -/

section

variable (localTime : JsNumber → Option LocalTime)

/-- The entry has a name of well-formed text, of a length that is accepted. -/
def WellNamed (entry : OpenZipEntry) : Prop :=
  ∃ chars, entry.name = chars.flatMap JsonText.utf16 ∧ 1 ≤ (utf8 chars).length ∧
    (utf8 chars).length ≤ 255

/-- The bytes of the file of an entry. -/
def contents (file : Handle → Bytes) (entry : OpenZipEntry) : Bytes :=
  (file entry.handle).take ((sizeOf? entry.size).getD 0)

/-- **What is written can be read back.**  Of entries that are accepted, with well-formed names,
the generator writes the archive of their files, whatever the sizes of the reads are: every
number in it is exact and fits in its field, each check sum is the CRC-32 of its file, and a
reader that starts at the end of the central directory gets the names and the bytes of the files
back, in order.  It writes all of it when no close fails. -/
theorem stored_zip_is_read_back (entries : List OpenZipEntry)
    (hvalid : validateEntries entries = .ok ()) (hnames : ∀ entry ∈ entries, WellNamed entry)
    (file : Handle → Bytes)
    (hfiles : ∀ entry ∈ entries, (sizeOf? entry.size).getD 0 ≤ (file entry.handle).length)
    (answer : ∀ operation : Operation, operation.Answer) (hserves : ServesReads file answer) :
    (∀ chunks, (generateStoredZip localTime entries).run answer = .ok chunks →
      chunks.flatten = archive (entries.map (storedFile localTime file)) ∧
        chunks.flatten.length < 2 ^ 32 ∧
          readArchive chunks.flatten =
            some (entries.map fun entry => (entry.name, contents file entry))) ∧
    ((∀ handle, (answer (.close handle) : Except JsString Unit) = .ok ()) →
      ∃ chunks, (generateStoredZip localTime entries).run answer = .ok chunks) := by
  have hencoded : ∀ entry ∈ entries, encodeText entry.name ≠ [] ∧
      (encodeText entry.name).length ≤ 255 ∧
        decodeUtf8 (encodeText entry.name) = some entry.name := by
    intro entry hentry
    obtain ⟨chars, hname, hmin, hmax⟩ := hnames entry hentry
    rw [hname, encodeText_wellFormed]
    exact ⟨List.ne_nil_of_length_pos hmin, hmax, decodeUtf8_utf8 chars⟩
  have hwritable : ∀ entry ∈ entries, Writable file entry := fun entry hentry =>
    ⟨(hencoded entry hentry).1, (hencoded entry hentry).2.1, hfiles entry hentry⟩
  obtain ⟨hcount, hsizes⟩ : entries.length ≤ 32 ∧
      (entries.map fun entry => (sizeOf? entry.size).getD 0).sum ≤ 512 * 1024 * 1024 := by
    unfold validateEntries at hvalid
    split_ifs at hvalid with hcount
    have hsizes := sizes_of_validateFrom hvalid (Nat.zero_le _)
    omega
  -- the archive fits in 32 bits
  have hlength : (archive (entries.map (storedFile localTime file))).length < 2 ^ 32 := by
    have hle := @length_archive_le (entries.map (storedFile localTime file)) (by
      intro stored hstored
      obtain ⟨entry, hentry, rfl⟩ := List.mem_map.mp hstored
      exact (hencoded entry hentry).2.1)
    have hdata : ((entries.map (storedFile localTime file)).map fun stored =>
        stored.data.length).sum ≤ (entries.map fun entry => (sizeOf? entry.size).getD 0).sum := by
      rw [List.map_map]
      exact List.sum_le_sum fun entry _ => List.length_take_le _ _
    rw [List.length_map] at hle
    omega
  have hholds : List.Forall₂ StoredFile.Holds (entries.map (storedFile localTime file))
      (entries.map fun entry => (entry.name, contents file entry)) := by
    rw [List.forall₂_map_left_iff, List.forall₂_map_right_iff, List.forall₂_same]
    intro entry hentry
    obtain ⟨-, hname, hdecode⟩ := hencoded entry hentry
    refine ⟨⟨Nat.lt_of_le_of_lt hname (by decide), ?_⟩, hdecode, rfl⟩
    calc (contents file entry).length
        _ ≤ (sizeOf? entry.size).getD 0 := List.length_take_le _ _
        _ ≤ 128 * 1024 * 1024 := sizeOf?_le entry.size
        _ < 2 ^ 32 := by decide
  have hgenerate : generateStoredZip localTime entries =
      writeEntries localTime (entries.map (·.handle)).eraseDups [] (records []).length entries := by
    unfold generateStoredZip
    rw [hvalid]
    rfl
  obtain ⟨harchive, hruns⟩ := run_writeEntries localTime hserves hwritable []
    (show Describes [] [] from ⟨rfl, rfl⟩) (entries.map (·.handle)).eraseDups
  rw [hgenerate]
  refine ⟨fun chunks hchunks => ?_, hruns⟩
  have hflatten : chunks.flatten = archive (entries.map (storedFile localTime file)) :=
    harchive chunks hchunks
  rw [hflatten]
  exact ⟨rfl, hlength, readArchive_archive hholds (by rw [List.length_map]; omega) hlength⟩

end

/-- A file system with one file of one byte, whose closes succeed. -/
def oneByte : ∀ operation : Operation, operation.Answer
  | .read _ position requested =>
    Except.ok ⟨(([0x61] : Bytes).drop position).take requested, List.length_take_le _ _⟩
  | .close _ => Except.ok ()
  | .closeAll _ => ()

theorem oneByte_servesReads : ServesReads (fun _ => [0x61]) oneByte := by
  intro handle position requested hpos hinside
  obtain rfl : position = 0 := by simp at hinside; omega
  obtain rfl : requested = 1 := by simp at hinside; omega
  exact ⟨[0x61], Nat.le_refl 1, rfl, by simp, List.prefix_rfl⟩

/-- A file of one byte is written and read back. -/
theorem stored_zip_is_read_back_one_byte :
    ∃ chunks, (generateStoredZip (fun _ => none)
        [⟨js "a", .ofInt 1, .ofInt 0, 3⟩]).run oneByte = .ok chunks ∧
      readArchive chunks.flatten = some [(js "a", [0x61])] := by
  obtain ⟨harchive, hruns⟩ := stored_zip_is_read_back (fun _ => none)
    [⟨js "a", .ofInt 1, .ofInt 0, 3⟩] (by decide +kernel)
    (by
      intro entry hentry
      obtain rfl := List.mem_singleton.mp hentry
      exact ⟨['a'], rfl, by decide, by decide⟩)
    (fun _ => [0x61])
    (by
      intro entry hentry
      obtain rfl := List.mem_singleton.mp hentry
      decide)
    oneByte oneByte_servesReads
  obtain ⟨chunks, hchunks⟩ := hruns fun _ => rfl
  exact ⟨chunks, hchunks, (harchive chunks hchunks).2.2⟩

end EcSystemCore.Web.Zip
