import EcSystemCore.Lib.Checks
import EcSystemCore.Lib.Crc
import EcSystemCore.Protocol.Roundtrip
import EcSystemCore.Web.Zip

/-!
# What the ZIP writer writes

The format of an archive of stored files, with each number as it should be (`archive`), and a
reader that starts at the end of the central directory (`readArchive`).  The generator writes
exactly such an archive, whatever the sizes of the reads are, and the reader gets the names and
the bytes of the files back from it (`stored_zip_is_read_back`).
-/

namespace EcSystemCore.Web.Zip

/-! ### Bits -/

@[simp] theorem bits32_bitAnd (a b : ℤ) : bits32 (bitAnd a b) = bits32 a &&& bits32 b :=
  BitVec.ofInt_toInt

@[simp] theorem bits32_bitXor (a b : ℤ) : bits32 (bitXor a b) = bits32 a ^^^ bits32 b :=
  BitVec.ofInt_toInt

theorem bits32_natCast (n : ℕ) : bits32 n = .ofNat 32 n := BitVec.ofInt_natCast 32 n

@[simp] theorem bits32_toNat (bits : BitVec 32) : bits32 bits.toNat = bits := by
  rw [bits32_natCast, BitVec.ofNat_toNat, BitVec.setWidth_eq]

@[simp] theorem bits32_shiftRight (a : ℤ) (n : ℕ) : bits32 (shiftRight a n) = bits32 a >>> n :=
  bits32_toNat _

/-- The low byte of a number. -/
theorem bitAnd_low (value : ℤ) : bitAnd value 0xff = ((bits32 value).toNat % 256 : ℕ) := by
  have hand : (bits32 value &&& bits32 0xff).toNat = (bits32 value).toNat % 256 := by
    rw [BitVec.toNat_and]
    exact Nat.and_two_pow_sub_one_eq_mod _ 8
  unfold bitAnd
  rw [BitVec.toInt_eq_toNat_of_lt (by rw [hand]; omega), hand]

theorem uint8_low (value : ℤ) : uint8 (bitAnd value 0xff) = .ofNat (bits32 value).toNat := by
  rw [bitAnd_low, uint8, BitVec.ofInt_natCast]
  apply UInt8.toNat_inj.mp
  change (BitVec.ofNat 8 _).toNat = _
  rw [BitVec.toNat_ofNat, UInt8.toNat_ofNat']
  omega

/-- `u32` writes the 32 bits of a number. -/
theorem u32_eq (value : ℤ) : u32 value = le32 (.ofBitVec (bits32 value)) := by
  unfold u32 le32
  rw [uint8_low, uint8_low, uint8_low, uint8_low]
  simp only [bits32_shiftRight, List.cons.injEq, and_true]
  refine ⟨?_, ?_, ?_, ?_⟩ <;> apply UInt8.toNat_inj.mp <;> simp [BitVec.toNat_ushiftRight]

theorem u16_eq (value : ℤ) : u16 value = le16 (.ofNat (bits32 value).toNat) := by
  unfold u16 le16
  rw [uint8_low, uint8_low]
  simp only [bits32_shiftRight, List.cons.injEq, and_true]
  refine ⟨?_, ?_⟩ <;> apply UInt8.toNat_inj.mp
  · simp
  · simp only [BitVec.toNat_ushiftRight, UInt8.toNat_ofNat', UInt16.toNat_toUInt8,
      UInt16.toNat_shiftRight, UInt16.toNat_ofNat', Nat.shiftRight_eq_div_pow]
    simp only [UInt16.reduceToNat, Nat.reduceMod, Nat.reducePow]
    omega

theorem u32_natCast (n : ℕ) : u32 n = le32 (.ofNat n) := by
  rw [u32_eq, bits32_natCast]
  rfl

theorem u16_natCast (n : ℕ) : u16 n = le16 (.ofNat n) := by
  rw [u16_eq, bits32_natCast]
  congr 1
  apply UInt16.toNat_inj.mp
  rw [UInt16.toNat_ofNat', UInt16.toNat_ofNat', BitVec.toNat_ofNat]
  omega

/-! ### The check sum -/

/-- The polynomial of CRC-32, least significant bit first. -/
def polynomial : BitVec 32 := 0xedb88320#32

/-- CRC-32, bit by bit. -/
def crc32 (data : Bytes) : UInt32 := .ofBitVec (~~~Crc.update polynomial (.allOnes 32) data)

theorem bits32_crcBits (n : ℕ) (value : ℤ) :
    bits32 (crcBits n value) = Crc.steps polynomial n (bits32 value) := by
  induction n generalizing value with
  | zero => rfl
  | succ n ih =>
    have hlow : bitAnd value 1 ≠ 0 ↔ (bits32 value).getLsbD 0 = true := by
      have hone : bits32 1 = 1#32 := rfl
      rw [bitAnd, hone, BitVec.and_one_eq_setWidth_ofBool_getLsbD]
      cases (bits32 value).getLsbD 0 <;> decide
    rw [crcBits, ih, Crc.steps, Crc.step]
    congr 1
    simp only [hlow]
    split_ifs
    · simp only [bits32_bitXor, bits32_shiftRight]
      rfl
    · exact bits32_shiftRight _ _

/-- The table has the eight steps of each byte. -/
theorem bits32_crcTable {index : ℕ} (h : index < 256) :
    bits32 (crcTable.getD index 0) = Crc.steps polynomial 8 (.ofNat 32 index) := by
  have hget : crcTable.getD index 0 = shiftRight (crcBits 8 index) 0 := by
    unfold crcTable
    rw [List.getD_eq_getElem?_getD, List.getElem?_map, List.getElem?_range h]
    rfl
  rw [hget, bits32_shiftRight, bits32_crcBits, bits32_natCast]
  rfl

theorem bits32_updateCrc32 (crc : ℤ) (data : Bytes) :
    bits32 (updateCrc32 crc data) = Crc.update polynomial (bits32 crc) data := by
  unfold updateCrc32
  rw [bits32_shiftRight, BitVec.ushiftRight_zero]
  induction data generalizing crc with
  | nil => rfl
  | cons byte data ih =>
    rw [List.foldl_cons, ih]
    change _ = Crc.update polynomial (Crc.byte polynomial (bits32 crc) byte) data
    congr 1
    have hbyte : bits32 byte.toNat = byte.toBitVec.setWidth 32 :=
      (bits32_natCast _).trans (BitVec.ofNat_toNat 32 byte.toBitVec)
    have hindex : (bitAnd (bitXor crc byte.toNat) 0xff).toNat < 256 := by
      rw [bitAnd_low]
      omega
    rw [bits32_bitXor, bits32_crcTable hindex, bits32_shiftRight, Crc.byte_eq, bitAnd_low,
      bits32_bitXor, hbyte]
    congr 2
    apply BitVec.eq_of_toNat_eq
    rw [BitVec.toNat_and, Int.toNat_natCast, BitVec.toNat_ofNat]
    have hlow : ∀ n : ℕ, n &&& 255 = n % 256 := fun n => Nat.and_two_pow_sub_one_eq_mod n 8
    change _ = _ &&& 255
    rw [hlow]
    omega

/-- Behind a chunk the check sum is never negative. -/
theorem updateCrc32_eq (crc : ℤ) (data : Bytes) :
    updateCrc32 crc data = (Crc.update polynomial (bits32 crc) data).toNat := by
  rw [← bits32_updateCrc32]
  unfold updateCrc32
  rw [bits32_shiftRight]
  rfl

theorem finalCrc_eq (register : BitVec 32) :
    shiftRight (bitXor register.toNat 0xffffffff) 0 = (~~~register).toNat := by
  have hones : bits32 0xffffffff = BitVec.allOnes 32 := rfl
  unfold shiftRight
  rw [bits32_bitXor, bits32_toNat, hones, BitVec.xor_allOnes, BitVec.ushiftRight_zero]

/-! ### The format -/

/-- The fields of a local file header before the name: signature, version, flags, method, time,
date, check sum, two sizes, and the lengths of the name and the extra field. -/
def localLayout :=
  Wire.u32.pair (Wire.u16.pair (Wire.u16.pair (Wire.u16.pair (Wire.u16.pair (Wire.u16.pair
    (Wire.u32.pair (Wire.u32.pair (Wire.u32.pair (Wire.u16.pair Wire.u16)))))))))

/-- The fields of a data descriptor: signature, check sum and two sizes. -/
def descriptorLayout := Wire.u32.pair (Wire.u32.pair (Wire.u32.pair Wire.u32))

/-- The fields of a central header before the name: signature, two versions, flags, method, time,
date, check sum, two sizes, the lengths of the name, the extra field and the comment, the disk,
two attributes, and the offset of the local header. -/
def centralLayout :=
  Wire.u32.pair (Wire.u16.pair (Wire.u16.pair (Wire.u16.pair (Wire.u16.pair (Wire.u16.pair
    (Wire.u16.pair (Wire.u32.pair (Wire.u32.pair (Wire.u32.pair (Wire.u16.pair (Wire.u16.pair
      (Wire.u16.pair (Wire.u16.pair (Wire.u16.pair (Wire.u32.pair Wire.u32)))))))))))))))

/-- The fields of the end of the central directory: signature, two disks, two counts, the length
and the offset of the directory, and the length of the comment. -/
def endLayout :=
  Wire.u32.pair (Wire.u16.pair (Wire.u16.pair (Wire.u16.pair (Wire.u16.pair (Wire.u32.pair
    (Wire.u32.pair Wire.u16))))))

/-- A file of an archive. -/
structure StoredFile where
  name : Bytes
  data : Bytes
  time : UInt16
  date : UInt16

/-- The local header of a file, its bytes, and the descriptor behind them. -/
def StoredFile.localRecord (file : StoredFile) : Bytes :=
  localLayout.write (0x04034b50, 20, 0x0808, 0, file.time, file.date, 0, 0, 0,
      .ofNat file.name.length, 0) ++ (file.name ++ (file.data ++
    descriptorLayout.write (0x08074b50, crc32 file.data, .ofNat file.data.length,
      .ofNat file.data.length)))

/-- The entry of a file in the central directory. -/
def StoredFile.centralRecord (file : StoredFile) (offset : ℕ) : Bytes :=
  centralLayout.write (0x02014b50, 20, 20, 0x0808, 0, file.time, file.date, crc32 file.data,
    .ofNat file.data.length, .ofNat file.data.length, .ofNat file.name.length, 0, 0, 0, 0, 0,
    .ofNat offset) ++ file.name

/-- The local records of some files. -/
def records (files : List StoredFile) : Bytes := files.flatMap StoredFile.localRecord

/-- The central directory of files whose records start at an offset. -/
def directory : ℕ → List StoredFile → Bytes
  | _, [] => []
  | offset, file :: files =>
    file.centralRecord offset ++ directory (offset + file.localRecord.length) files

/-- The end of the central directory. -/
def endRecord (count centralBytes centralOffset : ℕ) : Bytes :=
  endLayout.write (0x06054b50, 0, 0, .ofNat count, .ofNat count, .ofNat centralBytes,
    .ofNat centralOffset, 0)

/-- An archive of stored files. -/
def archive (files : List StoredFile) : Bytes :=
  records files ++ (directory 0 files ++
    endRecord files.length (directory 0 files).length (records files).length)

/-! ### The records of the source -/

/-- The fixed fields. -/
theorem fixed_fields :
    u32 0x04034b50 = le32 0x04034b50 ∧ u32 0x08074b50 = le32 0x08074b50 ∧
      u32 0x02014b50 = le32 0x02014b50 ∧ u32 0x06054b50 = le32 0x06054b50 ∧ u32 0 = le32 0 ∧
        u16 20 = le16 20 ∧ u16 flags = le16 0x0808 ∧ u16 0 = le16 0 :=
  ⟨u32_natCast _, u32_natCast _, u32_natCast _, u32_natCast _, u32_natCast 0, u16_natCast _,
    u16_natCast 0x0808, u16_natCast 0⟩

theorem localHeader_eq (name : Bytes) (time date : ℤ) :
    localHeader name time date =
      localLayout.write (0x04034b50, 20, 0x0808, 0, .ofNat (bits32 time).toNat,
        .ofNat (bits32 date).toNat, 0, 0, 0, .ofNat name.length, 0) ++ name := by
  unfold localHeader localLayout
  simp only [fixed_fields, u16_natCast, u16_eq time, u16_eq date, List.flatten_cons,
    List.flatten_nil, List.append_nil, Layout.pair_write, List.append_assoc]
  rfl

theorem dataDescriptor_eq (crc : UInt32) (size : ℕ) :
    dataDescriptor crc.toNat size =
      descriptorLayout.write (0x08074b50, crc, .ofNat size, .ofNat size) := by
  unfold dataDescriptor descriptorLayout
  simp only [fixed_fields, u32_natCast, UInt32.ofNat_toNat, List.flatten_cons, List.flatten_nil,
    List.append_nil, Layout.pair_write]
  rfl

theorem centralHeader_eq (name : Bytes) (crc : UInt32) (size offset : ℕ) (time date : ℤ) :
    centralHeader ⟨name, crc.toNat, size, offset, time, date⟩ =
      centralLayout.write (0x02014b50, 20, 20, 0x0808, 0, .ofNat (bits32 time).toNat,
        .ofNat (bits32 date).toNat, crc, .ofNat size, .ofNat size, .ofNat name.length, 0, 0, 0, 0,
        0, .ofNat offset) ++ name := by
  unfold centralHeader centralLayout
  simp only [fixed_fields, u16_natCast, u32_natCast, UInt32.ofNat_toNat, u16_eq time, u16_eq date,
    List.flatten_cons, List.flatten_nil, List.append_nil, Layout.pair_write, List.append_assoc]
  rfl

theorem endOfCentralDirectory_eq (count centralBytes centralOffset : ℕ) :
    endOfCentralDirectory count centralBytes centralOffset =
      endRecord count centralBytes centralOffset := by
  unfold endOfCentralDirectory endRecord endLayout
  simp only [fixed_fields, u16_natCast, u32_natCast, List.flatten_cons, List.flatten_nil,
    List.append_nil, Layout.pair_write]
  rfl

/-! ### The generator -/

/-- Reads within a file give some of its bytes, at least one. -/
def ServesReads (file : Handle → Bytes) (answer : ∀ operation : Operation, operation.Answer) :
    Prop :=
  ∀ handle position requested, 0 < requested → position + requested ≤ (file handle).length →
    ∃ (bytes : Bytes) (hbytes : bytes.length ≤ requested),
      answer (.read handle position requested) = Except.ok ⟨bytes, hbytes⟩ ∧ bytes ≠ [] ∧
        bytes <+: (file handle).drop position

theorem run_settle (answer : ∀ operation : Operation, operation.Answer)
    (openHandles : List Handle) (result : Body) :
    (settle openHandles result).run answer = result.run answer := rfl

theorem run_yielding (answer : ∀ operation : Operation, operation.Answer)
    (openHandles : List Handle) (chunk : Bytes) (next : Body) :
    (yielding openHandles chunk next).run answer = (next.run answer).map (chunk :: ·) := rfl

theorem map_map_append {ε : Type} (result : Except ε (List Bytes)) (chunk : Bytes)
    (chunks : List Bytes) :
    (result.map (chunks ++ ·)).map (chunk :: ·) = result.map (chunk :: chunks ++ ·) := by
  cases result <;> rfl

theorem map_record {ε : Type} (result : Except ε (List Bytes)) (header descriptor : Bytes)
    (chunks : List Bytes) :
    ((result.map (descriptor :: ·)).map (chunks ++ ·)).map (header :: ·) =
      result.map (header :: (chunks ++ [descriptor]) ++ ·) := by
  cases result with
  | error message => rfl
  | ok others => simp [Except.map]

theorem map_nil_append {ε : Type} (result : Except ε (List Bytes)) :
    result.map ([] ++ ·) = result := by
  cases result <;> rfl

/-- Behind the last chunk. -/
theorem run_next_at_end (answer : ∀ operation : Operation, operation.Answer) (contents : Bytes)
    (next : ℤ → ℕ → Body) (register : BitVec 32) (size offset : ℕ) :
    ∃ chunks : List Bytes, chunks.flatten = (contents.take size).drop size ∧
      (next register.toNat offset).run answer =
        ((next (Crc.update polynomial register ((contents.take size).drop size)).toNat
          (offset + (size - size))).run answer).map (chunks ++ ·) := by
  have hrest : (contents.take size).drop size = [] := by simp
  refine ⟨[], hrest.symm, ?_⟩
  rw [hrest, Nat.sub_self, Nat.add_zero, map_nil_append]
  rfl

section

variable {file : Handle → Bytes} {answer : ∀ operation : Operation, operation.Answer}
  (hserves : ServesReads file answer)

include hserves

/-- A file is read to its end, whatever the sizes of the reads are. -/
theorem run_readFile (openHandles : List Handle) (entry : OpenZipEntry) {size : ℕ}
    (hsize : size ≤ (file entry.handle).length) (next : ℤ → ℕ → Body) (fuel : ℕ)
    (register : BitVec 32) (position offset : ℕ) (hfuel : size - position ≤ fuel)
    (hposition : position ≤ size) :
    ∃ chunks : List Bytes,
      chunks.flatten = ((file entry.handle).take size).drop position ∧
        (readFile openHandles entry size next fuel register.toNat position offset).run answer =
          ((next (Crc.update polynomial register
              (((file entry.handle).take size).drop position)).toNat
            (offset + (size - position))).run answer).map (chunks ++ ·) := by
  induction fuel generalizing register position offset with
  | zero =>
    obtain rfl : position = size := by omega
    exact run_next_at_end answer (file entry.handle) next register position offset
  | succ fuel ih =>
    by_cases hmore : position < size
    swap
    · obtain rfl : position = size := by omega
      simp only [readFile, if_neg hmore]
      exact run_next_at_end answer (file entry.handle) next register position offset
    obtain ⟨bytes, hbytes, hanswer, hne, hprefix⟩ := hserves entry.handle position
      (min chunkBytes (size - position)) (by unfold chunkBytes; omega) (by omega)
    have hlength : bytes.length ≠ 0 := by simpa using hne
    -- what is left of the file is this chunk and the rest
    have hrest : ((file entry.handle).take size).drop position =
        bytes ++ ((file entry.handle).take size).drop (position + bytes.length) := by
      obtain ⟨tail, htail⟩ := hprefix
      rw [List.drop_take, ← htail, List.take_append, List.take_of_length_le (by omega),
        List.drop_take, ← List.drop_drop, ← htail, List.drop_left]
      congr 2
      omega
    obtain ⟨chunks, hchunks, hrun⟩ := ih (Crc.update polynomial register bytes)
      (position + bytes.length) (offset + bytes.length) (by omega) (by omega)
    refine ⟨bytes :: chunks, by rw [List.flatten_cons, hchunks, ← hrest], ?_⟩
    have hcrc : updateCrc32 register.toNat bytes =
        (Crc.update polynomial register bytes).toNat := by
      rw [updateCrc32_eq, bits32_toNat]
    rw [readFile, if_pos hmore, Coroutine.run, hanswer]
    change (if bytes.length = 0 then _ else yielding openHandles bytes _ : Body).run answer = _
    have hoffset : offset + bytes.length + (size - (position + bytes.length)) =
        offset + (size - position) := by omega
    rw [if_neg hlength, run_yielding, hcrc, hrun, map_map_append, hrest, Crc.update_append,
      hoffset]

end

/-- The directory is written, and its end. -/
theorem run_writeCentral (answer : ∀ operation : Operation, operation.Answer)
    (openHandles : List Handle) (entryCount centralOffset centralBytes : ℕ)
    (central : List CentralEntry) :
    (writeCentral openHandles entryCount centralOffset centralBytes central).run answer =
      .ok (central.map centralHeader ++ [endOfCentralDirectory entryCount
        ((centralBytes + (central.map centralHeader).flatten.length : ℕ) : ℤ) centralOffset]) := by
  induction central generalizing centralBytes with
  | nil => simp [writeCentral, run_yielding, run_settle, Coroutine.run, Except.map]
  | cons entry central ih =>
    rw [writeCentral, run_yielding, ih]
    simp [Except.map, Nat.add_assoc]

/-! ### All files -/

section

variable (localTime : JsNumber → Option LocalTime) (file : Handle → Bytes)

/-- The file of an entry in the archive. -/
def storedFile (entry : OpenZipEntry) : StoredFile where
  name := encodeText entry.name
  data := (file entry.handle).take ((sizeOf? entry.size).getD 0)
  time := .ofNat (bits32 (zipDateParts localTime entry.modifiedAt).1).toNat
  date := .ofNat (bits32 (zipDateParts localTime entry.modifiedAt).2).toNat

/-- The entry can be written: its name has a length that fits, and its file its size. -/
def Writable (entry : OpenZipEntry) : Prop :=
  encodeText entry.name ≠ [] ∧ (encodeText entry.name).length ≤ 255 ∧
    (sizeOf? entry.size).getD 0 ≤ (file entry.handle).length

/-- The directory entries describe the files. -/
def Describes (central : List CentralEntry) (files : List StoredFile) : Prop :=
  central.length = files.length ∧ (central.map centralHeader).flatten = directory 0 files

theorem directory_append (offset : ℕ) (files : List StoredFile) (last : StoredFile) :
    directory offset (files ++ [last]) =
      directory offset files ++ last.centralRecord (offset + (records files).length) := by
  induction files generalizing offset with
  | nil => simp [directory, records]
  | cons first files ih =>
    simp only [List.cons_append, directory, ih, List.append_assoc, records, List.flatMap_cons,
      List.length_append, Nat.add_assoc]

theorem records_append (files : List StoredFile) (last : StoredFile) :
    records (files ++ [last]) = records files ++ last.localRecord := by
  simp [records]

variable {file} {answer : ∀ operation : Operation, operation.Answer}

/-- One file: its header, its bytes and its descriptor, and then the other files. -/
theorem run_writeEntries_cons (hserves : ServesReads file answer) (openHandles : List Handle)
    (central : List CentralEntry) (archiveOffset : ℕ) {entry : OpenZipEntry}
    (entries : List OpenZipEntry) (hentry : Writable file entry) :
    ∃ chunks : List Bytes, chunks.flatten = (storedFile localTime file entry).localRecord ∧
      (writeEntries localTime openHandles central archiveOffset (entry :: entries)).run answer =
        match (answer (.close entry.handle) : Except JsString Unit) with
        | .error message => .error message
        | .ok _ => ((writeEntries localTime (openHandles.filter (· ≠ entry.handle))
            (central ++ [⟨encodeText entry.name, (crc32 (storedFile localTime file entry).data).toNat,
              (storedFile localTime file entry).data.length, archiveOffset,
              (zipDateParts localTime entry.modifiedAt).1,
              (zipDateParts localTime entry.modifiedAt).2⟩])
            (archiveOffset + (storedFile localTime file entry).localRecord.length)
            entries).run answer).map (chunks ++ ·) := by
  obtain ⟨hname, hlong, hsize⟩ := hentry
  set size := (sizeOf? entry.size).getD 0 with hsizeOf
  set stored := storedFile localTime file entry with hstored
  have hdata : stored.data.length = size := by simp [hstored, storedFile, ← hsizeOf, hsize]
  have hcontents : ((file entry.handle).take size).drop 0 = stored.data := List.drop_zero
  set header := localHeader (encodeText entry.name) (zipDateParts localTime entry.modifiedAt).1
    (zipDateParts localTime entry.modifiedAt).2 with hheader
  have hrecord : header ++ (stored.data ++ dataDescriptor (crc32 stored.data).toNat size) =
      stored.localRecord := by
    rw [hheader, localHeader_eq, dataDescriptor_eq, StoredFile.localRecord, hdata,
      List.append_assoc]
    rfl
  obtain ⟨chunks, hchunks, hrun⟩ := run_readFile hserves openHandles entry hsize
    (closeFile openHandles entry size fun finalCrc nextOffset =>
      writeEntries localTime (openHandles.filter (· ≠ entry.handle))
        (central ++ [⟨encodeText entry.name, finalCrc, size, archiveOffset,
          (zipDateParts localTime entry.modifiedAt).1,
          (zipDateParts localTime entry.modifiedAt).2⟩]) nextOffset entries)
    size (.allOnes 32) 0 (archiveOffset + header.length) (by omega) (Nat.zero_le _)
  rw [hcontents] at hchunks hrun
  refine ⟨header :: (chunks ++ [dataDescriptor (crc32 stored.data).toNat size]), ?_, ?_⟩
  · rw [← hrecord, List.flatten_cons, List.flatten_append, hchunks]
    simp
  have hname' : ¬((encodeText entry.name).length = 0 ∨ (encodeText entry.name).length > 255) := by
    simp [hname]
    omega
  have hlength : archiveOffset + header.length + (size - 0) +
      (dataDescriptor (crc32 stored.data).toNat size).length =
        archiveOffset + stored.localRecord.length := by
    rw [← hrecord, List.length_append, List.length_append, hdata]
    omega
  have hcrc : shiftRight (bitXor (Crc.update polynomial (.allOnes 32) stored.data).toNat
      0xffffffff) 0 = (crc32 stored.data).toNat := finalCrc_eq _
  rw [writeEntries]
  simp only [if_neg hname', run_yielding]
  change ((readFile openHandles entry size _ size (BitVec.allOnes 32).toNat 0
    (archiveOffset + header.length)).run answer).map _ = _
  rw [hrun, closeFile]
  simp only [hcrc, run_yielding, hlength, Coroutine.run]
  cases hclose : (answer (.close entry.handle) : Except JsString Unit) with
  | error message => rfl
  | ok result =>
    rw [hdata]
    exact map_record _ header (dataDescriptor (crc32 stored.data).toNat size) chunks

/-- The entry of a file in the directory, as the source writes it. -/
theorem centralHeader_storedFile (entry : OpenZipEntry) (offset : ℕ) :
    centralHeader ⟨encodeText entry.name, (crc32 (storedFile localTime file entry).data).toNat,
        (storedFile localTime file entry).data.length, offset,
        (zipDateParts localTime entry.modifiedAt).1,
        (zipDateParts localTime entry.modifiedAt).2⟩ =
      (storedFile localTime file entry).centralRecord offset := centralHeader_eq _ _ _ _ _ _

/-- **The generator writes an archive** of the files, if no close fails on the way; and it does
write it if none fails. -/
theorem run_writeEntries (hserves : ServesReads file answer) {entries : List OpenZipEntry}
    (hentries : ∀ entry ∈ entries, Writable file entry) (done : List StoredFile)
    {central : List CentralEntry} (hcentral : Describes central done) (openHandles : List Handle) :
    (∀ chunks, (writeEntries localTime openHandles central (records done).length entries).run
        answer = .ok chunks →
      records done ++ chunks.flatten = archive (done ++ entries.map (storedFile localTime file))) ∧
    ((∀ handle, (answer (.close handle) : Except JsString Unit) = .ok ()) →
      ∃ chunks, (writeEntries localTime openHandles central (records done).length entries).run
        answer = .ok chunks) := by
  induction entries generalizing done central openHandles with
  | nil =>
    obtain ⟨hcount, hdirectory⟩ := hcentral
    rw [writeEntries, run_writeCentral]
    refine ⟨?_, fun _ => ⟨_, rfl⟩⟩
    intro chunks hchunks
    cases hchunks
    rw [Nat.zero_add, endOfCentralDirectory_eq, List.flatten_append, hdirectory, hcount]
    simp [archive]
  | cons entry entries ih =>
    obtain ⟨chunks, hchunks, hrun⟩ := run_writeEntries_cons localTime hserves openHandles central
      (records done).length entries (hentries entry List.mem_cons_self)
    set stored := storedFile localTime file entry with hstored
    have hoffset : (records done).length + stored.localRecord.length =
        (records (done ++ [stored])).length := by
      rw [records_append, List.length_append]
    have hdescribes : Describes (central ++ [⟨encodeText entry.name,
        (crc32 stored.data).toNat, stored.data.length, (records done).length,
        (zipDateParts localTime entry.modifiedAt).1,
        (zipDateParts localTime entry.modifiedAt).2⟩]) (done ++ [stored]) := by
      refine ⟨by simp [hcentral.1], ?_⟩
      rw [List.map_append, List.flatten_append, hcentral.2, directory_append, Nat.zero_add,
        List.map_singleton, List.flatten_singleton, hstored, centralHeader_storedFile]
    obtain ⟨ihArchive, ihRuns⟩ := ih
      (fun other hother => hentries other (List.mem_cons_of_mem _ hother)) (done ++ [stored])
      hdescribes (openHandles.filter (· ≠ entry.handle))
    rw [hrun, hoffset]
    constructor
    · intro all hall
      cases hclose : (answer (.close entry.handle) : Except JsString Unit) with
      | error message =>
        rw [hclose] at hall
        cases hall
      | ok result =>
        rw [hclose] at hall
        obtain ⟨others, hothers, rfl⟩ := Checks.map_eq_ok_iff.mp hall
        rw [List.flatten_append, hchunks, ← List.append_assoc, ← records_append,
          ihArchive others hothers, List.map_cons, List.append_assoc]
        rfl
    · intro hclose
      obtain ⟨others, hothers⟩ := ihRuns hclose
      rw [hclose]
      exact ⟨_, Checks.map_eq_ok_iff.mpr ⟨others, hothers, rfl⟩⟩

end

end EcSystemCore.Web.Zip
