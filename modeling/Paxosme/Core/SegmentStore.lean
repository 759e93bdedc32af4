import Paxosme.Lib.Framing
import Paxosme.Lib.SystemCalls
import Mathlib.Data.Int.Init

/-!
# The segment store

Records are appended to numbered segment files of one size each, and a metadata file holds the
number of the segment in use behind its CRC. A record stands behind its length; a segment is
filled with zeros when it is created and cut behind its last record when the next one is started.

Sizes (`size_t`) are natural numbers below `2 ^ 64`, offsets (`off_t`) are integers, and a sum
that passes from one to the other wraps around. `SEGMENT_ID` wraps around at its 32 bits. The
process has the memory for the buffers of what it writes; where the size of a buffer is read from
disk, one above `Environment.memory` is marked as an overrun, for an array on the stack as for a
string, whose exception nothing catches. The lock that `Read` and `Append` hold is left out: each
function runs alone. Names are relative to the directory of the store: no two of `METADATA_FILE`
and the paths of `ToSegmentPath` are one.
-/

namespace Paxosme

open Posix Bytes

/-- `SEGMENT_ID`. -/
abbrev SegmentId := Int32

/-- `SegmentIndex`. -/
abbrev SegmentIndex := List UInt8

/-- The files of a store. -/
inductive FileName where
  /-- `METADATA_FILE`. -/
  | metadata
  /-- `ToSegmentPath` of a segment. -/
  | segment (segmentId : SegmentId)
  deriving DecidableEq, Repr

/-- `LogStorageOptions`. -/
structure LogStorageOptions where
  /-- `dbPath`. -/
  dbPath : String
  /-- `segmentMaxSize`. -/
  segmentMaxSize : Nat
  /-- `indexKeyLength`. -/
  indexKeyLength : Nat
  /-- `removeAsync`. -/
  removeAsync : Bool
  deriving DecidableEq, Repr

/-- What the code takes from outside: `crc32` of zlib on the bytes of a buffer, started with
zero, the bytes that stand in memory behind those of a buffer, and the size of the largest buffer
that the process has the memory for. -/
structure Environment where
  crc32 : List UInt8 → UInt32
  stray : List UInt8 → Nat → UInt8
  memory : Nat
  /-- A buffer has no more bytes than `SSIZE_MAX`. -/
  addressed : memory < 2 ^ 63

/-- Bytes of a buffer up to a count, those behind its end included. -/
def Environment.copied (env : Environment) (buffer : List UInt8) (count : Nat) : List UInt8 :=
  buffer.take count ++ (List.range (count - buffer.length)).map (env.stray buffer)

/-- An `off_t` as a `size_t`. -/
def sizeT (offset : Int) : Nat := (offset % 2 ^ 64).toNat

/-- A `size_t` as an `off_t`. -/
def offT (size : Nat) : Int := Int.bmod size (2 ^ 64)

/-- The bytes of a `SEGMENT_ID`. -/
def idBytes (segmentId : SegmentId) : List UInt8 := littleEndian 4 segmentId.toBitVec.toNat

/-- The `SEGMENT_ID` of four bytes. -/
def ofIdBytes (bytes : List UInt8) : SegmentId := Int32.ofNat (ofLittleEndian bytes)

/-- The result of `read` as a `size_t`, where −1 is the largest number. -/
def readLen (result : Option (List UInt8)) : Nat := (result.map List.length).getD (2 ^ 64 - 1)

/-- The number of the segment that is started after so many others. -/
def segmentId (number : Nat) : SegmentId := Int32.ofNat number

theorem sizeT_of_lt {size : Nat} (fits : size < 2 ^ 64) : sizeT size = size := by
  have small : (size : Int) % 2 ^ 64 = size :=
    Int.emod_eq_of_lt (Int.natCast_nonneg size) (by exact_mod_cast fits)
  rw [sizeT, small, Int.toNat_natCast]

theorem offT_of_lt {size : Nat} (fits : size < 2 ^ 63) : offT size = size :=
  Int.bmod_eq_of_le_mul_two (by omega) (by omega)

theorem Environment.copied_of_le (env : Environment) {buffer : List UInt8} {count : Nat}
    (inside : count ≤ buffer.length) : env.copied buffer count = buffer.take count := by
  simp [Environment.copied, Nat.sub_eq_zero_of_le inside]

theorem Environment.length_copied (env : Environment) (buffer : List UInt8) (count : Nat) :
    (env.copied buffer count).length = count := by
  rw [Environment.copied, List.length_append, List.length_take, List.length_map,
    List.length_range]
  omega

/-- A key that has its length is copied as it is. -/
theorem Environment.copied_key (env : Environment) {key : List UInt8} {count : Nat}
    (keyed : key.length = count) : env.copied (key ++ [0]) count = key := by
  rw [Environment.copied_of_le env (by simp [keyed]), ← keyed, List.take_left]

@[simp] theorem length_idBytes (segmentId : SegmentId) : (idBytes segmentId).length = 4 :=
  length_littleEndian ..

@[simp] theorem ofIdBytes_idBytes (segmentId : SegmentId) :
    ofIdBytes (idBytes segmentId) = segmentId := by
  have fits : segmentId.toBitVec.toNat < 256 ^ 4 := segmentId.toBitVec.isLt
  rw [ofIdBytes, idBytes, ofLittleEndian_littleEndian_of_lt fits, Int32.ofNat_bitVecToNat,
    Int32.ofBitVec_toBitVec]

theorem segmentId_succ (number : Nat) : segmentId (number + 1) = segmentId number + 1 :=
  Int32.ofNat_add number 1

/-- Different numbers of segments give different `SEGMENT_ID`s as long as there are enough. -/
theorem segmentId_inj {first second : Nat} (small : first < 2 ^ 32) (small' : second < 2 ^ 32)
    (same : segmentId first = segmentId second) : first = second := by
  have bits := congrArg (fun id : Int32 => id.toBitVec.toNat) same
  have left : (segmentId first).toBitVec.toNat = first % 2 ^ 32 := BitVec.toNat_ofNat first 32
  have right : (segmentId second).toBitVec.toNat = second % 2 ^ 32 := BitVec.toNat_ofNat second 32
  simp only [left, right] at bits
  omega

/-- `LogSegmentStore`. -/
structure LogSegmentStore where
  /-- `db_path_`. -/
  dbPath : String := ""
  /-- `meta_fd_`. -/
  metaFd : FD := -1
  /-- `cur_segment_id_`. -/
  curSegmentId : SegmentId := -1
  /-- `cur_segment_fd_`. -/
  curSegmentFd : FD := -1
  /-- `cur_segment_offset_`. -/
  curSegmentOffset : Int := -1
  /-- `cur_segment_file_size_`. -/
  curSegmentFileSize : Nat := 0
  /-- `index_key_length_`. -/
  indexKeyLength : Nat := 0
  /-- `segment_max_size_`. -/
  segmentMaxSize : Nat := 0
  /-- Whether `segment_clean_future_` has been started. -/
  cleaning : Bool := false
  deriving DecidableEq, Repr

namespace LogSegmentStore

/-- `LogSegmentStore::ToSegmentIndex`. -/
def toSegmentIndex (segmentId : SegmentId) (offset : Int) (checksum : Nat) : SegmentIndex :=
  idBytes segmentId ++ littleEndian 8 (sizeT offset) ++ littleEndian 8 checksum

/-- `LogSegmentStore::ParseSegmentIndex`, of an index that has its twenty bytes. -/
def parseSegmentIndex (logIndex : SegmentIndex) : SegmentId × Int × Nat :=
  (ofIdBytes (logIndex.take 4), offT (ofLittleEndian ((logIndex.drop 4).take 8)),
    ofLittleEndian ((logIndex.drop 12).take 8))

/-- `ParseSegmentIndex` takes apart what `ToSegmentIndex` puts together. -/
theorem parseSegmentIndex_toSegmentIndex (segmentId : SegmentId) {offset checksum : Nat}
    (small : offset < 2 ^ 63) (fits : checksum < 2 ^ 64) :
    parseSegmentIndex (toSegmentIndex segmentId offset checksum) =
      (segmentId, (offset : Int), checksum) := by
  have id : (toSegmentIndex segmentId offset checksum).take 4 = idBytes segmentId := by
    simp [toSegmentIndex, List.append_assoc]
  have middle : ((toSegmentIndex segmentId offset checksum).drop 4).take 8 =
      littleEndian 8 (sizeT offset) := by
    simp [toSegmentIndex, List.append_assoc]
  have finish : ((toSegmentIndex segmentId offset checksum).drop 12).take 8 =
      littleEndian 8 checksum := by
    have head : (idBytes segmentId ++ littleEndian 8 (sizeT offset)).length = 12 := by simp
    rw [toSegmentIndex, ← head, List.drop_left, List.take_of_length_le (by simp)]
  have small' : offset < 256 ^ 8 := by omega
  have fits' : checksum < 256 ^ 8 := by omega
  rw [parseSegmentIndex, id, middle, finish, ofIdBytes_idBytes, sizeT_of_lt (by omega),
    ofLittleEndian_littleEndian_of_lt small', ofLittleEndian_littleEndian_of_lt fits',
    offT_of_lt small]

/-- `LogSegmentStore::CreateIfNotExists`. -/
def createIfNotExists : Sys FileName Bool := do
  match ← stat with
  | .absent => mkdir
  | .directory => pure true
  | .other => pure false

/-- `LogSegmentStore::SegmentExists`. -/
def segmentExists (segmentId : SegmentId) : Sys FileName Bool := access (.segment segmentId)

/-- `LogSegmentStore::OpenSegment`, with −1 for a segment that cannot be opened. -/
def openSegment (segmentId : SegmentId) (needCreate : Bool) : Sys FileName FD :=
  openFile (.segment segmentId) needCreate

/-- `LogSegmentStore::DeleteSegment`. -/
def deleteSegment (segmentId : SegmentId) : Sys FileName Bool := remove (.segment segmentId)

/-- `LogSegmentStore::PaddingIfNewSegment`. -/
def paddingIfNewSegment (store : LogSegmentStore) : Sys FileName (Int × LogSegmentStore) := do
  let fileSize ← lseek store.curSegmentFd 0 .finish
  if fileSize = -1 then pure (-1, store)
  else if 0 < fileSize then pure (0, { store with curSegmentFileSize := sizeT fileSize })
  else
    let lastByte := sizeT (store.segmentMaxSize - 1)
    let fileSize ← lseek store.curSegmentFd (offT lastByte) .start
    if sizeT fileSize ≠ lastByte then pure (-1, store)
    else
      let writeSize ← write store.curSegmentFd [0]
      if writeSize ≠ some 1 then pure (-1, store)
      else
        let offset ← lseek store.curSegmentFd 0 .start
        if offset ≠ 0 then pure (-1, store)
        else pure (1, { store with curSegmentFileSize := store.segmentMaxSize })

/-- `LogSegmentStore::UpdateMetadata`. -/
def updateMetadata (env : Environment) (store : LogSegmentStore) : Sys FileName Bool := do
  let headPos ← lseek store.metaFd 0 .start
  if headPos = -1 then pure false
  else
    let tmpSegid := store.curSegmentId + 1
    let writeSegidLen ← write store.metaFd (idBytes tmpSegid)
    if writeSegidLen ≠ some 4 then pure false
    else
      let newSegCrc := env.crc32 (idBytes tmpSegid)
      let writeCrcLen ← write store.metaFd (littleEndian 8 newSegCrc.toNat)
      -- `return -1` of a function whose result is a `bool`
      if writeCrcLen ≠ some 8 then pure true
      else fsync store.metaFd

/-- `LogSegmentStore::NewSegment`. -/
def newSegment (env : Environment) (store : LogSegmentStore) :
    Sys FileName (Bool × LogSegmentStore) := do
  if !(← updateMetadata env store) then pure (false, store)
  else
    let store := { store with curSegmentId := store.curSegmentId + 1 }
    if ← segmentExists store.curSegmentId then pure (false, store)
    else
      let fd ← openSegment store.curSegmentId true
      if fd = -1 then pure (false, store)
      else
        let (paddingResult, store) ← paddingIfNewSegment { store with curSegmentFd := fd }
        if paddingResult < 0 then do
          close store.curSegmentFd
          pure (false, store)
        else pure (true, { store with curSegmentOffset := 0 })

/-- The start of `LogSegmentStore::Append`: a new segment for a buffer that the current one does
not hold. -/
def makeRoom (env : Environment) (store : LogSegmentStore) (bufferLength : Nat) :
    Sys FileName (Bool × LogSegmentStore) :=
  if store.curSegmentFileSize < sizeT (store.curSegmentOffset + bufferLength) then do
    if !(← ftruncate store.curSegmentFd store.curSegmentOffset) then pure (false, store)
    else do
      close store.curSegmentFd
      let (ready, store) ← newSegment env store
      if !ready then pure (false, store)
      else pure (true, { store with curSegmentOffset := 0 })
  else pure (true, store)

/-- The end of `LogSegmentStore::Append`: the record is written behind the last one. -/
def writeRecord (env : Environment) (store : LogSegmentStore) (key value : List UInt8) :
    Sys FileName (Option SegmentIndex × LogSegmentStore) := do
  touch (key.length + 1) store.indexKeyLength
  let keyValue := env.copied (key ++ [0]) store.indexKeyLength ++ value
  let buffer := littleEndian 8 (store.indexKeyLength + value.length) ++ keyValue
  let pos ← lseek store.curSegmentFd store.curSegmentOffset .start
  if pos ≠ store.curSegmentOffset then pure (none, store)
  else
    let writeLength ← write store.curSegmentFd buffer
    if writeLength ≠ some buffer.length then pure (none, store)
    else
      let segmentIndex := toSegmentIndex store.curSegmentId store.curSegmentOffset
        (env.crc32 keyValue).toNat
      pure (some segmentIndex,
        { store with curSegmentOffset := store.curSegmentOffset + buffer.length })

/-- `LogSegmentStore::Append` — the index of the record, if it is appended. -/
def append (env : Environment) (store : LogSegmentStore) (key value : List UInt8) :
    Sys FileName (Option SegmentIndex × LogSegmentStore) := do
  let bufferLength := 8 + (store.indexKeyLength + value.length)
  if store.segmentMaxSize < bufferLength then pure (none, store)
  else
    let (ready, store) ← makeRoom env store bufferLength
    if !ready then pure (none, store)
    else writeRecord env store key value

/-- `LogSegmentStore::Read` — the key and the value of the record. -/
def read (env : Environment) (store : LogSegmentStore) (segmentIndex : SegmentIndex) :
    Sys FileName (Option (List UInt8 × List UInt8)) := do
  let (segmentId, offset, parseChecksum) := parseSegmentIndex segmentIndex
  let segmentFd ← openSegment segmentId false
  if segmentFd = -1 then pure none
  else
    let pos ← lseek segmentFd offset .start
    if pos ≠ offset then do close segmentFd; pure none
    else
      let kvSize ← Posix.read segmentFd 8
      if readLen kvSize ≠ 8 then do close segmentFd; pure none
      else
        let kvSize := ofLittleEndian (kvSize.getD [])
        -- `std::string keyValue(kv_size, '\0')`
        touch env.memory kvSize
        let key ← Posix.read segmentFd store.indexKeyLength
        touch kvSize (key.getD []).length
        if readLen key ≠ store.indexKeyLength then do close segmentFd; pure none
        else
          let valueLen := sizeT (kvSize - store.indexKeyLength)
          let value ← Posix.read segmentFd valueLen
          touch kvSize (store.indexKeyLength + (value.getD []).length)
          if readLen value ≠ valueLen then do close segmentFd; pure none
          else
            let keyValue := (key.getD [] ++ value.getD []).take kvSize
            if (env.crc32 keyValue).toNat ≠ parseChecksum then do close segmentFd; pure none
            else do
              close segmentFd
              pure (some (keyValue.take store.indexKeyLength,
                keyValue.drop store.indexKeyLength))

/-- `LogSegmentStore::RemoveAsync`, with the segments for which it gives `scheduler_` an event. -/
def removeAsync (segmentIndex : SegmentIndex) : Sys FileName (Bool × List SegmentId) := do
  let (segmentId, offset, _) := parseSegmentIndex segmentIndex
  let segmentFd ← openSegment segmentId true
  if segmentFd = -1 then pure (false, [])
  else
    let pos ← lseek segmentFd offset .start
    if pos = -1 then do close segmentFd; pure (false, [])
    else
      let kvSize ← Posix.read segmentFd 8
      if readLen kvSize ≠ 8 then do close segmentFd; pure (false, [])
      else
        let next := offT (sizeT (offset + 8 + ofLittleEndian (kvSize.getD [])))
        let finish ← lseek segmentFd 0 .finish
        close segmentFd
        pure (true, if next = finish then [segmentId] else [])

/-- `LogSegmentStore::GetLastSegmentId`. -/
def getLastSegmentId (store : LogSegmentStore) : SegmentId := store.curSegmentId

/-- `LogSegmentStore::GetCurrentOffset`. -/
def getCurrentOffset (store : LogSegmentStore) : Int := store.curSegmentOffset

/-- `LogSegmentStore::ReplayLog` — its result, an `int`, and the key and the index that it
assigns when it comes to a record. -/
def replayLog (env : Environment) (store : LogSegmentStore) (segmentId : SegmentId)
    (offset : Int) : Sys FileName (Int × Option (List UInt8 × SegmentIndex)) := do
  if !(← segmentExists segmentId) then pure (-1, none)
  else
    let fd ← openSegment segmentId true
    if fd < 0 then pure (-1, none)
    else
      let pos ← lseek fd offset .start
      if pos = -1 then do close fd; pure (-1, none)
      else
        let first ← Posix.read fd 8
        if readLen first < 8 then do close fd; pure (0, none)
        else
          -- a read that fails leaves `kvSize` zero
          let kvSize := ofLittleEndian (first.getD [])
          if kvSize = 0 then do close fd; pure (0, none)
          else
            -- `char buffer[kvSize]`
            touch env.memory kvSize
            let buffer ← Posix.read fd kvSize
            if readLen buffer ≠ kvSize then do close fd; pure (0, none)
            else
              -- nothing has been read into the buffer when `kvSize` is −1 as a `size_t`
              let buffer := env.copied (buffer.getD []) kvSize
              touch kvSize store.indexKeyLength
              close fd
              pure (Int.bmod (sizeT (offset + 8 + kvSize)) (2 ^ 32),
                some (env.copied buffer store.indexKeyLength,
                  toSegmentIndex segmentId offset (env.crc32 buffer).toNat))

/-- `LogSegmentStore::ReplaySegment` from an offset on, with the offset it comes to. A scan that
has not come to an end after so many calls of `ReplayLog` gives no result. -/
def replaySegment (env : Environment) (store : LogSegmentStore) (segmentId : SegmentId) :
    Nat → Int → Sys FileName (Bool × Int)
  | 0, _ => Sys.stop
  | fuel + 1, replayOffset => do
    let (offset, _) ← replayLog env store segmentId replayOffset
    if offset < 0 then pure (false, offset)
    else if offset = 0 then pure (true, replayOffset)
    else replaySegment env store segmentId fuel offset

/-- The metadata file as `LogSegmentStore::Init` reads it: the segment in use, nothing when the
file cannot be read or its CRC does not match. Four of the eight bytes of the CRC are read behind
the end of a `uint32_t`, the four that it is compared without. -/
def readMetadata (env : Environment) (metaFd : FD) : Sys FileName (Option SegmentId) := do
  let id ← Posix.read metaFd 4
  if readLen id ≠ 0 ∧ readLen id ≠ 4 then pure none
  else
    let curSegmentId := if readLen id = 0 then 0 else ofIdBytes (id.getD [])
    let readCheckSum ← Posix.read metaFd 8
    touch 4 (readCheckSum.getD []).length
    if readLen readCheckSum = 8 ∧ (env.crc32 (idBytes curSegmentId)).toNat ≠
        ofLittleEndian ((readCheckSum.getD []).take 4) then
      pure none
    else pure (some curSegmentId)

/-- The end of `LogSegmentStore::Init`: the segment in use is opened and the offset behind its
last record found. A `ReplaySegment` that fails ends the process (`assert`). -/
def openCurrent (env : Environment) (fuel : Nat) (store : LogSegmentStore)
    (options : LogStorageOptions) : Sys FileName (Bool × LogSegmentStore) := do
  let fd ← openSegment store.curSegmentId true
  if fd = -1 then pure (false, store)
  else
    let (paddingResult, store) ← paddingIfNewSegment
      { store with curSegmentFd := fd, segmentMaxSize := options.segmentMaxSize }
    if paddingResult < 0 then pure (false, store)
    else if paddingResult = 1 then
      let offset ← lseek store.curSegmentFd 0 .start
      let store := { store with curSegmentOffset := 0 }
      if offset ≠ 0 then pure (false, store)
      else pure (true, { store with cleaning := options.removeAsync })
    else
      let (replayRes, offset) ← replaySegment env store store.curSegmentId fuel 0
      if !replayRes then Sys.stop
      else pure (true,
        { store with curSegmentOffset := offset, cleaning := options.removeAsync })

/-- `LogSegmentStore::Init`. -/
def init (env : Environment) (fuel : Nat) (store : LogSegmentStore)
    (options : LogStorageOptions) : Sys FileName (Bool × LogSegmentStore) := do
  if store.dbPath ≠ "" then pure (false, store)
  else if options.indexKeyLength = 0 then pure (false, store)
  else
    let store := { store with
      dbPath := options.dbPath ++ (if options.dbPath.back = '/' then "" else "/") ++ "segment"
      indexKeyLength := options.indexKeyLength }
    if !(← createIfNotExists) then pure (false, store)
    else
      let metaFd ← openFile .metadata true
      let store := { store with metaFd := metaFd }
      if metaFd = -1 then pure (false, store)
      else
        let headPos ← lseek metaFd 0 .start
        if headPos = -1 then pure (false, store)
        else
          match ← readMetadata env metaFd with
          | none => pure (false, store)
          | some curSegmentId =>
            openCurrent env fuel { store with curSegmentId } options

/-- `LogSegmentStore::~LogSegmentStore`. With cleaning on the destructor does not return, for it waits
for the thread of `AutoDispatch`; this is what it does before. -/
def destroy (store : LogSegmentStore) : Sys FileName Unit :=
  if store.curSegmentFd ≠ -1 then close store.curSegmentFd else pure ()

end LogSegmentStore

end Paxosme
