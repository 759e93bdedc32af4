import Paxosme.Lib.Buffers
import Paxosme.Verif.SegmentCalls

/-!
# Lengths read from disk

`Read` and `ReplayLog` take the length of a record from the file and make a buffer of that size. Both
then use as many bytes of it as a key has, whatever the length was: `Read` to put the key there and
`ReplayLog` to take it out. They stay inside exactly when the process has the memory for the buffer
and a length below that of a key is never followed by enough bytes: the reads come back short and the
functions give up. A `read` of more than `SSIZE_MAX` bytes fails, and its result −1, as a `size_t`,
is the largest length there is.
-/

namespace Paxosme
namespace LogSegmentStore

open Posix Bytes Framing

/-- `Read` up to the subtraction: the descriptor, the stored length and the key with which it comes
there. -/
def readKey (env : Environment) (store : LogSegmentStore) (segmentIndex : SegmentIndex) :
    Sys FileName (Option (FD × Nat × List UInt8)) := do
  let (segmentId, offset, _) := parseSegmentIndex segmentIndex
  let segmentFd ← openSegment segmentId false
  if segmentFd = -1 then pure none
  else
    let pos ← lseek segmentFd offset .start
    if pos ≠ offset then do close segmentFd; pure none
    else
      let kvSize ← Posix.read segmentFd 8
      if readLen kvSize ≠ 8 then do close segmentFd; pure none
      else
        let kvSize := ofLittleEndian (kvSize.getD [])
        touch env.memory kvSize
        let key ← Posix.read segmentFd store.indexKeyLength
        touch kvSize (key.getD []).length
        if readLen key ≠ store.indexKeyLength then do close segmentFd; pure none
        else pure (some (segmentFd, kvSize, key.getD []))

/-- `Read` from the subtraction on. -/
def readValue (env : Environment) (store : LogSegmentStore) (checksum : Nat) (segmentFd : FD)
    (kvSize : Nat) (key : List UInt8) : Sys FileName (Option (List UInt8 × List UInt8)) := do
  let valueLen := sizeT (kvSize - store.indexKeyLength)
  let value ← Posix.read segmentFd valueLen
  touch kvSize (store.indexKeyLength + (value.getD []).length)
  if readLen value ≠ valueLen then do close segmentFd; pure none
  else
    let keyValue := (key ++ value.getD []).take kvSize
    if (env.crc32 keyValue).toNat ≠ checksum then do close segmentFd; pure none
    else do
      close segmentFd
      pure (some (keyValue.take store.indexKeyLength, keyValue.drop store.indexKeyLength))

/-- The two parts make up `Read`. -/
theorem read_eq (env : Environment) (store : LogSegmentStore) (segmentIndex : SegmentIndex) :
    read env store segmentIndex = readKey env store segmentIndex >>= fun found =>
      match found with
      | none => pure none
      | some (segmentFd, kvSize, key) =>
        readValue env store (parseSegmentIndex segmentIndex).2.2 segmentFd kvSize key := by
  simp only [read, readKey, readValue, Sys.bind_assoc, Sys.ite_bind]
  rfl

/-- The bytes of a segment from an offset on. A segment that is not there has none, and a descriptor
that cannot be moved before the start stands there. -/
def bytesAt (files : Files FileName) (segmentId : SegmentId) (offset : Int) : List UInt8 :=
  ((files.view (.segment segmentId)).getD []).drop offset.toNat

/-- The length that a function reads off the front of some bytes. -/
def storedLength (bytes : List UInt8) : Option Nat :=
  if bytes.length < 8 then none else some (ofLittleEndian (bytes.take 8))

/-- `Read` by an index is safe. -/
structure ReadSafe (env : Environment) (store : LogSegmentStore) (files : Files FileName)
    (segmentIndex : SegmentIndex) : Prop where
  /-- The length of a key is subtracted from no smaller length. -/
  subtracts : ∀ segmentFd kvSize key,
    (readKey env store segmentIndex { files }).1 = some (some (segmentFd, kvSize, key)) →
      store.indexKeyLength ≤ kvSize
  /-- No byte behind a buffer is used, and the process has the memory for each one. -/
  inside : (read env store segmentIndex { files }).2.overrun = false
  /-- A length below that of a key is a failure. -/
  short : ∀ kvSize, storedLength (bytesAt files (parseSegmentIndex segmentIndex).1
      (parseSegmentIndex segmentIndex).2.1) = some kvSize → kvSize < store.indexKeyLength →
    (read env store segmentIndex { files }).1 = some none

/-- `ReplayLog` from an offset is safe. -/
structure ReplaySafe (env : Environment) (store : LogSegmentStore) (files : Files FileName)
    (segmentId : SegmentId) (offset : Int) : Prop where
  /-- No byte behind a buffer is used, and the process has the memory for each one. -/
  inside : (replayLog env store segmentId offset { files }).2.overrun = false
  /-- A length below that of a key is a failure or the end of the segment. -/
  short : ∀ kvSize, storedLength (bytesAt files segmentId offset) = some kvSize →
    kvSize < store.indexKeyLength →
      ∃ result ≤ 0, (replayLog env store segmentId offset { files }).1 = some (result, none)

/-- A length is that of a buffer that can be made, and where it is below that of a key no more bytes
stand behind it than it says. A `read` of a key so long that it fails gets no bytes, but for the
length that equals its result. -/
def EndsInside (memory keyLength : Nat) (bytes : List UInt8) : Prop :=
  ∀ kvSize, storedLength bytes = some kvSize → kvSize ≤ memory ∧ (kvSize < keyLength →
    keyLength ≠ 2 ^ 64 - 1 ∧ (keyLength < 2 ^ 63 → (bytes.drop 8).length ≤ kvSize))

/-- A length is zero, or that of a buffer that can be made and either not below that of a key or
more than the bytes behind it. -/
def EndsShort (memory keyLength : Nat) (bytes : List UInt8) : Prop :=
  ∀ kvSize, storedLength bytes = some kvSize → kvSize = 0 ∨
    kvSize ≤ memory ∧ (kvSize < keyLength → (bytes.drop 8).length < kvSize)

/-- What `read` gets of the bytes that follow. -/
def fetched (count : Nat) (behind : List UInt8) : Option (List UInt8) :=
  if 2 ^ 63 ≤ count then none else some (behind.take count)

section Calls

variable {env : Environment} {store : LogSegmentStore} {files : Files FileName} {inode : Nat}

/-- The first bytes of a file behind a position. -/
theorem readLen_take (bytes : List UInt8) (count : Nat) :
    readLen (some (bytes.take count)) = min count bytes.length := by
  rw [readLen, Option.map_some, Option.getD_some, List.length_take]

theorem length_fetched (count : Nat) (behind : List UInt8) :
    ((fetched count behind).getD []).length =
      if 2 ^ 63 ≤ count then 0 else min count behind.length := by
  rw [fetched]
  split
  · rfl
  · rw [Option.getD_some, List.length_take]

/-- `read` reports the count when it has got so many bytes, or when −1 is the count. -/
theorem readLen_fetched_iff (count : Nat) (behind : List UInt8) :
    readLen (fetched count behind) = count ↔
      count < 2 ^ 63 ∧ count ≤ behind.length ∨ count = 2 ^ 64 - 1 := by
  rw [fetched]
  split
  · rw [readLen, Option.map_none, Option.getD_none]
    omega
  · rw [readLen_take]
    omega

/-- `read` of any number of bytes leaves the file open. -/
theorem fetch {fd : FD} {position : Nat} (behind : List UInt8)
    (opened : files.descriptors fd = some ⟨inode, position⟩)
    (rest : (files.contents inode).drop position = behind) (count : Nat) :
    Uses (Posix.read fd count) files false (fetched count behind) fun after =>
      after.toDisk = files.toDisk ∧ ∃ file, after.descriptors fd = some file := by
  rw [fetched]
  split
  next large => exact ⟨files, Marks.read_large large, rfl, _, opened⟩
  next small =>
    rw [← rest]
    exact ⟨_, Marks.read opened (Nat.not_le.mp small), rfl, _, Files.descriptor_self⟩

/-- A new descriptor stands at the offset it is moved to, and at the start where that fails. -/
theorem lseek_opened (files : Files FileName) (inode : Nat) {offset : Int} (least : -1 ≤ offset) :
    Uses (lseek files.nextDescriptor offset .start) (files.opened inode) false offset fun middle =>
      middle.descriptors files.nextDescriptor = some ⟨inode, offset.toNat⟩ ∧
        middle.contents = files.contents := by
  by_cases before : offset < 0
  · obtain rfl : offset = -1 := by omega
    exact ⟨_, Marks.lseek_before Files.opened_self before, Files.opened_self, rfl⟩
  · obtain ⟨number, rfl⟩ := Int.eq_ofNat_of_zero_le (Int.not_lt.mp before)
    exact ⟨_, Marks.lseek Files.opened_self number, Files.descriptor_self, rfl⟩

/-- `Read` finds no length. -/
theorem readKey_nothing {segmentIndex : SegmentIndex}
    (nothing : (parseSegmentIndex segmentIndex).2.1 < -1 ∨
      storedLength (bytesAt files (parseSegmentIndex segmentIndex).1
        (parseSegmentIndex segmentIndex).2.1) = none) :
    Uses (readKey env store segmentIndex) files false none fun _ => True := by
  rw [readKey]
  generalize parseSegmentIndex segmentIndex = parsed at nothing
  obtain ⟨segmentId, offset, checksum⟩ := parsed
  dsimp only at nothing ⊢
  cases there : files.names (.segment segmentId) with
  | none =>
    refine (Marks.openFile_missing there).step ?_
    rw [if_pos rfl]
    exact Uses.pure none trivial
  | some inode =>
    refine (Marks.openFile there false).step ?_
    rw [if_neg (natCast_ne_failed _)]
    by_cases before : offset < -1
    · refine (Marks.lseek_before Files.opened_self (by omega)).step ?_
      rw [if_pos (by omega)]
      exact Uses.closed _ none trivial
    · have short : ((files.contents inode).drop offset.toNat).length < 8 := by
        have unread := nothing.resolve_left before
        rw [storedLength, bytesAt, Disk.view_of_name there, Option.getD_some] at unread
        by_contra long
        rw [if_neg long] at unread
        cases unread
      refine (lseek_opened files inode (Int.not_lt.mp before)).step fun middle at_ => ?_
      rw [if_neg (not_not.mpr rfl)]
      refine (Marks.read at_.1 (show 8 < 2 ^ 63 by decide)).step ?_
      rw [at_.2, readLen_take, if_pos (by omega)]
      exact Uses.closed _ none trivial

/-- `Read` finds a length: it asks for the bytes of a key, however small the length is. -/
theorem readKey_length {segmentIndex : SegmentIndex} {kvSize : Nat} {behind : List UInt8}
    (least : -1 ≤ (parseSegmentIndex segmentIndex).2.1)
    (found : storedLength (bytesAt files (parseSegmentIndex segmentIndex).1
      (parseSegmentIndex segmentIndex).2.1) = some kvSize)
    (rest : (bytesAt files (parseSegmentIndex segmentIndex).1
      (parseSegmentIndex segmentIndex).2.1).drop 8 = behind) :
    Uses (readKey env store segmentIndex) files
      (decide (env.memory < kvSize) ||
        decide (kvSize < ((fetched store.indexKeyLength behind).getD []).length))
      (if readLen (fetched store.indexKeyLength behind) ≠ store.indexKeyLength then none
        else some (files.nextDescriptor, kvSize, (fetched store.indexKeyLength behind).getD []))
      fun middle => readLen (fetched store.indexKeyLength behind) = store.indexKeyLength →
        ∃ file, middle.descriptors files.nextDescriptor = some file := by
  rw [readKey]
  generalize parseSegmentIndex segmentIndex = parsed at least found rest
  obtain ⟨segmentId, offset, checksum⟩ := parsed
  dsimp only at least found rest ⊢
  rw [bytesAt] at found rest
  cases there : files.names (.segment segmentId) with
  | none =>
    rw [Disk.view_eq_none.mpr there] at found
    simp [storedLength] at found
  | some inode =>
    rw [Disk.view_of_name there, Option.getD_some] at found rest
    have long : ¬ ((files.contents inode).drop offset.toNat).length < 8 := by
      intro short
      rw [storedLength, if_pos short] at found
      cases found
    rw [storedLength, if_neg long, Option.some.injEq] at found
    have eight : (((files.contents inode).drop offset.toNat).take 8).length = 8 := by
      rw [List.length_take]
      omega
    refine (Marks.openFile there false).step ?_
    rw [if_neg (natCast_ne_failed _)]
    refine (lseek_opened files inode least).step fun middle at_ => ?_
    rw [if_neg (not_not.mpr rfl)]
    refine (Marks.read at_.1 (show 8 < 2 ^ 63 by decide)).step ?_
    rw [at_.2, readLen_take, if_neg (by omega), Option.getD_some, found, eight]
    refine (Marks.touch _ _ _).andThen ?_
    have bytes : ((middle.withDescriptor files.nextDescriptor
        (some ⟨inode, offset.toNat + 8⟩)).contents inode).drop (offset.toNat + 8) = behind := by
      rw [Files.withDescriptor_toDisk, at_.2, ← List.drop_drop, rest]
    refine (fetch behind Files.descriptor_self bytes _).step ?_
    rintro after ⟨-, file, opened⟩
    rw [← Bool.or_false (decide (kvSize < _))]
    refine (Marks.touch _ _ _).andThen ?_
    by_cases short : readLen (fetched store.indexKeyLength behind) ≠ store.indexKeyLength
    · rw [if_pos short, if_pos short]
      exact Uses.closed _ none fun enough => absurd enough short
    · rw [if_neg short, if_neg short]
      exact Uses.pure _ fun _ => ⟨file, opened⟩

/-- `Read` from the subtraction on: it stays inside where it subtracts from no smaller length. -/
theorem readValue_uses {checksum kvSize : Nat} {key : List UInt8} {fd : FD} {file : OpenFile}
    (opened : files.descriptors fd = some file) (fits : kvSize < 2 ^ 64) :
    ∃ overrun value, Uses (readValue env store checksum fd kvSize key) files overrun value
        (fun _ => True) ∧
      (store.indexKeyLength ≤ kvSize → overrun = false) := by
  rw [readValue]
  generalize count : sizeT ((kvSize : Int) - store.indexKeyLength) = valueLen
  have read := fetch _ opened rfl valueLen
  have length := length_fetched valueLen ((files.contents file.inode).drop file.position)
  generalize fetched valueLen ((files.contents file.inode).drop file.position) = value at read length
  have inside : store.indexKeyLength ≤ kvSize →
      (decide (kvSize < store.indexKeyLength + (value.getD []).length) || false) = false := by
    intro enough
    have cast : (kvSize : Int) - store.indexKeyLength =
        ((kvSize - store.indexKeyLength : Nat) : Int) := by omega
    have same : valueLen = kvSize - store.indexKeyLength := by
      rw [← count, cast, sizeT_of_lt (by omega)]
    rw [Bool.or_false, decide_eq_false_iff_not, length]
    split
    · omega
    · omega
  by_cases short : readLen value ≠ valueLen
  · refine ⟨_, none, read.step fun after _ => (Marks.touch _ _ after).andThen ?_, inside⟩
    rw [if_pos short]
    exact Uses.closed _ none trivial
  · by_cases differs : (env.crc32 ((key ++ value.getD []).take kvSize)).toNat ≠ checksum
    · refine ⟨_, none, read.step fun after _ => (Marks.touch _ _ after).andThen ?_, inside⟩
      rw [if_neg short]
      dsimp only
      rw [if_pos differs]
      exact Uses.closed _ none trivial
    · refine ⟨_, some (((key ++ value.getD []).take kvSize).take store.indexKeyLength,
        ((key ++ value.getD []).take kvSize).drop store.indexKeyLength),
        read.step fun after _ => (Marks.touch _ _ after).andThen ?_, inside⟩
      rw [if_neg short]
      dsimp only
      rw [if_neg differs]
      exact Uses.closed _ _ trivial

end Calls

/-- A stored length is a `size_t`. -/
theorem storedLength_lt {bytes : List UInt8} {kvSize : Nat}
    (found : storedLength bytes = some kvSize) : kvSize < 2 ^ 64 := by
  rw [storedLength] at found
  split at found
  · cases found
  · have bound := ofLittleEndian_lt (bytes.take 8)
    have length : (bytes.take 8).length ≤ 8 := by
      rw [List.length_take]
      exact Nat.min_le_left _ _
    have power : 256 ^ (bytes.take 8).length ≤ 256 ^ 8 :=
      Nat.pow_le_pow_right (by decide) length
    rw [← Option.some.inj found]
    omega

/-- A length is read off eight bytes. -/
theorem length_of_storedLength {bytes : List UInt8} {kvSize : Nat}
    (found : storedLength bytes = some kvSize) : 8 ≤ bytes.length := by
  by_contra short
  rw [storedLength, if_pos (by omega)] at found
  cases found

/-- Where `Read` does not come to the subtraction, it fails. -/
theorem read_keyless {env : Environment} {store : LogSegmentStore} {files : Files FileName}
    {segmentIndex : SegmentIndex} {overrun : Bool} {mid : Files FileName → Prop}
    (keyless : Uses (readKey env store segmentIndex) files overrun none mid) :
    Uses (read env store segmentIndex) files overrun none fun _ => True := by
  have fails : Uses (read env store segmentIndex) files (overrun || false) none fun _ => True := by
    rw [read_eq]
    exact keyless.bind fun _ _ => Uses.pure none trivial
  rwa [Bool.or_false] at fails

/-- `Read` that does not come to the subtraction is safe exactly when it does not overrun. -/
theorem readSafe_keyless_iff {env : Environment} {store : LogSegmentStore}
    {files : Files FileName} {segmentIndex : SegmentIndex} {overrun : Bool}
    {mid : Files FileName → Prop}
    (keyless : Uses (readKey env store segmentIndex) files overrun none mid) :
    ReadSafe env store files segmentIndex ↔ overrun = false := by
  have fails : Uses (read env store segmentIndex) files overrun none fun _ => True :=
    read_keyless keyless
  constructor
  · intro safe
    rw [← fails.run.2]
    exact safe.inside
  · intro inside
    refine ⟨fun segmentFd kvSize key found => ?_, ?_, fun _ _ _ => fails.run.1⟩
    · rw [keyless.run.1] at found
      cases found
    · rw [fails.run.2]
      exact inside

/-- `Read` by an index is safe exactly when there is memory for every record there, and the file ends
inside those whose length is below that of a key. -/
theorem readSafe_iff (env : Environment) (store : LogSegmentStore) (files : Files FileName)
    (segmentIndex : SegmentIndex) :
    ReadSafe env store files segmentIndex ↔
      (-1 ≤ (parseSegmentIndex segmentIndex).2.1 → EndsInside env.memory store.indexKeyLength
        (bytesAt files (parseSegmentIndex segmentIndex).1 (parseSegmentIndex segmentIndex).2.1)) := by
  by_cases nothing : (parseSegmentIndex segmentIndex).2.1 < -1 ∨
      storedLength (bytesAt files (parseSegmentIndex segmentIndex).1
        (parseSegmentIndex segmentIndex).2.1) = none
  · have keyless : Uses (readKey env store segmentIndex) files false none fun _ => True :=
      readKey_nothing nothing
    refine iff_of_true ((readSafe_keyless_iff keyless).mpr rfl) fun least kvSize found => ?_
    have none := nothing.resolve_left (Int.not_lt.mpr least)
    rw [none] at found
    cases found
  · obtain ⟨least, there⟩ := not_or.mp nothing
    have least := Int.not_lt.mp least
    obtain ⟨kvSize, found⟩ := Option.ne_none_iff_exists'.mp there
    generalize rest : (bytesAt files (parseSegmentIndex segmentIndex).1
      (parseSegmentIndex segmentIndex).2.1).drop 8 = behind
    have ends : (-1 ≤ (parseSegmentIndex segmentIndex).2.1 →
        EndsInside env.memory store.indexKeyLength (bytesAt files (parseSegmentIndex segmentIndex).1
          (parseSegmentIndex segmentIndex).2.1)) ↔
        kvSize ≤ env.memory ∧ (kvSize < store.indexKeyLength →
          store.indexKeyLength ≠ 2 ^ 64 - 1 ∧
            (store.indexKeyLength < 2 ^ 63 → behind.length ≤ kvSize)) := by
      rw [EndsInside, rest, found]
      simp [least]
    have key : Uses (readKey env store segmentIndex) files _ _ _ := readKey_length least found rest
    have got := length_fetched store.indexKeyLength behind
    have reports := readLen_fetched_iff store.indexKeyLength behind
    have fits := storedLength_lt found
    have addressed := env.addressed
    rw [ends]
    by_cases short : readLen (fetched store.indexKeyLength behind) ≠ store.indexKeyLength
    · rw [if_pos short] at key
      rw [readSafe_keyless_iff key, Bool.or_eq_false_iff, decide_eq_false_iff_not,
        decide_eq_false_iff_not, got]
      rw [ne_eq, reports] at short
      split
      · omega
      · omega
    · rw [if_neg short] at key
      have whole := not_not.mp short
      rw [reports] at whole
      by_cases small : kvSize < store.indexKeyLength
      · refine iff_of_false (fun safe => ?_) (by omega)
        have enough := safe.subtracts _ _ _ key.run.1
        omega
      · have comes := key.run.1
        obtain ⟨middle, marks, opened⟩ := key
        obtain ⟨file, opened⟩ := opened (not_not.mp short)
        have enough := Nat.not_lt.mp small
        obtain ⟨overrun, value, uses, inside⟩ : ∃ overrun value, Uses (readValue env store
            (parseSegmentIndex segmentIndex).2.2 files.nextDescriptor kvSize
              ((fetched store.indexKeyLength behind).getD [])) middle overrun value
                (fun _ => True) ∧
            (store.indexKeyLength ≤ kvSize → overrun = false) :=
          readValue_uses opened fits
        have kept : decide (kvSize < ((fetched store.indexKeyLength behind).getD []).length) =
            false := by
          rw [decide_eq_false_iff_not, got]
          split
          · omega
          · omega
        rw [kept, Bool.or_false] at marks
        have reads : Uses (read env store segmentIndex) files
            (decide (env.memory < kvSize) || overrun) value fun _ => True := by
          rw [read_eq]
          exact marks.andThen uses
        have overruns := reads.run.2
        rw [inside enough, Bool.or_false] at overruns
        constructor
        · intro safe
          have within := safe.inside
          rw [overruns, decide_eq_false_iff_not] at within
          exact ⟨Nat.not_lt.mp within, fun below => absurd below small⟩
        · rintro ⟨room, -⟩
          refine ⟨fun fd size bytes same => ?_, ?_, fun size same below => ?_⟩
          · rw [comes] at same
            obtain ⟨-, rfl, -⟩ : _ ∧ kvSize = size ∧ _ := by simpa using same
            exact enough
          · rw [overruns, decide_eq_false_iff_not]
            exact Nat.not_lt.mpr room
          · obtain rfl := Option.some.inj (found.symm.trans same)
            omega

/-- `ReplayLog` of no segment, or before its start. -/
theorem replayLog_refuses {env : Environment} {store : LogSegmentStore} {files : Files FileName}
    {segmentId : SegmentId} {offset : Int}
    (refuses : files.names (.segment segmentId) = none ∨ offset < 0) :
    Uses (replayLog env store segmentId offset) files false (-1, none) fun after =>
      after.toDisk = files.toDisk := by
  refine Marks.access.step ?_
  cases there : files.names (.segment segmentId) with
  | none =>
    rw [if_pos (by simp)]
    exact Uses.pure _ rfl
  | some inode =>
    have before : offset < 0 := by simpa [there] using refuses
    rw [if_neg (by simp)]
    refine (Marks.openFile there true).step ?_
    rw [if_neg (natCast_not_neg _)]
    refine (Marks.lseek_before Files.opened_self before).step ?_
    rw [if_pos rfl]
    exact Uses.closed _ _ rfl

/-- `ReplayLog` where no length is read. -/
theorem replayLog_lengthless {env : Environment} {store : LogSegmentStore} {files : Files FileName}
    {segmentId : SegmentId} {inode offset : Nat}
    (there : files.names (.segment segmentId) = some inode)
    (none : storedLength ((files.contents inode).drop offset) = none) :
    Uses (replayLog env store segmentId offset) files false (0, Option.none) fun after =>
      after.toDisk = files.toDisk := by
  have short : ((files.contents inode).drop offset).length < 8 := by
    rw [storedLength] at none
    by_contra long
    rw [if_neg long] at none
    cases none
  refine Marks.access.step ?_
  rw [there, if_neg (by simp)]
  refine (Marks.openFile there true).step ?_
  rw [if_neg (natCast_not_neg _)]
  refine (Marks.lseek Files.opened_self offset).step ?_
  rw [if_neg (by omega)]
  refine (Marks.read Files.descriptor_self (show 8 < 2 ^ 63 by decide)).step ?_
  rw [Files.withDescriptor_toDisk, Files.opened_toDisk, readLen_take, if_pos (by omega)]
  exact Uses.closed _ _ rfl

/-- `ReplayLog` where a length is read: it takes the bytes of a key out of every whole record. -/
theorem replayLog_length {env : Environment} {store : LogSegmentStore} {files : Files FileName}
    {segmentId : SegmentId} {inode offset kvSize : Nat} {behind buffer : List UInt8}
    (there : files.names (.segment segmentId) = some inode)
    (found : storedLength ((files.contents inode).drop offset) = some kvSize)
    (rest : ((files.contents inode).drop offset).drop 8 = behind)
    (filled : env.copied ((fetched kvSize behind).getD []) kvSize = buffer) :
    Uses (replayLog env store segmentId offset) files
      (decide (kvSize ≠ 0 ∧ (env.memory < kvSize ∨
        readLen (fetched kvSize behind) = kvSize ∧ kvSize < store.indexKeyLength)))
      (if kvSize = 0 ∨ readLen (fetched kvSize behind) ≠ kvSize then (0, none)
        else (Int.bmod (sizeT ((offset : Int) + 8 + kvSize)) (2 ^ 32),
          some (env.copied buffer store.indexKeyLength,
            toSegmentIndex segmentId offset (env.crc32 buffer).toNat)))
      fun after => after.toDisk = files.toDisk := by
  have long : ¬ ((files.contents inode).drop offset).length < 8 := by
    intro short
    rw [storedLength, if_pos short] at found
    cases found
  rw [storedLength, if_neg long, Option.some.injEq] at found
  have eight : (((files.contents inode).drop offset).take 8).length = 8 := by
    rw [List.length_take]
    omega
  refine Marks.access.step ?_
  rw [there, if_neg (by simp)]
  refine (Marks.openFile there true).step ?_
  rw [if_neg (natCast_not_neg _)]
  refine (Marks.lseek Files.opened_self offset).step ?_
  rw [if_neg (by omega)]
  refine (Marks.read Files.descriptor_self (show 8 < 2 ^ 63 by decide)).step ?_
  rw [Files.withDescriptor_toDisk, Files.opened_toDisk, readLen_take, if_neg (by omega),
    Option.getD_some, found, eight]
  by_cases zero : kvSize = 0
  · rw [if_pos zero, if_pos (.inl zero), decide_eq_false fun filled => filled.1 zero]
    exact Uses.closed _ _ rfl
  · have overrun (reads : Prop) [Decidable reads] :
        decide (kvSize ≠ 0 ∧ (env.memory < kvSize ∨ reads)) =
          (decide (env.memory < kvSize) || decide reads) := by
      rw [← Bool.decide_or, decide_eq_decide]
      exact and_iff_right zero
    rw [if_neg zero, overrun]
    refine (Marks.touch _ _ _).andThen ?_
    refine (fetch behind Files.descriptor_self ?_ kvSize).step ?_
    · rw [← List.drop_drop]
      exact rest
    rintro after ⟨same, -⟩
    by_cases short : readLen (fetched kvSize behind) ≠ kvSize
    · rw [if_pos short, if_pos (.inr short), decide_eq_false fun whole => short whole.1]
      exact Uses.closed _ _ same
    · have last : decide (readLen (fetched kvSize behind) = kvSize ∧
          kvSize < store.indexKeyLength) = (decide (kvSize < store.indexKeyLength) || false) := by
        rw [Bool.or_false, decide_eq_decide]
        exact and_iff_right (not_not.mp short)
      rw [if_neg short, if_neg (not_or.mpr ⟨zero, short⟩), last, filled]
      refine (Marks.touch _ _ _).andThen ?_
      exact Uses.closed _ _ same

/-- `ReplayLog` from an offset is safe exactly when there is memory for every record there, and the
file ends before those whose length is below that of a key are whole. -/
theorem replaySafe_iff (env : Environment) (store : LogSegmentStore) (files : Files FileName)
    (segmentId : SegmentId) (offset : Int) :
    ReplaySafe env store files segmentId offset ↔
      (0 ≤ offset →
        EndsShort env.memory store.indexKeyLength (bytesAt files segmentId offset)) := by
  by_cases refuses : files.names (.segment segmentId) = none ∨ offset < 0
  · have refused : Uses (replayLog env store segmentId offset) files _ _ _ :=
      replayLog_refuses refuses
    refine iff_of_true ⟨refused.run.2, fun _ _ _ => ⟨-1, by omega, refused.run.1⟩⟩ ?_
    intro inside kvSize found
    have missing := refuses.resolve_right (Int.not_lt.mpr inside)
    rw [bytesAt, Disk.view_eq_none.mpr missing] at found
    simp [storedLength] at found
  · obtain ⟨there, inside⟩ := not_or.mp refuses
    obtain ⟨inode, there⟩ := Option.ne_none_iff_exists'.mp there
    obtain ⟨number, rfl⟩ := Int.eq_ofNat_of_zero_le (Int.not_lt.mp inside)
    have bytes : bytesAt files segmentId number = (files.contents inode).drop number := by
      rw [bytesAt, Disk.view_of_name there, Option.getD_some, Int.toNat_natCast]
    cases found : storedLength ((files.contents inode).drop number) with
    | none =>
      have ended : Uses (replayLog env store segmentId number) files _ _ _ :=
        replayLog_lengthless there found
      refine iff_of_true ⟨ended.run.2, fun _ _ _ => ⟨0, by omega, ended.run.1⟩⟩ ?_
      intro _ kvSize same
      rw [bytes, found] at same
      cases same
    | some kvSize =>
      generalize rest : ((files.contents inode).drop number).drop 8 = behind
      have replayed : Uses (replayLog env store segmentId number) files _ _ _ :=
        replayLog_length there found rest rfl
      have reports := readLen_fetched_iff kvSize behind
      have addressed := env.addressed
      have ends : (0 ≤ (number : Int) →
          EndsShort env.memory store.indexKeyLength (bytesAt files segmentId number)) ↔
            (kvSize = 0 ∨ kvSize ≤ env.memory ∧
              (kvSize < store.indexKeyLength → behind.length < kvSize)) := by
        rw [EndsShort, bytes, found, ← rest]
        simp
      rw [ends]
      constructor
      · intro safe
        have inside := safe.inside
        rw [replayed.run.2, decide_eq_false_iff_not, reports] at inside
        omega
      · intro short
        refine ⟨?_, fun size same below => ⟨0, by omega, ?_⟩⟩
        · rw [replayed.run.2, decide_eq_false_iff_not, reports]
          omega
        · rw [bytes] at same
          obtain rfl := Option.some.inj (found.symm.trans same)
          rw [replayed.run.1, if_pos ?_]
          rw [ne_eq, reports]
          omega

/-- **Reading is safe exactly where there is memory for a record of the stored length, and a length
below that of a key ends the file.** -/
theorem boundsSafe_iff (env : Environment) (store : LogSegmentStore) (files : Files FileName) :
    (∀ segmentIndex, ReadSafe env store files segmentIndex ↔
      (-1 ≤ (parseSegmentIndex segmentIndex).2.1 → EndsInside env.memory store.indexKeyLength
        (bytesAt files (parseSegmentIndex segmentIndex).1
          (parseSegmentIndex segmentIndex).2.1))) ∧
    ∀ segmentId offset, ReplaySafe env store files segmentId offset ↔
      (0 ≤ offset →
        EndsShort env.memory store.indexKeyLength (bytesAt files segmentId offset)) :=
  ⟨readSafe_iff env store files, replaySafe_iff env store files⟩

/-- A segment of sixty-four zeros, as one is filled when it is created. -/
def padded : Files FileName :=
  Disk.boot ⟨.directory, fun name => if name = .segment 0 then some 0 else none,
    fun _ => List.replicate 64 0, 1⟩

/-- Padding at a stale offset reads as the length zero, behind which a key of two bytes is asked
for. -/
theorem boundsSafe_not_padded : ¬ ∀ env store files,
    (∀ segmentIndex, ReadSafe env store files segmentIndex) ∧
      ∀ segmentId offset, ReplaySafe env store files segmentId offset := by
  intro safe
  obtain ⟨reads, -⟩ := safe ⟨Bytes.crc32, fun _ _ => 0, 2 ^ 31, by decide⟩ { indexKeyLength := 2 }
    padded
  have ends := (readSafe_iff _ _ _ _).mp (reads (toSegmentIndex 0 ((0 : Nat) : Int) 0))
  rw [parseSegmentIndex_toSegmentIndex 0 (by decide) (by decide)] at ends
  obtain ⟨-, inside⟩ := ends (by decide) 0 (by decide)
  exact absurd ((inside (by decide)).2 (by decide)) (by decide)

end LogSegmentStore
end Paxosme
