import Paxosme.Core.LogStorage
import Paxosme.Verif.BufferBounds

/-!
# Scans of any bytes come to an end

The loops of `ReplaySegment` and of `AlignIndexWithSegmentStore` count nothing: they go on from the
offset that `ReplayLog` returns. That is behind the length it has read, so fewer bytes of the segment
are left after each call; and where a segment ends, the next one has a higher number, up to the one
that no file can have.
-/

namespace Paxosme
namespace LogSegmentStore

open Posix Bytes

variable {env : Environment} {store : LogSegmentStore} {files : Files FileName}

/-- Each segment can be addressed by an `int`. -/
def Addressed (files : Files FileName) : Prop :=
  ∀ segmentId bytes, files.view (.segment segmentId) = some bytes → bytes.length < 2 ^ 31

/-- The segments are numbered below the largest number. -/
def Numbered (files : Files FileName) : Prop :=
  ∀ segmentId, files.view (.segment segmentId) ≠ none → segmentId.toInt < 2 ^ 31 - 1

/-- How many bytes of a segment are left from an offset on. -/
def bytesLeft (files : Files FileName) (segmentId : SegmentId) (offset : Int) : Nat :=
  (bytesAt files segmentId offset).length

/-- How much a scan of the segments from an offset on may still have to do. -/
def workLeft (files : Files FileName) (segmentId : SegmentId) (offset : Int) : Nat :=
  (2 ^ 31 - 1 - segmentId.toInt).toNat * 2 ^ 31 + bytesLeft files segmentId offset

theorem bytesLeft_congr {after : Files FileName} (same : after.toDisk = files.toDisk) :
    bytesLeft after = bytesLeft files := by
  funext segmentId offset
  rw [bytesLeft, bytesAt, same]
  rfl

theorem bytesLeft_of_name {segmentId : SegmentId} {inode : Nat}
    (there : files.names (.segment segmentId) = some inode) (offset : Int) :
    bytesLeft files segmentId offset = (files.contents inode).length - offset.toNat := by
  rw [bytesLeft, bytesAt, Disk.view_of_name there, Option.getD_some, List.length_drop]

theorem bytesLeft_lt (addressed : Addressed files) (segmentId : SegmentId) (offset : Int) :
    bytesLeft files segmentId offset < 2 ^ 31 := by
  rw [bytesLeft, bytesAt, List.length_drop]
  cases seen : files.view (.segment segmentId) with
  | none => simp
  | some bytes =>
    have size := addressed segmentId bytes seen
    rw [Option.getD_some]
    omega

/-- What a result of `ReplayLog` says about the bytes that are left. -/
structure Advances (files : Files FileName) (segmentId : SegmentId) (offset next : Int) : Prop where
  /-- Behind a record there are fewer. -/
  fewer : 0 < next → bytesLeft files segmentId next < bytesLeft files segmentId offset
  /-- Only a segment that is there ends. -/
  present : 0 ≤ next → files.view (.segment segmentId) ≠ none

/-- A call of `ReplayLog` changes no file and advances. -/
theorem replayLog_advances (env : Environment) (store : LogSegmentStore)
    (addressed : Addressed files) (segmentId : SegmentId) (offset : Int) :
    ∃ overrun next found, Uses (replayLog env store segmentId offset) files overrun (next, found)
        (fun after => after.toDisk = files.toDisk) ∧ Advances files segmentId offset next := by
  by_cases refuses : files.names (.segment segmentId) = none ∨ offset < 0
  · exact ⟨false, -1, none, replayLog_refuses refuses, by simp, by simp⟩
  · obtain ⟨there, inside⟩ := not_or.mp refuses
    obtain ⟨inode, there⟩ := Option.ne_none_iff_exists'.mp there
    obtain ⟨number, rfl⟩ := Int.eq_ofNat_of_zero_le (Int.not_lt.mp inside)
    have seen := Disk.view_of_name there
    have size := addressed segmentId _ seen
    have exists_ : files.view (.segment segmentId) ≠ none := by
      rw [seen]
      exact Option.some_ne_none _
    cases found : storedLength ((files.contents inode).drop number) with
    | none =>
      exact ⟨false, 0, none, replayLog_lengthless there found, by simp, fun _ => exists_⟩
    | some kvSize =>
      have replayed : Uses (replayLog env store segmentId number) files _ _ _ :=
        replayLog_length there found rfl rfl
      by_cases short : kvSize = 0 ∨
          readLen (fetched kvSize (((files.contents inode).drop number).drop 8)) ≠ kvSize
      · rw [if_pos short] at replayed
        exact ⟨_, 0, none, replayed, by simp, fun _ => exists_⟩
      · rw [if_neg short] at replayed
        refine ⟨_, _, _, replayed, fun _ => ?_, fun _ => exists_⟩
        obtain ⟨filled, whole⟩ := not_or.mp short
        rw [ne_eq, not_not, readLen_fetched_iff, List.length_drop, List.length_drop] at whole
        have long := length_of_storedLength found
        rw [List.length_drop] at long
        have sum := storedLength_lt found
        rw [bytesLeft_of_name there, bytesLeft_of_name there, Int.toNat_natCast]
        rcases whole with ⟨-, inside⟩ | failed
        · have cast : (number : Int) + 8 + kvSize = ((number + 8 + kvSize : Nat) : Int) := by omega
          rw [cast, sizeT_of_lt (by omega), Int.bmod_eq_of_le_mul_two (by omega) (by omega),
            Int.toNat_natCast]
          omega
        · -- −1 as a `size_t` brings the offset seven bytes on
          have wraps : sizeT ((number : Int) + 8 + kvSize) = number + 7 := by
            rw [sizeT]
            omega
          rw [wraps, Int.bmod_eq_of_le_mul_two (by omega) (by omega), Int.toNat_natCast]
          omega

/-- `ReplaySegment` comes to an end when it may make a call for each byte that is left. -/
theorem replaySegment_ends (addressed : Addressed files) {segmentId : SegmentId} {fuel : Nat}
    {offset : Int} (enough : bytesLeft files segmentId offset < fuel) :
    ∃ overrun value, Uses (replaySegment env store segmentId fuel offset) files overrun value
      fun _ => True := by
  induction fuel generalizing offset files with
  | zero => omega
  | succ fuel ih =>
    obtain ⟨early, next, found, ⟨middle, marks, same⟩, advances⟩ :=
      replayLog_advances env store addressed segmentId offset
    have addressed' : Addressed middle := by rwa [Addressed, same]
    rw [replaySegment]
    by_cases negative : next < 0
    · refine ⟨early || false, (false, next), marks.andThen ?_⟩
      dsimp only
      rw [if_pos negative]
      exact Uses.pure _ trivial
    · by_cases zero : next = 0
      · refine ⟨early || false, (true, offset), marks.andThen ?_⟩
        dsimp only
        rw [if_neg negative, if_pos zero]
        exact Uses.pure _ trivial
      · have fewer := advances.fewer (by omega)
        have enough' : bytesLeft middle segmentId next < fuel := by
          rw [bytesLeft_congr same]
          omega
        obtain ⟨late, value, rest⟩ := ih addressed' enough'
        refine ⟨early || late, value, marks.andThen ?_⟩
        dsimp only
        rw [if_neg negative, if_neg zero]
        exact rest

/-- The number of the next segment. -/
theorem toInt_succ {segmentId : SegmentId} (below : segmentId.toInt < 2 ^ 31 - 1) :
    (segmentId + 1).toInt = segmentId.toInt + 1 := by
  have least := Int32.le_toInt segmentId
  have one : (1 : Int32).toInt = 1 := by decide
  rw [Int32.toInt_add, one, Int.bmod_eq_of_le_mul_two (by omega) (by omega)]

end LogSegmentStore

namespace DataBaseLogStorage

open LogSegmentStore Posix

variable {δ : Type} {level : LevelDb δ} {env : Environment} {store : LogSegmentStore}
  {files : Files FileName}

/-- The loop of `AlignIndexWithSegmentStore` comes to an end when it may make a call for each
segment and each byte that is left. -/
theorem replayLoop_ends (addressed : Addressed files) (numbered : Numbered files) {calls : Nat}
    {db : δ} {segmentId : SegmentId} {offset : Int} (enough : workLeft files segmentId offset < calls) :
    ∃ overrun value, Uses (replayLoop level env store calls db segmentId offset) files overrun value
      fun _ => True := by
  induction calls generalizing db segmentId offset files with
  | zero => omega
  | succ calls ih =>
    obtain ⟨early, next, found, ⟨middle, marks, same⟩, advances⟩ :=
      replayLog_advances env store addressed segmentId offset
    have addressed' : Addressed middle := by rwa [Addressed, same]
    have numbered' : Numbered middle := by rwa [Numbered, same]
    rw [replayLoop]
    by_cases zero : next = 0
    · have enough' : workLeft middle (segmentId + 1) 0 < calls := by
        have below := numbered segmentId (advances.present zero.ge)
        have left := bytesLeft_lt addressed' (segmentId + 1) 0
        have room : (2 ^ 31 - 1 - segmentId.toInt).toNat =
            (2 ^ 31 - 1 - (segmentId + 1).toInt).toNat + 1 := by
          rw [toInt_succ below]
          omega
        rw [workLeft, room, Nat.add_mul, Nat.one_mul] at enough
        rw [workLeft]
        generalize (2 ^ 31 - 1 - (segmentId + 1).toInt).toNat * 2 ^ 31 = segments at enough ⊢
        omega
      obtain ⟨late, value, rest⟩ := ih addressed' numbered' enough'
      refine ⟨early || late, value, marks.andThen ?_⟩
      dsimp only
      rw [if_pos zero]
      exact rest
    · by_cases negative : next < 0
      · refine ⟨early || false, db, marks.andThen ?_⟩
        dsimp only
        rw [if_neg zero, if_pos negative]
        exact Uses.pure _ trivial
      · have fewer := advances.fewer (by omega)
        have enough' : workLeft middle segmentId next < calls := by
          rw [workLeft] at enough ⊢
          rw [bytesLeft_congr same]
          omega
        obtain ⟨late, value, rest⟩ := ih addressed' numbered' enough'
        refine ⟨early || late, value, marks.andThen ?_⟩
        dsimp only
        rw [if_neg zero, if_neg negative]
        exact rest

/-- **Scans of any bytes come to an end**, after no more calls of `ReplayLog` than there are segments
and bytes left. -/
theorem scans_end (level : LevelDb δ) (env : Environment) (store : LogSegmentStore)
    (files : Files FileName) (addressed : Addressed files) (numbered : Numbered files)
    (segmentId : SegmentId) (offset : Int) :
    (∀ fuel, bytesLeft files segmentId offset < fuel →
        ((replaySegment env store segmentId fuel offset).run files).1.isSome) ∧
      ∀ calls db, workLeft files segmentId offset < calls →
        ((replayLoop level env store calls db segmentId offset).run files).1.isSome := by
  constructor
  · intro fuel enough
    obtain ⟨overrun, value, ends⟩ : ∃ overrun value, Uses (replaySegment env store segmentId fuel
        offset) files overrun value fun _ => True := replaySegment_ends addressed enough
    rw [Sys.run, ends.run.1]
    rfl
  · intro calls db enough
    obtain ⟨overrun, value, ends⟩ : ∃ overrun value, Uses (replayLoop level env store calls db
        segmentId offset) files overrun value fun _ => True :=
      replayLoop_ends addressed numbered enough
    rw [Sys.run, ends.run.1]
    rfl

/-- Two segments: behind the first record of the first one stand eight bytes of text, which read as a
length. -/
def corrupt : Files FileName :=
  Disk.boot ⟨.directory,
    fun name => if name = .segment 0 then some 0 else if name = .segment 1 then some 1 else none,
    fun inode => if inode = 0 then Framing.frame 8 [1, 2] ++ List.replicate 8 0x41
      else Framing.frame 8 [3, 4] ++ List.replicate 6 0, 2⟩

/-- What is seen of the two segments. -/
theorem view_corrupt {segmentId : SegmentId} {bytes : List UInt8}
    (seen : corrupt.view (.segment segmentId) = some bytes) :
    (segmentId = 0 ∨ segmentId = 1) ∧ bytes.length < 2 ^ 31 := by
  by_cases zero : segmentId = 0
  · subst zero
    exact ⟨.inl rfl, by rw [← Option.some.inj seen]; decide⟩
  · by_cases one : segmentId = 1
    · subst one
      exact ⟨.inr rfl, by rw [← Option.some.inj seen]; decide⟩
    · simp [Disk.view, corrupt, Disk.boot, zero, one] at seen

/-- A scan from the first record on. -/
theorem scans_end_corrupt :
    ((replaySegment ⟨Bytes.crc32, fun _ _ => 0, 2 ^ 31, by decide⟩ {} 0 19 0).run
        corrupt).1.isSome ∧
      ((replayLoop LevelDb.table ⟨Bytes.crc32, fun _ _ => 0, 2 ^ 31, by decide⟩ {} (2 ^ 63)
        LevelDb.table.created 0 0).run corrupt).1.isSome := by
  have addressed : Addressed corrupt := fun _ _ seen => (view_corrupt seen).2
  have numbered : Numbered corrupt := by
    intro segmentId seen
    obtain ⟨bytes, seen⟩ := Option.ne_none_iff_exists'.mp seen
    rcases (view_corrupt seen).1 with rfl | rfl
    · decide
    · decide
  have left : bytesLeft corrupt 0 0 = 18 := by decide
  have ends := scans_end LevelDb.table ⟨Bytes.crc32, fun _ _ => 0, 2 ^ 31, by decide⟩ {} corrupt
    addressed numbered 0 0
  rw [workLeft, left] at ends
  exact ⟨ends.1 19 (by decide), ends.2 (2 ^ 63) _ (by decide)⟩

end DataBaseLogStorage
end Paxosme
