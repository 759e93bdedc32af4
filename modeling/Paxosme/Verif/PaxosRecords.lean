import Paxosme.Verif.Alignment

/-!
# Paxos records in the log storage

`PaxStore` keeps the record of an instance under the decimal digits of its id, of which there are
one to twenty, and the segments hold so many bytes of a key as the options say. A record is found
again exactly when these are all of its digits and no more.
-/

namespace Paxosme

open Posix Bytes Framing KeyedLog DataBaseLogStorage

variable {δ : Type}

/-- Two instances whose keys have the same bytes are one instance. -/
theorem logKey_injective : Function.Injective logKey := by
  intro first second same
  have back : ∀ instanceId : InstanceId,
      (logKey instanceId).map (fun byte => Char.ofNat byte.toNat) =
        (PaxStore.key instanceId).toList := by
    intro instanceId
    rw [logKey, List.map_map]
    refine (List.map_congr_left fun digit member => ?_).trans (List.map_id _)
    rw [PaxStore.key, Nat.toList_repr] at member
    have decimal : digit.isDigit = true :=
      Nat.isDigit_of_mem_toDigits (by decide) (by decide) member
    have small : digit.toNat ≤ 57 := by
      simp only [Char.isDigit, Bool.and_eq_true, decide_eq_true_eq] at decimal
      exact decimal.2
    have byte : digit.toUInt8.toNat = digit.toNat := by
      change digit.toNat % 256 = digit.toNat
      omega
    rw [Function.comp_apply, byte, Char.ofNat_toNat]
    rfl
  have keys := congrArg (List.map fun byte : UInt8 => Char.ofNat byte.toNat) same
  rw [back, back] at keys
  exact PaxStore.key_injective (String.toList_inj.mp keys)

namespace LogSession

variable (level : LevelDb δ) (env : Environment) (format : EntryFormat)

/-- `WriteLog`, with whether it returns one. -/
def writeLog (session : LogSession δ) (entry : PaxosLogEntry) : Option (Bool × LogSession δ) :=
  match (session.storage.writeLog level env format entry).run session.files with
  | (some (written, storage), files) => some (written, { session with storage, files })
  | (none, _) => none

/-- `WriteLog` of some records, one after the other. -/
def writeLogs (session : LogSession δ) (entries : List PaxosLogEntry) : Option (LogSession δ) :=
  entries.foldlM (fun session entry => (session.writeLog level env format entry).map Prod.snd)
    session

/-- A storage on a disk without one after some records have been written. -/
def written (options : LogStorageOptions) (fuel calls : Nat) (disk : Disk FileName)
    (entries : List PaxosLogEntry) : Option (LogSession δ) :=
  (after level env options fuel calls disk []).bind fun session =>
    session.writeLogs level env format entries

/-- `ReadLog` of the instance of a record returns one and the record. -/
def Holds (session : LogSession δ) (entry : PaxosLogEntry) : Prop :=
  Completes (session.storage.readLog level env format entry.instanceId) session.files (some entry)
    session.files.Unchanged

variable {level env format} {options : LogStorageOptions} {session : LogSession δ}
  {layout : Layout} {leads : List UInt8 → Option Placed} {entry : PaxosLogEntry}

namespace Indexed

/-- `WriteLog` has the key of the instance lead to the record, or changes nothing. -/
theorem writeLog (sized : options.Sized)
    (indexed : session.Indexed level env options layout leads) (entry : PaxosLogEntry) :
    ∃ (session' : LogSession δ) (layout' : Layout) (spot : Option Placed),
      session.writeLog level env format entry = some (spot.isSome, session') ∧
      (∀ placed ∈ spot, placed.entry =
        recordOf env options (logKey entry.instanceId) (format.serializeAsString entry)) ∧
      session'.Indexed level env options layout' (Function.update leads (logKey entry.instanceId)
        (spot.or (leads (logKey entry.instanceId)))) := by
  obtain ⟨storage, layout', spot, puts, -, record⟩ :=
    indexed.put_completes sized (logKey entry.instanceId) (format.serializeAsString entry)
  have writes : Completes (session.storage.writeLog level env format entry) session.files
      (spot.isSome, storage) _ := puts
  obtain ⟨files, run, indexed'⟩ := writes.run
  exact ⟨_, layout', spot, by rw [LogSession.writeLog, run], record, indexed' _⟩

/-- Records of other instances leave the key of an instance as it is. -/
theorem writeLogs (sized : options.Sized)
    (indexed : session.Indexed level env options layout leads) (entries : List PaxosLogEntry) :
    ∃ session' layout' leads', session.writeLogs level env format entries = some session' ∧
      session'.Indexed level env options layout' leads' ∧
      ∀ instanceId, (∀ other ∈ entries, other.instanceId ≠ instanceId) →
        leads' (logKey instanceId) = leads (logKey instanceId) := by
  induction entries generalizing session layout leads with
  | nil => exact ⟨session, layout, leads, rfl, indexed, fun _ _ => rfl⟩
  | cons entry entries ih =>
    obtain ⟨middle, layout', spot, wrote, -, indexed'⟩ := indexed.writeLog sized entry
    obtain ⟨last, layout'', leads'', ran, indexed'', same⟩ := ih indexed'
    refine ⟨last, layout'', leads'', ?_, indexed'', fun instanceId others => ?_⟩
    · rw [LogSession.writeLogs, List.foldlM_cons, wrote]
      exact ran
    · rw [List.forall_mem_cons] at others
      rw [same instanceId others.2]
      exact Function.update_of_ne (fun equal => others.1 (logKey_injective equal).symm) _ _

/-- The record that the key of an instance leads to is read when it holds the key as a whole. -/
theorem holds_iff (sized : options.Sized)
    (indexed : session.Indexed level env options layout leads) {placed : Placed}
    (leadsTo : leads (logKey entry.instanceId) = some placed)
    (record : placed.entry =
      recordOf env options (logKey entry.instanceId) (format.serializeAsString entry)) :
    session.Holds level env format entry ↔
      (logKey entry.instanceId).length = options.indexKeyLength := by
  have gets := indexed.findable.get_value sized (logKey entry.instanceId)
  have whole : placed.entry.key = logKey entry.instanceId ↔
      (logKey entry.instanceId).length = options.indexKeyLength := by
    rw [record, recordOf]
    constructor
    · intro same
      rw [← same, Environment.length_copied]
    · exact env.copied_key
  rw [leadsTo, Option.bind_some, if_congr whole rfl rfl] at gets
  have reads : Completes (session.storage.readLog level env format entry.instanceId) session.files
      (if (logKey entry.instanceId).length = options.indexKeyLength then some entry else none)
      session.files.Unchanged := by
    refine gets.bind fun after same => ?_
    by_cases length : (logKey entry.instanceId).length = options.indexKeyLength
    · rw [if_pos length, if_pos length, record, recordOf]
      dsimp only
      rw [format.parse_serialize]
      exact Completes.pure _ same
    · rw [if_neg length, if_neg length]
      exact Completes.pure _ same
  constructor
  · intro holds
    by_contra other
    rw [if_neg other] at reads
    obtain ⟨files, run, -⟩ := Completes.run holds
    obtain ⟨files', run', -⟩ := reads.run
    rw [run] at run'
    cases run'
  · intro length
    rw [if_pos length] at reads
    exact reads

end Indexed

end LogSession

/-- A record that `WriteLog` has written is read again, also after records of other instances,
exactly when its instance id has so many digits as keys have bytes. -/
theorem written_record_read_iff (level : LevelDb δ) (format : EntryFormat) {env : Environment}
    {options : LogStorageOptions} (sized : options.Sized) {disk : Disk FileName}
    (fresh : Fresh disk) (fuel calls : Nat)
    (earlier : List PaxosLogEntry) :
    ∃ session, LogSession.written level env format options fuel calls disk earlier =
        some session ∧
      ∀ entry session', session.writeLog level env format entry = some (true, session') →
        ∀ later : List PaxosLogEntry, (∀ other ∈ later, other.instanceId ≠ entry.instanceId) →
          ∃ last, session'.writeLogs level env format later = some last ∧
            (last.Holds level env format entry ↔
              (logKey entry.instanceId).length = options.indexKeyLength) := by
  obtain ⟨start, layout, records, ran, kept, -⟩ :=
    fresh.kept level sized calls []
  obtain ⟨session, _, leads, wrote, indexed, -⟩ := kept.indexed.writeLogs sized earlier
  refine ⟨session, ?_, fun entry session' put later others => ?_⟩
  · rw [LogSession.written, ran]
    exact wrote
  · obtain ⟨_, _, spot, put', record, indexed'⟩ := indexed.writeLog sized entry
    rw [put] at put'
    obtain ⟨appended, rfl⟩ := Prod.mk.inj (Option.some.inj put')
    obtain ⟨placed, rfl⟩ := Option.isSome_iff_exists.mp appended.symm
    obtain ⟨last, _, _, wrote', indexed'', same⟩ := indexed'.writeLogs sized later
    refine ⟨last, wrote', indexed''.holds_iff sized ?_ (record placed rfl)⟩
    rw [same entry.instanceId others, Function.update_self]
    rfl

/-- Segments of 64 bytes for keys of one. -/
def oneDigit : LogStorageOptions := ⟨"db", 64, 1, false⟩

theorem oneDigit_sized : oneDigit.Sized := ⟨by decide, by decide, by decide⟩

/-- The record of another instance is there already. -/
theorem written_record_read_iff_second :
    ∃ session, LogSession.written LevelDb.table zlib .proto3 oneDigit 65 5 Disk.empty
        [{ instanceId := 3 }] = some session ∧
      ∀ entry session', session.writeLog LevelDb.table zlib .proto3 entry =
          some (true, session') →
        ∀ later : List PaxosLogEntry, (∀ other ∈ later, other.instanceId ≠ entry.instanceId) →
          ∃ last, session'.writeLogs LevelDb.table zlib .proto3 later = some last ∧
            (last.Holds LevelDb.table zlib .proto3 entry ↔
              (logKey entry.instanceId).length = oneDigit.indexKeyLength) :=
  written_record_read_iff LevelDb.table .proto3 oneDigit_sized fresh_empty 65 5
    [{ instanceId := 3 }]

/-- The record of an instance with two digits is not read again. -/
theorem two_digits_lost :
    ∃ session session', LogSession.written LevelDb.table zlib .proto3 oneDigit 65 5 Disk.empty
        [] = some session ∧
      session.writeLog LevelDb.table zlib .proto3 { instanceId := 10 } =
        some (true, session') ∧
      ¬ session'.Holds LevelDb.table zlib .proto3 { instanceId := 10 } := by
  have reads : ((LogSession.written LevelDb.table zlib .proto3 oneDigit 65 5 Disk.empty []).bind
      fun session => (session.writeLog LevelDb.table zlib .proto3 { instanceId := 10 }).map
        fun wrote => (wrote.1, ((wrote.2.storage.readLog LevelDb.table zlib .proto3 10).run
          wrote.2.files).1)) = some (true, some none) := by
    decide +kernel
  obtain ⟨session, ran, wrote⟩ := Option.bind_eq_some_iff.mp reads
  obtain ⟨⟨_, session'⟩, wrote, same⟩ := Option.map_eq_some_iff.mp wrote
  obtain ⟨rfl, missing⟩ := Prod.mk.inj same
  refine ⟨session, session', ran, wrote, fun holds => ?_⟩
  obtain ⟨files, run, -⟩ := Completes.run holds
  rw [run] at missing
  cases missing

end Paxosme
