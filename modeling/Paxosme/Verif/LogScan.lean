import Paxosme.Verif.ReadBack

/-!
# Scanning the log

`ReplayLog` is called again and again: at the offset that it returned, at the start of the next
segment when it returned zero, until its result is negative. The scan finds the records that were
appended, in their order and with their indexes, and comes to an end behind them unless every
`SEGMENT_ID` has a file.
-/

namespace Paxosme

open Posix Bytes Framing

/-- The keys and the indexes that `ReplayLog` assigns, from an offset of a segment on. A scan that
has not come to an end after so many calls gives no result. -/
def scan (env : Environment) (store : LogSegmentStore) :
    Nat → SegmentId → Int → Sys FileName (List (List UInt8 × SegmentIndex))
  | 0, _, _ => Sys.stop
  | calls + 1, segmentId, offset => do
    let (next, found) ← store.replayLog env segmentId offset
    if next < 0 then pure []
    else if next = 0 then scan env store calls (segmentId + 1) 0
    else do
      let later ← scan env store calls segmentId next
      pure (found.toList ++ later)

/-- What a scan finds of a record. -/
def Placed.found (env : Environment) (placed : Placed) : List UInt8 × SegmentIndex :=
  (placed.entry.key, placed.index env)

variable {env : Environment} {options : LogStorageOptions} {gone : Nat → Prop} {layout : Layout}
  {tail : List UInt8} {store : LogSegmentStore} {files : Files FileName}

namespace Readable

/-- `ReplayLog` of a record, whose end it gives as an `int`. -/
theorem replayLog_placed_int (sized : options.Sized)
    (readable : Readable options gone layout tail store files) {number : Nat}
    {before after : List Entry} {entry : Entry}
    (inside : (layout.closed ++ [layout.current])[number]? = some (before ++ entry :: after))
    (present : ¬ gone number) :
    Completes (store.replayLog env (segmentId number) (segmentBytes before).length) files
      (Int.bmod (((segmentBytes before).length + entry.size : Nat) : Int) (2 ^ 32),
        some (Placed.found env ⟨number, (segmentBytes before).length, entry⟩))
      files.Unchanged := by
  obtain ⟨inode, named, contents⟩ := readable.file number _ inside present
  have member := List.mem_of_getElem? inside
  have keyed : entry.key.length = options.indexKeyLength := readable.fits.keyed _ member _ (by simp)
  have bound := readable.fits.bounded member
  have small := sized.small
  rw [segmentBytes_append, List.length_append, length_segmentBytes_cons] at bound
  have framed := framed_body sized keyed (by rw [length_frame_body]; omega)
  have record : unframe 8 ((files.contents inode).drop (segmentBytes before).length) =
      some (entry.body, segmentBytes after ++
        if number < layout.closed.length then [] else tail) := by
    rw [contents, segmentBytes_append, List.append_assoc, List.drop_left, segmentBytes_cons,
      List.append_assoc]
    exact unframe_frame framed _
  have key : env.copied entry.body store.indexKeyLength = entry.key := by
    rw [readable.keyLength, ← keyed, env.copied_of_le (by simp [Entry.body]), Entry.body,
      List.take_left]
  have replay : Completes (store.replayLog env (segmentId number) _) files _ _ :=
    LogSegmentStore.replayLog_reads readable.sound named record
      (by rw [Entry.size] at bound; omega)
  rw [key, Nat.add_assoc] at replay
  exact replay

/-- `ReplayLog` of a record. -/
theorem replayLog_placed (usable : options.Usable)
    (readable : Readable options gone layout tail store files) {number : Nat}
    {before after : List Entry} {entry : Entry}
    (inside : (layout.closed ++ [layout.current])[number]? = some (before ++ entry :: after))
    (present : ¬ gone number) :
    Completes (store.replayLog env (segmentId number) (segmentBytes before).length) files
      ((((segmentBytes before).length + entry.size : Nat) : Int),
        some (Placed.found env ⟨number, (segmentBytes before).length, entry⟩))
      files.Unchanged := by
  have bound := readable.fits.bounded (List.mem_of_getElem? inside)
  have small := usable.small
  rw [segmentBytes_append, List.length_append, length_segmentBytes_cons] at bound
  have replay : Completes (store.replayLog env (segmentId number) _) files _ _ :=
    readable.replayLog_placed_int usable.sized inside present
  rw [Int.bmod_eq_of_le_mul_two (by omega) (by omega)] at replay
  exact replay

/-- `ReplayLog` behind the last record of a segment. -/
theorem replayLog_behind (readable : Readable options gone layout tail store files)
    (ends : Ends 8 tail) {number : Nat} {entries : List Entry}
    (inside : (layout.closed ++ [layout.current])[number]? = some entries)
    (present : ¬ gone number) :
    Completes (store.replayLog env (segmentId number) (segmentBytes entries).length) files
      (0, none) files.Unchanged := by
  obtain ⟨inode, named, contents⟩ := readable.file number _ inside present
  refine LogSegmentStore.replayLog_end readable.sound named ?_
  rw [contents, List.drop_left]
  split
  · exact ends_of_short (by decide)
  · exact ends

end Readable

namespace Laid

/-- A scan over the rest of a segment. -/
theorem scan_entries (usable : options.Usable) (ends : Ends 8 tail) {number : Nat}
    {before entries : List Entry} {calls : Nat} {later : List (List UInt8 × SegmentIndex)}
    (next : ∀ {files : Files FileName}, Laid env options gone layout tail store files →
      Completes (scan env store calls (segmentId number + 1) 0) files later files.Unchanged)
    (laid : Laid env options gone layout tail store files)
    (inside : (layout.closed ++ [layout.current])[number]? = some (before ++ entries))
    (present : ¬ gone number) :
    Completes (scan env store (entries.length + 1 + calls) (segmentId number)
      (segmentBytes before).length) files
      ((placedIn number (segmentBytes before).length entries).map (Placed.found env) ++ later)
      files.Unchanged := by
  induction entries generalizing before files with
  | nil =>
    rw [List.append_nil] at inside
    rw [List.length_nil, Nat.zero_add, Nat.add_comm 1 calls, scan]
    refine (laid.readable.replayLog_behind ends inside present).bind fun after same => ?_
    dsimp only
    rw [if_neg (by omega), if_pos rfl]
    exact (next (laid.unchanged same)).imp fun final same' => same.trans same'
  | cons entry entries ih =>
    have start : entries.length + 1 + 1 + calls = entries.length + 1 + calls + 1 := by omega
    have size : 0 < entry.size := by
      rw [Entry.size]
      omega
    rw [List.length_cons, start, scan]
    refine (laid.readable.replayLog_placed usable inside present).bind fun after same => ?_
    dsimp only
    rw [if_neg (by omega), if_neg (by omega)]
    have inside' : (layout.closed ++ [layout.current])[number]? =
        some ((before ++ [entry]) ++ entries) := by
      rw [inside, List.append_assoc]
      rfl
    have further := ih (laid.unchanged same) inside'
    rw [segmentBytes_concat, List.length_append, length_frame_body] at further
    refine further.bind fun final same' => ?_
    exact Completes.pure _ (same.trans same')

/-- A scan over the rest of the segments. -/
theorem scan_segments (usable : options.Usable) (ends : Ends 8 tail)
    (more : layout.closed.length + 1 < 2 ^ 32) {segments : List (List Entry)}
    {number calls : Nat} (present : ∀ other, number ≤ other → ¬ gone other)
    (rest : (layout.closed ++ [layout.current]).drop number = segments)
    (within : number ≤ layout.closed.length + 1)
    (enough : segments.flatten.length + segments.length < calls)
    (laid : Laid env options gone layout tail store files) :
    Completes (scan env store calls (segmentId number) 0) files
      ((placedOf number segments).map (Placed.found env)) files.Unchanged := by
  induction segments generalizing number calls files with
  | nil =>
    obtain ⟨calls, rfl⟩ : ∃ rest, calls = rest + 1 := ⟨calls - 1, by omega⟩
    have above := List.drop_eq_nil_iff.mp rest
    rw [List.length_append, List.length_singleton] at above
    obtain rfl : number = layout.closed.length + 1 := by omega
    have missing := Disk.view_eq_none.mp (laid.archive.next_free more)
    refine (LogSegmentStore.replayLog_missing 0 missing).bind fun after same => ?_
    dsimp only
    rw [if_pos (by omega)]
    exact Completes.pure _ same
  | cons entries segments ih =>
    have inside : (layout.closed ++ [layout.current])[number]? = some entries := by
      rw [← Nat.add_zero number, ← List.getElem?_drop, rest]
      rfl
    have below := (List.getElem?_eq_some_iff.mp inside).1
    rw [List.length_append, List.length_singleton] at below
    rw [List.flatten_cons, List.length_append, List.length_cons] at enough
    obtain ⟨left, rfl⟩ : ∃ left, calls = entries.length + 1 + left :=
      ⟨calls - (entries.length + 1), by omega⟩
    have rest' : (layout.closed ++ [layout.current]).drop (number + 1) = segments := by
      rw [← List.drop_drop, rest]
      rfl
    have next : ∀ {files : Files FileName}, Laid env options gone layout tail store files →
        Completes (scan env store left (segmentId number + 1) 0) files
          ((placedOf (number + 1) segments).map (Placed.found env)) files.Unchanged := by
      intro files laid
      rw [← segmentId_succ]
      exact ih (fun other later => present other (by omega)) rest' (by omega) (by omega) laid
    have whole : (layout.closed ++ [layout.current])[number]? = some ([] ++ entries) := inside
    rw [placedOf_cons, List.map_append]
    exact scan_entries usable ends next laid whole (present number le_rfl)

/-- A scan finds the records of a store, each once. -/
theorem scan_placed (usable : options.Usable)
    (laid : Laid env options gone layout tail store files) (ends : Ends 8 tail)
    (more : layout.closed.length + 1 < 2 ^ 32) (present : ∀ number, ¬ gone number) {calls : Nat}
    (enough : layout.placed.length + layout.closed.length + 1 < calls) :
    Completes (scan env store calls 0 0) files (layout.placed.map (Placed.found env))
      files.Unchanged := by
  rw [Layout.placed, length_placedOf] at enough
  refine laid.scan_segments usable ends more (fun other _ => present other) List.drop_zero
    (Nat.zero_le _) ?_
  rw [List.length_append, List.length_singleton]
  omega

/-- A scan from a record on finds it and the records behind it. -/
theorem scan_since (usable : options.Usable) (ends : Ends 8 tail)
    (more : layout.closed.length + 1 < 2 ^ 32) {early later : List Placed} {placed : Placed}
    (split : layout.placed = early ++ placed :: later)
    (present : ∀ number, placed.number ≤ number → ¬ gone number) {calls : Nat}
    (enough : layout.placed.length + layout.closed.length + 1 < calls)
    (laid : Laid env options gone layout tail store files) :
    Completes (scan env store calls (segmentId placed.number) placed.offset) files
      ((placed :: later).map (Placed.found env)) files.Unchanged := by
  obtain ⟨before, after, inside, position, rest⟩ := Layout.placed_split split
  have below := (List.getElem?_eq_some_iff.mp inside).1
  have fewer := congrArg List.length rest
  have all := congrArg List.length split
  simp only [List.length_append, List.length_cons, List.length_nil, length_placedIn,
    length_placedOf] at below fewer all
  obtain ⟨left, rfl⟩ : ∃ left, calls = (placed.entry :: after).length + 1 + left :=
    ⟨calls - ((placed.entry :: after).length + 1), by
      rw [List.length_cons]
      omega⟩
  have next : ∀ {files : Files FileName}, Laid env options gone layout tail store files →
      Completes (scan env store left (segmentId placed.number + 1) 0) files
        ((placedOf (placed.number + 1)
          ((layout.closed ++ [layout.current]).drop (placed.number + 1))).map (Placed.found env))
        files.Unchanged := by
    intro files laid
    rw [← segmentId_succ]
    refine laid.scan_segments usable ends more (fun other later => present other (by omega)) rfl
      (by omega) ?_
    rw [List.length_drop, List.length_append, List.length_singleton]
    rw [List.length_cons] at enough
    omega
  have found := scan_entries usable ends next laid inside (present _ le_rfl)
  rw [← position, ← List.map_append, ← rest] at found
  exact found

end Laid

/-- A scan of the log finds what was appended, in the order in which it was. -/
theorem scan_finds_appended {fuel : Nat} {disk : Disk FileName} {events : List StoreEvent}
    (usable : options.Usable) (fresh : Fresh disk) (enough : options.segmentMaxSize < fuel)
    (keyed : Keyed options events)
    (few : (layoutAfter options events).closed.length + 1 < 2 ^ 32) :
    ∃ session, Session.after env fuel options disk events = some session ∧
      ∀ calls, session.issued.length + (layoutAfter options events).closed.length + 1 < calls →
        Completes (scan env session.store calls 0 0) session.files
          (session.issued.map fun (entry, index) => (entry.key, index))
          session.files.Unchanged := by
  have held : ∃ session, Session.after env fuel options disk events = some session ∧
      session.Holds env options (layoutAfter options events) _ :=
    fresh.holds usable enough keyed (by omega)
  obtain ⟨session, ran, holds⟩ := held
  refine ⟨session, ran, fun calls many => ?_⟩
  rw [holds.issued] at many ⊢
  rw [List.length_map] at many
  rw [List.map_map]
  exact holds.laid.scan_placed usable (ends_zeros (by decide) _) few (fun _ => id) many

/-- A record is appended, the store opened again, and another record appended. -/
theorem scan_finds_appended_reopened :
    ∃ session, Session.after zlib 10 oneEach Disk.empty
        [.append ⟨[1], []⟩, .reopen .destroyed, .append ⟨[2], []⟩] = some session ∧
      ∀ calls, session.issued.length + (layoutAfter oneEach
          [.append ⟨[1], []⟩, .reopen .destroyed, .append ⟨[2], []⟩]).closed.length + 1 < calls →
        Completes (scan zlib session.store calls 0 0) session.files
          (session.issued.map fun (entry, index) => (entry.key, index))
          session.files.Unchanged :=
  scan_finds_appended oneEach_usable fresh_empty (by decide) (by simp [Keyed, oneEach])
    (by decide)

/-- A scan of a store with a file for every `SEGMENT_ID` goes round. -/
theorem Readable.scan_goes_round (usable : options.Usable) (ends : Ends 8 tail)
    (all : layout.closed.length + 1 = 2 ^ 32) (present : ∀ number, ¬ gone number) {number : Nat}
    {before entries : List Entry} {calls : Nat}
    (readable : Readable options gone layout tail store files)
    (inside : (layout.closed ++ [layout.current])[number]? = some (before ++ entries)) :
    Stuck (scan env store calls (segmentId number) (segmentBytes before).length) files := by
  induction calls generalizing number before entries files with
  | zero => exact Stuck.stop
  | succ calls ih =>
    cases entries with
    | nil =>
      rw [List.append_nil] at inside
      refine (readable.replayLog_behind ends inside (present number)).stuck fun after same => ?_
      dsimp only
      rw [if_neg (by omega), if_pos rfl, ← segmentId_succ]
      have below := (List.getElem?_eq_some_iff.mp inside).1
      rw [List.length_append, List.length_singleton] at below
      -- behind the last segment comes the first one again
      obtain ⟨next, within, same'⟩ : ∃ next ≤ layout.closed.length,
          segmentId (number + 1) = segmentId next := by
        rcases Nat.lt_or_ge number layout.closed.length with more | last
        · exact ⟨number + 1, more, rfl⟩
        · obtain rfl : number = layout.closed.length := by omega
          rw [all]
          exact ⟨0, Nat.zero_le _, by decide⟩
      have shorter : next < (layout.closed ++ [layout.current]).length := by
        rw [List.length_append, List.length_singleton]
        omega
      obtain ⟨entries, found⟩ : ∃ entries,
          (layout.closed ++ [layout.current])[next]? = some ([] ++ entries) :=
        ⟨_, List.getElem?_eq_getElem shorter⟩
      rw [same']
      exact ih (readable.unchanged same) found
    | cons entry entries =>
      have size : 0 < entry.size := by
        rw [Entry.size]
        omega
      refine (readable.replayLog_placed usable inside (present number)).stuck fun after same => ?_
      dsimp only
      rw [if_neg (by omega), if_neg (by omega)]
      have inside' : (layout.closed ++ [layout.current])[number]? =
          some ((before ++ [entry]) ++ entries) := by
        rw [inside, List.append_assoc]
        rfl
      have later := ih (readable.unchanged same) inside'
      rw [segmentBytes_concat, List.length_append, length_frame_body] at later
      exact later.bind

/-- When every `SEGMENT_ID` has a file, a scan does not come to an end. -/
theorem scan_does_not_end :
    ∃ session, Session.after zlib 10 oneEach Disk.empty
        (List.replicate (2 ^ 32) (.append ⟨[0], []⟩)) = some session ∧
      ∀ calls, ((scan zlib session.store calls 0 0).run session.files).1 = none := by
  obtain ⟨session, count, total, ran, holds⟩ := all_numbers_used
  refine ⟨session, ran, fun calls => ?_⟩
  have all : (List.replicate count [(⟨[0], []⟩ : Entry)]).length + 1 = 2 ^ 32 := by
    rw [List.length_replicate, total]
  have positive : 0 < count := by omega
  have first : (List.replicate count [(⟨[0], []⟩ : Entry)] ++ [[⟨[0], []⟩]])[0]? =
      some ([] ++ [⟨[0], []⟩]) := by
    rw [List.getElem?_append_left (by rw [List.length_replicate]; exact positive),
      List.getElem?_replicate_of_lt positive]
    rfl
  have stuck : Stuck (scan zlib session.store calls (segmentId 0)
      (segmentBytes ([] : List Entry)).length) session.files :=
    holds.laid.readable.scan_goes_round oneEach_usable (ends_zeros (by decide) _) all (fun _ => id) first
  exact stuck.run

end Paxosme
