import Mathlib.Data.List.Nodup
import Paxosme.Core.RpcServer
import Paxosme.Lib.Runs

/-!
# Calls that are served

Whatever the runtime does, an object of the server has one operation, one completion, or a
completion that was taken as failed, so that no tag leads to an object that is gone and none is
deleted twice. Until the server shuts down, one object waits for a call of each type for which one
has been made. A call that comes in is handed on once and answered once. One thing may go wrong: a
shutdown that is over before the thread of the server has made the last object.
-/

namespace Paxosme

/-- The status of an object that has started an operation. -/
def Operation.status : Operation → CallStatus
  | .request => .initialized
  | .finish => .served

namespace GrpcServer

/-- The type and the status of an object. -/
def state (server : GrpcServer) (tag : Nat) : Option (RequestType × CallStatus) :=
  (server.heap tag).map fun call => (call.type, call.status)

/-- What holds at any time of a server that has made objects for some types. -/
structure Serving (types : List RequestType) (server : GrpcServer) : Prop where
  /-- Objects are made for all types that are served. -/
  made : types ++ server.unprepared = servedTypes
  /-- No object has two operations or completions. -/
  once : (server.queue.tags ++ server.dropped).Nodup
  /-- The objects are those that have one. -/
  live : ∀ tag, server.state tag ≠ none ↔ tag ∈ server.queue.tags ++ server.dropped
  status : ∀ tag type status, server.state tag = some (type, status) →
    type ∈ types ∧ (status = .initialized ∨ status = .served)
  started : ∀ tag operation, (tag, operation) ∈ server.queue.operations →
    ∃ type, server.state tag = some (type, operation.status)
  /-- Until the server shuts down, nothing but a reply fails. -/
  failed : server.shuttingDown = false → ∀ tag, (tag, false) ∈ server.queue.completed →
    ∃ type, server.state tag = some (type, .served)
  /-- Until the server shuts down, one object awaits a call of each type, or holds one that has
  not been handed on. -/
  awaits : server.shuttingDown = false → ∀ type ∈ types,
    ∃! tag, server.state tag = some (type, .initialized)
  /-- What came in has been handed on, or waits in the queue. -/
  calls : server.called.Perm (server.received ++ server.waitingCalls)
  /-- What has been handed on has been answered. -/
  answered : server.answered = server.received.map Prod.fst
  /-- The queue is shut down when the server has shut down. -/
  closed : server.queue.isShutdown = true →
    server.shuttingDown = true ∧ server.waitingCalls = []

variable {types : List RequestType} {status : CallStatus} {server : GrpcServer}
  {queue : CompletionQueue Nat Operation} {tag address : Nat} {ok : Bool} {operation : Operation}
  {call : CallData} {type : RequestType}

/-- A server that has made an object. -/
def withObject (server : GrpcServer) (type : RequestType) (address : Nat) : GrpcServer :=
  { server with
    heap := Function.update server.heap address (some ⟨type, .initialized, []⟩)
    queue := { server.queue with
      operations := server.queue.operations ++ [(address, .request)] } }

/-- An object that is made. -/
theorem new_eq (running : server.queue.isShutdown = false) (type : RequestType) (address : Nat) :
    server.new type address = some (server.withObject type address) := by
  simp [new, createStatusFunc, start, CompletionQueue.start_of_open running, setStatus, withObject]

/-- A server that has handed on and answered the call of an object, and has made another one. -/
def handedOn (server : GrpcServer) (tag address : Nat) (call : CallData) : GrpcServer :=
  { server with
    heap := Function.update (Function.update server.heap address
      (some ⟨call.type, .initialized, []⟩)) tag (some { call with status := .served })
    queue := { server.queue with operations :=
      server.queue.operations ++ [(address, .request)] ++ [(tag, .finish)] }
    received := server.received ++ [(call.type, call.request)]
    answered := server.answered ++ [call.type] }

/-- An object that has received a call. -/
theorem processStatusFunc_eq (running : server.queue.isShutdown = false)
    (found : server.heap tag = some call) (free : server.heap address = none) :
    server.processStatusFunc tag address = some (server.handedOn tag address call) := by
  have other : tag ≠ address := fun same => by
    rw [same, free] at found
    cases found
  simp [processStatusFunc, found, new_eq running, withObject, handleRequest, setStatus, start,
    handedOn, CompletionQueue.start, running, Function.update_of_ne other]

/-- An object whose call has been answered is deleted. -/
theorem procceed_served (found : server.heap tag = some call) (served : call.status = .served) :
    server.procceed tag address = some { server with
      heap := Function.update server.heap tag none } := by
  simp [procceed, proceed, finishStatusFunc, setStatus, found, served]

/-- An object that has received a call hands it on and answers it. -/
theorem procceed_initialized (running : server.queue.isShutdown = false)
    (found : server.heap tag = some call) (waits : call.status = .initialized)
    (free : server.heap address = none) :
    server.procceed tag address = some (server.handedOn tag address call) := by
  have left : (server.handedOn tag address call).heap tag =
      some { call with status := .served } := Function.update_self ..
  simp [procceed, proceed, found, waits, processStatusFunc_eq running found free, left]

/-- An object has its type and its status. -/
theorem state_eq_some : server.state tag = some (type, status) ↔
    ∃ call, server.heap tag = some call ∧ call.type = type ∧ call.status = status := by
  simp [state]

/-- The objects after one has changed. -/
theorem state_update {after : GrpcServer} {object : Option CallData}
    {value : Option (RequestType × CallStatus)}
    (heap : after.heap = Function.update server.heap tag object)
    (here : object.map (fun call => (call.type, call.status)) = value) :
    after.state = Function.update server.state tag value := by
  funext other
  rw [state, heap, ← here]
  by_cases same : other = tag
  · rw [same, Function.update_self, Function.update_self]
  · rw [Function.update_of_ne same, Function.update_of_ne same, state]

/-- The objects after one has been made. -/
theorem withObject_state (server : GrpcServer) (type : RequestType) (address : Nat) :
    (server.withObject type address).state =
      Function.update server.state address (some (type, .initialized)) :=
  state_update rfl rfl

/-- The objects after a call has been handed on. -/
theorem handedOn_state (server : GrpcServer) (tag address : Nat) (call : CallData) :
    (server.handedOn tag address call).state =
      Function.update (Function.update server.state address (some (call.type, .initialized))) tag
        (some (call.type, .served)) := by
  rw [← withObject_state]
  exact state_update rfl rfl

/-- The tags that are in use after a call has been handed on. -/
theorem handedOn_tags (running : server.queue.isShutdown = false) :
    (server.handedOn tag address call).queue.tags.Perm (address :: tag :: server.queue.tags) := by
  let waiting : CompletionQueue Nat Operation :=
    { server.queue with operations := server.queue.operations ++ [(address, .request)] }
  have open_ : waiting.isShutdown = false := running
  have made : server.queue.start address .request = some waiting :=
    CompletionQueue.start_of_open running address .request
  have replied : waiting.start tag .finish = some (server.handedOn tag address call).queue :=
    CompletionQueue.start_of_open open_ tag .finish
  have tags := (CompletionQueue.tags_start replied).trans
    ((CompletionQueue.tags_start made).cons tag)
  exact tags.trans (List.Perm.swap ..)

/-- The call that an object holds is read from the object. -/
theorem unread_congr {other : GrpcServer} {entry : Nat × Bool}
    (same : other.heap entry.1 = server.heap entry.1) :
    other.unread entry = server.unread entry := by
  rw [unread, unread, same]

/-- An object whose call has been answered holds none. -/
theorem unread_served (served : server.state tag = some (type, .served)) (ok : Bool) :
    server.unread (tag, ok) = none := by
  obtain ⟨call, found, -, status⟩ := state_eq_some.mp served
  cases ok with
  | false => rfl
  | true => simp [unread, found, status]

/-- The calls of the same completions, of the same objects. -/
theorem filterMap_unread {after : GrpcServer} {entries : List (Nat × Bool)}
    (same : ∀ entry ∈ entries, after.heap entry.1 = server.heap entry.1) :
    entries.filterMap after.unread = entries.filterMap server.unread :=
  List.filterMap_congr fun _ member => unread_congr (same _ member)

/-- The calls after one more completion. -/
theorem waitingCalls_complete {after : GrpcServer}
    (completed : after.queue.completed = server.queue.completed ++ [(tag, ok)])
    (same : ∀ entry ∈ server.queue.completed, after.heap entry.1 = server.heap entry.1) :
    after.waitingCalls = server.waitingCalls ++ (after.unread (tag, ok)).toList := by
  rw [waitingCalls, completed, List.filterMap_append, filterMap_unread same, waitingCalls]
  congr 1

/-- The calls after one completion less. -/
theorem waitingCalls_taken {after : GrpcServer}
    (perm : server.queue.completed.Perm ((tag, ok) :: after.queue.completed))
    (same : ∀ entry ∈ after.queue.completed, after.heap entry.1 = server.heap entry.1) :
    server.waitingCalls.Perm ((server.unread (tag, ok)).toList ++ after.waitingCalls) := by
  have calls := perm.filterMap server.unread
  rw [waitingCalls, waitingCalls, filterMap_unread same]
  cases found : server.unread (tag, ok) with
  | _ => simpa [found] using calls

section Holders

variable {α β : Type*} [DecidableEq α] {holds : α → β} {holder : α} {value wanted : β}

/-- One holder changes from a value that is not wanted to another one. -/
theorem existsUnique_update_iff (new : value ≠ wanted) (old : holds holder ≠ wanted) :
    (∃! other, Function.update holds holder value other = wanted) ↔
      ∃! other, holds other = wanted := by
  refine existsUnique_congr fun other => ?_
  by_cases same : other = holder
  · rw [same, Function.update_self]
    exact iff_of_false new old
  · rw [Function.update_of_ne same]

/-- A holder gets what no other one has. -/
theorem existsUnique_update_self (others : ∀ other, other ≠ holder → holds other ≠ wanted) :
    ∃! other, Function.update holds holder wanted other = wanted := by
  refine ⟨holder, Function.update_self .., fun other has => ?_⟩
  dsimp only at has
  by_contra apart
  rw [Function.update_of_ne apart] at has
  exact others other apart has

/-- A holder gets what only another one has, which gives it up. -/
theorem existsUnique_update_pass {heir : α} (apart : heir ≠ holder) (lost : value ≠ wanted)
    (held : holds holder = wanted) (only : ∃! other, holds other = wanted) :
    ∃! other, Function.update (Function.update holds heir wanted) holder value other = wanted := by
  rw [Function.update_comm apart]
  refine existsUnique_update_self fun other _ has => ?_
  by_cases same : other = holder
  · rw [same, Function.update_self] at has
    exact lost has
  · rw [Function.update_of_ne same] at has
    exact same (only.unique has held)

end Holders

/-- An object that is made too late. -/
theorem step_late (event : RpcEvent) (possible : server.Possible event)
    (late : ¬ server.InTime event) : server.step event = none := by
  cases event with
  | prepare address =>
    obtain ⟨type, unprepared, next⟩ := List.exists_cons_of_ne_nil possible.1
    have shut : server.queue.isShutdown = true := Bool.of_not_eq_false late
    rw [GrpcServer.step, prepareCallData, next]
    simp [new, createStatusFunc, start, CompletionQueue.start, shut]
  | _ => exact absurd trivial late

namespace Serving

/-- The tag of an operation is not that of a completion. -/
theorem not_completed (serving : Serving types server)
    (started : (tag, operation) ∈ server.queue.operations) :
    tag ∉ server.queue.completed.map Prod.fst := by
  have once := (List.nodup_append.mp serving.once).1
  rw [CompletionQueue.tags, List.nodup_append] at once
  exact fun completed => once.2.2 tag (List.mem_map_of_mem started) tag completed rfl

/-- The runtime completes an operation; it may have filled the request of the object. -/
theorem complete (serving : Serving types server)
    (started : (tag, operation) ∈ server.queue.operations) {heap : Nat → Option CallData}
    {called : List (RequestType × List UInt8)} {after : GrpcServer}
    (same : after = { server with heap, called, queue := server.queue.complete tag ok })
    (filled : after.state = server.state)
    (fails : server.shuttingDown = false → ok = false → operation = .finish)
    (calls : called.Perm (server.received ++ after.waitingCalls))
    (closed : server.queue.isShutdown = true → after.waitingCalls = []) :
    Serving types after := by
  have perm : after.queue.tags.Perm server.queue.tags := by
    rw [same]
    exact CompletionQueue.tags_complete started
  have dropped : after.dropped = server.dropped := by rw [same]
  have shuttingDown : after.shuttingDown = server.shuttingDown := by rw [same]
  have operations : ∀ entry ∈ after.queue.operations, entry ∈ server.queue.operations := by
    rw [same]
    exact fun entry member => List.mem_of_mem_eraseP member
  have completed : after.queue.completed = server.queue.completed ++ [(tag, ok)] := by
    rw [same]
    rfl
  have all := perm.append_right server.dropped
  constructor
  case made =>
    rw [same]
    exact serving.made
  case once =>
    rw [dropped]
    exact all.nodup_iff.mpr serving.once
  case live =>
    intro other
    rw [filled, dropped, serving.live, all.mem_iff]
  case status =>
    rw [filled]
    exact serving.status
  case started =>
    rw [filled]
    exact fun other operation member => serving.started other operation (operations _ member)
  case failed =>
    intro running other member
    rw [shuttingDown] at running
    rw [filled]
    rw [completed, List.mem_append, List.mem_singleton] at member
    rcases member with before | last
    · exact serving.failed running other before
    · obtain ⟨rfl, rfl⟩ := Prod.mk.inj last
      obtain ⟨type, found⟩ := serving.started _ _ started
      rw [fails running rfl] at found
      exact ⟨type, found⟩
  case awaits =>
    intro running
    rw [shuttingDown] at running
    rw [filled]
    exact serving.awaits running
  case calls =>
    rw [same] at calls ⊢
    exact calls
  case answered =>
    rw [same]
    exact serving.answered
  case closed =>
    intro down
    have before : server.queue.isShutdown = true := by rw [same] at down; exact down
    rw [shuttingDown]
    exact ⟨(serving.closed before).1, closed before⟩

/-- A call comes in. -/
theorem called (serving : Serving types server)
    (started : (tag, .request) ∈ server.queue.operations)
    (running : server.shuttingDown = false) (request : List UInt8) :
    ∃ after, server.step (.called tag request) = some after ∧ Serving types after := by
  obtain ⟨type, waits⟩ := serving.started _ _ started
  obtain ⟨call, found, -, status⟩ := state_eq_some.mp waits
  refine ⟨_, by rw [step, found, Option.map_some], ?_⟩
  refine serving.complete started rfl ?_ (fun _ => Bool.noConfusion) ?_ fun down => ?_
  · funext other
    by_cases same : other = tag
    · subst same
      simp [state, found]
    · simp [state, Function.update_of_ne same]
  · have apart : ∀ entry ∈ server.queue.completed, entry.1 ≠ tag := fun entry member equal =>
      serving.not_completed started (equal ▸ List.mem_map_of_mem member)
    rw [waitingCalls_complete rfl fun entry member =>
      Function.update_of_ne (apart entry member) .., ← List.append_assoc]
    refine serving.calls.append ?_
    simp [unread, status, Operation.status]
  · rw [(serving.closed down).1] at running
    cases running

/-- A reply has been sent, or cannot be sent any more; or the wait for a call fails. -/
theorem ended (serving : Serving types server)
    (started : (tag, operation) ∈ server.queue.operations)
    (fails : server.shuttingDown = false → ok = false → operation = .finish)
    (silent : server.unread (tag, ok) = none) :
    Serving types { server with queue := server.queue.complete tag ok } := by
  have grows : waitingCalls { server with queue := server.queue.complete tag ok } =
      server.waitingCalls ++ (server.unread (tag, ok)).toList :=
    waitingCalls_complete rfl fun _ _ => rfl
  have waiting : waitingCalls { server with queue := server.queue.complete tag ok } =
      server.waitingCalls := by
    rw [grows, silent, Option.toList_none, List.append_nil]
  refine serving.complete started rfl rfl fails ?_ fun down => ?_
  · rw [waiting]
    exact serving.calls
  · rw [waiting]
    exact (serving.closed down).2

/-- A tag that is taken from the queue leads to an object, and is not in use any more. -/
theorem taken (serving : Serving types server)
    (perm : server.queue.completed.Perm ((tag, ok) :: queue.completed))
    (same : queue.operations = server.queue.operations) :
    (tag :: (queue.tags ++ server.dropped)).Perm (server.queue.tags ++ server.dropped) ∧
      tag ∉ queue.tags ++ server.dropped ∧ (∀ entry ∈ queue.completed, entry.1 ≠ tag) ∧
      ∃ type status, server.state tag = some (type, status) := by
  have tags : (tag :: (queue.tags ++ server.dropped)).Perm
      (server.queue.tags ++ server.dropped) :=
    (CompletionQueue.tags_take perm same).symm.append_right server.dropped
  have once := (List.nodup_cons.mp (tags.nodup_iff.mpr serving.once)).1
  refine ⟨tags, once, fun entry member equal => once (List.mem_append_left _
    (List.mem_append_right _ (equal ▸ List.mem_map_of_mem member))), ?_⟩
  have used := (serving.live tag).mpr (tags.mem_iff.mp List.mem_cons_self)
  obtain ⟨⟨type, status⟩, found⟩ := Option.ne_none_iff_exists'.mp used
  exact ⟨type, status, found⟩

/-- A completion that failed is taken. -/
theorem drop (serving : Serving types server)
    (perm : server.queue.completed.Perm ((tag, false) :: queue.completed))
    (same : queue.operations = server.queue.operations)
    (down : queue.isShutdown = server.queue.isShutdown) :
    Serving types { server with queue, dropped := server.dropped ++ [tag] } := by
  obtain ⟨tags, new, gone, -⟩ := serving.taken perm same
  have all : (queue.tags ++ (server.dropped ++ [tag])).Perm
      (server.queue.tags ++ server.dropped) := by
    rw [← List.append_assoc]
    exact (List.perm_append_singleton _ _).trans tags
  have calls : server.waitingCalls.Perm ((server.unread (tag, false)).toList ++
      waitingCalls { server with queue, dropped := server.dropped ++ [tag] }) :=
    waitingCalls_taken perm fun _ _ => rfl
  constructor
  case made =>
    exact serving.made
  case once =>
    exact all.nodup_iff.mpr serving.once
  case live =>
    intro other
    exact (serving.live other).trans all.mem_iff.symm
  case status =>
    exact serving.status
  case started =>
    rw [same]
    exact serving.started
  case failed =>
    exact fun running other member =>
      serving.failed running other (perm.mem_iff.mpr (List.mem_cons_of_mem _ member))
  case awaits =>
    exact serving.awaits
  case calls =>
    exact serving.calls.trans (calls.append_left _)
  case answered =>
    exact serving.answered
  case closed =>
    intro shut
    obtain ⟨stopping, none⟩ := serving.closed (down.symm.trans shut)
    rw [none] at calls
    exact ⟨stopping, calls.symm.eq_nil⟩

/-- An object whose call has been answered is deleted. -/
theorem delete (serving : Serving types server)
    (perm : server.queue.completed.Perm ((tag, true) :: queue.completed))
    (same : queue.operations = server.queue.operations)
    (down : queue.isShutdown = server.queue.isShutdown)
    (served : server.state tag = some (type, .served)) :
    Serving types { server with queue, heap := Function.update server.heap tag none } := by
  obtain ⟨tags, new, gone, -⟩ := serving.taken perm same
  have once := List.nodup_cons.mp (tags.nodup_iff.mpr serving.once)
  have objects : state { server with queue, heap := Function.update server.heap tag none } =
      Function.update server.state tag none := state_update rfl rfl
  have calls : server.waitingCalls.Perm ((server.unread (tag, true)).toList ++
      waitingCalls { server with queue, heap := Function.update server.heap tag none }) :=
    waitingCalls_taken perm fun entry member => Function.update_of_ne (gone entry member) ..
  rw [unread_served served, Option.toList_none, List.nil_append] at calls
  have apart {other : Nat} (used : other ∈ queue.tags) : other ≠ tag := fun equal =>
    new (List.mem_append_left _ (equal ▸ used))
  constructor
  case made =>
    exact serving.made
  case once =>
    exact once.2
  case live =>
    intro other
    rw [objects]
    by_cases equal : other = tag
    · rw [equal, Function.update_self]
      exact iff_of_false (fun some => some rfl) new
    · rw [Function.update_of_ne equal, serving.live, ← tags.mem_iff, List.mem_cons]
      exact or_iff_right equal
  case status =>
    intro other type status found
    rw [objects] at found
    by_cases equal : other = tag
    · rw [equal, Function.update_self] at found
      cases found
    · rw [Function.update_of_ne equal] at found
      exact serving.status other type status found
  case started =>
    intro other operation started
    rw [objects, Function.update_of_ne (apart (CompletionQueue.mem_tags_of_operation started))]
    rw [same] at started
    exact serving.started other operation started
  case failed =>
    intro running other failed
    rw [objects, Function.update_of_ne (apart (CompletionQueue.mem_tags_of_completed failed))]
    exact serving.failed running other (perm.mem_iff.mpr (List.mem_cons_of_mem _ failed))
  case awaits =>
    intro running type' served'
    rw [objects]
    rw [existsUnique_update_iff (by simp) (by simp [served])]
    exact serving.awaits running type' served'
  case calls =>
    exact serving.calls.trans (calls.append_left _)
  case answered =>
    exact serving.answered
  case closed =>
    intro shut
    obtain ⟨stopping, none⟩ := serving.closed (down.symm.trans shut)
    rw [none] at calls
    exact ⟨stopping, calls.symm.eq_nil⟩

/-- A call is handed on and answered, and another object awaits the next one. -/
theorem handOn (serving : Serving types server)
    (perm : server.queue.completed.Perm ((tag, true) :: queue.completed))
    (same : queue.operations = server.queue.operations) (running : queue.isShutdown = false)
    (found : server.heap tag = some call) (waits : call.status = .initialized)
    (free : server.heap address = none) :
    Serving types (handedOn { server with queue } tag address call) := by
  obtain ⟨tags, new, gone, -⟩ := serving.taken perm same
  have here : server.state tag = some (call.type, .initialized) := by
    rw [state, found, ← waits]
    rfl
  have vacant : server.state address = none := by
    rw [state, free]
    rfl
  have apart : tag ≠ address := fun equal => by
    rw [equal, free] at found
    cases found
  have unused : address ∉ tag :: (queue.tags ++ server.dropped) := fun member =>
    (serving.live address).mpr (tags.mem_iff.mp member) vacant
  have objects : state (handedOn { server with queue } tag address call) =
      Function.update (Function.update server.state address (some (call.type, .initialized))) tag
        (some (call.type, .served)) := handedOn_state ..
  have others {other : Nat} (used : other ∈ queue.tags ++ server.dropped) :
      state (handedOn { server with queue } tag address call) other = server.state other := by
    rw [objects, Function.update_of_ne, Function.update_of_ne]
    · exact fun equal => unused (equal ▸ List.mem_cons_of_mem _ used)
    · exact fun equal => new (equal ▸ used)
  have all : ((handedOn { server with queue } tag address call).queue.tags ++
      server.dropped).Perm (address :: tag :: (queue.tags ++ server.dropped)) :=
    (handedOn_tags running).append_right server.dropped
  constructor
  case made =>
    exact serving.made
  case once =>
    exact all.nodup_iff.mpr (List.nodup_cons.mpr ⟨unused, tags.nodup_iff.mpr serving.once⟩)
  case live =>
    intro other
    refine Iff.trans ?_ all.mem_iff.symm
    rw [objects]
    by_cases old : other = tag
    · simp [old]
    · rw [Function.update_of_ne old]
      by_cases new : other = address
      · simp [new]
      · rw [Function.update_of_ne new, serving.live, ← tags.mem_iff, List.mem_cons,
          List.mem_cons, List.mem_cons, or_iff_right new]
  case status =>
    intro other type status found
    rw [objects] at found
    have known := (serving.status tag _ _ here).1
    by_cases old : other = tag
    · rw [old, Function.update_self] at found
      obtain ⟨rfl, rfl⟩ := Prod.mk.inj (Option.some.inj found)
      exact ⟨known, .inr rfl⟩
    · rw [Function.update_of_ne old] at found
      by_cases new : other = address
      · rw [new, Function.update_self] at found
        obtain ⟨rfl, rfl⟩ := Prod.mk.inj (Option.some.inj found)
        exact ⟨known, .inl rfl⟩
      · rw [Function.update_of_ne new] at found
        exact serving.status other type status found
  case started =>
    intro other operation started
    rcases List.mem_append.mp started with before | last
    · rcases List.mem_append.mp before with before | made
      · rw [others (List.mem_append_left _ (CompletionQueue.mem_tags_of_operation before))]
        rw [same] at before
        exact serving.started other operation before
      · obtain ⟨rfl, rfl⟩ := Prod.mk.inj (List.mem_singleton.mp made)
        refine ⟨call.type, ?_⟩
        rw [objects, Function.update_of_ne apart.symm, Function.update_self]
        rfl
    · obtain ⟨rfl, rfl⟩ := Prod.mk.inj (List.mem_singleton.mp last)
      refine ⟨call.type, ?_⟩
      rw [objects, Function.update_self]
      rfl
  case failed =>
    intro up other failed
    rw [others (List.mem_append_left _ (CompletionQueue.mem_tags_of_completed failed))]
    exact serving.failed up other (perm.mem_iff.mpr (List.mem_cons_of_mem _ failed))
  case awaits =>
    intro up type member
    rw [objects]
    by_cases its : type = call.type
    · rw [its] at member ⊢
      exact existsUnique_update_pass apart.symm (by simp) here (serving.awaits up _ member)
    · have others : some (call.type, CallStatus.initialized) ≠ some (type, .initialized) :=
        fun equal => its (Prod.mk.inj (Option.some.inj equal)).1.symm
      rw [existsUnique_update_iff (by simp), existsUnique_update_iff others (by simp [vacant])]
      · exact serving.awaits up type member
      · rw [Function.update_of_ne apart, here]
        exact others
  case calls =>
    have calls : server.waitingCalls.Perm ((server.unread (tag, true)).toList ++
        waitingCalls (handedOn { server with queue } tag address call)) :=
      waitingCalls_taken perm fun entry member => by
        have used : entry.1 ∈ queue.tags := CompletionQueue.mem_tags_of_completed member
        rw [handedOn]
        dsimp only
        rw [Function.update_of_ne (gone entry member), Function.update_of_ne]
        exact fun equal => unused (equal ▸
          List.mem_cons_of_mem _ (List.mem_append_left _ used))
    have read : server.unread (tag, true) = some (call.type, call.request) := by
      simp [unread, found, waits]
    rw [read, Option.toList_some] at calls
    refine serving.calls.trans ((calls.append_left _).trans ?_)
    rw [handedOn, ← List.append_assoc]
  case answered =>
    rw [handedOn]
    dsimp only
    rw [serving.answered, List.map_append, List.map_singleton]
  case closed =>
    intro shut
    have open_ : queue.isShutdown = true := shut
    rw [running] at open_
    cases open_

/-- `HandleRpcs` takes a completion. -/
theorem next (serving : Serving types server)
    (complete : tag ∈ server.queue.completed.map Prod.fst) (free : server.heap address = none) :
    ∃ after, server.step (.next tag address) = some after ∧ Serving types after := by
  obtain ⟨ok, queue, taken, perm, same, down⟩ := CompletionQueue.take_completed complete
  rw [step, taken, Option.bind_some, handleRpc]
  cases ok with
  | false => exact ⟨_, rfl, serving.drop perm same down⟩
  | true =>
    obtain ⟨-, -, -, type, status, known⟩ := serving.taken perm same
    obtain ⟨call, found, -, rfl⟩ := state_eq_some.mp known
    rw [if_pos rfl]
    rcases (serving.status tag _ _ known).2 with waits | served
    · have running : queue.isShutdown = false := by
        rw [down]
        by_contra shut
        have none := (serving.closed (Bool.of_not_eq_false shut)).2
        have read : server.unread (tag, true) = some (call.type, call.request) := by
          simp [unread, found, waits]
        have calls := perm.filterMap server.unread
        rw [← waitingCalls, none, List.filterMap_cons, read] at calls
        cases calls.symm.eq_nil
      have turned : procceed { server with queue } tag address =
          some (handedOn { server with queue } tag address call) :=
        procceed_initialized running found waits free
      exact ⟨_, turned, serving.handOn perm same running found waits free⟩
    · have turned : procceed { server with queue } tag address =
          some { server with queue, heap := Function.update server.heap tag none } :=
        procceed_served found served
      rw [served] at known
      exact ⟨_, turned, serving.delete perm same down known⟩

/-- The object for the next type is made. -/
theorem prepare (serving : Serving types server) (running : server.queue.isShutdown = false)
    {unprepared : List RequestType} (next : server.unprepared = type :: unprepared)
    (free : server.heap address = none) :
    Serving (types ++ [type]) (withObject { server with unprepared } type address) := by
  have made := serving.made
  rw [next] at made
  have first : type ∉ types := fun member =>
    (List.nodup_append.mp (made ▸ (by decide : servedTypes.Nodup))).2.2 type member type
      List.mem_cons_self rfl
  have vacant : server.state address = none := by
    rw [state, free]
    rfl
  have unused : address ∉ server.queue.tags ++ server.dropped := fun member =>
    (serving.live address).mpr member vacant
  have objects : (withObject { server with unprepared } type address).state =
      Function.update server.state address (some (type, .initialized)) :=
    withObject_state ..
  have apart {other : Nat} (used : other ∈ server.queue.tags ++ server.dropped) :
      other ≠ address := fun equal => unused (equal ▸ used)
  have others {other : Nat} (used : other ∈ server.queue.tags ++ server.dropped) :
      (withObject { server with unprepared } type address).state other = server.state other := by
    rw [objects, Function.update_of_ne (apart used)]
  have all : ((withObject { server with unprepared } type address).queue.tags ++ server.dropped).Perm
      (address :: (server.queue.tags ++ server.dropped)) := by
    have made : server.queue.start address .request =
        some (withObject { server with unprepared } type address).queue :=
      CompletionQueue.start_of_open running address .request
    exact (CompletionQueue.tags_start made).append_right server.dropped
  constructor
  case made =>
    rw [← made]
    exact List.append_assoc ..
  case once =>
    exact all.nodup_iff.mpr (List.nodup_cons.mpr ⟨unused, serving.once⟩)
  case live =>
    intro other
    refine Iff.trans ?_ all.mem_iff.symm
    rw [objects]
    by_cases new : other = address
    · simp [new]
    · rw [Function.update_of_ne new, serving.live, List.mem_cons, or_iff_right new]
  case status =>
    intro other type' status found
    rw [objects] at found
    by_cases new : other = address
    · rw [new, Function.update_self] at found
      obtain ⟨rfl, rfl⟩ := Prod.mk.inj (Option.some.inj found)
      exact ⟨List.mem_append_right _ (List.mem_singleton_self _), .inl rfl⟩
    · rw [Function.update_of_ne new] at found
      obtain ⟨known, live⟩ := serving.status other type' status found
      exact ⟨List.mem_append_left _ known, live⟩
  case started =>
    intro other operation started
    rcases List.mem_append.mp started with before | made
    · rw [others (List.mem_append_left _ (CompletionQueue.mem_tags_of_operation before))]
      exact serving.started other operation before
    · obtain ⟨rfl, rfl⟩ := Prod.mk.inj (List.mem_singleton.mp made)
      refine ⟨type, ?_⟩
      rw [objects, Function.update_self]
      rfl
  case failed =>
    intro up other failed
    rw [others (List.mem_append_left _ (CompletionQueue.mem_tags_of_completed failed))]
    exact serving.failed up other failed
  case awaits =>
    intro up type' member
    rw [objects]
    rcases List.mem_append.mp member with known | made
    · have its : some (type, CallStatus.initialized) ≠ some (type', .initialized) := fun equal =>
        first ((Prod.mk.inj (Option.some.inj equal)).1 ▸ known)
      exact (existsUnique_update_iff its (by simp [vacant])).mpr (serving.awaits up type' known)
    · obtain rfl := List.mem_singleton.mp made
      exact existsUnique_update_self fun other _ awaits =>
        first (serving.status other _ _ awaits).1
  case calls =>
    have calls : waitingCalls (withObject { server with unprepared } type address) = server.waitingCalls :=
      filterMap_unread fun entry member => by
        have used : entry.1 ∈ server.queue.tags := CompletionQueue.mem_tags_of_completed member
        exact Function.update_of_ne (apart (List.mem_append_left _ used)) ..
    rw [calls]
    exact serving.calls
  case answered =>
    exact serving.answered
  case closed =>
    intro shut
    have open_ : server.queue.isShutdown = true := shut
    rw [running] at open_
    cases open_

/-- One event, unless an object is made too late. -/
theorem step (serving : Serving types server) (event : RpcEvent)
    (possible : server.Possible event) (inTime : server.InTime event) :
    ∃ after, server.step event = some after ∧ ∃ types, Serving types after := by
  cases event with
  | prepare address =>
    obtain ⟨type, unprepared, next⟩ := List.exists_cons_of_ne_nil possible.1
    refine ⟨_, ?_, _, serving.prepare inTime next possible.2⟩
    rw [GrpcServer.step, prepareCallData, next]
    have running : ({ server with unprepared } : GrpcServer).queue.isShutdown = false := inTime
    exact new_eq running type address
  | called tag request =>
    obtain ⟨after, stepped, serving'⟩ :=
      serving.called possible.1 (Bool.of_not_eq_true possible.2) request
    exact ⟨after, stepped, types, serving'⟩
  | replied tag ok =>
    obtain ⟨type, served⟩ := serving.started _ _ possible
    exact ⟨_, rfl, types, serving.ended possible (fun _ _ => rfl) (unread_served served ok)⟩
  | refused tag =>
    exact ⟨_, rfl, types,
      serving.ended possible.1 (fun up => by rw [possible.2] at up; cases up) rfl⟩
  | next tag address =>
    obtain ⟨after, stepped, serving'⟩ := serving.next possible.2.1 possible.2.2
    exact ⟨after, stepped, types, serving'⟩
  | shutdown =>
    refine ⟨_, rfl, types, ?_⟩
    split
    · exact { serving with
        failed := fun up => by cases up
        awaits := fun up => by cases up
        closed := fun shut => ⟨rfl, (serving.closed shut).2⟩ }
    · exact serving
  | queueShutdown =>
    exact ⟨_, rfl, types, { serving with closed := fun _ => ⟨possible.1, possible.2.1⟩ }⟩

/-- A server that has been started. -/
theorem of_start : Serving [] GrpcServer.started where
  made := rfl
  once := List.nodup_nil
  live _ := iff_of_false (fun some => some rfl) List.not_mem_nil
  status _ _ _ found := by cases found
  started _ _ member := absurd member List.not_mem_nil
  failed _ _ member := absurd member List.not_mem_nil
  awaits _ _ member := absurd member List.not_mem_nil
  calls := List.Perm.nil
  answered := rfl
  closed shut := by cases shut

end Serving

/-- **Calls are served once.** Whatever the runtime does, a run of the server is defined exactly when
the queue is not shut down before the last object has been made. Then the server uses no object that
is gone and deletes none twice; every call that comes in is handed on once and answered once, or
waits in the queue; and until the server shuts down, one object awaits a call of each type for which
one has been made. -/
theorem calls_served_once (events : List RpcEvent)
    (possible : Runs.Along (fun server event => server.bind (GrpcServer.step · event))
      (fun server event => ∀ current ∈ server, current.Possible event) (some started) events) :
    (Runs.Along (fun server event => server.bind (GrpcServer.step · event))
        (fun server event => ∀ current ∈ server, current.InTime event) (some started) events ↔
      ∃ server, Runs.run (fun server event => server.bind (GrpcServer.step · event))
        (some started) events = some server) ∧
    ∀ server, Runs.run (fun server event => server.bind (GrpcServer.step · event))
        (some started) events = some server →
      (∃ types, Serving types server) ∧
      (server.queue.completed = [] → server.called.Perm server.received) := by
  have start : ∃ types, Serving types started := ⟨[], .of_start⟩
  have keeps (state : GrpcServer) (event : RpcEvent) (holds : ∃ types, Serving types state)
      (possible : state.Possible event) (inTime : state.InTime event) :
      ∃ next, state.step event = some next ∧ ∃ types, Serving types next := by
    obtain ⟨types, serving⟩ := holds
    exact serving.step event possible inTime
  obtain ⟨defined, kept⟩ := possible.goes_on_iff keeps
    (fun _ event _ possible late => step_late event possible late) start
  refine ⟨defined, fun server ran => ⟨kept server ran, fun drained => ?_⟩⟩
  obtain ⟨types, serves⟩ := kept server ran
  have calls := serves.calls
  rw [waitingCalls, drained, List.filterMap_nil, List.append_nil] at calls
  exact calls

/-- A call comes in for the first object, and the server is asked to shut down while the others are
made. The call is handed on and answered. -/
def oneProposal : List RpcEvent :=
  [.prepare 1, .called 1 [7], .prepare 2, .prepare 3, .shutdown, .prepare 4, .refused 2, .prepare 5,
    .next 1 6, .replied 1 true, .next 1 7, .refused 6, .queueShutdown, .next 2 7, .next 6 7]

theorem calls_served_once_proposal :
    ∃ server, Runs.run (fun server event => server.bind (GrpcServer.step · event))
        (some started) oneProposal = some server ∧
      (∃ types, Serving types server) ∧
      (server.queue.completed = [] → server.called.Perm server.received) := by
  have ⟨defined, kept⟩ := calls_served_once oneProposal (by decide)
  obtain ⟨server, ran⟩ := defined.mp (by decide)
  exact ⟨server, ran, kept server ran⟩

-- The object that received the proposal is deleted, and the one made in its place is dropped.
example : (Runs.run (fun server event => server.bind (GrpcServer.step · event))
    (some started) oneProposal).map (fun server =>
      (server.received, server.state 1, server.state 6, server.dropped)) =
      some ([(.propose, [7])], none, some (.propose, .initialized), [2, 6]) := rfl

-- A shutdown that is over before the last object has been made.
example : Runs.run (fun server event => server.bind (GrpcServer.step · event)) (some started)
    [.prepare 1, .prepare 2, .shutdown, .queueShutdown, .prepare 3] = none := rfl

end GrpcServer

end Paxosme
