import Mathlib.Logic.Function.Basic
import Paxosme.Core.Network
import Paxosme.Lib.Completions

/-!
# The server of the remote calls

`GrpcServer` serves calls with objects of the class `CallData`, which it finds again by the tags
that the completion queue returns: a tag is the address of an object. `HandleRpcs` takes one
completion after another. The runtime of gRPC is what the server meets: it brings a call to an
operation that waits for one, completes operations in any order, and lets the waiting ones fail
once the server shuts down. The thread that `Start` starts makes the objects one after another
before it takes completions; calls and `Shutdown` may come in between. `none` stands for undefined
behaviour: an address without an object, or an operation on a queue that has been shut down; and
for an assertion that fails.
-/

namespace Paxosme

/-- `BaseCallData::CallStatus`. -/
inductive CallStatus where
  | dummy
  | initialized
  | served
  | finish
  deriving DecidableEq, Repr

/-- `CallData<TRequest, TReply>`. -/
structure CallData where
  /-- `TRequest`. -/
  type : RequestType
  /-- `status_`. -/
  status : CallStatus := .dummy
  /-- `request_`, as `SerializeAsString` writes it. -/
  request : List UInt8 := []
  deriving DecidableEq, Repr

/-- What an object has started on the completion queue. -/
inductive Operation where
  /-- `service_->Request…`, to receive a call. -/
  | request
  /-- `responder_.Finish`, with a reply whose `ack` is set. -/
  | finish
  deriving DecidableEq, Repr

/-- `GrpcServer`. -/
structure GrpcServer where
  /-- `is_running_`. -/
  isRunning : Bool := false
  /-- `cq_`. -/
  queue : CompletionQueue Nat Operation := {}
  /-- The objects, by their addresses. -/
  heap : Nat → Option CallData := fun _ => none
  /-- The types for which `PrepareCallData` has not made an object yet. -/
  unprepared : List RequestType := []
  /-- Whether `server_` has been asked to shut down. -/
  shuttingDown : Bool := false
  /-- The calls that have come in. -/
  called : List (RequestType × List UInt8) := []
  /-- What `msgCallback_` has been called with. -/
  received : List (RequestType × List UInt8) := []
  /-- The calls for which a reply has been handed to the runtime. -/
  answered : List RequestType := []
  /-- The tags that have been taken with a failure. -/
  dropped : List Nat := []

/-- The types for which `PrepareCallData` makes an object. -/
def servedTypes : List RequestType :=
  [.propose, .proposeAck, .accept, .acceptAck, .newValueChosen]

namespace GrpcServer

/-- `status_ = …` of the object at an address. -/
def setStatus (server : GrpcServer) (tag : Nat) (status : CallStatus) : Option GrpcServer :=
  (server.heap tag).map fun call =>
    { server with heap := Function.update server.heap tag (some { call with status }) }

/-- An operation is started under the address of an object. -/
def start (server : GrpcServer) (tag : Nat) (operation : Operation) : Option GrpcServer :=
  (server.queue.start tag operation).map fun queue => { server with queue }

/-- `CallData::CreateStatusFunc`, with `InitRequestState`. -/
def createStatusFunc (server : GrpcServer) (tag : Nat) : Option GrpcServer := do
  let server ← server.start tag .request
  server.setStatus tag .initialized

/-- `CallDataManager::New`, when the allocation returns an address. The constructor calls
`Proceed`, which finds the status `DUMMY`. -/
def new (server : GrpcServer) (type : RequestType) (address : Nat) : Option GrpcServer :=
  createStatusFunc { server with heap := Function.update server.heap address (some { type }) }
    address

/-- `CallData::HandleRequest`. -/
def handleRequest (server : GrpcServer) (tag : Nat) : Option GrpcServer :=
  (server.heap tag).map fun call =>
    { server with received := server.received ++ [(call.type, call.request)] }

/-- `CallData::ProcessStatusFunc`, with the address of the object that it makes. -/
def processStatusFunc (server : GrpcServer) (tag address : Nat) : Option GrpcServer := do
  let call ← server.heap tag
  let server ← server.new call.type address
  let server ← server.handleRequest tag
  let server ← server.setStatus tag .served
  let server ← server.start tag .finish
  some { server with answered := server.answered ++ [call.type] }

/-- `CallData::FinishStatusFunc`. -/
def finishStatusFunc (server : GrpcServer) (tag : Nat) : Option GrpcServer := do
  let call ← server.heap tag
  -- `GPR_ASSERT`
  if call.status = .served then server.setStatus tag .finish else none

/-- `BaseCallData::Proceed`. -/
def proceed (server : GrpcServer) (tag address : Nat) : Option GrpcServer := do
  let call ← server.heap tag
  match call.status with
  | .dummy => server.createStatusFunc tag
  | .initialized => server.processStatusFunc tag address
  | .served => server.finishStatusFunc tag
  | .finish => some server

/-- `CallDataManager::Procceed` of an object that `HandleRpcs` holds in a `unique_ptr`, which
deletes it unless it is released. -/
def procceed (server : GrpcServer) (tag address : Nat) : Option GrpcServer := do
  let server ← server.proceed tag address
  let call ← server.heap tag
  if call.status = .finish then some { server with heap := Function.update server.heap tag none }
  else some server

/-- What `HandleRpcs` does with one completion. -/
def handleRpc (server : GrpcServer) (tag : Nat) (ok : Bool) (address : Nat) : Option GrpcServer :=
  if ok then server.procceed tag address
  else some { server with dropped := server.dropped ++ [tag] }

/-- `PrepareCallData` makes the next object, when the allocation returns an address. -/
def prepareCallData (server : GrpcServer) (address : Nat) : Option GrpcServer :=
  match server.unprepared with
  | [] => some server
  | type :: unprepared => { server with unprepared }.new type address

/-- `Start`. -/
def started : GrpcServer := { isRunning := true, unprepared := servedTypes }

end GrpcServer

/-- What happens to a server. -/
inductive RpcEvent where
  /-- The thread of the server makes the next object; `new` returns the address. -/
  | prepare (address : Nat)
  /-- A call comes in for an object that waits for one, and fills its `request_`. -/
  | called (tag : Nat) (request : List UInt8)
  /-- A reply has been sent, or cannot be sent any more. -/
  | replied (tag : Nat) (ok : Bool)
  /-- An operation that waits for a call fails. -/
  | refused (tag : Nat)
  /-- `HandleRpcs` takes a completion; `new` returns the address if it is called. -/
  | next (tag address : Nat)
  /-- `Shutdown` is called and asks `server_` to shut down. -/
  | shutdown
  /-- `server_` has shut down, and `Shutdown` shuts the queue down. -/
  | queueShutdown
  deriving DecidableEq, Repr

namespace GrpcServer

/-- The call that an object holds and that has not been handed on. -/
def unread (server : GrpcServer) (entry : Nat × Bool) : Option (RequestType × List UInt8) :=
  if entry.2 then (server.heap entry.1).bind fun call =>
    if call.status = .initialized then some (call.type, call.request) else none
  else none

/-- The calls whose tags are in the queue. -/
def waitingCalls (server : GrpcServer) : List (RequestType × List UInt8) :=
  server.queue.completed.filterMap server.unread

/-- One event. -/
def step (server : GrpcServer) : RpcEvent → Option GrpcServer
  | .prepare address => server.prepareCallData address
  | .called tag request => (server.heap tag).map fun call =>
      { server with
        heap := Function.update server.heap tag (some { call with request })
        queue := server.queue.complete tag true
        called := server.called ++ [(call.type, request)] }
  | .replied tag ok => some { server with queue := server.queue.complete tag ok }
  | .refused tag => some { server with queue := server.queue.complete tag false }
  | .next tag address => (server.queue.take tag).bind fun taken =>
      { server with queue := taken.2 }.handleRpc tag taken.1 address
  | .shutdown => some (if server.isRunning then { server with shuttingDown := true } else server)
  | .queueShutdown => some { server with
      isRunning := false, queue := { server.queue with isShutdown := true } }

/-- What may happen: only an operation that has been started completes, and a wait for a call fails
only when the server shuts down; then no call comes in any more, and the server has shut down once
every call is answered. An allocation returns an address that has no object, and no completion is
taken before all objects have been made. -/
def Possible (server : GrpcServer) : RpcEvent → Prop
  | .prepare address => server.unprepared ≠ [] ∧ server.heap address = none
  | .called tag _ => (tag, .request) ∈ server.queue.operations ∧ ¬ server.shuttingDown
  | .replied tag _ => (tag, .finish) ∈ server.queue.operations
  | .refused tag => (tag, .request) ∈ server.queue.operations ∧ server.shuttingDown
  | .next tag address => server.unprepared = [] ∧
      tag ∈ server.queue.completed.map Prod.fst ∧ server.heap address = none
  | .shutdown => True
  | .queueShutdown => server.shuttingDown ∧ server.waitingCalls = [] ∧
      ∀ started ∈ server.queue.operations, started.2 ≠ .finish

instance (server : GrpcServer) (event : RpcEvent) : Decidable (server.Possible event) :=
  match event with
  | .prepare _ => inferInstanceAs (Decidable (_ ∧ _))
  | .called _ _ => inferInstanceAs (Decidable (_ ∧ _))
  | .replied _ _ => inferInstanceAs (Decidable (_ ∈ _))
  | .refused _ => inferInstanceAs (Decidable (_ ∧ _))
  | .next _ _ => inferInstanceAs (Decidable (_ ∧ _ ∧ _))
  | .shutdown => .isTrue trivial
  | .queueShutdown => inferInstanceAs (Decidable (_ ∧ _ ∧ _))

/-- No object is made once the queue has been shut down. -/
def InTime (server : GrpcServer) : RpcEvent → Prop
  | .prepare _ => server.queue.isShutdown = false
  | _ => True

instance (server : GrpcServer) (event : RpcEvent) : Decidable (server.InTime event) :=
  match event with
  | .prepare _ => inferInstanceAs (Decidable (_ = _))
  | .called _ _ | .replied _ _ | .refused _ | .next _ _ | .shutdown | .queueShutdown =>
    .isTrue trivial

end GrpcServer

end Paxosme
