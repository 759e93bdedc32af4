import Paxosme.Lib.Delivery
import Paxosme.Core.Controller

/-!
# A cluster of nodes

Every member of a deployment runs one node. Its main thread handles messages, timers and new
values; its sending thread runs beside it. What a step sends is read off the calls that it
adds. A main thread that is blocked takes no further step.
-/

namespace Paxosme

open Delivery

/-- The members of a cluster and the threshold they share. -/
structure Deployment where
  /-- The ids of the members. -/
  members : List NodeId
  /-- No id is used twice. -/
  distinct : members.Nodup
  /-- There is at least one member. -/
  inhabited : members ≠ []
  /-- `majority_threshold_` of every member. -/
  majorityThreshold : ℚ
  /-- What the members get for a number that no `size_t` holds. -/
  undefinedSize : UInt64

namespace Deployment

/-- One of the members. -/
abbrev Member (deployment : Deployment) := { id : NodeId // id ∈ deployment.members }

/-- The options of a member. -/
def options (deployment : Deployment) (id : NodeId) : PaxosOptions :=
  ⟨id, deployment.majorityThreshold, deployment.members.length, deployment.undefinedSize⟩

/-- All nodes fresh at one instance. -/
def start (deployment : Deployment) (instanceId : InstanceId) : NodeId → Node :=
  fun id => Node.fresh (deployment.options id) instanceId

end Deployment

namespace Cluster

/-- The posts among some calls. -/
def posts (calls : List Call) : List (Post NodeId PaxMessage) :=
  calls.filterMap fun
    | .send nodeId message => some (.unicast nodeId message)
    | .broadcast message => some (.broadcast message)
    | _ => none

/-- A step of a node with the posts it makes. -/
def perform (step : Node → Node) (node : Node) : Node × List (Post NodeId PaxMessage) :=
  (step node, posts (Node.callsSince node (step node)))

/-- A step of the main thread, which a blocked thread does not take. -/
def onMainThread (step : Node → Node) (node : Node) : Node :=
  if node.blocked then node else step node

/-- A main thread that is not blocked takes the step. -/
theorem onMainThread_free (step : Node → Node) (node : Node) (free : node.blocked = false) :
    onMainThread step node = step node := by
  rw [onMainThread, free, if_neg Bool.false_ne_true]

/-- A blocked main thread stays where it is. -/
theorem onMainThread_blocked (step : Node → Node) (node : Node) (blocked : node.blocked = true) :
    onMainThread step node = node := by
  rw [onMainThread, if_pos blocked]

/-- A property of a node that a step of the main thread keeps, where it is taken. -/
theorem onMainThread_cases {Inv : Node → Prop} {node : Node} (step : Node → Node)
    (holds : Inv node) (taken : node.blocked = false → Inv (step node)) :
    Inv (onMainThread step node) := by
  cases blocked : node.blocked with
  | true =>
    rw [onMainThread_blocked step node blocked]
    exact holds
  | false =>
    rw [onMainThread_free step node blocked]
    exact taken blocked

/-- A step to a state with an invariant posts messages with a property, if all calls on record
there send such messages. -/
theorem keeps_perform {Inv : Node → Prop} {Good : PaxMessage → Prop} {ok : Call → Prop}
    {node : Node} (step : Node → Node) (holds : Inv (step node))
    (calls : ∀ call ∈ (step node).calls, ok call)
    (sends : ∀ nodeId message, ok (.send nodeId message) → Good message)
    (broadcasts : ∀ message, ok (.broadcast message) → Good message) :
    Keeps Inv Good (perform step node) := by
  refine ⟨holds, fun post member => ?_⟩
  obtain ⟨call, called, found⟩ := List.mem_filterMap.mp member
  have fine := calls call (List.mem_of_mem_drop called)
  cases call with
  | send nodeId message =>
    obtain rfl := Option.some.inj found
    exact sends nodeId message fine
  | broadcast message =>
    obtain rfl := Option.some.inj found
    exact broadcasts message fine
  | _ => simp at found

/-- What a node does of its own accord. -/
inductive Activity where
  | newValue (flushed : Option LogValue) (timeout : Millisec)
  | timer (callback : TimerCallback)
  | sending (tooSlow : Bool)

/-- The step of an activity. -/
def Activity.run : Activity → Node → Node
  | .newValue flushed timeout => onMainThread (PaxProposer.newValue · flushed timeout)
  | .timer callback => onMainThread callback.fire
  | .sending tooSlow => (PaxLearner.sendingStep · tooSlow)

/-- A node among others, with any activity at any time. -/
def party (routing : Routing) : Party NodeId Node Activity PaxMessage where
  receive node message := perform (onMainThread (PaxController.handleMessage routing · message)) node
  act node activity := perform activity.run node

/-- A node among others in which no timer fires and no value is submitted: only its sending
thread moves of its own accord. -/
def undisturbed (routing : Routing) : Party NodeId Node Bool PaxMessage where
  receive := (party routing).receive
  act node tooSlow := (party routing).act node (.sending tooSlow)

end Cluster
end Paxosme
