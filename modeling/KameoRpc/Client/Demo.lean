import KameoRpc.Client.Discovery
import KameoRpc.Client.NotificationHandler
import KameoRpc.Common.Calculator

/-!
# The client's startup and demo rounds

`subscribe_to_push_services` spawns the client's `ClientNotificationHandler`, registers it under
`"client_handler"`, looks up `"notification"` and, when that finds the server's
`NotificationActor`, asks it for the `ServerMetrics` stream. A lookup that finds nothing is
logged and the client goes on without pushes; every error is returned with `?`.

Each round of `run_demo_mode` finds a calculator with `find_calculator_service`, skips the round
(`continue`) when there is none, and otherwise sends the five predefined calculations, dispatching
on their operation names.

The registry's answers and the outcome of each remote call (`AskOutcome`) are inputs. Each
`execute_*` logs its call's result, whatever it is, and the round goes on.
`subscribe_to_push_services` is written over the monad its remote calls run in: a client alone
runs it in `Except`, and a deployment runs the same function against its whole state
(`Deployment.startClient`).
-/

namespace KameoRpc

variable {PeerId ε : Type}

/-- The `SubscribeDataStream` the client sends: its own peer id and name, `ServerMetrics`. -/
def subscribeRequest (clientName : String) (localPeerId : PeerId) : SubscribeDataStream PeerId where
  clientPeer := localPeerId
  clientName := clientName
  streamType := .serverMetrics

/-- What became of a remote `ask`: the request never reached the actor, or the actor handled it
and its reply came back (`ok`) or was lost (`error`). Either error is the `Err` of the `ask`. -/
inductive AskOutcome (ε : Type)
  | undelivered (e : ε)
  | handled (reply : Except ε Unit)

/-- The actor handled the request. -/
def AskOutcome.handled? : AskOutcome ε → Bool
  | .handled _ => true
  | .undelivered _ => false

/-- The `ask` as the caller sees it, with the actor's `reply` when it came back. -/
def AskOutcome.result {α : Type} (reply : α) : AskOutcome ε → Except ε α
  | .undelivered e | .handled (.error e) => .error e
  | .handled (.ok ()) => .ok reply

/-- `subscribe_to_push_services`, over the monad `m` its remote calls run in: `register` is
`register("client_handler")`, `lookupNotification` is `lookup("notification")` and `ask` the
subscribe call. The bind of `m` is the `?` that returns each error. -/
def subscribeToPushServices {m : Type → Type} [Monad m] (clientName : String)
    (localPeerId : PeerId) (register : m Unit)
    (lookupNotification : m (Option (RemoteActorRef PeerId)))
    (ask : RemoteActorRef PeerId → SubscribeDataStream PeerId → m String) :
    m ClientNotificationHandler := do
  let handler := ClientNotificationHandler.new clientName
  register
  match ← lookupNotification with
  | none => pure handler
  | some notificationActor =>
    let _subscriptionId ← ask notificationActor (subscribeRequest clientName localPeerId)
    pure handler

/-- The subscribe call reaches the notification actor: the handler was registered, the lookup
found the actor and the actor handled the request. -/
def subscribeReaches : Except ε Unit → Except ε (Option (RemoteActorRef PeerId)) → AskOutcome ε →
    Bool
  | .ok (), .ok (some _), .handled _ => true
  | _, _, _ => false

/-- Whatever the outcomes, a startup that succeeds returns the fresh handler it spawned. -/
theorem subscribeToPushServices_handler {clientName : String} {localPeerId : PeerId}
    {register : Except ε Unit} {lookupNotification : Except ε (Option (RemoteActorRef PeerId))}
    {ask : RemoteActorRef PeerId → SubscribeDataStream PeerId → Except ε String}
    {handler : ClientNotificationHandler}
    (h : subscribeToPushServices clientName localPeerId register lookupNotification ask =
      .ok handler) :
    handler = .new clientName := by
  rcases register with _ | ⟨⟩
  · cases h
  rcases lookupNotification with _ | _ | a
  · cases h
  · exact (Except.ok.inj h).symm
  · cases hask : ask a (subscribeRequest clientName localPeerId) <;>
      simp only [subscribeToPushServices, hask, bind, Except.bind, pure, Except.pure] at h
    · cases h
    · exact (Except.ok.inj h).symm

/-! ## Demo rounds -/

/-- `calculations`: the operation name and the operands of each predefined calculation. -/
def calculations : List (String × Float × Float) :=
  [("加法", 15.0, 25.0), ("减法", 100.0, 35.0), ("乘法", 12.5, 8.0), ("除法", 144.0, 12.0),
    ("除法", 100.0, 0.0)]

/-- The `match op_name` of a round: the request a calculation sends, none for another name. -/
def calculationRequest (clientName : String) (localPeerId : PeerId) :
    String × Float × Float → Option (CalcRequest PeerId)
  | ("加法", a, b) => some (.add ⟨a, b, localPeerId, clientName⟩)
  | ("减法", a, b) => some (.subtract ⟨a, b, localPeerId, clientName⟩)
  | ("乘法", a, b) => some (.multiply ⟨a, b, localPeerId, clientName⟩)
  | ("除法", a, b) => some (.divide ⟨a, b, localPeerId, clientName⟩)
  | _ => none

/-- One round of `run_demo_mode`: the calculator found and the requests sent to it, in order, or
nothing when the round is skipped. -/
def demoRound (clientName : String) [DecidableEq PeerId] (localPeerId : PeerId)
    (calculators : List (Except ε (RemoteActorRef PeerId))) :
    Option (RemoteActorRef PeerId × List (CalcRequest PeerId)) :=
  (findCalculatorService localPeerId calculators).map fun calculator =>
    (calculator, calculations.filterMap (calculationRequest clientName localPeerId))

end KameoRpc
