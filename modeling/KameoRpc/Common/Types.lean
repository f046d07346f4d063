import Mathlib.Data.List.AList

/-!
# Messages and records of the intranet services

The data types of `intranet_common.rs`: the four calculator requests and their reply, the push
payloads and their enumerations, the subscribe request and the subscription row `ClientInfo`.
A `PeerId` is a type parameter throughout: the services compare peer ids for equality, key a
table by them and print them with `Display`, and nothing else.

From kameo only the part of an actor reference the client reads is kept: `id().peer_id()`.

Rust's `f64` is Lean's `Float` (both IEEE 754 binary64). The `f32` usage figures of
`ServerStatusUpdate` are only logged; they are kept as `Float`.
-/

namespace KameoRpc

/-- `StreamType`: the categories of streamed data a client can subscribe to. -/
inductive StreamType
  | serverMetrics
  | calculationHistory
  | systemEvents
  deriving DecidableEq, Repr

/-- `Severity` of an `EventBroadcast`. -/
inductive Severity
  | info
  | warning
  | error
  deriving DecidableEq, Repr

/-! ## Calculator requests -/

/-- The fields shared by `AddRequest`, `SubtractRequest`, `MultiplyRequest` and
`DivideRequest`: two operands and the caller's peer id and display name. -/
structure OperandRequest (PeerId : Type) where
  a : Float
  b : Float
  fromPeer : PeerId
  fromName : String

/-- `AddRequest`. -/
abbrev AddRequest := OperandRequest

/-- `SubtractRequest`. -/
abbrev SubtractRequest := OperandRequest

/-- `MultiplyRequest`. -/
abbrev MultiplyRequest := OperandRequest

/-- `DivideRequest`. -/
abbrev DivideRequest := OperandRequest

/-- `CalcResponse = (f64, String, String)`: the result, the expression text and the serving
server's name. -/
abbrev CalcResponse := Float × String × String

/-! ## Push payloads -/

/-- `ServerStatusUpdate`. -/
structure ServerStatusUpdate where
  timestamp : UInt64
  cpuUsage : Float
  memoryUsage : Float
  activeConnections : USize
  uptimeSeconds : UInt64

/-- `TaskCompletionNotice`. -/
structure TaskCompletionNotice where
  taskId : String
  taskType : String
  result : String
  durationMs : UInt64
  timestamp : UInt64
  deriving DecidableEq, Repr

/-- `StreamDataItem`. -/
structure StreamDataItem where
  timestamp : UInt64
  streamType : StreamType
  data : String
  sequence : UInt64
  deriving DecidableEq, Repr

/-- `EventBroadcast`. -/
structure EventBroadcast where
  eventType : String
  message : String
  severity : Severity
  timestamp : UInt64
  deriving DecidableEq, Repr

/-- The push payloads a `ClientNotificationHandler` has a `Message` impl for, as one closed sum. -/
inductive Notification
  | serverStatusUpdate (msg : ServerStatusUpdate)
  | taskCompletionNotice (msg : TaskCompletionNotice)
  | eventBroadcast (msg : EventBroadcast)
  | streamDataItem (msg : StreamDataItem)

/-! ## Subscriptions -/

/-- `SubscribeDataStream`: a client asks the notification service for a stream. -/
structure SubscribeDataStream (PeerId : Type) where
  clientPeer : PeerId
  clientName : String
  streamType : StreamType
  deriving DecidableEq, Repr

/-- `ClientInfo`, the row the notification service keeps per client peer. The `actor_id`
placeholder (`ActorId::new(0)`) and the `connected_at` clock reading are written and never
read, and are left out. -/
structure ClientInfo (PeerId : Type) where
  peerId : PeerId
  name : String
  subscribedStreams : List StreamType
  deriving DecidableEq, Repr

/-! ## Actor references -/

/-- kameo's `ActorId`, as far as the client reads it: `peer_id()`, the peer the actor lives on. -/
structure ActorId (PeerId : Type) where
  peerId : Option PeerId
  deriving DecidableEq, Repr

/-- kameo's `RemoteActorRef<A>`, as far as the client reads it: its `id()`. -/
structure RemoteActorRef (PeerId : Type) where
  id : ActorId PeerId
  deriving DecidableEq, Repr

end KameoRpc
