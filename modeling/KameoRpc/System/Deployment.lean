import KameoRpc.Common.Notification
import KameoRpc.Server.Push
import KameoRpc.Client.Demo

/-!
# A deployment: one server and its clients

The server process of `intranet_server.rs` runs a `CalculatorActor`, a `NotificationActor` and the
three push loops, of which only the task loop keeps state (`task_counter`). A client process of
`intranet_client.rs` starts with `subscribe_to_push_services`, which spawns and registers its
`ClientNotificationHandler` and subscribes, and then runs demo rounds; when that call returns an
error, `main` returns it and the process exits, its handler with it. A `Deployment` is the state
of all of them, with kameo's registry and the pushes in flight.

The transport is the environment. An `Event` says which task moves next and carries the
environment's answers: the outcome of each remote call, the `lookup_all` stream a demo round
walks, the registry's answer to each lookup, the draws of an iteration. The step is total;
`Deployment.enabled` says which answers kameo and libp2p can give in a state (a lookup answers
only with a registered actor, a peer starts one client process), and the results that depend on
it hold over the runs made of enabled events (`Deployment.enabledRun`). A push is a `tell`: a
push step puts it in flight, and a `deliver` step hands any push in flight to the handler of the
running client it is addressed to, or loses it.

A startup runs `subscribe_to_push_services` itself, in `ExceptT ε (StateM (Deployment PeerId))`:
its `register` writes the registry and its subscribe call reaches the notification actor, so
both effects and the client's status come from the one function (`Deployment.startClient_eq`).
Each step changes a few parts of the state, and the step lemmas below say which: the later
proofs cite them and never unfold `Deployment.step`.
-/

namespace KameoRpc

variable {PeerId ε : Type} [DecidableEq PeerId]

/-- Where the client process on a peer is: not started yet, running demo rounds with its handler,
or exited because `main` returned an error, its handler stopped with it. -/
inductive ClientStatus
  | notStarted
  | running (handler : ClientNotificationHandler)
  | exited
  deriving DecidableEq, Repr

/-- The status `main` leaves a client in once `subscribe_to_push_services` has returned. -/
def ClientStatus.ofResult : Except ε ClientNotificationHandler → ClientStatus
  | .ok handler => .running handler
  | .error _ => .exited

/-- A push reaches a client: the handler of a running client handles it; otherwise it is lost. -/
def ClientStatus.handle (payload : Notification) : ClientStatus → ClientStatus
  | .running handler => .running (handler.handle payload)
  | status => status

/-- The actor ref of the handler the client on `client` registers. -/
def handlerRef (client : PeerId) : RemoteActorRef PeerId := ⟨⟨some client⟩⟩

/-- The state of a deployment. -/
structure Deployment (PeerId : Type) where
  serverPeer : PeerId
  calculator : CalculatorActor
  notification : NotificationActor PeerId
  taskCounter : UInt64
  /-- The `--name` of the client process of each peer that runs one. -/
  clientNames : PeerId → Option String
  clientStatus : PeerId → ClientStatus
  /-- kameo's registry: every successful `register(name)`, in order. -/
  registry : List (String × RemoteActorRef PeerId)
  inFlight : List (Push PeerId)

/-- The deployment once the server's `main` has registered its actors under `"calculator"` and
`"notification"`: fresh server actors, `task_counter = 1`, nothing in flight, and a client
process due on each peer `clients` names, none started yet. -/
def Deployment.init (serverPeer : PeerId) (serverName : String) (clients : PeerId → Option String) :
    Deployment PeerId where
  serverPeer := serverPeer
  calculator := .new serverName
  notification := .new serverName
  taskCounter := 1
  clientNames := clients
  clientStatus := fun _ => .notStarted
  registry := [("calculator", ⟨⟨some serverPeer⟩⟩), ("notification", ⟨⟨some serverPeer⟩⟩)]
  inFlight := []

/-- What happens next, with the environment's answers. -/
inductive Event (PeerId ε : Type)
  /-- The client process on `client` starts: `main` runs `subscribe_to_push_services` with the
  outcome of `register("client_handler")`, the answer to `lookup("notification")` and the fate
  of the subscribe call. -/
  | startClient (client : PeerId) (register : Except ε Unit)
      (lookupNotification : Except ε (Option (RemoteActorRef PeerId))) (ask : AskOutcome ε)
  /-- `client` runs a demo round over the `lookup_all("calculator")` stream `calculators`; the
  round's `i`-th call has the fate `asks i`. -/
  | demoRound (client : PeerId) (calculators : List (Except ε (RemoteActorRef PeerId)))
      (asks : Nat → AskOutcome ε)
  /-- An iteration of `push_server_status_loop`. -/
  | pushServerStatus (lookup : String → Except ε (Option (RemoteActorRef PeerId)))
      (timestamp : UInt64) (cpuUsage memoryUsage : Float)
  /-- An iteration of `push_task_completion_loop`. -/
  | pushTaskCompletion (lookup : String → Except ε (Option (RemoteActorRef PeerId)))
      (draw : TaskDraw)
  /-- An iteration of `broadcast_system_events_loop`. -/
  | pushSystemEvent (lookup : String → Except ε (Option (RemoteActorRef PeerId)))
      (eventIdx : Fin eventTypes.length) (timestamp : UInt64)
  /-- The push at position `i` in flight reaches its target. -/
  | deliver (i : Nat)

/-- A push is addressed to the handler on peer `c`. -/
def Push.addressedTo (c : PeerId) (p : Push PeerId) : Bool :=
  p.target.id.peerId = some c

/-- The remote calls of a client's startup, run against the whole deployment: each may fail. -/
abbrev Startup (PeerId ε : Type) := ExceptT ε (StateM (Deployment PeerId))

namespace Deployment

/-- `register("client_handler")` of the handler on `client`, with its outcome. -/
def registerHandler (client : PeerId) : Except ε Unit → Startup PeerId ε Unit
  | .ok () =>
    modify fun d => { d with registry := d.registry ++ [("client_handler", handlerRef client)] }
  | .error e => throw e

/-- The subscribe call, with its fate: the request reaches the deployment's one
`NotificationActor`, the server's, and is handled there, or is lost on the way. -/
def askNotification [ToString PeerId] (ask : AskOutcome ε)
    (_notificationActor : RemoteActorRef PeerId) (request : SubscribeDataStream PeerId) :
    Startup PeerId ε String :=
  match ask with
  | .undelivered e => throw e
  | .handled reply => do
    let subscriptionId ← modifyGet fun d =>
      ((d.notification.handle request).2,
        { d with notification := (d.notification.handle request).1 })
    liftExcept (reply.map fun () => subscriptionId)

/-- The client process on `client` starts: `subscribe_to_push_services` runs against the
deployment, and the client runs on with the handler it returns, or `main` returns its error and
the process exits. A peer with no client process is left as it is. -/
def startClient [ToString PeerId] (d : Deployment PeerId) (client : PeerId)
    (register : Except ε Unit) (lookupNotification : Except ε (Option (RemoteActorRef PeerId)))
    (ask : AskOutcome ε) : Deployment PeerId :=
  match d.clientNames client with
  | none => d
  | some name =>
    let (result, d') := ((subscribeToPushServices name client (registerHandler client register)
      (liftExcept lookupNotification) (askNotification ask)).run).run d
    { d' with clientStatus := fun c => if c = client then .ofResult result else d'.clientStatus c }

/-- The requests of a demo round of `client` that the server's calculator handles: those whose
call reached it, when the client runs and the round found the calculator on the server's peer;
none when the round was skipped or found another peer's calculator. -/
def servedRequests (d : Deployment PeerId) (client : PeerId)
    (calculators : List (Except ε (RemoteActorRef PeerId))) (asks : Nat → AskOutcome ε) :
    List (CalcRequest PeerId) :=
  match d.clientStatus client, d.clientNames client with
  | .running _, some name =>
    match demoRound name client calculators with
    | some (calculator, requests) =>
      if calculator.id.peerId = some d.serverPeer then
        (requests.enum.filter fun r => (asks r.1).handled?).map (·.2)
      else []
    | none => []
  | _, _ => []

/-- A client's demo round, as the server sees it. -/
def runDemoRound (d : Deployment PeerId) (displayF64 : Float → String) (client : PeerId)
    (calculators : List (Except ε (RemoteActorRef PeerId))) (asks : Nat → AskOutcome ε) :
    Deployment PeerId :=
  { d with
    calculator := d.calculator.handleAll displayF64 (d.servedRequests client calculators asks) }

/-- Pushes put in flight. -/
def push (d : Deployment PeerId) (pushes : List (Push PeerId)) : Deployment PeerId :=
  { d with inFlight := d.inFlight ++ pushes }

/-- The clients after the one `p` is addressed to has received it. -/
def deliverPush (clientStatus : PeerId → ClientStatus) (p : Push PeerId) :
    PeerId → ClientStatus :=
  fun c => if p.addressedTo c then (clientStatus c).handle p.payload else clientStatus c

/-- The push at position `i` in flight, if there is one, reaches its target. -/
def deliver (d : Deployment PeerId) (i : Nat) : Deployment PeerId :=
  { d with
    inFlight := d.inFlight.eraseIdx i
    clientStatus :=
      match d.inFlight[i]? with
      | some p => deliverPush d.clientStatus p
      | none => d.clientStatus }

variable [ToString PeerId] (displayF64 : Float → String)

/-- One event: the next state and the pushes it sent. -/
def step (d : Deployment PeerId) : Event PeerId ε → Deployment PeerId × List (Push PeerId)
  | .startClient client register lookupNotification ask =>
    (d.startClient client register lookupNotification ask, [])
  | .demoRound client calculators asks => (d.runDemoRound displayF64 client calculators asks, [])
  | .pushServerStatus lookup timestamp cpuUsage memoryUsage =>
    (d.push (pushServerStatus lookup timestamp cpuUsage memoryUsage),
      pushServerStatus lookup timestamp cpuUsage memoryUsage)
  | .pushTaskCompletion lookup draw =>
    ({ d.push (pushTaskCompletion lookup d.taskCounter draw).2 with
        taskCounter := (pushTaskCompletion lookup d.taskCounter draw).1 },
      (pushTaskCompletion lookup d.taskCounter draw).2)
  | .pushSystemEvent lookup eventIdx timestamp =>
    (d.push (pushSystemEvent lookup eventIdx timestamp), pushSystemEvent lookup eventIdx timestamp)
  | .deliver i => (d.deliver i, [])

/-- A run: the final state and every push sent, in order. -/
def run (d : Deployment PeerId) : List (Event PeerId ε) → Deployment PeerId × List (Push PeerId)
  | [] => (d, [])
  | e :: es =>
    (((d.step displayF64 e).1.run es).1,
      (d.step displayF64 e).2 ++ ((d.step displayF64 e).1.run es).2)

/-! ## What the environment promises -/

omit [ToString PeerId] in
/-- A lookup of `name` may give this answer: an error, nothing, or an actor registered under
`name`. -/
def answers (d : Deployment PeerId) (name : String) :
    Except ε (Option (RemoteActorRef PeerId)) → Bool
  | .ok (some actor) => decide ((name, actor) ∈ d.registry)
  | _ => true

omit [ToString PeerId] in
/-- What kameo and libp2p promise about an event's answers: a lookup answers only with an actor
registered under the name it looks up, `lookup_all` streams only such actors, and a peer's
client process starts once, since every process gets a new identity. -/
def enabled (d : Deployment PeerId) : Event PeerId ε → Bool
  | .startClient client _ lookupNotification _ =>
    d.clientStatus client == .notStarted && d.answers "notification" lookupNotification
  | .demoRound _ calculators _ => calculators.all fun item => d.answers "calculator" (item.map some)
  | .pushServerStatus lookup .. | .pushTaskCompletion lookup _ | .pushSystemEvent lookup .. =>
    handlerNames.all fun name => d.answers name (lookup name)
  | .deliver _ => true

/-- Every event of the run is enabled in the state it comes to. -/
def enabledRun (d : Deployment PeerId) : List (Event PeerId ε) → Bool
  | [] => true
  | e :: es => d.enabled e && (d.step displayF64 e).1.enabledRun es

end Deployment

/-! ## What one event brings to each component -/

omit [DecidableEq PeerId] in
/-- The subscribe request an event brings to the notification actor. -/
def Event.subscription? (d : Deployment PeerId) :
    Event PeerId ε → Option (SubscribeDataStream PeerId)
  | .startClient client register lookupNotification ask =>
    if subscribeReaches register lookupNotification ask then
      (d.clientNames client).map (subscribeRequest · client)
    else none
  | _ => none

omit [DecidableEq PeerId] in
/-- The task loop iteration an event is. -/
def Event.taskIteration? :
    Event PeerId ε → Option ((String → Except ε (Option (RemoteActorRef PeerId))) × TaskDraw)
  | .pushTaskCompletion lookup draw => some (lookup, draw)
  | _ => none

omit [DecidableEq PeerId] in
/-- The event is an iteration of a push loop whose registry lookup found a handler. -/
def Event.sendsPush : Event PeerId ε → Bool
  | .pushServerStatus lookup .. | .pushTaskCompletion lookup _ | .pushSystemEvent lookup .. =>
    foundHandler lookup
  | _ => false

namespace Deployment

/-! ## A client's startup -/

omit [DecidableEq PeerId] in
theorem handlerRef_inj {c c' : PeerId} (h : handlerRef c = handlerRef c') : c = c' := by
  simpa [handlerRef] using h

theorem addressedTo_iff {c : PeerId} {p : Push PeerId} :
    p.addressedTo c ↔ p.target = handlerRef c := by
  rcases p with ⟨⟨⟨peer⟩⟩, _⟩
  simp [Push.addressedTo, handlerRef]

variable [ToString PeerId]

/-- A startup, all at once: the notification actor handles the subscribe request when it
reaches it, the registry holds the handler when `register` succeeded, and the client's status
is what `subscribe_to_push_services` returns when it runs on the answers alone. -/
theorem startClient_eq (d : Deployment PeerId) {client : PeerId} {name : String}
    (hn : d.clientNames client = some name) (register : Except ε Unit)
    (lookupNotification : Except ε (Option (RemoteActorRef PeerId))) (ask : AskOutcome ε) :
    d.startClient client register lookupNotification ask =
      { d with
        notification :=
          if subscribeReaches register lookupNotification ask then
            (d.notification.handle (subscribeRequest name client)).1
          else d.notification
        registry :=
          match register with
          | .ok () => d.registry ++ [("client_handler", handlerRef client)]
          | .error _ => d.registry
        clientStatus := fun c =>
          if c = client then
            .ofResult (subscribeToPushServices name client register lookupNotification
              fun _ _ => ask.result "")
          else d.clientStatus c } := by
  simp only [startClient, hn]
  rcases register with _ | ⟨⟩ <;> rcases lookupNotification with _ | _ | _ <;>
    rcases ask with _ | _ | ⟨⟩ <;> rfl

theorem startClient_of_none (d : Deployment PeerId) {client : PeerId}
    (hn : d.clientNames client = none) (register : Except ε Unit)
    (lookupNotification : Except ε (Option (RemoteActorRef PeerId))) (ask : AskOutcome ε) :
    d.startClient client register lookupNotification ask = d := by
  simp only [startClient, hn]

/-- A startup touches the subscription table, the registry and the clients' status only. -/
theorem startClient_frame (d : Deployment PeerId) (client : PeerId) (register : Except ε Unit)
    (lookupNotification : Except ε (Option (RemoteActorRef PeerId))) (ask : AskOutcome ε) :
    ∃ notification registry clientStatus,
      d.startClient client register lookupNotification ask =
        { d with notification, registry, clientStatus } := by
  cases hn : d.clientNames client with
  | none => exact ⟨_, _, _, startClient_of_none d hn ..⟩
  | some name => exact ⟨_, _, _, startClient_eq d hn ..⟩

/-! ## What each step changes -/

variable (displayF64 : Float → String)

@[simp] theorem step_clientNames (d : Deployment PeerId) (e : Event PeerId ε) :
    (d.step displayF64 e).1.clientNames = d.clientNames := by
  cases e with
  | startClient client register lookupNotification ask =>
    obtain ⟨_, _, _, h⟩ := startClient_frame d client register lookupNotification ask
    simp only [step, h]
  | _ => rfl

theorem step_subscription? (d : Deployment PeerId) (e e' : Event PeerId ε) :
    e'.subscription? (d.step displayF64 e).1 = e'.subscription? d := by
  cases e' <;> simp [Event.subscription?]

theorem step_notification (d : Deployment PeerId) (e : Event PeerId ε) :
    (d.step displayF64 e).1.notification =
      match e.subscription? d with
      | some m => (d.notification.handle m).1
      | none => d.notification := by
  cases e with
  | startClient client register lookupNotification ask =>
    cases hn : d.clientNames client with
    | none => simp [step, startClient_of_none d hn, Event.subscription?, hn]
    | some name =>
      simp only [step, startClient_eq d hn, Event.subscription?, hn]
      split <;> rfl
  | _ => rfl

theorem step_taskCounter (d : Deployment PeerId) (e : Event PeerId ε) :
    (d.step displayF64 e).1.taskCounter =
      match e.taskIteration? with
      | some (lookup, draw) => (pushTaskCompletion lookup d.taskCounter draw).1
      | none => d.taskCounter := by
  cases e with
  | startClient client register lookupNotification ask =>
    obtain ⟨_, _, _, h⟩ := startClient_frame d client register lookupNotification ask
    simp only [step, h, Event.taskIteration?]
  | _ => rfl

end Deployment

end KameoRpc
