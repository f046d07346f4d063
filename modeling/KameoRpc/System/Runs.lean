import KameoRpc.System.Deployment

/-!
# Runs of a deployment

Each component of a deployment runs on its own share of the events, whatever the interleaving:
the notification actor handles the subscribe requests that reach it (`run_notification`), and the
task loop its own iterations (`run_taskLoop`), so the actor-level results hold in every run. A
run pushes once per push-loop iteration whose lookup found a handler
(`length_run_eq_countP_sendsPush`).

The clients' handlers are fed by deliveries, so they are tied to the pushes by an accounting
invariant instead (`PushesConserved`), over the runs the environment can produce
(`Deployment.enabledRun`): no push goes to a client before it starts, and while it runs every
push sent to it is either in flight or counted once by its handler (`run_pushesConserved`).
Delivering every push in flight empties the queue and keeps running clients running
(`run_deliver_all`).
-/

namespace KameoRpc

variable {PeerId ε : Type} [DecidableEq PeerId] [ToString PeerId] (displayF64 : Float → String)

namespace Deployment

@[simp] theorem run_nil (d : Deployment PeerId) :
    d.run displayF64 ([] : List (Event PeerId ε)) = (d, []) :=
  rfl

@[simp] theorem run_cons (d : Deployment PeerId) (e : Event PeerId ε) (es : List (Event PeerId ε)) :
    d.run displayF64 (e :: es) =
      (((d.step displayF64 e).1.run displayF64 es).1,
        (d.step displayF64 e).2 ++ ((d.step displayF64 e).1.run displayF64 es).2) :=
  rfl

theorem enabledRun_cons {d : Deployment PeerId} {e : Event PeerId ε} {es : List (Event PeerId ε)} :
    d.enabledRun displayF64 (e :: es) = true ↔
      d.enabled e = true ∧ (d.step displayF64 e).1.enabledRun displayF64 es = true :=
  Bool.and_eq_true _ _ ▸ Iff.rfl

/-! ## The server's notification actor -/

theorem run_notification (d : Deployment PeerId) (es : List (Event PeerId ε)) :
    (d.run displayF64 es).1.notification =
      (d.notification.handleAll (es.filterMap (·.subscription? d))).1 := by
  induction es generalizing d with
  | nil => rfl
  | cons e es ih =>
    have hsubs : es.filterMap (·.subscription? (d.step displayF64 e).1) =
        es.filterMap (·.subscription? d) :=
      List.filterMap_congr fun e' _ => step_subscription? displayF64 d e e'
    rw [run_cons, ih, hsubs, step_notification, List.filterMap_cons]
    cases e.subscription? d <;> rfl

/-! ## The pushes sent -/

theorem step_taskIds (d : Deployment PeerId) (e : Event PeerId ε) :
    (d.step displayF64 e).2.filterMap Push.taskId? =
      match e.taskIteration? with
      | some (lookup, draw) =>
        (pushTaskCompletion lookup d.taskCounter draw).2.filterMap Push.taskId?
      | none => [] := by
  cases e <;> first | rfl | exact taskIds_pushToHandlers (by simp)

/-- The task loop runs on the task iterations of a run, whatever comes between them. -/
theorem run_taskLoop (d : Deployment PeerId) (es : List (Event PeerId ε)) :
    (d.run displayF64 es).1.taskCounter =
        (taskLoop d.taskCounter (es.filterMap Event.taskIteration?)).1 ∧
      (d.run displayF64 es).2.filterMap Push.taskId? =
        (taskLoop d.taskCounter (es.filterMap Event.taskIteration?)).2.filterMap Push.taskId? := by
  induction es generalizing d with
  | nil => exact ⟨rfl, rfl⟩
  | cons e es ih =>
    obtain ⟨ihCounter, ihIds⟩ := ih (d.step displayF64 e).1
    rw [run_cons, List.filterMap_append, step_taskIds, ihCounter, ihIds, step_taskCounter,
      List.filterMap_cons]
    rcases e.taskIteration? with _ | ⟨lookup, draw⟩
    · exact ⟨rfl, rfl⟩
    · exact ⟨rfl, (List.filterMap_append _ _ _).symm⟩

theorem length_step (d : Deployment PeerId) (e : Event PeerId ε) :
    (d.step displayF64 e).2.length = if e.sendsPush then 1 else 0 := by
  cases e <;> first | rfl | exact length_pushToHandlers _ _

theorem length_step_le (d : Deployment PeerId) (e : Event PeerId ε) :
    (d.step displayF64 e).2.length ≤ 1 := by
  rw [length_step]
  split <;> omega

/-- Fire and forget, exactly once: from any state, a run sends one push for each push-loop
iteration whose lookup found a handler and none for any other event, however many clients are
started or subscribed. -/
theorem length_run_eq_countP_sendsPush (d : Deployment PeerId) (es : List (Event PeerId ε)) :
    (d.run displayF64 es).2.length = es.countP (·.sendsPush) := by
  induction es generalizing d with
  | nil => rfl
  | cons e es ih =>
    rw [run_cons, List.length_append, ih, length_step, List.countP_cons]
    split <;> omega

theorem length_run_le (d : Deployment PeerId) (es : List (Event PeerId ε)) :
    (d.run displayF64 es).2.length ≤ es.length := by
  induction es generalizing d with
  | nil => exact le_rfl
  | cons e es ih =>
    rw [run_cons, List.length_append, List.length_cons]
    have := length_step_le displayF64 d e
    have := ih (d.step displayF64 e).1
    omega

/-! ## Delivering every push in flight -/

omit [ToString PeerId] in
/-- A delivery keeps a running client running. -/
theorem deliver_running {d : Deployment PeerId} {c : PeerId} {handler : ClientNotificationHandler}
    (i : Nat) (hs : d.clientStatus c = .running handler) :
    ∃ handler', (d.deliver i).clientStatus c = .running handler' := by
  simp only [deliver]
  cases d.inFlight[i]? with
  | none => exact ⟨_, hs⟩
  | some p =>
    simp only [deliverPush]
    split
    · exact ⟨_, by rw [hs]; rfl⟩
    · exact ⟨_, hs⟩

/-- Delivering the oldest push in flight once per push in flight is a run the environment can
produce; it empties the queue, sends nothing and keeps every running client running. -/
theorem run_deliver_all (d : Deployment PeerId) :
    let flush : List (Event PeerId ε) := List.replicate d.inFlight.length (.deliver 0)
    d.enabledRun displayF64 flush ∧ (d.run displayF64 flush).1.inFlight = [] ∧
      (d.run displayF64 flush).2 = [] ∧
      ∀ c handler, d.clientStatus c = .running handler →
        ∃ handler', (d.run displayF64 flush).1.clientStatus c = .running handler' := by
  generalize hn : d.inFlight.length = n
  induction n generalizing d with
  | zero => exact ⟨rfl, List.eq_nil_of_length_eq_zero hn, rfl, fun _ h hs => ⟨h, hs⟩⟩
  | succ n ih =>
    have hlen : (d.step displayF64 (.deliver 0 : Event PeerId ε)).1.inFlight.length = n := by
      simp [step, deliver, List.eraseIdx_zero, hn]
    obtain ⟨hen, hempty, hnone, hrunning⟩ := ih _ hlen
    refine ⟨enabledRun_cons displayF64 |>.mpr ⟨rfl, hen⟩, hempty, hnone, fun c h hs => ?_⟩
    obtain ⟨h', hs'⟩ := deliver_running 0 hs
    exact hrunning c h' hs'

/-! ## Pushes to a client are neither lost nor counted twice while it runs -/

omit [ToString PeerId] in
/-- Pushes to client `c` are accounted for, `sent` of them so far. Before `c` starts, none was
sent or is in flight and no handler of its peer is registered; while `c` runs, each is in flight
or counted once by its handler. Once `c` has exited the pushes to it are lost, and nothing is
claimed. -/
def PushesConserved (d : Deployment PeerId) (c : PeerId) (sent : Nat) : Prop :=
  match d.clientStatus c with
  | .notStarted =>
    sent = 0 ∧ d.inFlight.countP (·.addressedTo c) = 0 ∧
      ("client_handler", handlerRef c) ∉ d.registry
  | .running handler =>
    handler.notificationCount.toNat + d.inFlight.countP (·.addressedTo c) = sent
  | .exited => True

private theorem countP_eq_eraseIdx {α : Type} {l : List α} {i : Nat} {a : α} (q : α → Bool)
    (h : l[i]? = some a) : l.countP q = (l.eraseIdx i).countP q + if q a then 1 else 0 := by
  obtain ⟨hi, rfl⟩ := List.getElem?_eq_some.mp h
  conv_lhs => rw [← List.take_append_drop i l, List.drop_eq_getElem_cons hi]
  rw [List.eraseIdx_eq_take_drop_succ, List.countP_append, List.countP_append, List.countP_cons]
  omega

omit [ToString PeerId] in
/-- An enabled push-loop iteration pushes only to handlers registered as `"client_handler"`. -/
theorem registered_of_mem_pushToHandlers {d : Deployment PeerId}
    {lookup : String → Except ε (Option (RemoteActorRef PeerId))} {payload : Notification}
    (hen : (handlerNames.all fun name => d.answers name (lookup name)) = true)
    {p : Push PeerId} (hp : p ∈ pushToHandlers lookup payload) :
    ("client_handler", p.target) ∈ d.registry := by
  rw [pushToHandlers_eq] at hp
  split at hp
  · next actor hlookup =>
    rw [List.mem_singleton.mp hp]
    simpa [handlerNames, answers, hlookup] using hen
  · simp at hp

omit [ToString PeerId] in
theorem push_pushesConserved {d : Deployment PeerId} {c : PeerId} {n : Nat}
    {pushes : List (Push PeerId)} (hreg : ∀ p ∈ pushes, ("client_handler", p.target) ∈ d.registry)
    (hinv : d.PushesConserved c n) :
    (d.push pushes).PushesConserved c (n + pushes.countP (·.addressedTo c)) := by
  unfold PushesConserved at hinv ⊢
  simp only [push, List.countP_append]
  cases hs : d.clientStatus c with
  | notStarted =>
    simp only [hs] at hinv ⊢
    obtain ⟨rfl, h0, hnot⟩ := hinv
    have hnone : pushes.countP (·.addressedTo c) = 0 :=
      List.countP_eq_zero.mpr fun p hp ha => hnot (addressedTo_iff.mp ha ▸ hreg p hp)
    exact ⟨by omega, by omega, hnot⟩
  | running h => simp only [hs] at hinv ⊢; omega
  | exited => trivial

/-- A startup sends nothing, and the client it starts, which had not started, runs with a fresh
handler or has exited. -/
theorem startClient_pushesConserved {d : Deployment PeerId} {c client : PeerId} {n : Nat}
    {register : Except ε Unit} {lookupNotification : Except ε (Option (RemoteActorRef PeerId))}
    {ask : AskOutcome ε} (hstart : d.clientStatus client = .notStarted)
    (hinv : d.PushesConserved c n) :
    (d.startClient client register lookupNotification ask).PushesConserved c n := by
  cases hn : d.clientNames client with
  | none => rwa [startClient_of_none d hn]
  | some name =>
    rw [startClient_eq d hn]
    unfold PushesConserved at hinv ⊢
    by_cases hc : c = client
    · subst hc
      simp only [hstart] at hinv
      obtain ⟨rfl, h0, -⟩ := hinv
      simp only [if_true]
      cases hr : subscribeToPushServices name c register lookupNotification
        (fun _ _ => ask.result "") with
      | error => trivial
      | ok h =>
        simp only [ClientStatus.ofResult, subscribeToPushServices_handler hr]
        simpa [ClientNotificationHandler.new] using h0
    · simp only [hc, if_false]
      cases hs : d.clientStatus c with
      | notStarted =>
        simp only [hs] at hinv ⊢
        have hne : handlerRef c ≠ handlerRef client := fun h => hc (handlerRef_inj h)
        refine ⟨hinv.1, hinv.2.1, ?_⟩
        cases register <;> simp [hinv.2.2, hne]
      | running => simpa only [hs] using hinv
      | exited => trivial

omit [ToString PeerId] in
theorem deliver_pushesConserved {d : Deployment PeerId} {c : PeerId} {n : Nat} (i : Nat)
    (hinv : d.PushesConserved c n) (hfit : n < UInt64.size) :
    (d.deliver i).PushesConserved c n := by
  unfold PushesConserved at hinv ⊢
  cases hp : d.inFlight[i]? with
  | none =>
    have herase := List.eraseIdx_of_length_le (List.getElem?_eq_none_iff.mp hp)
    simpa only [deliver, hp, herase] using hinv
  | some p =>
    have hcount := countP_eq_eraseIdx (·.addressedTo c) hp
    simp only [deliver, hp, deliverPush]
    by_cases ha : p.addressedTo c
    · simp only [ha, if_true] at hcount ⊢
      cases hs : d.clientStatus c with
      | notStarted => simp only [hs] at hinv; omega
      | running h =>
        simp only [hs] at hinv
        have hnext : (h.notificationCount + 1).toNat = h.notificationCount.toNat + 1 :=
          UInt64.toNat_add_one_of_lt (by omega)
        simp only [ClientStatus.handle, ClientNotificationHandler.handle_eq,
          ClientNotificationHandler.countNotification_notificationCount, hnext]
        omega
      | exited => trivial
    · simp only [ha, Bool.false_eq_true, if_false, Nat.add_zero] at hcount ⊢
      rwa [← hcount]

theorem step_pushesConserved {d : Deployment PeerId} {c : PeerId} {n : Nat} {e : Event PeerId ε}
    (hen : d.enabled e = true) (hinv : d.PushesConserved c n) (hfit : n < UInt64.size) :
    (d.step displayF64 e).1.PushesConserved c
      (n + (d.step displayF64 e).2.countP (·.addressedTo c)) := by
  cases e with
  | startClient client register lookupNotification ask =>
    simp only [enabled, Bool.and_eq_true, beq_iff_eq] at hen
    exact startClient_pushesConserved hen.1 hinv
  | demoRound => exact hinv
  | deliver i => exact deliver_pushesConserved i hinv hfit
  | _ => exact push_pushesConserved (fun _ hp => registered_of_mem_pushToHandlers hen hp) hinv

theorem run_pushesConserved {d : Deployment PeerId} {c : PeerId} {n : Nat}
    {es : List (Event PeerId ε)} (hen : d.enabledRun displayF64 es = true)
    (hinv : d.PushesConserved c n)
    (hfit : n + (d.run displayF64 es).2.countP (·.addressedTo c) < UInt64.size) :
    (d.run displayF64 es).1.PushesConserved c
      (n + (d.run displayF64 es).2.countP (·.addressedTo c)) := by
  induction es generalizing d n with
  | nil => simpa using hinv
  | cons e es ih =>
    obtain ⟨he, hrest⟩ := (enabledRun_cons displayF64).mp hen
    rw [run_cons, List.countP_append] at hfit ⊢
    rw [← Nat.add_assoc]
    exact ih hrest (step_pushesConserved displayF64 he hinv (by omega)) (by omega)

end Deployment

end KameoRpc
