import KameoRpc.Format.Decimal
import KameoRpc.Common.Types

/-!
# The server's push loops

`start_push_services` of `intranet_server.rs` spawns three loops: a server status every 5 s, a
task completion notice every 10 s and a system event every 15 s. One iteration builds one payload
from the clock and random draws, then, for each name of `handler_names = vec!["client_handler"]`,
looks the name up in the registry and, on `Ok(Some(client_handler))`, sends the payload with
`tell` and drops the result.

The timers, the clock, the random draws and the registry are inputs: an iteration takes the
registry's answer for every name (`lookup`) and its draws; a deployment ties those answers to
the registry it keeps (`Deployment.enabled`). None of the loops reads the `NotificationActor` it
is handed: where pushes go depends on the registry alone.

Results: an iteration sends at most one push, to the handler the lookup found
(`pushToHandlers_eq`); the task loop pushes the id of iteration `i` exactly when its lookup finds
a handler (`taskIds_taskLoop`), so it never repeats a task id (`taskLoop_taskIds_nodup`).
-/

namespace KameoRpc

variable {PeerId ε : Type}

/-- A push sent with `tell`: the handler it is addressed to and the payload. -/
structure Push (PeerId : Type) where
  target : RemoteActorRef PeerId
  payload : Notification

/-- `handler_names`. -/
def handlerNames : List String := ["client_handler"]

/-- The `for handler_name in handler_names` loop of every iteration: one push per name whose
`RemoteActorRef::<ClientNotificationHandler>::lookup` yields `Ok(Some(_))`. -/
def pushToHandlers (lookup : String → Except ε (Option (RemoteActorRef PeerId)))
    (payload : Notification) : List (Push PeerId) :=
  handlerNames.filterMap fun name =>
    match lookup name with
    | .ok (some clientHandler) => some ⟨clientHandler, payload⟩
    | _ => none

/-- The `if let Ok(Some(client_handler))` of the loop holds for some name: the iteration pushes. -/
def foundHandler (lookup : String → Except ε (Option (RemoteActorRef PeerId))) : Bool :=
  handlerNames.any fun name =>
    match lookup name with
    | .ok (some _) => true
    | _ => false

/-- One lookup, of `"client_handler"`, and at most one push. -/
theorem pushToHandlers_eq (lookup : String → Except ε (Option (RemoteActorRef PeerId)))
    (payload : Notification) :
    pushToHandlers lookup payload =
      match lookup "client_handler" with
      | .ok (some clientHandler) => [⟨clientHandler, payload⟩]
      | _ => [] := by
  simp only [pushToHandlers, handlerNames, List.filterMap_cons, List.filterMap_nil]
  rcases lookup "client_handler" with _ | _ | _ <;> rfl

theorem length_pushToHandlers (lookup : String → Except ε (Option (RemoteActorRef PeerId)))
    (payload : Notification) :
    (pushToHandlers lookup payload).length = if foundHandler lookup then 1 else 0 := by
  simp only [pushToHandlers_eq, foundHandler, handlerNames, List.any_cons, List.any_nil,
    Bool.or_false]
  rcases lookup "client_handler" with _ | _ | _ <;> rfl

theorem payload_of_mem_pushToHandlers {lookup : String → Except ε (Option (RemoteActorRef PeerId))}
    {payload : Notification} {p : Push PeerId} (h : p ∈ pushToHandlers lookup payload) :
    p.payload = payload := by
  rw [pushToHandlers_eq] at h
  split at h <;> simp_all

/-! ## Server status -/

/-- The `ServerStatusUpdate` of an iteration of `push_server_status_loop`. -/
def serverStatus (timestamp : UInt64) (cpuUsage memoryUsage : Float) : ServerStatusUpdate where
  timestamp := timestamp
  cpuUsage := cpuUsage
  memoryUsage := memoryUsage
  activeConnections := 1
  uptimeSeconds := 0

/-- One iteration of `push_server_status_loop`. -/
def pushServerStatus (lookup : String → Except ε (Option (RemoteActorRef PeerId)))
    (timestamp : UInt64) (cpuUsage memoryUsage : Float) : List (Push PeerId) :=
  pushToHandlers lookup (.serverStatusUpdate (serverStatus timestamp cpuUsage memoryUsage))

/-! ## Task completion notices -/

/-- `task_types`. -/
def taskTypes : List String := ["计算任务", "数据处理", "文件上传", "报告生成"]

/-- `format!("task-{:04}", task_counter)`. -/
def taskId (taskCounter : UInt64) : String :=
  "task-" ++ zeroPad 4 (toString taskCounter)

/-- The draws of an iteration of `push_task_completion_loop`: the task type index, the duration
from `gen_range(100..5000)` and the clock reading. -/
structure TaskDraw where
  taskTypeIdx : Fin taskTypes.length
  durationMs : UInt64
  durationMs_range : 100 ≤ durationMs.toNat ∧ durationMs.toNat < 5000
  timestamp : UInt64

/-- The `TaskCompletionNotice` of an iteration. -/
def taskCompletionNotice (taskCounter : UInt64) (draw : TaskDraw) : TaskCompletionNotice where
  taskId := taskId taskCounter
  taskType := taskTypes.get draw.taskTypeIdx
  result := "成功完成"
  durationMs := draw.durationMs
  timestamp := draw.timestamp

/-- One iteration of `push_task_completion_loop`: the pushes, then `task_counter += 1`. -/
def pushTaskCompletion (lookup : String → Except ε (Option (RemoteActorRef PeerId)))
    (taskCounter : UInt64) (draw : TaskDraw) : UInt64 × List (Push PeerId) :=
  (taskCounter + 1,
    pushToHandlers lookup (.taskCompletionNotice (taskCompletionNotice taskCounter draw)))

@[simp] theorem pushTaskCompletion_fst (lookup : String → Except ε (Option (RemoteActorRef PeerId)))
    (taskCounter : UInt64) (draw : TaskDraw) :
    (pushTaskCompletion lookup taskCounter draw).1 = taskCounter + 1 :=
  rfl

/-- The task loop from `task_counter = taskCounter` over its iterations' inputs: the final
counter and every push, in order. -/
def taskLoop (taskCounter : UInt64) :
    List ((String → Except ε (Option (RemoteActorRef PeerId))) × TaskDraw) →
      UInt64 × List (Push PeerId)
  | [] => (taskCounter, [])
  | (lookup, draw) :: iterations =>
    let next := taskLoop (pushTaskCompletion lookup taskCounter draw).1 iterations
    (next.1, (pushTaskCompletion lookup taskCounter draw).2 ++ next.2)

/-- The task id a push carries, if it is a task completion notice. -/
def Push.taskId? (p : Push PeerId) : Option String :=
  match p.payload with
  | .taskCompletionNotice notice => some notice.taskId
  | _ => none

theorem taskId_inj {c d : UInt64} (h : taskId c = taskId d) : c = d := by
  have hdata := congrArg String.data h
  simp only [taskId, String.data_append, List.append_cancel_left_eq] at hdata
  apply UInt64.toNat.inj
  rw [← decimalValue_zeroPad 4 c.toNat, ← decimalValue_zeroPad 4 d.toNat]
  exact congrArg decimalValue hdata

/-- The task ids one iteration pushes: the id of its counter when the lookup found a handler. -/
theorem taskIds_pushTaskCompletion_eq (lookup : String → Except ε (Option (RemoteActorRef PeerId)))
    (taskCounter : UInt64) (draw : TaskDraw) :
    (pushTaskCompletion lookup taskCounter draw).2.filterMap Push.taskId? =
      if foundHandler lookup then [taskId taskCounter] else [] := by
  simp only [pushTaskCompletion, pushToHandlers_eq, foundHandler, handlerNames, List.any_cons,
    List.any_nil, Bool.or_false]
  rcases lookup "client_handler" with _ | _ | _ <;> rfl

theorem taskIds_pushToHandlers {lookup : String → Except ε (Option (RemoteActorRef PeerId))}
    {payload : Notification} (h : ∀ notice, payload ≠ .taskCompletionNotice notice) :
    (pushToHandlers lookup payload).filterMap Push.taskId? = [] := by
  rw [List.filterMap_eq_nil_iff]
  intro p hp
  have := payload_of_mem_pushToHandlers hp
  cases hpay : p.payload <;> simp_all [Push.taskId?]

/-- The task loop from counter `c`: iteration `i` pushes the id of counter `c + i`, wrapping at
`2 ^ 64`, when its lookup finds a handler, and no id otherwise. -/
theorem taskIds_taskLoop (c : UInt64)
    (iterations : List ((String → Except ε (Option (RemoteActorRef PeerId))) × TaskDraw)) :
    (taskLoop c iterations).2.filterMap Push.taskId? =
      (iterations.enum.filter (foundHandler ·.2.1)).map
        fun it => taskId (UInt64.ofNat (c.toNat + it.1)) := by
  induction iterations generalizing c with
  | nil => rfl
  | cons it iterations ih =>
    obtain ⟨lookup, draw⟩ := it
    have hshift : ∀ i, UInt64.ofNat ((c + 1).toNat + i) = UInt64.ofNat (c.toNat + (i + 1)) :=
      fun i => UInt64.toNat.inj <| by
        show ((c + 1).toNat + i) % UInt64.size = (c.toNat + (i + 1)) % UInt64.size
        rw [UInt64.toNat_add_one, Nat.mod_add_mod]
        congr 1
        omega
    have hc : UInt64.ofNat c.toNat = c :=
      UInt64.toNat.inj (Nat.mod_eq_of_lt (UInt64.toNat_lt_size c))
    have htail : (iterations.enum.filter (foundHandler ·.2.1)).map
        (fun it => taskId (UInt64.ofNat ((c + 1).toNat + it.1))) =
      ((iterations.enum.filter (foundHandler ·.2.1)).map (Prod.map (· + 1) id)).map
        (fun it => taskId (UInt64.ofNat (c.toNat + it.1))) := by
      rw [List.map_map]
      exact List.map_congr_left fun it _ => congrArg taskId (hshift it.1)
    simp only [taskLoop, List.filterMap_append, taskIds_pushTaskCompletion_eq, ih,
      pushTaskCompletion_fst, htail, List.enum_cons, List.enumFrom_eq_map_enum, List.filter_cons,
      List.filter_map]
    by_cases hf : foundHandler lookup <;> simp [hf, hc, Function.comp_def]

/-- The task ids a task loop pushes are pairwise distinct as long as its counter does not wrap. -/
theorem taskLoop_taskIds_nodup (taskCounter : UInt64)
    (iterations : List ((String → Except ε (Option (RemoteActorRef PeerId))) × TaskDraw))
    (hfit : taskCounter.toNat + iterations.length ≤ UInt64.size) :
    ((taskLoop taskCounter iterations).2.filterMap Push.taskId?).Nodup := by
  rw [taskIds_taskLoop]
  have henum : iterations.enum.Nodup :=
    List.Nodup.of_map Prod.fst (by rw [List.enum_map_fst]; exact List.nodup_range _)
  refine (henum.filter _).map_on fun ⟨i, a⟩ hx ⟨j, b⟩ hy hxy => ?_
  obtain ⟨hi, ha⟩ := List.mem_enum (List.mem_of_mem_filter hx)
  obtain ⟨hj, hb⟩ := List.mem_enum (List.mem_of_mem_filter hy)
  have hk := congrArg UInt64.toNat (taskId_inj hxy)
  change (taskCounter.toNat + i) % UInt64.size = (taskCounter.toNat + j) % UInt64.size at hk
  rw [Nat.mod_eq_of_lt (by omega), Nat.mod_eq_of_lt (by omega)] at hk
  obtain rfl : i = j := by omega
  exact Prod.ext rfl (ha.trans hb.symm)

/-- The loop as `push_task_completion_loop` starts it, with `task_counter = 1`: the task ids of
fewer than `2 ^ 64` iterations are distinct. -/
theorem taskLoop_one_taskIds_nodup
    (iterations : List ((String → Except ε (Option (RemoteActorRef PeerId))) × TaskDraw))
    (h : iterations.length < 2 ^ 64) :
    ((taskLoop 1 iterations).2.filterMap Push.taskId?).Nodup :=
  taskLoop_taskIds_nodup 1 iterations (by
    show 1 + iterations.length ≤ 18446744073709551616
    norm_num at h
    omega)

/-! ## System events -/

/-- `event_types`. -/
def eventTypes : List (String × Severity) :=
  [("系统启动", .info), ("高负载警告", .warning), ("服务健康检查", .info), ("配置更新", .info),
    ("性能优化", .info)]

/-- The `EventBroadcast` of an iteration of `broadcast_system_events_loop`. -/
def eventBroadcast (eventIdx : Fin eventTypes.length) (timestamp : UInt64) : EventBroadcast where
  eventType := (eventTypes.get eventIdx).1
  message := (eventTypes.get eventIdx).1 ++ " 事件已触发"
  severity := (eventTypes.get eventIdx).2
  timestamp := timestamp

/-- One iteration of `broadcast_system_events_loop`. -/
def pushSystemEvent (lookup : String → Except ε (Option (RemoteActorRef PeerId)))
    (eventIdx : Fin eventTypes.length) (timestamp : UInt64) : List (Push PeerId) :=
  pushToHandlers lookup (.eventBroadcast (eventBroadcast eventIdx timestamp))

end KameoRpc
