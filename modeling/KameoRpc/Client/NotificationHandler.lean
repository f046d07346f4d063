import KameoRpc.Format.Decimal
import KameoRpc.Common.Types

/-!
# The client's notification handler

`ClientNotificationHandler` of `intranet_client.rs` receives the server's pushes. Each of its
four `Message` impls bumps `notification_count` and logs the payload; the logs are not modelled.
The four impls are one state change (`countNotification`) applied at four payload types, and a
delivery sequence is any interleaving of the four (`ClientNotificationHandler.handleAll`).
-/

namespace KameoRpc

/-- `ClientNotificationHandler` of the client. -/
structure ClientNotificationHandler where
  clientName : String
  notificationCount : UInt64
  deriving DecidableEq, Repr

namespace ClientNotificationHandler

/-- `ClientNotificationHandler::new`. -/
def new (clientName : String) : ClientNotificationHandler where
  clientName := clientName
  notificationCount := 0

/-- `self.notification_count += 1`, the state change of every handler below. -/
def countNotification (self : ClientNotificationHandler) : ClientNotificationHandler :=
  { self with notificationCount := self.notificationCount + 1 }

/-- `Message<ServerStatusUpdate> for ClientNotificationHandler::handle`. -/
def handleServerStatusUpdate (self : ClientNotificationHandler) (_msg : ServerStatusUpdate) :
    ClientNotificationHandler :=
  self.countNotification

/-- `Message<TaskCompletionNotice> for ClientNotificationHandler::handle`. -/
def handleTaskCompletionNotice (self : ClientNotificationHandler) (_msg : TaskCompletionNotice) :
    ClientNotificationHandler :=
  self.countNotification

/-- `Message<EventBroadcast> for ClientNotificationHandler::handle`. -/
def handleEventBroadcast (self : ClientNotificationHandler) (_msg : EventBroadcast) :
    ClientNotificationHandler :=
  self.countNotification

/-- `Message<StreamDataItem> for ClientNotificationHandler::handle`. -/
def handleStreamDataItem (self : ClientNotificationHandler) (_msg : StreamDataItem) :
    ClientNotificationHandler :=
  self.countNotification

/-- kameo's dispatch of a delivered payload to its `Message` impl. -/
def handle (self : ClientNotificationHandler) : Notification → ClientNotificationHandler
  | .serverStatusUpdate msg => self.handleServerStatusUpdate msg
  | .taskCompletionNotice msg => self.handleTaskCompletionNotice msg
  | .eventBroadcast msg => self.handleEventBroadcast msg
  | .streamDataItem msg => self.handleStreamDataItem msg

/-- The handler processing the deliveries `ns` in order. -/
def handleAll (self : ClientNotificationHandler) (ns : List Notification) :
    ClientNotificationHandler :=
  ns.foldl handle self

/-- Every kind of payload is one `countNotification`. -/
@[simp] theorem handle_eq (self : ClientNotificationHandler) (n : Notification) :
    self.handle n = self.countNotification := by
  cases n <;> rfl

@[simp] theorem countNotification_notificationCount (self : ClientNotificationHandler) :
    self.countNotification.notificationCount = self.notificationCount + 1 := rfl

@[simp] theorem countNotification_clientName (self : ClientNotificationHandler) :
    self.countNotification.clientName = self.clientName := rfl

theorem handleAll_clientName (self : ClientNotificationHandler) (ns : List Notification) :
    (self.handleAll ns).clientName = self.clientName := by
  induction ns generalizing self with
  | nil => rfl
  | cons n ns ih => exact (ih _).trans (by simp)

theorem handleAll_counts_deliveries (clientName : String) (ns : List Notification)
    (h : ns.length < 2 ^ 64) :
    ((new clientName).handleAll ns).notificationCount.toNat = ns.length ∧
      ((new clientName).handleAll ns).clientName = clientName :=
  ⟨UInt64.toNat_foldl_of_step_zero handle notificationCount (by simp) rfl h,
    handleAll_clientName _ ns⟩

/-- Three deliveries of three kinds are counted three times. -/
theorem handleAll_counts_mixed_deliveries :
    let ns := [Notification.eventBroadcast ⟨"系统启动", "系统启动 事件已触发", .info, 0⟩,
      .streamDataItem ⟨0, .serverMetrics, "cpu", 1⟩, .taskCompletionNotice ⟨"task-0001", "计算任务",
        "成功完成", 100, 0⟩]
    ns.length < 2 ^ 64 ∧
      ((new "calc-client").handleAll ns).notificationCount.toNat = ns.length ∧
        ((new "calc-client").handleAll ns).clientName = "calc-client" :=
  ⟨by decide, handleAll_counts_deliveries "calc-client" _ (by decide)⟩

end ClientNotificationHandler

end KameoRpc
