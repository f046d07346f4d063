import KameoRpc.Common.Types

/-!
# Finding a remote calculator

`find_calculator_service` of `intranet_client.rs` walks the stream
`RemoteActorRef::<CalculatorActor>::lookup_all("calculator")` with
`while let Ok(Some(calculator)) = calculators.try_next().await`, skips a handle whose actor lives
on the local peer, and returns the first other one. The stream is modelled by the finite list of
items it yields, each a handle or a registry error of type `ε`.

The loop leaves at the end of the stream and also at the first error item: the result is the
first non-local handle among the items before the first error (`findCalculatorService_eq`), and
a provider after an error item is not reached.
-/

namespace KameoRpc

variable {PeerId ε : Type} [DecidableEq PeerId]

/-- `find_calculator_service`, over the items the `lookup_all` stream yields. -/
def findCalculatorService (localPeerId : PeerId) :
    List (Except ε (RemoteActorRef PeerId)) → Option (RemoteActorRef PeerId)
  | [] => none
  | .error _ :: _ => none
  | .ok calculator :: calculators =>
    if calculator.id.peerId = some localPeerId then findCalculatorService localPeerId calculators
    else some calculator

/-- The first handle of a list that is not on `localPeerId`. -/
def firstRemote (localPeerId : PeerId) (handles : List (RemoteActorRef PeerId)) :
    Option (RemoteActorRef PeerId) :=
  handles.find? (·.id.peerId ≠ some localPeerId)

/-- The handles of the stream's items before its first error item. -/
def handlesBeforeError (items : List (Except ε (RemoteActorRef PeerId))) :
    List (RemoteActorRef PeerId) :=
  (items.takeWhile (·.isOk)).filterMap Except.toOption

/-- The first non-local handle of the whole stream, error items skipped. -/
def firstRemoteHandle (localPeerId : PeerId) (items : List (Except ε (RemoteActorRef PeerId))) :
    Option (RemoteActorRef PeerId) :=
  firstRemote localPeerId (items.filterMap Except.toOption)

theorem findCalculatorService_eq (localPeerId : PeerId)
    (items : List (Except ε (RemoteActorRef PeerId))) :
    findCalculatorService localPeerId items =
      firstRemote localPeerId (handlesBeforeError items) := by
  induction items with
  | nil => rfl
  | cons item items ih =>
    cases item with
    | error e => rfl
    | ok calculator =>
      by_cases h : calculator.id.peerId = some localPeerId <;>
        simp [findCalculatorService, handlesBeforeError, firstRemote, h, ih, Except.isOk,
          Except.toBool, Except.toOption]

/-- A registry error in front of a remote provider hides it. -/
theorem findCalculatorService_error_hides_provider :
    findCalculatorService "local"
        [.error "registry timeout", .ok ⟨⟨some "server"⟩⟩] = none ∧
      firstRemoteHandle "local"
        ([.error "registry timeout", .ok ⟨⟨some "server"⟩⟩] : List (Except String _)) =
        some ⟨⟨some "server"⟩⟩ := by
  decide

end KameoRpc
