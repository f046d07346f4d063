import KameoRpc.Format.Decimal
import KameoRpc.Common.Types

/-!
# The calculator service

`CalculatorActor` counts the requests it serves and answers the four arithmetic requests. Add,
subtract and multiply are one handler shape (`handleArith`) at three operators; divide has its
own body with two early returns, for a zero divisor and for an infinite or NaN quotient.

Rust's `{}` on an `f64` is the std `Display` impl, taken as the parameter `displayF64`.

Over any interleaving of requests the counter counts them all, early returns included
(`handleAll_requestCount`). A reply depends on the request and the server's name alone
(`handle_snd_of_serverName`), so when several callers share the mailbox each gets the replies it
would get with the calculator to itself (`serve_interleaved`).
-/

namespace KameoRpc

/-- `CalculatorActor`. -/
structure CalculatorActor where
  serverName : String
  requestCount : UInt64
  deriving DecidableEq, Repr

/-- `CalculatorActor::new`. -/
def CalculatorActor.new (serverName : String) : CalculatorActor where
  serverName := serverName
  requestCount := 0

/-- A request to the calculator, as kameo dispatches it to one of the four `Message` impls. -/
inductive CalcRequest (PeerId : Type)
  | add (msg : AddRequest PeerId)
  | subtract (msg : SubtractRequest PeerId)
  | multiply (msg : MultiplyRequest PeerId)
  | divide (msg : DivideRequest PeerId)

/-- The reply of a request: `CalcResponse` for the first three, `Option<CalcResponse>` for a
divide. -/
inductive CalcReply
  | response (r : CalcResponse)
  | divideResponse (r : Option CalcResponse)

namespace CalculatorActor

variable {PeerId : Type} (displayF64 : Float → String)

/-- `self.request_count += 1`, the first statement of every handler. -/
def countRequest (self : CalculatorActor) : CalculatorActor :=
  { self with requestCount := self.requestCount + 1 }

/-- The body shared by add, subtract and multiply: count, compute `a op b`, and reply with the
result, `format!("{} op {}", a, b)` and the server's name. -/
def handleArith (op : Float → Float → Float) (symbol : String) (self : CalculatorActor)
    (msg : OperandRequest PeerId) : CalculatorActor × CalcResponse :=
  (self.countRequest,
    (op msg.a msg.b, displayF64 msg.a ++ " " ++ symbol ++ " " ++ displayF64 msg.b,
      self.countRequest.serverName))

/-- `Message<AddRequest> for CalculatorActor::handle`. -/
def handleAdd : CalculatorActor → AddRequest PeerId → CalculatorActor × CalcResponse :=
  handleArith displayF64 (· + ·) "+"

/-- `Message<SubtractRequest> for CalculatorActor::handle`. -/
def handleSubtract : CalculatorActor → SubtractRequest PeerId → CalculatorActor × CalcResponse :=
  handleArith displayF64 (· - ·) "-"

/-- `Message<MultiplyRequest> for CalculatorActor::handle`. -/
def handleMultiply : CalculatorActor → MultiplyRequest PeerId → CalculatorActor × CalcResponse :=
  handleArith displayF64 (· * ·) "×"

/-- `Message<DivideRequest> for CalculatorActor::handle`. -/
def handleDivide (self : CalculatorActor) (msg : DivideRequest PeerId) :
    CalculatorActor × Option CalcResponse :=
  let self := self.countRequest
  if msg.b == 0.0 then (self, none)
  else
    let result := msg.a / msg.b
    if result.isInf || result.isNaN then (self, none)
    else (self, some (result, displayF64 msg.a ++ " ÷ " ++ displayF64 msg.b, self.serverName))

/-- The actor serving one request. -/
def handle (self : CalculatorActor) : CalcRequest PeerId → CalculatorActor × CalcReply
  | .add msg => let r := handleAdd displayF64 self msg; (r.1, .response r.2)
  | .subtract msg => let r := handleSubtract displayF64 self msg; (r.1, .response r.2)
  | .multiply msg => let r := handleMultiply displayF64 self msg; (r.1, .response r.2)
  | .divide msg => let r := handleDivide displayF64 self msg; (r.1, .divideResponse r.2)

/-- The actor serving its mailbox in order; the final state. -/
def handleAll (self : CalculatorActor) (reqs : List (CalcRequest PeerId)) : CalculatorActor :=
  reqs.foldl (fun s req => (s.handle displayF64 req).1) self

@[simp] theorem countRequest_requestCount (self : CalculatorActor) :
    self.countRequest.requestCount = self.requestCount + 1 := rfl

@[simp] theorem countRequest_serverName (self : CalculatorActor) :
    self.countRequest.serverName = self.serverName := rfl

/-- Every handler counts the request first, on each of its paths. -/
@[simp] theorem handle_fst (self : CalculatorActor) (req : CalcRequest PeerId) :
    (self.handle displayF64 req).1 = self.countRequest := by
  cases req with
  | divide msg =>
    simp only [handle, handleDivide]
    split
    · rfl
    · split <;> rfl
  | _ => rfl

@[simp] theorem handle_serverName (self : CalculatorActor) (req : CalcRequest PeerId) :
    (self.handle displayF64 req).1.serverName = self.serverName := by
  rw [handle_fst, countRequest_serverName]

theorem handleAll_requestCount (self : CalculatorActor) (reqs : List (CalcRequest PeerId)) :
    (self.handleAll displayF64 reqs).requestCount.toNat =
      (self.requestCount.toNat + reqs.length) % UInt64.size :=
  UInt64.toNat_foldl_of_step _ requestCount (by simp) self reqs

theorem handleAll_serverName (self : CalculatorActor) (reqs : List (CalcRequest PeerId)) :
    (self.handleAll displayF64 reqs).serverName = self.serverName := by
  induction reqs generalizing self with
  | nil => rfl
  | cons req reqs ih => exact (ih _).trans (by simp)

/-- A fresh calculator that served fewer than `2 ^ 64` requests, of any kinds in any order, has
counted each of them once and still carries its name. -/
theorem handleAll_counts_requests (serverName : String) (reqs : List (CalcRequest PeerId))
    (h : reqs.length < 2 ^ 64) :
    ((new serverName).handleAll displayF64 reqs).requestCount.toNat = reqs.length ∧
      ((new serverName).handleAll displayF64 reqs).serverName = serverName :=
  ⟨UInt64.toNat_foldl_of_step_zero _ requestCount (by simp) rfl h, handleAll_serverName _ _ _⟩

/-- A divide by zero, answered with `None`, is counted like an add. -/
theorem handleAll_counts_requests_add_divide :
    let reqs : List (CalcRequest String) :=
      [.add ⟨15, 25, "client-peer", "client"⟩, .divide ⟨100, 0, "client-peer", "client"⟩]
    reqs.length < 2 ^ 64 ∧
      ((new "server").handleAll toString reqs).requestCount.toNat = reqs.length ∧
      ((new "server").handleAll toString reqs).serverName = "server" :=
  ⟨by decide, handleAll_counts_requests toString "server" _ (by decide)⟩

/-! ## A mailbox shared by several callers -/

section
variable {C : Type}

/-- The actor serving a mailbox shared by several callers: kameo hands it the requests one at a
time, in mailbox order, and routes each reply back to the caller that sent the request with
`ask`. The final state and the replies, each with its caller. -/
def serve (self : CalculatorActor) : List (C × CalcRequest PeerId) → CalculatorActor × List (C × CalcReply)
  | [] => (self, [])
  | (caller, req) :: mailbox =>
    (((self.handle displayF64 req).1.serve mailbox).1,
      (caller, (self.handle displayF64 req).2) :: ((self.handle displayF64 req).1.serve mailbox).2)

/-- A reply depends on the request and the server's name only, never on `request_count`. -/
theorem handle_snd_of_serverName {self self' : CalculatorActor} (h : self.serverName = self'.serverName)
    (req : CalcRequest PeerId) : (self.handle displayF64 req).2 = (self'.handle displayF64 req).2 := by
  cases req with
  | divide msg =>
    simp only [handle, handleDivide]
    split_ifs <;> simp [h]
  | _ => simp [handle, handleAdd, handleSubtract, handleMultiply, handleArith, h]

theorem serve_fst (self : CalculatorActor) (mailbox : List (C × CalcRequest PeerId)) :
    (self.serve displayF64 mailbox).1 = self.handleAll displayF64 (mailbox.map (·.2)) := by
  induction mailbox generalizing self with
  | nil => rfl
  | cons m mailbox ih => exact ih _

variable [DecidableEq C]

/-- The replies routed to caller `c` are those that any calculator of the same name, serving
`c`'s requests alone, would give. -/
theorem serve_replies_filter {self self' : CalculatorActor} (h : self.serverName = self'.serverName)
    (mailbox : List (C × CalcRequest PeerId)) (c : C) :
    ((self.serve displayF64 mailbox).2.filter (·.1 = c)).map (·.2) =
      (self'.serve displayF64 (mailbox.filter (·.1 = c))).2.map (·.2) := by
  induction mailbox generalizing self self' with
  | nil => rfl
  | cons m mailbox ih =>
    obtain ⟨caller, req⟩ := m
    by_cases hc : caller = c
    · subst hc
      simp only [serve, List.filter_cons, decide_True, if_true, List.map_cons,
        handle_snd_of_serverName displayF64 h req]
      exact congrArg _ (ih (by simp [h]))
    · simp only [serve, List.filter_cons, hc, decide_False, Bool.false_eq_true, if_false]
      exact ih (by simp [h])

/-- Whatever the callers and however their requests interleave in the mailbox, each caller gets
exactly the replies a fresh calculator would give it alone, and the actor counts every request
of the mailbox. -/
theorem serve_interleaved (self : CalculatorActor) (mailbox : List (C × CalcRequest PeerId)) :
    (∀ c, ((self.serve displayF64 mailbox).2.filter (·.1 = c)).map (·.2) =
      ((new self.serverName).serve displayF64 (mailbox.filter (·.1 = c))).2.map (·.2)) ∧
    (self.serve displayF64 mailbox).1.requestCount.toNat =
      (self.requestCount.toNat + mailbox.length) % UInt64.size :=
  ⟨serve_replies_filter displayF64 (show self.serverName = (new self.serverName).serverName from rfl)
    mailbox, by
    rw [serve_fst, handleAll_requestCount, List.length_map]⟩

end

end CalculatorActor

end KameoRpc
