import KameoRpc.Format.Decimal
import KameoRpc.Common.Types

/-!
# The notification service

`NotificationActor` keeps a table `connected_clients : HashMap<PeerId, ClientInfo>` and a
counter `event_count : u64`. Its one message, `SubscribeDataStream`, is answered with the id
`format!("sub-{}-{}", client_peer, event_count)`, bumps the counter and inserts a fresh row for the
client peer, replacing any row the peer had.

The map is Mathlib's `AList`, whose entries carry the distinct-keys invariant; `AList.insert` is
`HashMap::insert` up to the order of entries, which a `HashMap` does not have.

A run of the actor is its mailbox handled in order (`NotificationActor.handleAll`). Over a run:
* the row of a peer is the one built from the peer's latest request (`lookup_handleAll`), so the
  table's keys are the peers that asked and it has one row per peer;
* the counter counts the requests (`eventCount_handleAll`), and the id text determines the
  counter (`subscriptionId_count_inj`), so the ids of fewer than `2 ^ 64` requests are distinct
  (`handleAll_replies_nodup`).
-/

namespace KameoRpc

variable {PeerId : Type}

/-! ## Subscription ids -/

section
variable [ToString PeerId]

/-- `format!("sub-{}-{}", msg.client_peer, self.event_count)`. -/
def subscriptionId (clientPeer : PeerId) (eventCount : UInt64) : String :=
  "sub-" ++ toString clientPeer ++ "-" ++ toString eventCount

/-- The text after the last `'-'` of a string. -/
def afterLastDash (s : String) : String :=
  ⟨(s.data.reverse.takeWhile (· != '-')).reverse⟩

/-- The counter is the text after the last `'-'` of a subscription id, whatever the peer's text. -/
theorem afterLastDash_subscriptionId (p : PeerId) (c : UInt64) :
    afterLastDash (subscriptionId p c) = toString c := by
  have hdigits : ∀ x ∈ (toString c).data.reverse, (x != '-') = true := by
    intro x hx
    have : x ≠ '-' := fun hx' => dash_not_mem_toDigits c.toNat (hx' ▸ List.mem_reverse.mp hx)
    simpa using this
  simp only [afterLastDash, subscriptionId, String.data_append, List.reverse_append,
    List.append_assoc, List.takeWhile_append_of_pos hdigits]
  simp

theorem subscriptionId_count_inj {p q : PeerId} {c d : UInt64}
    (h : subscriptionId p c = subscriptionId q d) : c = d :=
  UInt64.toString_injective <| by
    rw [← afterLastDash_subscriptionId p c, h, afterLastDash_subscriptionId]

end

/-! ## The actor -/

/-- `NotificationActor`. `start_time` is written once and never read, and is left out. -/
structure NotificationActor (PeerId : Type) where
  serverName : String
  connectedClients : AList (fun _ : PeerId => ClientInfo PeerId)
  eventCount : UInt64

/-- `NotificationActor::new`. -/
def NotificationActor.new (serverName : String) : NotificationActor PeerId where
  serverName := serverName
  connectedClients := ∅
  eventCount := 0

/-- The row `client_info` the handler records for a request. -/
def SubscribeDataStream.clientInfo (msg : SubscribeDataStream PeerId) : ClientInfo PeerId where
  peerId := msg.clientPeer
  name := msg.clientName
  subscribedStreams := [msg.streamType]

variable [DecidableEq PeerId]

/-! ## The latest request of a peer -/

/-- The latest request of peer `p` in `msgs`, if any. -/
def latestRequest (msgs : List (SubscribeDataStream PeerId)) (p : PeerId) :
    Option (SubscribeDataStream PeerId) :=
  msgs.reverse.find? (·.clientPeer = p)

theorem latestRequest_cons (m : SubscribeDataStream PeerId) (msgs) (p : PeerId) :
    latestRequest (m :: msgs) p =
      (latestRequest msgs p).or (if m.clientPeer = p then some m else none) := by
  simp only [latestRequest, List.reverse_cons, List.find?_append, List.find?_singleton]
  split <;> simp_all

theorem latestRequest_isSome {msgs : List (SubscribeDataStream PeerId)} {p : PeerId} :
    (latestRequest msgs p).isSome ↔ p ∈ msgs.map (·.clientPeer) := by
  simp [latestRequest, List.find?_isSome]

theorem clientPeer_of_latestRequest {msgs : List (SubscribeDataStream PeerId)} {p : PeerId}
    {r : SubscribeDataStream PeerId} (h : latestRequest msgs p = some r) : r.clientPeer = p := by
  simpa using List.find?_some h

variable [ToString PeerId]

/-- `Message<SubscribeDataStream> for NotificationActor::handle`: the new state and the reply. -/
def NotificationActor.handle (self : NotificationActor PeerId) (msg : SubscribeDataStream PeerId) :
    NotificationActor PeerId × String :=
  ({ self with
      eventCount := self.eventCount + 1
      connectedClients := self.connectedClients.insert msg.clientPeer msg.clientInfo },
    subscriptionId msg.clientPeer self.eventCount)

/-- The actor handling its mailbox `msgs` in order: the final state and the replies. -/
def NotificationActor.handleAll (self : NotificationActor PeerId) :
    List (SubscribeDataStream PeerId) → NotificationActor PeerId × List String
  | [] => (self, [])
  | msg :: msgs =>
    (((self.handle msg).1.handleAll msgs).1,
      (self.handle msg).2 :: ((self.handle msg).1.handleAll msgs).2)

namespace NotificationActor

variable (self : NotificationActor PeerId) (msg : SubscribeDataStream PeerId)

@[simp] theorem handle_connectedClients :
    (self.handle msg).1.connectedClients =
      self.connectedClients.insert msg.clientPeer msg.clientInfo := rfl

@[simp] theorem handle_eventCount : (self.handle msg).1.eventCount = self.eventCount + 1 := rfl

@[simp] theorem handle_serverName : (self.handle msg).1.serverName = self.serverName := rfl

@[simp] theorem handle_reply :
    (self.handle msg).2 = subscriptionId msg.clientPeer self.eventCount :=
  rfl

@[simp] theorem handleAll_nil : self.handleAll [] = (self, []) := rfl

@[simp] theorem handleAll_cons (msgs : List (SubscribeDataStream PeerId)) :
    self.handleAll (msg :: msgs) =
      (((self.handle msg).1.handleAll msgs).1,
        subscriptionId msg.clientPeer self.eventCount :: ((self.handle msg).1.handleAll msgs).2) :=
  rfl

end NotificationActor

/-! ## The subscription table -/

/-- The row of a peer after a run is the row of its latest request, or the row it had before
when it sent none. -/
theorem lookup_handleAll (self : NotificationActor PeerId) (msgs) (p : PeerId) :
    (self.handleAll msgs).1.connectedClients.lookup p =
      ((latestRequest msgs p).map SubscribeDataStream.clientInfo).or
        (self.connectedClients.lookup p) := by
  induction msgs generalizing self with
  | nil => simp [latestRequest]
  | cons m msgs ih =>
    rw [NotificationActor.handleAll_cons, ih, latestRequest_cons,
      NotificationActor.handle_connectedClients]
    cases latestRequest msgs p with
    | some r => rfl
    | none =>
      by_cases hm : m.clientPeer = p
      · subst hm; simp [AList.lookup_insert]
      · simp [hm, AList.lookup_insert_ne (Ne.symm hm)]

/-- The table of a fresh actor after a run: one row per peer that subscribed, holding the
row built from that peer's latest request. -/
theorem lookup_new_handleAll (serverName : String) (msgs) (p : PeerId) :
    ((NotificationActor.new serverName).handleAll msgs).1.connectedClients.lookup p =
      (latestRequest msgs p).map SubscribeDataStream.clientInfo := by
  rw [lookup_handleAll]
  cases latestRequest msgs p <;> rfl

theorem mem_new_handleAll {serverName : String} {msgs : List (SubscribeDataStream PeerId)}
    {p : PeerId} :
    p ∈ ((NotificationActor.new serverName).handleAll msgs).1.connectedClients ↔
      p ∈ msgs.map (·.clientPeer) := by
  rw [← AList.lookup_isSome, lookup_new_handleAll, Option.isSome_map', latestRequest_isSome]

/-- One row per peer: the table has as many rows as there are distinct peers in `msgs`. -/
theorem length_new_handleAll (serverName : String) (msgs : List (SubscribeDataStream PeerId)) :
    ((NotificationActor.new serverName).handleAll msgs).1.connectedClients.entries.length =
      (msgs.map (·.clientPeer)).dedup.length := by
  have hperm := (List.perm_ext_iff_of_nodup
    (AList.keys_nodup ((NotificationActor.new serverName).handleAll msgs).1.connectedClients)
    (List.nodup_dedup (msgs.map (·.clientPeer)))).mpr
    fun p => by rw [← AList.mem_keys, mem_new_handleAll, List.mem_dedup]
  simpa [AList.keys, List.keys] using hperm.length_eq

/-! ## The counter and the replies -/

/-- The state after a run is the fold of the handler over the mailbox. -/
theorem handleAll_fst (self : NotificationActor PeerId) (msgs) :
    (self.handleAll msgs).1 = msgs.foldl (fun s m => (s.handle m).1) self := by
  induction msgs generalizing self with
  | nil => rfl
  | cons m msgs ih => exact ih _

theorem eventCount_handleAll (self : NotificationActor PeerId) (msgs) :
    (self.handleAll msgs).1.eventCount.toNat =
      (self.eventCount.toNat + msgs.length) % UInt64.size := by
  rw [handleAll_fst]
  exact UInt64.toNat_foldl_of_step _ NotificationActor.eventCount (fun _ _ => rfl) self msgs

/-- Below the wrap-around, every reply of a run carries a counter at least the starting one. -/
theorem count_le_of_mem_replies {self : NotificationActor PeerId} {msgs} {id : String}
    (hfit : self.eventCount.toNat + msgs.length < UInt64.size)
    (h : id ∈ (self.handleAll msgs).2) :
    ∃ (p : PeerId) (k : UInt64), id = subscriptionId p k ∧ self.eventCount.toNat ≤ k.toNat := by
  induction msgs generalizing self with
  | nil => simp at h
  | cons m msgs ih =>
    have hstep : (self.eventCount + 1).toNat = self.eventCount.toNat + 1 :=
      UInt64.toNat_add_one_of_lt (by simp at hfit; omega)
    rw [NotificationActor.handleAll_cons, List.mem_cons] at h
    rcases h with rfl | h
    · exact ⟨_, _, rfl, le_rfl⟩
    · obtain ⟨p, k, rfl, hk⟩ := ih (by simp at hfit ⊢; omega) h
      exact ⟨p, k, rfl, by simp at hk; omega⟩

/-- Below the wrap-around, the replies of a run are pairwise distinct. -/
theorem handleAll_replies_nodup (self : NotificationActor PeerId) (msgs)
    (hfit : self.eventCount.toNat + msgs.length < UInt64.size) :
    (self.handleAll msgs).2.Nodup := by
  induction msgs generalizing self with
  | nil => simp
  | cons m msgs ih =>
    have hstep : (self.eventCount + 1).toNat = self.eventCount.toNat + 1 :=
      UInt64.toNat_add_one_of_lt (by simp at hfit; omega)
    have hfit' : (self.handle m).1.eventCount.toNat + msgs.length < UInt64.size := by
      simp only [NotificationActor.handle_eventCount, hstep]; simp at hfit; omega
    rw [NotificationActor.handleAll_cons, List.nodup_cons]
    refine ⟨fun hmem => ?_, ih _ hfit'⟩
    obtain ⟨p, k, hid, hk⟩ := count_le_of_mem_replies hfit' hmem
    obtain rfl := subscriptionId_count_inj hid
    simp [hstep] at hk

/-! ## Runs of a fresh actor -/

theorem handleAll_connectedClients (serverName : String)
    (msgs : List (SubscribeDataStream PeerId)) :
    let table := ((NotificationActor.new serverName).handleAll msgs).1.connectedClients
    (∀ p, p ∈ table ↔ p ∈ msgs.map (·.clientPeer)) ∧
      table.entries.length = (msgs.map (·.clientPeer)).dedup.length ∧
      ∀ p info, table.lookup p = some info →
        info.peerId = p ∧ ∃ r, latestRequest msgs p = some r ∧ info.name = r.clientName := by
  refine ⟨fun p => mem_new_handleAll, length_new_handleAll serverName msgs, fun p info h => ?_⟩
  rw [lookup_new_handleAll, Option.map_eq_some'] at h
  obtain ⟨r, hr, rfl⟩ := h
  exact ⟨clientPeer_of_latestRequest hr, r, hr, rfl⟩

theorem handleAll_subscribedStreams (serverName : String) (msgs : List (SubscribeDataStream PeerId))
    (p : PeerId) :
    (((NotificationActor.new serverName).handleAll msgs).1.connectedClients.lookup p).map
        (·.subscribedStreams) =
      (latestRequest msgs p).map (fun r => [r.streamType]) := by
  rw [lookup_new_handleAll, Option.map_map]
  rfl

/-- A peer that subscribes to `ServerMetrics` and then to `CalculationHistory` is left with no
`ServerMetrics` subscription. -/
theorem resubscribe_drops_earlier_stream :
    (((NotificationActor.new "calc-server").handleAll
        [⟨"peer", "calc-client", .serverMetrics⟩, ⟨"peer", "calc-client", .calculationHistory⟩]).1
        |>.connectedClients.lookup "peer").map (·.subscribedStreams.count .serverMetrics) =
      some 0 := by
  decide

theorem handleAll_subscriptionIds_distinct (serverName : String)
    (msgs : List (SubscribeDataStream PeerId)) (h : msgs.length < 2 ^ 64) :
    ((NotificationActor.new serverName).handleAll msgs).1.eventCount.toNat = msgs.length ∧
      ((NotificationActor.new serverName).handleAll msgs).2.Nodup := by
  have hfit : (NotificationActor.new serverName : NotificationActor PeerId).eventCount.toNat +
      msgs.length < UInt64.size := by simpa [NotificationActor.new] using h
  refine ⟨?_, handleAll_replies_nodup _ msgs hfit⟩
  rw [eventCount_handleAll, Nat.mod_eq_of_lt hfit]
  simp [NotificationActor.new]

/-- One client subscribing twice to the same stream gets two different ids. -/
theorem handleAll_subscriptionIds_resubscribe :
    let msgs : List (SubscribeDataStream String) :=
      [⟨"peer", "calc-client", .serverMetrics⟩, ⟨"peer", "calc-client", .serverMetrics⟩]
    msgs.length < 2 ^ 64 ∧
      ((NotificationActor.new "calc-server").handleAll msgs).1.eventCount.toNat = msgs.length ∧
        ((NotificationActor.new "calc-server").handleAll msgs).2.Nodup :=
  ⟨by decide, handleAll_subscriptionIds_distinct _ _ (by decide)⟩

end KameoRpc
