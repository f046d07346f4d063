import KameoRpc.Format.Decimal

/-!
# Transport configuration and addresses

`intranet_rpc.rs` builds the libp2p swarm of a server from a `ServerConfig` and that of a client
from a `ClientConfig`. The swarm, the parse of an address and the transport are libp2p's, and
their answers are inputs (`Transport`): each `?` of `RpcServer::new` and `RpcClient::new` returns
libp2p's error, so both builders return an `Except`. What the configuration decides is kept: the
limits handed to kameo's messaging behaviour, the idle-connection timeout, and the multiaddress
texts the server listens on and the client dials, as `format!` builds them before `.parse()`.

The texts are faithful to the configuration: a server that starts listens on its TCP and then its
QUIC address, and the two never coincide (`RpcServer.new_listenAddrs_nodup`); a TCP address
determines its host and port (`tcpAddr_inj`), and a client's dial address determines the
server's host, port and, when the config names it, peer id (`ClientConfig.serverAddr_inj`).
-/

namespace KameoRpc

/-- `ServerConfig`. -/
structure ServerConfig where
  host : String
  tcpPort : UInt16
  quicPort : UInt16
  name : String
  idleTimeoutSecs : UInt64
  requestTimeoutSecs : UInt64
  maxConcurrentStreams : USize

/-- `Default for ServerConfig`. -/
def ServerConfig.default : ServerConfig where
  host := "0.0.0.0"
  tcpPort := 8020
  quicPort := 8021
  name := "server"
  idleTimeoutSecs := 300
  requestTimeoutSecs := 60
  maxConcurrentStreams := 500

/-- `ClientConfig`. -/
structure ClientConfig where
  serverHost : String
  serverTcpPort : UInt16
  serverPeerId : Option String
  name : String
  requestTimeoutSecs : UInt64
  maxConcurrentStreams : USize

/-- `Default for ClientConfig`. -/
def ClientConfig.default : ClientConfig where
  serverHost := "127.0.0.1"
  serverTcpPort := 8020
  serverPeerId := none
  name := "client"
  requestTimeoutSecs := 60
  maxConcurrentStreams := 500

/-- kameo's `remote::messaging::Config`, as both builders set it. -/
structure MessagingConfig where
  requestTimeout : UInt64
  maxConcurrentStreams : USize

/-- What a builder hands to libp2p: the messaging limits, the swarm limits, and the address texts
it listens on and dials, in order. -/
structure SwarmSetup where
  messaging : MessagingConfig
  idleConnectionTimeout : UInt64
  maxNegotiatingInboundStreams : USize
  listenAddrs : List String
  dialAddrs : List String

/-- `format!("/ip4/{}/tcp/{}", host, port)`. -/
def tcpAddr (host : String) (port : UInt16) : String :=
  "/ip4/" ++ host ++ "/tcp/" ++ toString port

/-- `format!("/ip4/{}/udp/{}/quic-v1", host, port)`. -/
def quicAddr (host : String) (port : UInt16) : String :=
  "/ip4/" ++ host ++ "/udp/" ++ toString port ++ "/quic-v1"

/-- The `server_addr` a client dials: with `/p2p/<peer id>` when the config names the server's
peer id. -/
def ClientConfig.serverAddr (config : ClientConfig) : String :=
  match config.serverPeerId with
  | some peerIdStr =>
    "/ip4/" ++ config.serverHost ++ "/tcp/" ++ toString config.serverTcpPort ++ "/p2p/" ++ peerIdStr
  | none => "/ip4/" ++ config.serverHost ++ "/tcp/" ++ toString config.serverTcpPort

/-- What libp2p answers a builder: the outcome of `with_tcp(..)?`, and for an address text the
outcome of its `.parse()?`, of `listen_on(..)?` and of `dial(..)?`. The closure given to
`with_behaviour` always returns `Ok`, so that `?` never returns. -/
structure Transport (ε : Type) where
  withTcp : Except ε Unit
  parse : String → Except ε Unit
  listenOn : String → Except ε Unit
  dial : String → Except ε Unit

variable {ε : Type}

/-- `swarm.listen_on(addr.parse()?)?`. -/
def Transport.listen (transport : Transport ε) (addr : String) : Except ε Unit := do
  transport.parse addr
  transport.listenOn addr

/-- `swarm.dial(addr.parse()?)?`. -/
def Transport.connect (transport : Transport ε) (addr : String) : Except ε Unit := do
  transport.parse addr
  transport.dial addr

/-- `RpcServer::new`: the swarm it builds, listening on `tcp_addr` then `quic_addr`. -/
def RpcServer.new (config : ServerConfig) (transport : Transport ε) : Except ε SwarmSetup := do
  transport.withTcp
  transport.listen (tcpAddr config.host config.tcpPort)
  transport.listen (quicAddr config.host config.quicPort)
  pure
    { messaging := ⟨config.requestTimeoutSecs, config.maxConcurrentStreams⟩
      idleConnectionTimeout := config.idleTimeoutSecs
      maxNegotiatingInboundStreams := 1024
      listenAddrs := [tcpAddr config.host config.tcpPort, quicAddr config.host config.quicPort]
      dialAddrs := [] }

/-- `RpcClient::new`: the swarm it builds, listening on any port and dialing `server_addr`. Its
idle timeout is fixed at 300 s; `ClientConfig` has no field for it. -/
def RpcClient.new (config : ClientConfig) (transport : Transport ε) : Except ε SwarmSetup := do
  transport.withTcp
  transport.listen "/ip4/0.0.0.0/tcp/0"
  transport.connect config.serverAddr
  pure
    { messaging := ⟨config.requestTimeoutSecs, config.maxConcurrentStreams⟩
      idleConnectionTimeout := 300
      maxNegotiatingInboundStreams := 1024
      listenAddrs := ["/ip4/0.0.0.0/tcp/0"]
      dialAddrs := [config.serverAddr] }

/-! ## Reading an address back from its last component -/

/-- Two lists that end in `a` and then a part without `a` agree on that part and on what comes
before it. -/
theorem eq_of_append_cons_eq {α : Type} {a : α} {s₁ s₂ t₁ t₂ : List α} (h₁ : a ∉ t₁)
    (h₂ : a ∉ t₂) (h : s₁ ++ a :: t₁ = s₂ ++ a :: t₂) : s₁ = s₂ ∧ t₁ = t₂ := by
  rcases List.append_eq_append_iff.mp h with ⟨u, rfl, hu⟩ | ⟨u, rfl, hu⟩
  · cases u with
    | nil => simpa using hu
    | cons b u =>
      obtain ⟨rfl, rfl⟩ := List.cons_eq_cons.mp hu
      exact absurd (List.mem_append_right _ (List.mem_cons_self _ _)) h₁
  · cases u with
    | nil => simpa using hu.symm
    | cons b u =>
      obtain ⟨rfl, rfl⟩ := List.cons_eq_cons.mp hu
      exact absurd (List.mem_append_right _ (List.mem_cons_self _ _)) h₂

theorem tcpAddr_data (host : String) (port : UInt16) :
    (tcpAddr host port).data =
      (("/ip4/".data ++ host.data) ++ '/' :: "tcp".data) ++ '/' :: Nat.toDigits 10 port.toNat := by
  simp only [tcpAddr, String.data_append, List.append_assoc]
  rfl

theorem tcpAddr_inj {host host' : String} {port port' : UInt16}
    (h : tcpAddr host port = tcpAddr host' port') : host = host' ∧ port = port' := by
  have hdata := congrArg String.data h
  rw [tcpAddr_data, tcpAddr_data] at hdata
  obtain ⟨hhead, hdigits⟩ :=
    eq_of_append_cons_eq (slash_not_mem_toDigits _) (slash_not_mem_toDigits _) hdata
  refine ⟨String.ext (by simpa using hhead), UInt16.toNat.inj ?_⟩
  rw [← decimalValue_toDigits port.toNat, hdigits, decimalValue_toDigits]

/-- The server's TCP and QUIC listen addresses differ, whatever the hosts and ports: the last
component of one is a port, of the other `quic-v1`. -/
theorem tcpAddr_ne_quicAddr (host host' : String) (port quicPort : UInt16) :
    tcpAddr host port ≠ quicAddr host' quicPort := fun h => by
  have hdata := congrArg String.data h
  rw [tcpAddr_data] at hdata
  have hquic : (quicAddr host' quicPort).data =
      ("/ip4/".data ++ host'.data ++ "/udp/".data ++ Nat.toDigits 10 quicPort.toNat) ++
        '/' :: "quic-v1".data := by
    simp only [quicAddr, String.data_append, List.append_assoc]
    rfl
  rw [hquic] at hdata
  have hq : 'q' ∈ Nat.toDigits 10 port.toNat := by
    rw [(eq_of_append_cons_eq (slash_not_mem_toDigits _) (by decide) hdata).2]
    decide
  simpa using mem_toDigits hq

/-- When `RpcServer::new` succeeds, the swarm listens on the TCP address and then the QUIC one,
libp2p accepted both, and they are two different addresses whatever the configuration. -/
theorem RpcServer.new_listenAddrs_nodup (config : ServerConfig) (transport : Transport ε)
    {setup : SwarmSetup} (h : RpcServer.new config transport = .ok setup) :
    setup.listenAddrs =
        [tcpAddr config.host config.tcpPort, quicAddr config.host config.quicPort] ∧
      setup.listenAddrs.Nodup ∧ ∀ addr ∈ setup.listenAddrs, transport.listen addr = .ok () := by
  simp only [RpcServer.new] at h
  cases hw : transport.withTcp <;> cases ht : transport.listen (tcpAddr config.host config.tcpPort) <;>
    cases hq : transport.listen (quicAddr config.host config.quicPort) <;>
    simp only [hw, ht, hq, bind, Except.bind, pure, Except.pure, reduceCtorEq, Except.ok.injEq] at h
  subst h
  exact ⟨rfl, by simp [tcpAddr_ne_quicAddr], by simp [ht, hq]⟩

/-- The default server, on a transport that accepts everything, listens on port 8020 over TCP
and 8021 over QUIC. -/
theorem RpcServer.new_default_listenAddrs :
    let transport : Transport String := ⟨.ok (), fun _ => .ok (), fun _ => .ok (), fun _ => .ok ()⟩
    let setup : SwarmSetup :=
      { messaging := ⟨60, 500⟩, idleConnectionTimeout := 300, maxNegotiatingInboundStreams := 1024
        listenAddrs := ["/ip4/0.0.0.0/tcp/8020", "/ip4/0.0.0.0/udp/8021/quic-v1"], dialAddrs := [] }
    RpcServer.new ServerConfig.default transport = .ok setup ∧
      (setup.listenAddrs = [tcpAddr "0.0.0.0" 8020, quicAddr "0.0.0.0" 8021] ∧
        setup.listenAddrs.Nodup ∧ ∀ addr ∈ setup.listenAddrs, transport.listen addr = .ok ()) :=
  by
    intro transport setup
    exact ⟨rfl, @RpcServer.new_listenAddrs_nodup _ ServerConfig.default transport setup rfl⟩

/-! ## The client's dial address -/

theorem tcpAddr_p2p_data (host : String) (port : UInt16) (peerIdStr : String) :
    (tcpAddr host port ++ "/p2p/" ++ peerIdStr).data =
      ((tcpAddr host port).data ++ '/' :: "p2p".data) ++ '/' :: peerIdStr.data := by
  simp only [String.data_append, List.append_assoc]
  rfl

theorem ClientConfig.serverAddr_eq (config : ClientConfig) :
    config.serverAddr =
      match config.serverPeerId with
      | some peerIdStr => tcpAddr config.serverHost config.serverTcpPort ++ "/p2p/" ++ peerIdStr
      | none => tcpAddr config.serverHost config.serverTcpPort :=
  rfl

/-- An address with a peer id never reads as one without: the component before the last is `p2p`
in one and `tcp` in the other. -/
theorem tcpAddr_ne_p2p (host host' : String) (port port' : UInt16) {peerIdStr : String}
    (hpeer : '/' ∉ peerIdStr.data) :
    tcpAddr host port ≠ tcpAddr host' port' ++ "/p2p/" ++ peerIdStr :=
  fun h => by
    have hdata := congrArg String.data h
    rw [tcpAddr_p2p_data, tcpAddr_data] at hdata
    have hhead := (eq_of_append_cons_eq (slash_not_mem_toDigits _) hpeer hdata).1
    exact absurd (eq_of_append_cons_eq (by decide) (by decide) hhead).2 (by decide)

/-- A dial address determines the server's host, port and peer id, for peer ids without `/`, as
libp2p's base58 texts are. -/
theorem ClientConfig.serverAddr_inj {config config' : ClientConfig}
    (hpeer : config.serverPeerId.all fun p => '/' ∉ p.data)
    (hpeer' : config'.serverPeerId.all fun p => '/' ∉ p.data)
    (h : config.serverAddr = config'.serverAddr) :
    config.serverHost = config'.serverHost ∧ config.serverTcpPort = config'.serverTcpPort ∧
      config.serverPeerId = config'.serverPeerId := by
  rw [serverAddr_eq, serverAddr_eq] at h
  cases hp : config.serverPeerId with
  | none =>
    cases hp' : config'.serverPeerId with
    | none =>
      simp only [hp, hp'] at h
      exact ⟨(tcpAddr_inj h).1, (tcpAddr_inj h).2, rfl⟩
    | some p' =>
      simp only [hp, hp'] at h hpeer'
      exact absurd h (tcpAddr_ne_p2p _ _ _ _ (by simpa using hpeer'))
  | some p =>
    cases hp' : config'.serverPeerId with
    | none =>
      simp only [hp, hp'] at h hpeer
      exact absurd h.symm (tcpAddr_ne_p2p _ _ _ _ (by simpa using hpeer))
    | some p' =>
      simp only [hp, hp'] at h hpeer hpeer'
      have hdata := congrArg String.data h
      rw [tcpAddr_p2p_data, tcpAddr_p2p_data] at hdata
      obtain ⟨hhead, hid⟩ :=
        eq_of_append_cons_eq (by simpa using hpeer) (by simpa using hpeer') hdata
      have htcp := tcpAddr_inj (String.ext (by simpa using hhead))
      exact ⟨htcp.1, htcp.2, congrArg some (String.ext hid)⟩

/-- Two clients that differ only in name and timeout dial the same server. -/
theorem serverAddr_inj_other_fields :
    let config : ClientConfig := { ClientConfig.default with serverPeerId := some "12D3KooWServer" }
    let config' : ClientConfig := { config with name := "calc-client", requestTimeoutSecs := 30 }
    (config.serverPeerId.all fun p => '/' ∉ p.data) ∧
      (config'.serverPeerId.all fun p => '/' ∉ p.data) ∧
      config.serverAddr = config'.serverAddr ∧
      (config.serverHost = config'.serverHost ∧ config.serverTcpPort = config'.serverTcpPort ∧
        config.serverPeerId = config'.serverPeerId) :=
  ⟨by decide, by decide, rfl, ClientConfig.serverAddr_inj (by decide) (by decide) rfl⟩

end KameoRpc
