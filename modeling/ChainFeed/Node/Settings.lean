/-
The settings of a node, with their defaults and the checks on them.

`Settings.validate` looks at the hub's settings first, in their order, and reports the first that is
not positive.
-/
import ChainFeed.Chain.Params
import ChainFeed.Hub.Config
import ChainFeed.Node.SocketAddress

namespace ChainFeed

/-- how the chain node is reached -/
structure RpcSettings where
  /-- empty if there is no chain node to ask -/
  url : String := ""
  user : Option String := none
  password : Option String := none
  timeoutSecs : UInt64 := 30
deriving DecidableEq

open Json in
def RpcSettings.codec : Codec RpcSettings :=
  record "RpcConfig"
    (.cons (.defaulting "url" string "") <| .cons (.defaulting "user" (optional string) none) <|
     .cons (.defaulting "password" (optional string) none) <|
     .cons (.defaulting "timeout_secs" uint64 30) .nil)
    (fun (url, user, password, timeout, ()) => ⟨url, user, password, timeout⟩)
    (fun r => (r.url, r.user, r.password, r.timeoutSecs, ()))

/-- the tunables of the hub and its sessions as they are set -/
structure HubSettings where
  clientQueue : UInt64 := 16
  txBuffer : UInt64 := 5
  flushIntervalMs : UInt64 := 3000
  pingIntervalSecs : UInt64 := 45
  publishTimeoutSecs : UInt64 := 10
  relayCapacity : UInt64 := 256
  maxRequestBytes : UInt64 := 1048576
  readTimeoutSecs : UInt64 := 20
  writeTimeoutSecs : UInt64 := 10
deriving DecidableEq

namespace HubSettings

open Json in
def codec : Codec HubSettings :=
  record "HubSettings"
    (.cons (.defaulting "client_queue_size" size 16) <|
     .cons (.defaulting "tx_buffer_size" size 5) <|
     .cons (.defaulting "flush_interval_ms" uint64 3000) <|
     .cons (.defaulting "ping_interval_secs" uint64 45) <|
     .cons (.defaulting "publish_timeout_secs" uint64 10) <|
     .cons (.defaulting "relay_capacity" size 256) <|
     .cons (.defaulting "max_request_bytes" size 1048576) <|
     .cons (.defaulting "read_timeout_secs" uint64 20) <|
     .cons (.defaulting "write_timeout_secs" uint64 10) .nil)
    (fun (queue, buffer, flush, ping, publish, relay, request, read, write, ()) =>
      ⟨queue, buffer, flush, ping, publish, relay, request, read, write⟩)
    (fun h =>
      (h.clientQueue, h.txBuffer, h.flushIntervalMs, h.pingIntervalSecs, h.publishTimeoutSecs,
        h.relayCapacity, h.maxRequestBytes, h.readTimeoutSecs, h.writeTimeoutSecs, ()))

/-- the settings that have to be positive, by name -/
def positives (h : HubSettings) : List (String × UInt64) :=
  [("hub.client_queue_size", h.clientQueue), ("hub.tx_buffer_size", h.txBuffer),
   ("hub.flush_interval_ms", h.flushIntervalMs), ("hub.ping_interval_secs", h.pingIntervalSecs),
   ("hub.publish_timeout_secs", h.publishTimeoutSecs), ("hub.relay_capacity", h.relayCapacity),
   ("hub.max_request_bytes", h.maxRequestBytes), ("hub.read_timeout_secs", h.readTimeoutSecs),
   ("hub.write_timeout_secs", h.writeTimeoutSecs)]

def hubConfig (h : HubSettings) : HubConfig where
  clientQueue := h.clientQueue.toNat
  txBuffer := h.txBuffer.toNat
  flushInterval := h.flushIntervalMs.toNat
  pingInterval := h.pingIntervalSecs.toNat * 1000
  publishTimeout := h.publishTimeoutSecs.toNat * 1000
  relayCapacity := h.relayCapacity.toNat

def sessionConfig (h : HubSettings) : SessionConfig where
  maxRequestBytes := h.maxRequestBytes.toNat
  readTimeout := h.readTimeoutSecs.toNat * 1000
  writeTimeout := h.writeTimeoutSecs.toNat * 1000

end HubSettings

/-- the settings of a node -/
structure Settings where
  /-- where the node listens -/
  apiAddr : SocketAddress := ⟨.v4 127 0 0 1, 7777⟩
  logLevel : String := "info"
  logJson : Bool := false
  rpc : RpcSettings := {}
  hub : HubSettings := {}
  chain : ChainParams := {}
deriving DecidableEq

open Json in
def Settings.codec : Codec Settings :=
  record "NodeConfig"
    (.cons (.defaulting "api_addr" SocketAddress.codec ⟨.v4 127 0 0 1, 7777⟩) <|
     .cons (.defaulting "log_level" string "info") <|
     .cons (.defaulting "log_json" bool false) <|
     .cons (.defaulting "rpc" RpcSettings.codec {}) <|
     .cons (.defaulting "hub" HubSettings.codec {}) <|
     .cons (.defaulting "chain" ChainParams.codec {}) .nil)
    (fun (address, level, json, rpc, hub, chain, ()) => ⟨address, level, json, rpc, hub, chain⟩)
    (fun s => (s.apiAddr, s.logLevel, s.logJson, s.rpc, s.hub, s.chain, ()))

/-- why settings are refused -/
inductive SettingsError where
  /-- a source could not be read or does not fit -/
  | unloadable
  | notPositive (name : String)
deriving DecidableEq, Repr

def SettingsError.message : SettingsError → String
  | unloadable => "failed to load configuration"
  | notPositive name => "invalid configuration: " ++ name ++ " must be positive"

/-- refuses the first setting that is zero -/
def requirePositive (settings : List (String × UInt64)) : Except SettingsError Unit :=
  match settings.find? fun (_, value) => value = 0 with
  | some (name, _) => .error (.notPositive name)
  | none => .ok ()

/-- refuses hub settings under which the hub cannot work -/
def HubSettings.validate (h : HubSettings) : Except SettingsError Unit :=
  requirePositive h.positives

/-- refuses settings under which the node cannot work -/
def Settings.validate (s : Settings) : Except SettingsError Unit :=
  requirePositive <| s.hub.positives ++
    [("chain.target_time_per_block_secs", s.chain.blockTime),
     ("rpc.timeout_secs", s.rpc.timeoutSecs)]

end ChainFeed
