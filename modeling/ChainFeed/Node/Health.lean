/-
Health of a node: what the probes of its deployment are told.

The node is ready while its hub runs and the explorer has caught up with the chain.
-/
import ChainFeed.Json.Value
import ChainFeed.Node.Http
import ChainFeed.Service.Publisher

namespace ChainFeed

/-- the health of a part -/
inductive HealthStatus where
  | up
  | down
  /-- it is not known without asking elsewhere -/
  | unknown
deriving DecidableEq, Repr

namespace HealthStatus

def name : HealthStatus → String
  | up => "up"
  | down => "down"
  | unknown => "unknown"

def ofBool (isUp : Bool) : HealthStatus :=
  if isUp then up else down

/-- what is not up is unavailable -/
def code : HealthStatus → Nat
  | up => 200
  | _ => 503

end HealthStatus

namespace Health

open Json (Value)

/-- the health of a part with its details -/
def part (status : HealthStatus) (details : List (String × Value)) : Value :=
  .ofMembers [("status", .string status.name), ("details", .ofMembers details)]

/-- whether the hub runs -/
def isRunning (p : Publisher) : Bool :=
  p.hub.phase = .created || p.hub.phase = .running

/-- whether clients can be served -/
def isReady (p : Publisher) : Bool :=
  isRunning p && p.hub.ready

def realtime (p : Publisher) : Value :=
  part (.ofBool (isRunning p))
    [("state", .string p.hub.phase.name),
     ("connections", .number (.unsigned (UInt64.ofNat p.hub.connections)))]

def chain (p : Publisher) : Value :=
  let height := p.block.map fun b => Value.number (Json.Number.ofInt b.height.toInt)
  part (.ofBool p.hub.ready) [("synced", .bool p.hub.ready), ("best_height", height.getD .null)]

def rpc (configured : Bool) : Value :=
  part (if configured then .unknown else .down) [("configured", .bool configured)]

/-- the health of all parts -/
def checks (p : Publisher) (rpcConfigured : Bool) : Value :=
  .ofMembers [("realtime", realtime p), ("chain", chain p), ("rpc", rpc rpcConfigured)]

/-- the version that a node tells -/
def version : String := "0.1.0"

/-- the response to a liveness probe -/
def live : HttpResponse :=
  .json 200 (Value.ofMembers [("status", .string HealthStatus.up.name)]).text

/-- the response to a readiness probe -/
def ready (p : Publisher) (rpcConfigured : Bool) : HttpResponse :=
  let status := HealthStatus.ofBool (isReady p)
  .json status.code
    (Value.ofMembers [("status", .string status.name), ("checks", checks p rpcConfigured)]).text

/-- the response that tells all of it -/
def overall (p : Publisher) (rpcConfigured : Bool) : HttpResponse :=
  let status := HealthStatus.ofBool (isReady p)
  .json status.code
    (Value.ofMembers
      [("status", .string status.name), ("version", .string version),
       ("checks", checks p rpcConfigured)]).text

end Health

end ChainFeed
