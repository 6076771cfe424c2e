/-
The node: the running hub with its sessions, behind an HTTP interface.

Chain events come in by POST on five paths and are answered once they are on their way; the other paths
tell statistics, health and metrics, or open a websocket. Every request is counted.
-/
import ChainFeed.Node.Health
import ChainFeed.Node.Metrics
import ChainFeed.Node.Rpc
import ChainFeed.Node.Socket
import ChainFeed.World.Basic

namespace ChainFeed

/-- the chain events that come in by HTTP -/
inductive IngestKind where
  | block
  | tx
  | mempool
  | address
  | sync
deriving DecidableEq, Repr

namespace IngestKind

def all : List IngestKind := [block, tx, mempool, address, sync]

def name : IngestKind → String
  | block => "block"
  | tx => "tx"
  | mempool => "mempool"
  | address => "address"
  | sync => "sync"

end IngestKind

/-- what a path leads to -/
inductive Route where
  | metrics
  | socket
  | stats
  | health
  | live
  | ready
  | ingest (kind : IngestKind)
deriving DecidableEq, Repr

namespace Route

/-- the paths of the node -/
def table : List (String × Route) :=
  [("/metrics", metrics), ("/ws", socket), ("/api/realtime/stats", stats), ("/health", health),
   ("/health/live", live), ("/health/ready", ready)] ++
    IngestKind.all.map fun k => ("/api/ingest/" ++ k.name, ingest k)

/-- where a path leads -/
def ofPath? (path : String) : Option Route :=
  table.lookup path

/-- the methods of a route -/
def methods : Route → List String
  | ingest _ => ["POST"]
  | _ => ["GET", "HEAD"]

end Route

/-- a running node -/
structure Server where
  world : World
  metrics : Metrics := {}
  rpcConfigured : Bool

namespace Server

/-- The source of a node by itself: its mempool comes in by HTTP, and the chain node is asked by a
connection that is made elsewhere. -/
def source (s : Settings) : Source :=
  let refusal : RpcError := if s.rpc.url = "" then .notConfigured else .transport
  { params := s.chain
    counting := true
    decode := fun _ => .error refusal.toFeed
    send := fun _ => .error refusal.toFeed }

/-- a node with the given settings -/
def create (s : Settings) : Except Overflow Server :=
  (World.create s.hub.hubConfig (source s)).map fun world =>
    { world, rpcConfigured := s.rpc.url ≠ "" }

/-! ## Events coming in -/

/-- counts an event of a kind -/
def recordIngest (s : Server) (k : IngestKind) : Server :=
  { s with metrics := s.metrics.recordIngest k.name }

/-- the response to an event that is on its way -/
def accepted (k : IngestKind) : HttpResponse :=
  .json 202 (Json.objectText [("accepted", Json.quote k.name)])

/-- publishes an event that came in and answers with what became of it -/
def publish (s : Server) (k : IngestKind) (e : Event) : Server × HttpResponse :=
  let (world, result) := s.world.publish e
  ({ s with world }, match result with
    | .ok _ => accepted k
    | .error e => .ofError (.ofFeed e))

def ingestBlock (s : Server) (r : BlockReport) : Except Overflow (Server × HttpResponse) :=
  let s := s.recordIngest .block
  (s.world.storeBlock r).map fun world => ({ s with world }, accepted .block)

def ingestTx (s : Server) (tx : Transaction) : Server × HttpResponse :=
  if tx.isValid then (s.recordIngest .tx).publish .tx (.newTx tx)
  else (s, .ofError (.badRequest "transaction hash is required"))

def ingestMempool (s : Server) (m : Mempool) : Except Overflow (Server × HttpResponse) :=
  let s := s.recordIngest .mempool
  (s.world.setMempool (some m)).map fun world => { s with world }.publish .mempool .mempool

def ingestAddress (s : Server) (a : AddressActivity) : Server × HttpResponse :=
  if a.isValid && a.txHash ≠ "" then (s.recordIngest .address).publish .address (.address a)
  else (s, .ofError (.badRequest "address and txHash are required"))

def ingestSync (s : Server) (r : SyncReport) : Server × HttpResponse :=
  let s := s.recordIngest .sync
  let world := s.world.setHub (s.world.hub.setReady r.ready)
  { s with world }.publish .sync (.syncStatus r.stages)

/-- reads the body of a request: refused if it is not said to be JSON, is not, or has another shape -/
def readBody (codec : Json.Codec α) (r : HttpRequest) : Except HttpResponse α :=
  if (r.header? "content-type").any MediaType.isJson then
    match codec.parse r.body with
    | .ok a => .ok a
    | .error f => .error { status := if f.cause.kind = .shape then 422 else 400 }
  else .error { status := 415 }

/-- answers a request that brings an event -/
def ingest (s : Server) (k : IngestKind) (r : HttpRequest) : Except Overflow (Server × HttpResponse) :=
  match k with
  | .block => withBody BlockReport.codec ingestBlock
  | .tx => withBody Transaction.codec fun s tx => .ok (s.ingestTx tx)
  | .mempool => withBody Mempool.codec ingestMempool
  | .address => withBody AddressActivity.codec fun s a => .ok (s.ingestAddress a)
  | .sync => withBody SyncReport.codec fun s r => .ok (s.ingestSync r)
where
  withBody {α : Type} (codec : Json.Codec α)
      (take : Server → α → Except Overflow (Server × HttpResponse)) :
      Except Overflow (Server × HttpResponse) :=
    match readBody codec r with
    | .ok a => take s a
    | .error refusal => .ok (s, refusal)

/-! ## Requests -/

/-- the figures of the hub, its phase and whether the explorer is ready -/
def stats (s : Server) : HttpResponse :=
  let h := s.world.hub
  .json 200 <| Json.objectText <|
    h.stats.members ++
      [("state", Json.quote h.phase.name), ("ready", Json.bool.write h.ready)]

/-- brings the metrics up to date and tells them -/
def scrape (s : Server) : Server × HttpResponse :=
  let metrics := s.metrics.observeHub s.world.hub.stats
  ({ s with metrics }, { status := 200, body := .metrics metrics.lines })

/-- answers a request on a route with one of its methods -/
def respond (s : Server) (route : Route) (r : HttpRequest) : Except Overflow (Server × HttpResponse) :=
  match route with
  | .metrics => .ok s.scrape
  | .socket => .ok (s, { status := Handshake.refusal r })
  | .stats => .ok (s, s.stats)
  | .health => .ok (s, Health.overall s.world.publisher s.rpcConfigured)
  | .live => .ok (s, Health.live)
  | .ready => .ok (s, Health.ready s.world.publisher s.rpcConfigured)
  | .ingest k => s.ingest k r

/-- answers a request by its path and method; the response to HEAD is the one to GET without its
content -/
def dispatch (s : Server) (r : HttpRequest) : Except Overflow (Server × HttpResponse) :=
  match Route.ofPath? r.path with
  | none => .ok (s, { status := 404 })
  | some route =>
    if r.method ∈ route.methods then
      (s.respond route r).map fun (s, response) =>
        (s, if r.method = "HEAD" then { response with body := response.body.withoutContent } else response)
    else .ok (s, { status := 405, allow := some (",".intercalate route.methods) })

/-- answers a request, counts it, and returns the id that it brought along; `seconds` is the time that
it took -/
def handle (s : Server) (r : HttpRequest) (seconds : Float) :
    Except Overflow (Server × HttpResponse) :=
  (s.dispatch r).map fun (s, response) =>
    let labels := ⟨r.method, r.path, response.status⟩
    ({ s with metrics := s.metrics.recordRequest labels seconds },
      { response with requestId := r.header? "x-request-id" })

/-! ## Websockets -/

/-- turns the connection of a request into a websocket with a session, or answers the request -/
def upgrade (s : Server) (config : SessionConfig) (r : HttpRequest) :
    Except Overflow (Server × Option HttpResponse) :=
  if Route.ofPath? r.path = some .socket && Handshake.isValid r then
    .ok ({ s with world := (s.world.connect { config }).settle }, none)
  else (s.handle r 0.0).map fun (s, response) => (s, some response)

/-- a message comes in by a websocket: what the connection itself answers -/
def receive (s : Server) (session : Nat) (m : SocketMessage) : Server × Option String :=
  let limit := ((s.world.sessions[session]?).map fun c => c.config.maxRequestBytes).getD 0
  let frame := m.frame (SocketMessage.limit limit)
  ({ s with world := (s.world.modifySession session (·.feed frame)).settle }, m.pong?)

end Server

end ChainFeed
