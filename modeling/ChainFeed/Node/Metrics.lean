/-
The metrics of a node, and their exposition as lines of text.

Requests and ingested events are counted as they come. The hub keeps its own totals: a snapshot of them
sets the gauge, and raises each counter that it exceeds.
-/
import ChainFeed.Hub.Basic
import ChainFeed.Number.Text

namespace ChainFeed

/-- what requests are told apart by -/
structure RequestLabels where
  method : String
  path : String
  status : Nat
deriving DecidableEq, Repr

/-- a histogram of durations in seconds -/
structure Durations where
  sum : Float := 0.0
  count : Nat := 0
  /-- the durations of each bucket that are in none before it -/
  buckets : List Nat
deriving DecidableEq

namespace Durations

/-- the upper bounds of the buckets: one millisecond, doubled fifteen times -/
def bounds : List Float :=
  doubled 16 0.001
where
  doubled : Nat → Float → List Float
    | 0, _ => []
    | n + 1, x => x :: doubled n (2.0 * x)

def empty : Durations where
  buckets := bounds.map fun _ => 0

/-- counts a duration in the first bucket that it fits into -/
def observe (d : Durations) (seconds : Float) : Durations where
  sum := d.sum + seconds
  count := d.count + 1
  buckets := d.buckets.modify (bounds.findIdx fun bound => seconds ≤ bound) (· + 1)

end Durations

/-- the metrics of a node -/
structure Metrics where
  /-- the durations of requests, by first occurrence of their labels -/
  requests : List (RequestLabels × Durations) := []
  /-- the events taken in, by kind, in order of first occurrence -/
  ingested : List (String × Nat) := []
  connections : Int64 := 0
  connectionsOpened : Nat := 0
  hubEvents : Nat := 0
  hubEvictions : Nat := 0
  hubDropped : Nat := 0
deriving DecidableEq

namespace Metrics

/-- changes the value of a key, which starts as `start` -/
def update [DecidableEq κ] (key : κ) (start : α) (f : α → α) : List (κ × α) → List (κ × α)
  | [] => [(key, f start)]
  | (k, a) :: rest => if k = key then (k, f a) :: rest else (k, a) :: update key start f rest

/-- counts a request -/
def recordRequest (m : Metrics) (labels : RequestLabels) (seconds : Float) : Metrics :=
  { m with requests := update labels .empty (·.observe seconds) m.requests }

/-- counts an event that was taken in -/
def recordIngest (m : Metrics) (kind : String) : Metrics :=
  { m with ingested := update kind 0 (· + 1) m.ingested }

/-- raises a counter, which can only be added to, to a total -/
def advance (counter total : Nat) : Nat :=
  if counter < total then counter + (total - counter) else counter

/-- brings the metrics of the hub up to date with a snapshot -/
def observeHub (m : Metrics) (s : HubStats) : Metrics :=
  { m with
    connections := Int64.ofNat s.connections
    connectionsOpened := advance m.connectionsOpened s.totals.connections
    hubEvents := advance m.hubEvents s.totals.events
    hubEvictions := advance m.hubEvictions s.totals.evicted
    hubDropped := advance m.hubDropped s.totals.dropped }

/-! ## Exposition -/

/-- Durations are written positionally from `1e-6` up to `1e21`, and exponents without a plus sign. -/
def floatLayout : FloatLayout := ⟨.scaled, 21, 5, false⟩

/-- the text of a number of seconds -/
def secondsText (x : Float) : String :=
  match floatLayout.text? x with
  | some t => String.ofList t
  | none => if x == x then (if x < 0.0 then "-inf" else "inf") else "NaN"

/-- labels between braces, with their values between quotes as they are -/
def labelText (labels : List (String × String)) : String :=
  "\x7b" ++ ",".intercalate (labels.map fun (k, v) => k ++ "=\"" ++ v ++ "\"") ++ "\x7d"

/-- the lines of one metric: what it is, and its samples as suffix, labels and value -/
def family (name type help : String) (samples : List (String × List (String × String) × String)) :
    List String :=
  ("# HELP blockpulse_" ++ name ++ " " ++ help ++ ".") ::
    ("# TYPE blockpulse_" ++ name ++ " " ++ type) ::
    samples.map fun (suffix, labels, value) =>
      "blockpulse_" ++ name ++ suffix ++ (if labels.isEmpty then "" else labelText labels) ++ " " ++ value

/-- the lines of a metric that is left out while it has no samples -/
def familyIfAny (name type help : String) (samples : List (String × List (String × String) × String)) :
    List String :=
  if samples.isEmpty then [] else family name type help samples

/-- the lines of a counter without labels -/
def counter (name help : String) (value : Nat) : List String :=
  family name "counter" help [("_total", [], toString value)]

def RequestLabels.pairs (l : RequestLabels) : List (String × String) :=
  [("method", l.method), ("path", l.path), ("status", toString l.status)]

/-- running sums -/
def cumulative (start : Nat) : List Nat → List Nat
  | [] => []
  | n :: rest => (start + n) :: cumulative (start + n) rest

/-- the samples of a histogram -/
def durationSamples (l : RequestLabels) (d : Durations) : List (String × List (String × String) × String) :=
  let labels := RequestLabels.pairs l
  let bounds := Durations.bounds.map secondsText ++ ["+Inf"]
  let counts := cumulative 0 d.buckets ++ [d.count]
  [("_sum", labels, secondsText d.sum), ("_count", labels, toString d.count)] ++
    (bounds.zip counts).map fun (bound, n) => ("_bucket", ("le", bound) :: labels, toString n)

/-- whether a line tells the time that requests took, rather than a count -/
def isLatency (line : String) : Bool :=
  line.startsWith "blockpulse_http_request_duration_seconds_bucket" ||
    line.startsWith "blockpulse_http_request_duration_seconds_sum"

/-- the media type of the exposition -/
def contentType : String :=
  "application/openmetrics-text; version=1.0.0; charset=utf-8"

/-- the exposition of all metrics -/
def lines (m : Metrics) : List String :=
  familyIfAny "http_requests" "counter" "Total HTTP requests"
      (m.requests.map fun (l, d) => ("_total", RequestLabels.pairs l, toString d.count)) ++
    familyIfAny "http_request_duration_seconds" "histogram" "HTTP request duration in seconds"
      (m.requests.flatMap fun (l, d) => durationSamples l d) ++
    familyIfAny "ingested_events" "counter" "Chain events received for broadcast"
      (m.ingested.map fun (kind, n) => ("_total", [("kind", kind)], toString n)) ++
    family "websocket_connections" "gauge" "Active WebSocket connections"
      [("", [], toString m.connections.toInt)] ++
    counter "websocket_connections_opened" "WebSocket connections since start" m.connectionsOpened ++
    counter "hub_events" "Events broadcast to websocket clients" m.hubEvents ++
    counter "hub_evictions" "Websocket clients dropped for falling behind" m.hubEvictions ++
    counter "hub_dropped_events" "Invalid events discarded by the hub" m.hubDropped ++
    ["# EOF"]

end Metrics

end ChainFeed
