/-
A run of the program from its arguments to its exit.

The run reads its arguments, loads its settings, starts to log, sets up its state, takes its address and
serves until it is interrupted. Each part but the log and the last may end it early.
-/
import ChainFeed.Node.CommandLine
import ChainFeed.Node.Layers
import ChainFeed.Node.Logging
import ChainFeed.Node.Server

namespace ChainFeed

/-! ## Addresses -/

/-- whether a host stands for every address of its machine -/
def Host.isUnspecified : Host → Bool
  | .v4 a b c d => a = 0 && b = 0 && c = 0 && d = 0
  | .v6 groups _ => groups.toList.all fun g => g = 0

/-- whether a host is an address that every machine has -/
def Host.isOwn (h : Host) : Bool :=
  h.isUnspecified ||
    match h with
    | .v4 a _ _ _ => a = 127
    | .v6 groups _ => groups.toList = [0, 0, 0, 0, 0, 0, 0, 1]

/-- whether two listeners cannot have these addresses at the same time -/
def SocketAddress.clashes (a b : SocketAddress) : Bool :=
  a.port ≠ 0 && a.port = b.port && (a.host = b.host || a.host.isUnspecified || b.host.isUnspecified)

/-! ## Runs -/

/-- what a run finds around it -/
structure Surroundings where
  /-- the text of the file at a path, if there is one -/
  file? : String → Option String
  /-- the variables of the environment, by name and value -/
  environment : List (String × String) := []
  /-- the addresses of other listeners -/
  listeners : List SocketAddress := []

/-- what is left of a run -/
structure Exit where
  /-- 0 after a run without faults -/
  code : Nat := 0
  /-- whether the node came up and served -/
  served : Bool := false
  format : LogFormat := .pretty
  /-- the log lines that the filter lets through -/
  log : List LogLine := []
  /-- the lines of the answer to a question of the arguments -/
  answer : List String := []
  /-- the lines of remarks and faults -/
  remarks : List String := []

/-- the text of the log -/
def Exit.logText (o : Exit) : List String :=
  o.log.map fun l => l.text o.format

/-- the log lines written as JSON -/
def Exit.jsonLog (o : Exit) : List LogLine :=
  if o.format = .json then o.log else []

namespace Program

def name : String := "blockpulse-node"

def version : String := "0.1.0"

def about : String := "Blockpulse Node - live block, mempool and address pushes"

/-- the variable with a filter for log lines -/
def filterVariable : String := "RUST_LOG"

/-- the variables of an environment in which each ends with a null character -/
def variablesOf (environment : String) : List (String × String) :=
  (environment.toList.splitOn '\x00').filterMap fun entry =>
    match entry.dropWhile (· ≠ '=') with
    | _ :: value => some (String.ofList (entry.takeWhile (· ≠ '=')), String.ofList value)
    | [] => none

/-! ## Log lines -/

/-- a line about the program itself -/
def note (message : String) (fields : List (String × Json.Value)) : LogLine :=
  { level := .info, target := "blockpulse_node", message, fields }

/-- what is logged once the log is set up -/
def opening (s : Settings) : LogLine where
  level := .info
  target := "blockpulse_node::observability::logging"
  message := "Logging initialized"
  fields := [("level", .string s.logLevel), ("format", .string (LogFormat.ofFlag s.logJson).name)]

def starting : LogLine :=
  note "Starting blockpulse node" [("version", .string version)]

def configured (s : Settings) : LogLine :=
  note "Node configuration"
    [("api_addr", .string s.apiAddr.text), ("rpc_configured", .bool (s.rpc.url ≠ "")),
     ("network", .string s.chain.name),
     ("client_queue_size", .number (.unsigned s.hub.clientQueue))]

def ready (s : Settings) : LogLine :=
  note "Node is ready. Press Ctrl+C to stop." [("addr", .string s.apiAddr.text)]

def interrupted : LogLine :=
  note "Shutdown signal received" []

def stopped : LogLine :=
  note "Blockpulse node stopped" []

/-- the lines up to the point where the address is taken -/
def linesBefore (s : Settings) : List LogLine :=
  [opening s, starting, configured s]

/-- the lines of a node that serves until it is interrupted -/
def linesServing (s : Settings) : List LogLine :=
  [ready s, interrupted, stopped]

/-- the filter for log lines, with remarks on its bad directives: that of the environment if it can be
read, otherwise the one for the level of the settings -/
def filter (around : Surroundings) (s : Settings) : LogFilter × List String :=
  match (around.environment.lookup filterVariable).bind LogFilter.parse? with
  | some f => (f, [])
  | none => LogFilter.parseLenient (defaultFilter s.logLevel)

/-! ## Running -/

/-- the end of arguments that ask for no run -/
def refuse : NoRun → Exit
  | .help => { answer := [about, "", "Usage: " ++ name ++ " [OPTIONS]"] }
  | .version => { answer := [name ++ " " ++ version] }
  | .misuse e => { code := 2, remarks := ["error: " ++ e.message] }

/-- the end of a run that fails -/
def fail (message : String) : Exit :=
  { code := 1, remarks := ["Error: " ++ message] }

/-- the lines that tell of a task that broke down; the first is empty -/
def report (overflow : Overflow) : List String :=
  ["", overflow.message]

/-- whether the node can listen on an address -/
def canListen (around : Surroundings) (a : SocketAddress) : Bool :=
  a.host.isOwn && !(around.listeners.any fun b => a.clashes b)

/-- runs a node with settings that are checked: it starts to log, sets up its state, takes its address and
serves until it is interrupted -/
def serve (around : Surroundings) (s : Settings) : Exit :=
  let (f, remarks) := filter around s
  let failed (code : Nat) (remark : List String) : Exit :=
    { code, format := LogFormat.ofFlag s.logJson, log := (linesBefore s).filter f.allows,
      remarks := remarks ++ remark }
  match Server.create s with
  | .error overflow => failed 101 (report overflow)
  | .ok _ =>
    if canListen around s.apiAddr then
      let beats := s.hub.hubConfig.pingInterval < Heartbeat.maxInterval
      { served := true, format := LogFormat.ofFlag s.logJson,
        log := (linesBefore s ++ linesServing s).filter f.allows
        remarks := if beats then remarks else remarks ++ report .time }
    else failed 1 ["Error: failed to bind " ++ s.apiAddr.text]

/-- runs the program -/
def run (around : Surroundings) (arguments : List String) : Exit :=
  match RunOptions.parse arguments with
  | .error e => refuse e
  | .ok options =>
    match Settings.load (options.config.bind around.file?) around.environment with
    | .error e => fail e.message
    | .ok loaded =>
      let s := options.apply loaded
      match s.validate with
      | .error e => fail e.message
      | .ok () => serve around s

end Program

/-- whether the log tells in its readable form that the node is ready -/
def Exit.announcesReadiness (o : Exit) : Bool :=
  o.format = .pretty && o.log.any fun l => l.message = (Program.ready {}).message

end ChainFeed
