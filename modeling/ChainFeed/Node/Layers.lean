/-
Settings in layers: the defaults, then a file, then variables of the environment.

A later layer takes precedence over an earlier one setting by setting. A setting is named by its path:
the names of the groups around it and its own. A variable names it in letters of either case, after a
word that sets the variables of the node apart, with two underscores between the names; in a file the
groups are nested. A name at the top may itself be a path, with points before names and square brackets
around the indices of items.
-/
import ChainFeed.Node.Setting
import ChainFeed.Node.Settings

namespace ChainFeed

/-! ## Members -/

def ChainParams.members : List (Setting.Member ChainParams) :=
  [.of "name" Setting.toText? fun v p => { p with name := v },
   .of "target_time_per_block_secs" Setting.toUInt64? fun v p => { p with blockTime := v },
   .of "ticket_pool_size" Setting.toUInt64? fun v p => { p with ticketPoolSize := v },
   .of "tickets_per_block" Setting.toUInt64? fun v p => { p with ticketsPerBlock := v },
   .of "ticket_maturity" Setting.toUInt64? fun v p => { p with ticketMaturity := v },
   .of "ticket_expiry" Setting.toUInt64? fun v p => { p with ticketExpiry := v },
   .of "coinbase_maturity" Setting.toUInt64? fun v p => { p with coinbaseMaturity := v },
   .of "stake_diff_window_size" Setting.toUInt64? fun v p => { p with stakeWindow := v },
   .of "subsidy_reduction_interval" Setting.toUInt64? fun v p => { p with rewardWindow := v }]

def RpcSettings.members : List (Setting.Member RpcSettings) :=
  [.of "url" Setting.toText? fun v r => { r with url := v },
   .of "user" Setting.toOptionalText? fun v r => { r with user := v },
   .of "password" Setting.toOptionalText? fun v r => { r with password := v },
   .of "timeout_secs" Setting.toUInt64? fun v r => { r with timeoutSecs := v }]

def HubSettings.members : List (Setting.Member HubSettings) :=
  [.of "client_queue_size" Setting.toUInt64? fun v h => { h with clientQueue := v },
   .of "tx_buffer_size" Setting.toUInt64? fun v h => { h with txBuffer := v },
   .of "flush_interval_ms" Setting.toUInt64? fun v h => { h with flushIntervalMs := v },
   .of "ping_interval_secs" Setting.toUInt64? fun v h => { h with pingIntervalSecs := v },
   .of "publish_timeout_secs" Setting.toUInt64? fun v h => { h with publishTimeoutSecs := v },
   .of "relay_capacity" Setting.toUInt64? fun v h => { h with relayCapacity := v },
   .of "max_request_bytes" Setting.toUInt64? fun v h => { h with maxRequestBytes := v },
   .of "read_timeout_secs" Setting.toUInt64? fun v h => { h with readTimeoutSecs := v },
   .of "write_timeout_secs" Setting.toUInt64? fun v h => { h with writeTimeoutSecs := v }]

/-- the members of the settings of a node; a group that is given starts from its defaults -/
def Settings.members : List (Setting.Member Settings) :=
  [.of "api_addr" Setting.toAddress? fun v s => { s with apiAddr := v },
   .of "log_level" Setting.toText? fun v s => { s with logLevel := v },
   .of "log_json" Setting.toBool? fun v s => { s with logJson := v },
   .of "rpc" (Setting.toGroup? RpcSettings.members {}) fun v s => { s with rpc := v },
   .of "hub" (Setting.toGroup? HubSettings.members {}) fun v s => { s with hub := v },
   .of "chain" (Setting.toGroup? ChainParams.members {}) fun v s => { s with chain := v }]

/-! ## Names and layers -/

namespace Setting

/-- whether a character can stand in a name on a path -/
def isPathChar (c : Char) : Bool :=
  c.isAlphanum || c = '_' || c = '-'

/-- the index of an item, with blanks around it -/
def readIndex? (cs : List Char) : Option Int :=
  let isGap (c : Char) : Bool := c = ' ' || c = '\t'
  let index := ((cs.dropWhile isGap).reverse.dropWhile isGap).reverse
  if index.head? = some '+' then none else (readInt64? 10 index).map Int64.toInt

/-- the steps of a path, whose first character stands before a name or an index -/
def readSteps? : (fuel : Nat) → List Char → Option (List Step)
  | _, [] => some []
  | fuel + 1, '.' :: cs => do
    let name := cs.takeWhile isPathChar
    if name.isEmpty then none
    some (.member (String.ofList name) :: (← readSteps? fuel (cs.drop name.length)))
  | fuel + 1, '[' :: cs => do
    let index := cs.takeWhile (· ≠ ']')
    let rest := cs.drop index.length
    if rest.isEmpty then none
    some (.item (← readIndex? index) :: (← readSteps? fuel (rest.drop 1)))
  | _, _ => none

/-- the path that a name at the top stands for; a name that is no path stands for itself -/
def pathOf (name : String) : List Step :=
  (readSteps? (name.length + 1) ('.' :: name.toList)).getD [.member name]

/-- a small letter for a capital one; the sign of the kelvin is the one letter beyond ASCII that has a
small letter within it -/
def smallLetter (c : Char) : Char :=
  if c = '\u212a' then 'k' else c.toLower

/-- a text with points in place of pairs of underscores -/
def pointed : List Char → List Char
  | '_' :: '_' :: rest => '.' :: pointed rest
  | c :: rest => c :: pointed rest
  | [] => []

/-- the start of the names of the variables that set something -/
def variableStart : String := "blockpulse__"

/-- what the name of a variable sets, if it sets anything -/
def variableTarget? (name : String) : Option String :=
  let cs := name.toList.map smallLetter
  if variableStart.toList.isPrefixOf cs then
    some (String.ofList (pointed (cs.drop variableStart.length)))
  else none

/-- the layer of the root of a file: names at the top and their values; a root that is no mapping is
refused -/
def fileLayer? (root : Yaml) : Option (List (String × Setting)) := do
  match ← ofYaml? root with
  | .table entries => some entries
  | _ => none

/-- the layer of the variables of the environment, given by name and value -/
def environmentLayer (environment : List (String × String)) : List (String × Setting) :=
  environment.filterMap fun (name, value) =>
    (variableTarget? name).map fun target => (target, ofVariable value)

/-- values laid over each other at the paths that their names stand for, the last one on top -/
def stack (values : List (String × Setting)) : Setting :=
  values.foldl (fun lower (name, v) => put v (pathOf name) lower) (.table [])

end Setting

/-! ## Loading -/

/-- the settings that the root of a file, if there is one, and the variables of the environment give -/
def Settings.ofSources? (root : Option Yaml) (environment : List (String × String)) :
    Option Settings := do
  let values ← match root with
    | some y => Setting.fileLayer? y
    | none => some []
  (Setting.stack (values ++ Setting.environmentLayer environment)).toGroup? Settings.members {}

/-- loads settings from the text of a file, if there is one, and the variables of the environment -/
def Settings.load (file : Option String) (environment : List (String × String)) :
    Except SettingsError Settings :=
  let settings? := match file with
    | some text => (Yaml.parse? text).bind fun root => ofSources? (some root) environment
    | none => ofSources? none environment
  match settings? with
  | some s => .ok s
  | none => .error .unloadable

end ChainFeed
