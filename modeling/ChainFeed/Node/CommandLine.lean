/-
The arguments of the program.

An option takes its value from the same argument, after an equals sign or right after its letter, or from
the next argument if that looks like no option. Such a value is put in place only when another option
follows or the arguments end; an argument that is not known is reported before a value that waits.
-/
import ChainFeed.Node.Settings

namespace ChainFeed

/-- the options that take a value -/
inductive ValueOption where
  | config
  | apiAddr
  | rpcUrl
  | logLevel
deriving DecidableEq, Repr

namespace ValueOption

def all : List ValueOption :=
  [config, apiAddr, rpcUrl, logLevel]

def name : ValueOption → String
  | config => "config"
  | apiAddr => "api-addr"
  | rpcUrl => "rpc-url"
  | logLevel => "log-level"

def valueName : ValueOption → String
  | config => "CONFIG"
  | apiAddr => "API_ADDR"
  | rpcUrl => "RPC_URL"
  | logLevel => "LOG_LEVEL"

/-- the option as remarks name it -/
def shown (o : ValueOption) : String :=
  "--" ++ o.name ++ " <" ++ o.valueName ++ ">"

end ValueOption

/-- the options that take no value -/
inductive FlagOption where
  | logJson
  | help
  | version
deriving DecidableEq, Repr

namespace FlagOption

def all : List FlagOption :=
  [logJson, help, version]

def name : FlagOption → String
  | logJson => "log-json"
  | help => "help"
  | version => "version"

def shown (o : FlagOption) : String :=
  "--" ++ o.name

end FlagOption

/-- what the arguments ask of a run -/
structure RunOptions where
  /-- the path of the file with settings -/
  config : Option String := none
  apiAddr : Option SocketAddress := none
  rpcUrl : Option String := none
  logLevel : Option String := none
  logJson : Bool := false
deriving DecidableEq

/-- why arguments are refused -/
inductive UsageError where
  | unexpected (argument : String)
  | valueMissing (option : ValueOption)
  | badAddress (value : String)
  | repeated (option : String)
  | valueNotTaken (value : String) (option : FlagOption)
deriving DecidableEq, Repr

def UsageError.message : UsageError → String
  | unexpected argument => "unexpected argument '" ++ argument ++ "' found"
  | valueMissing option =>
    "a value is required for '" ++ option.shown ++ "' but none was supplied"
  | badAddress value =>
    "invalid value '" ++ value ++ "' for '" ++ ValueOption.apiAddr.shown ++
      "': invalid socket address syntax"
  | repeated option => "the argument '" ++ option ++ "' cannot be used multiple times"
  | valueNotTaken value option =>
    "unexpected value '" ++ value ++ "' for '" ++ option.shown ++
      "' found; no more were expected"

/-- why the arguments ask for no run -/
inductive NoRun where
  | help
  | version
  | misuse (e : UsageError)
deriving DecidableEq, Repr

/-- the arguments read so far -/
structure ArgumentState where
  options : RunOptions := {}
  /-- an option that is not yet in place, with its value if that is known -/
  waiting : Option (ValueOption × Option String) := none

namespace ArgumentState

/-- puts a value in the place of an option, which must be free -/
def place {α : Type} (o : ValueOption) (old : Option α) (value : Except UsageError α)
    (put : α → RunOptions) : Except NoRun ArgumentState :=
  match old, value with
  | some _, _ => .error (.misuse (.repeated o.shown))
  | none, .error e => .error (.misuse e)
  | none, .ok v => .ok { options := put v }

/-- puts an option in place -/
def put (options : RunOptions) (o : ValueOption) (value : String) : Except NoRun ArgumentState :=
  match o with
  | .config =>
    place o options.config (if value = "" then .error (.valueMissing o) else .ok value)
      fun v => { options with config := v }
  | .apiAddr =>
    place o options.apiAddr
      (match SocketAddress.parse? value with
       | some a => .ok a
       | none => .error (.badAddress value))
      fun v => { options with apiAddr := v }
  | .rpcUrl => place o options.rpcUrl (.ok value) fun v => { options with rpcUrl := v }
  | .logLevel => place o options.logLevel (.ok value) fun v => { options with logLevel := v }

/-- puts the option that waits in place -/
def settle (s : ArgumentState) : Except NoRun ArgumentState :=
  match s.waiting with
  | none => .ok s
  | some (o, none) => .error (.misuse (.valueMissing o))
  | some (o, some v) => put s.options o v

/-- takes an option with or without a value in the same argument -/
def takeValue (s : ArgumentState) (o : ValueOption) (value : Option String) :
    Except NoRun ArgumentState := do
  let s ← s.settle
  match value with
  | some v => put s.options o v
  | none => .ok { s with waiting := some (o, none) }

/-- takes an option that has no value -/
def takeFlag (s : ArgumentState) (o : FlagOption) : Except NoRun ArgumentState := do
  let s ← s.settle
  match o with
  | .help => .error .help
  | .version => .error .version
  | .logJson =>
    if s.options.logJson then .error (.misuse (.repeated o.shown))
    else .ok { s with options := { s.options with logJson := true } }

/-- takes an argument after its two dashes: a name, and a value if it has an equals sign -/
def takeLong (s : ArgumentState) (cs : List Char) : Except NoRun ArgumentState :=
  let name := String.ofList (cs.takeWhile (· ≠ '='))
  let value := match cs.dropWhile (· ≠ '=') with
    | _ :: v => some (String.ofList v)
    | [] => none
  match ValueOption.all.find? (·.name = name), FlagOption.all.find? (·.name = name), value with
  | some o, _, value => s.takeValue o value
  | none, some o, some v => .error (.misuse (.valueNotTaken v o))
  | none, some o, none => s.takeFlag o
  | none, none, _ => .error (.misuse (.unexpected ("--" ++ name)))

/-- takes the letters of an argument after its dash; what follows the letter of an option with a value is
that value -/
def takeLetters (s : ArgumentState) : List Char → Except NoRun ArgumentState
  | [] => .ok s
  | 'c' :: rest =>
    let value := match rest with
      | [] => none
      | '=' :: v => some (String.ofList v)
      | v => some (String.ofList v)
    s.takeValue .config value
  | 'h' :: _ => (s.takeFlag .help)
  | 'V' :: _ => (s.takeFlag .version)
  | c :: _ => .error (.misuse (.unexpected (String.ofList ['-', c])))

/-- reads the arguments -/
def read (s : ArgumentState) : List String → Except NoRun ArgumentState
  | [] => s.settle
  | argument :: rest => do
    match argument.toList with
    | ['-', '-'] =>
      match rest with
      | [] => s.settle
      | next :: _ => .error (.misuse (.unexpected next))
    | '-' :: '-' :: cs => (← s.takeLong cs).read rest
    | '-' :: c :: cs => (← s.takeLetters (c :: cs)).read rest
    | _ =>
      match s.waiting with
      | some (o, none) => read { s with waiting := some (o, some argument) } rest
      | _ => .error (.misuse (.unexpected argument))

end ArgumentState

/-- what a list of arguments asks for -/
def RunOptions.parse (arguments : List String) : Except NoRun RunOptions :=
  (ArgumentState.read {} arguments).map ArgumentState.options

/-- the settings with what the arguments ask for in their place -/
def RunOptions.apply (o : RunOptions) (s : Settings) : Settings :=
  { s with
    apiAddr := o.apiAddr.getD s.apiAddr
    logLevel := o.logLevel.getD s.logLevel
    logJson := o.logJson || s.logJson
    rpc := { s.rpc with url := o.rpcUrl.getD s.rpc.url } }

end ChainFeed
