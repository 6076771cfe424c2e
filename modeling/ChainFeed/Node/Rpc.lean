/-
Calls to the chain node: the request as it is sent, and what its answer means.

Requests are numbered from one. The status of the answer plays no part: a body of the right shape
counts, and any other is a failed request.
-/
import ChainFeed.Feed.Error
import ChainFeed.Json.Value
import ChainFeed.Node.Settings
import ChainFeed.Node.Url

namespace ChainFeed

/-- why a call gives no result -/
inductive RpcError where
  | notConfigured
  /-- the request could not be made or its answer not be read -/
  | transport
  /-- the chain node answered with an error -/
  | refused (code : Int64) (message : String)
  /-- the result is not there or of another shape -/
  | invalidResponse (reason : String)
deriving DecidableEq

namespace RpcError

def message : RpcError → String
  | notConfigured => "chain node RPC not configured"
  | transport => "RPC request failed"
  | refused code text => "RPC error " ++ toString code.toInt ++ ": " ++ text
  | invalidResponse reason => "invalid RPC response: " ++ reason

/-- the error as clients see it: of a refusal, the chain node's own words -/
def toFeed : RpcError → FeedError
  | refused _ text => .source text
  | e => .source e.message

end RpcError

/-- an error object of the chain node -/
structure RpcFailure where
  code : Int64
  message : String
deriving DecidableEq

/-- the body of an answer -/
structure RpcResponse where
  result : Option Json.Value
  failure : Option RpcFailure

open Json in
def RpcFailure.codec : Codec RpcFailure :=
  record "RpcErrorObject"
    (.cons (.required "code" int64) <| .cons (.required "message" string) .nil)
    (fun (code, message, ()) => ⟨code, message⟩)
    (fun f => (f.code, f.message, ()))

open Json in
def RpcResponse.codec : Codec RpcResponse :=
  record "RpcResponse"
    (.cons (.defaulting "result" (optional (Value.codecWithin (Value.levels - 1))) none) <|
     .cons (.defaulting "error" (optional RpcFailure.codec) none) .nil)
    (fun (result, failure, ()) => ⟨result, failure⟩)
    (fun r => (r.result, r.failure, ()))

namespace Rpc

/-- the bytes of a text in base 64 -/
def base64 (bytes : List UInt8) : List Char :=
  match bytes with
  | [] => []
  | [a] => [digit (a.toNat / 4), digit (a.toNat % 4 * 16), '=', '=']
  | [a, b] =>
    [digit (a.toNat / 4), digit (a.toNat % 4 * 16 + b.toNat / 16), digit (b.toNat % 16 * 4), '=']
  | a :: b :: c :: rest =>
    digit (a.toNat / 4) :: digit (a.toNat % 4 * 16 + b.toNat / 16) ::
      digit (b.toNat % 16 * 4 + c.toNat / 64) :: digit (c.toNat % 64) :: base64 rest
where
  digit (n : Nat) : Char :=
    if n < 26 then Char.ofNat (65 + n)
    else if n < 52 then Char.ofNat (97 + (n - 26))
    else if n < 62 then Char.ofNat (48 + (n - 52))
    else if n = 62 then '+' else '/'

/-- who asks: the user of the settings, or else of the address -/
def credentials (s : RpcSettings) (url : Url) : Option Credentials :=
  (s.user.map fun user => ⟨user, s.password⟩).or url.credentials

/-- the header that names the user, if there is one -/
def authorization (s : RpcSettings) (url : Url) : Option String :=
  (credentials s url).map fun c =>
    "Basic " ++ String.ofList (base64 (c.user ++ ":" ++ c.password.getD "").toUTF8.toList)

/-- the program's name in requests -/
def userAgent : String := "blockpulse/0.1.0"

/-- the headers of a request -/
def headers (s : RpcSettings) (url : Url) : List (String × String) :=
  [("content-type", "application/json"), ("user-agent", userAgent)] ++
    (authorization s url).toList.map fun value => ("authorization", value)

/-- the body of a request -/
def requestBody (id : Nat) (method : String) (params : Json.Value) : Json.Value :=
  .ofMembers
    [("jsonrpc", .string "1.0"), ("id", .number (.unsigned (UInt64.ofNat id))),
     ("method", .string method), ("params", params)]

/-- the result that the body of an answer holds, taken as the wanted type -/
def answer (take : Json.Value → Except Json.Cause α) (body : String) : Except RpcError α :=
  match RpcResponse.codec.parse body with
  | .error _ => .error .transport
  | .ok response =>
    match response.failure, response.result with
    | some failure, _ => .error (.refused failure.code failure.message)
    | none, none => .error (.invalidResponse "missing result")
    | none, some result =>
      match take result with
      | .ok a => .ok a
      | .error cause => .error (.invalidResponse cause.message)

/-- the method that decodes a raw transaction -/
def decodeMethod : String := "decoderawtransaction"

/-- the method that broadcasts a raw transaction -/
def sendMethod : String := "sendrawtransaction"

end Rpc

/-- a request to the chain node -/
structure RpcRequest where
  /-- the first line -/
  line : String
  headers : List (String × String)
  body : Json.Value

/-- the caller of the chain node, which numbers its requests -/
structure RpcClient where
  settings : RpcSettings
  nextId : Nat := 1

namespace RpcClient

/-- The next request, if there is a chain node to ask and its address can be requested. -/
def request (c : RpcClient) (method : String) (params : Json.Value) :
    RpcClient × Except RpcError RpcRequest :=
  if c.settings.url = "" then (c, .error .notConfigured)
  else
    ({ c with nextId := c.nextId + 1 },
      match Url.parse? c.settings.url with
      | none => .error .transport
      | some url =>
        .ok {
          line := "POST " ++ url.target ++ " HTTP/1.1"
          headers := Rpc.headers c.settings url
          body := Rpc.requestBody c.nextId method params })

/-- A call: the request if one was sent, and its result. `exchange` tells the body of the answer to a
request, unless the chain node hangs up. -/
def call (c : RpcClient) (method : String) (params : Json.Value)
    (exchange : RpcRequest → Option String) (take : Json.Value → Except Json.Cause α) :
    RpcClient × Option RpcRequest × Except RpcError α :=
  match c.request method params with
  | (c, .error e) => (c, none, .error e)
  | (c, .ok request) =>
    match exchange request with
    | none => (c, some request, .error .transport)
    | some body => (c, some request, Rpc.answer take body)

end RpcClient

end ChainFeed
