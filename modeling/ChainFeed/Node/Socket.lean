/-
Websockets: the handshake of a connection, and what its messages mean to a session.
-/
import ChainFeed.Node.Http
import ChainFeed.Number.Reading
import ChainFeed.Session.Basic

namespace ChainFeed

/-! ## Requests on a connection -/

namespace HttpRequest

/-- the headers of one request at most -/
def maxHeaders : Nat := 100

/-- a header value without the blanks around it -/
def trimmed (value : String) : String :=
  let isSpace (c : Char) : Bool := c = ' ' || c = '\t'
  String.ofList ((value.toList.dropWhile isSpace).reverse.dropWhile isSpace).reverse

/-- The status with which a connection refuses the headers of a request, if it does: there are too many,
or the length of the content cannot be told. -/
def refusedHeaders? (r : HttpRequest) : Option Nat :=
  if maxHeaders < r.headers.length then some 431
  else
    match r.rawHeader? "transfer-encoding", r.rawHeader? "content-length" with
    | some coding, _ => if isChunked coding then none else some 400
    | none, some length =>
      match readNat? 10 length.toList with
      | some n => if UInt64.size ≤ n then some 400 else if UInt64.size - 2 ≤ n then some 431 else none
      | none => some 400
    | none, none => none
where
  /-- whether the last of the codings cuts the content into chunks -/
  isChunked (coding : String) : Bool :=
    let last := (coding.toList.reverse.takeWhile (· ≠ ',')).reverse
    trimmed ((String.ofList last).map Char.toLower) = "chunked"

end HttpRequest

/-! ## Handshakes -/

namespace Handshake

/-- whether a text has another one in it, both in lower case -/
def hasPart (part : List Char) : List Char → Bool
  | [] => part.isEmpty
  | c :: rest => part.isPrefixOf (c :: rest) || hasPart part rest

/-- whether the headers of a request ask for a websocket of the known version -/
def isValid (r : HttpRequest) : Bool :=
  let lower (name : String) := (r.rawHeader? name).map fun v => v.map Char.toLower
  (lower "connection").any (fun v => hasPart "upgrade".toList v.toList) &&
    lower "upgrade" == some "websocket" &&
    (r.rawHeader? "sec-websocket-key").isSome &&
    lower "sec-websocket-version" == some "13"

/-- The status of a request for a websocket that gets none: its headers are wrong, its method is, or
the connection that it came by cannot be turned into one. -/
def refusal (r : HttpRequest) : Nat :=
  if r.method ≠ "GET" then 405 else if isValid r then 426 else 400

/-- the headers of a client that wants a websocket of a version -/
def headers (version : String) : List (String × String) :=
  [("host", "localhost"), ("connection", "Upgrade"), ("upgrade", "websocket"),
    ("sec-websocket-version", version), ("sec-websocket-key", "MDEyMzQ1Njc4OWFiY2RlZg==")]

/-- the target that a client asks for whose address has a given rest after its host; a query without a path
is asked for as it is, and cannot be read -/
def target? (rest : String) : Option RequestTarget :=
  let path := rest.toList.dropWhile fun c => c ≠ '/' && c ≠ '?' && c ≠ '#'
  if path.head? = some '?' then RequestTarget.parse? (String.ofList path)
  else RequestTarget.parse? ("ws://localhost" ++ rest)

/-- The request of a client that wants a websocket of a version, with headers besides those that it has to
send, or the status with which the server refuses a request that it cannot read. -/
def request (rest version : String) (others : List (String × String)) : Except Nat HttpRequest :=
  let own := headers version
  let isOwn (name : String) : Bool := own.any fun (n, _) => n = name.map Char.toLower
  let all := own ++ others.filter fun (name, _) => !isOwn name
  match target? rest with
  | none => .error 400
  | some target =>
    let r : HttpRequest :=
      { target, headers := all.map fun (name, value) => (name, HttpRequest.trimmed value) }
    match r.refusedHeaders? with
    | some status => .error status
    | none => .ok r

end Handshake

/-! ## Messages -/

/-- a message on a websocket -/
inductive SocketMessage where
  | text (s : String)
  | binary (size : Nat)
  | ping (data : String)
  | close
deriving DecidableEq, Repr

namespace SocketMessage

/-- the least limit on the size of messages -/
def leastLimit : Nat := 64 * 1024

/-- the limit on the size of messages, for one on requests: twice that, as far as a size goes -/
def messageLimit (maxRequestBytes : Nat) : Nat :=
  max (min (2 * maxRequestBytes) (UInt64.size - 1)) leastLimit

/-- the size of one frame at most, whatever the limit on messages -/
def frameLimit : Nat := 16 * 1024 * 1024

/-- the size of data in a ping at most -/
def pingLimit : Nat := 125

/-- the size of messages beyond which reading fails, as each comes in one frame -/
def limit (maxRequestBytes : Nat) : Nat :=
  min (messageLimit maxRequestBytes) frameLimit

/-- what a message means to the session -/
def frame (limit : Nat) : SocketMessage → Frame
  | text s => if limit < s.utf8ByteSize then .failure else .text s
  | binary size => if limit < size then .failure else .control
  | ping data => if pingLimit < data.utf8ByteSize then .failure else .control
  | close => .close

/-- what the connection itself answers -/
def pong? : SocketMessage → Option String
  | ping data => if pingLimit < data.utf8ByteSize then none else some data
  | _ => none

end SocketMessage

end ChainFeed
