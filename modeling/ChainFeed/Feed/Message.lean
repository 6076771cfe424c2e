/-
The envelope of every frame between client and server, and the requests that clients make.
-/
import ChainFeed.Feed.Error
import ChainFeed.Feed.Kind
import ChainFeed.Json.Record

namespace ChainFeed

/-- an event id with a text as its payload -/
structure Message where
  eventId : String
  message : String := ""
deriving DecidableEq, Repr

/-- the requests that are understood -/
inductive RequestKind where
  | subscribe
  | unsubscribe
  | decodeTx
  | sendTx
  | getMempoolTxs
  | ping
deriving DecidableEq, Repr

namespace RequestKind

def all : List RequestKind :=
  [subscribe, unsubscribe, decodeTx, sendTx, getMempoolTxs, ping]

def name : RequestKind → String
  | subscribe => "subscribe"
  | unsubscribe => "unsubscribe"
  | decodeTx => "decodetx"
  | sendTx => "sendtx"
  | getMempoolTxs => "getmempooltxs"
  | ping => "ping"

/-- the request with the given name -/
def ofName? (s : String) : Option RequestKind :=
  all.find? fun k => k.name = s

/-- whether the reply takes an answer of the data source, which may be long in coming -/
def asksSource : RequestKind → Bool
  | decodeTx | sendTx => true
  | _ => false

end RequestKind

namespace Message

open Json in
def codec : Codec Message :=
  record "WebSocketMessage"
    (.cons (.required "event_id" string) <| .cons (.defaulting "message" string "") .nil)
    (fun (eventId, message, ()) => ⟨eventId, message⟩)
    (fun m => (m.eventId, m.message, ()))

/-- reads a frame -/
def parse (text : String) : Except FeedError Message :=
  match codec.parse text with
  | .ok m => .ok m
  | .error f => .error (.unreadable (f.message text.toList))

/-- the text of a frame -/
def text (m : Message) : String :=
  codec.text m

/-- a push of an event -/
def push (kind : EventKind) (message : String) : Message :=
  ⟨kind.name, message⟩

/-- the reply to a request -/
def reply (m : Message) (message : String) : Message :=
  ⟨m.eventId ++ "Resp", message⟩

/-- the request that the message makes -/
def request? (m : Message) : Option RequestKind :=
  RequestKind.ofName? m.eventId

/-- the payload of the reply to a subscription that is refused -/
def invalidSubscription : String := "invalid subscription"

/-- the payload of the reply to a request over the size limit -/
def tooLarge : String := "Request too large"

/-- the reply to a frame that is not readable -/
def unreadable (e : FeedError) : Message :=
  ⟨"invalidResp", "Error: " ++ e.message⟩

/-- whether a text is a request within the size limit that asks the data source -/
def asksSource (maxBytes : Nat) (text : String) : Bool :=
  match parse text with
  | .error _ => false
  | .ok request =>
    decide (request.message.utf8ByteSize ≤ maxBytes) && request.request?.any (·.asksSource)

end Message

end ChainFeed
