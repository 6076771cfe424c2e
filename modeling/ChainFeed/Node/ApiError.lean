/-
Errors of the HTTP interface: which status an error of the feed gives, and the body that tells it.
-/
import ChainFeed.Feed.Error
import ChainFeed.Json.Text

namespace ChainFeed

/-- an error of the HTTP interface, with the text of its cause -/
inductive ApiError where
  | badRequest (text : String)
  | unavailable (text : String)
  | internal (text : String)
deriving DecidableEq, Repr

namespace ApiError

def message : ApiError → String
  | badRequest text => "bad request: " ++ text
  | unavailable text => "service unavailable: " ++ text
  | internal text => "internal error: " ++ text

def status : ApiError → Nat
  | badRequest _ => 400
  | unavailable _ => 503
  | internal _ => 500

/-- what a client did wrong is a bad request; a hub that takes nothing is unavailable -/
def ofFeed (e : FeedError) : ApiError :=
  match e with
  | .malformedEvent _ | .invalidSubscription _ | .malformedFilter _ => .badRequest e.message
  | .hubStopped | .publishTimeout _ | .channelClosed => .unavailable e.message
  | _ => .internal e.message

/-- the body of the response -/
def body (e : ApiError) : String :=
  String.ofList ("\x7b\"error\":".toList ++ Json.quote e.message ++ ['\x7d'])

end ApiError

end ChainFeed
