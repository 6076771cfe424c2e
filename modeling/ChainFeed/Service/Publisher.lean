/-
The publisher: the hub together with the latest chain figures and the source of chain data.

It turns chain activity into events for the hub, answers the requests of clients, and fills in the payload
of an event at the moment at which it is pushed to a client.
-/
import ChainFeed.Chain.Overview
import ChainFeed.Feed.Message
import ChainFeed.Hub.Loop
import ChainFeed.Service.Source

namespace ChainFeed

/-- the hub with what is told about the chain -/
structure Publisher where
  hub : Hub
  source : Source
  /-- the latest stored block -/
  block : Option BlockSummary := none
  overview : Overview

namespace Publisher

/-- a publisher on a hub, before the first block -/
def create (hub : Hub) (source : Source) : Except Overflow Publisher :=
  (Overview.fresh source.params).map fun overview => { hub, source, overview }

/-! ## Chain activity -/

/-- the latest block with the overview that it gave -/
def latestBlock (p : Publisher) : Option LatestBlock :=
  p.block.map fun block => ⟨block, p.overview⟩

/-- what is signalled about a block: the block itself, then the addresses that its coinbase pays -/
def blockEvents (r : BlockReport) : List Event :=
  .newBlock ::
    (if r.coinbaseHash = "" then []
    else r.coinbaseAddresses.map fun address => .address ⟨address, r.coinbaseHash⟩)

/-- records a new best block and signals it in the background: the number of the background task -/
def storeBlock (p : Publisher) (r : BlockReport) : Except Overflow (Publisher × Nat) :=
  (p.overview.apply r p.source.params).map fun overview =>
    let (hub, task) := p.hub.publish (blockEvents r)
    ({ p with overview, block := some r.block, hub }, task)

/-- replaces the inventory of the mempool -/
def setMempool (p : Publisher) (mempool : Option Mempool) : Except Overflow Publisher :=
  (p.source.setMempool mempool).map fun source => { p with source }

/-! ## Requests -/

/-- the reply to a subscription request, or to its withdrawal, that was worked on as `change` says -/
def subscriptionReply (p : Publisher) (text done : String)
    (change : SubscriptionRequest → Except FeedError (Hub × Bool)) : Publisher × String :=
  match (SubscriptionRequest.parse text).bind change with
  | .ok (hub, _) => ({ p with hub }, text ++ done)
  | .error _ => (p, Message.invalidSubscription)

/-- the text of the mempool inventory, with the subsidy of the next block -/
def mempoolReply (p : Publisher) : String :=
  Mempool.codec.text
    { p.source.mempool.getD {} with subsidy := some p.overview.nextSubsidy }

/-- the payload of the reply to a request, `none` for a ping -/
def payload (p : Publisher) (id : ClientId) (kind : RequestKind) (text : String) :
    Publisher × Option String :=
  match kind with
  | .subscribe =>
    let (p, reply) := p.subscriptionReply text " subscribe ok" (p.hub.subscribe id)
    (p, some reply)
  | .unsubscribe =>
    let (p, reply) := p.subscriptionReply text " unsubscribe ok" (p.hub.unsubscribe id)
    (p, some reply)
  | .decodeTx =>
    match p.source.decode text with
    | .ok tx => (p, some tx.indentedText)
    | .error e => (p, some ("Error: " ++ e.message))
  | .sendTx =>
    match p.source.send text with
    | .ok hash => (p, some ("Transaction sent: " ++ hash))
    | .error e => (p, some ("Error: " ++ e.message))
  | .getMempoolTxs => (p, some p.mempoolReply)
  | .ping => (p, none)

/-- answers a request of a client; pings and unknown requests get no reply -/
def answer (p : Publisher) (id : ClientId) (request : Message) : Publisher × Option Message :=
  match request.request? with
  | none => (p, none)
  | some kind =>
    let (p, reply) := p.payload id kind request.message
    (p, reply.map request.reply)

/-- answers a frame of a client, which may be over the size limit or not readable -/
def answerFrame (p : Publisher) (id : ClientId) (maxBytes : Nat) (text : String) :
    Publisher × Option Message :=
  match Message.parse text with
  | .error e => (p, some (.unreadable e))
  | .ok request =>
    if maxBytes < request.message.utf8ByteSize then (p, some (request.reply Message.tooLarge))
    else p.answer id request

/-! ## Pushes -/

/-- The push for an event delivered to a client. There is none for a flush that finds the client's buffer
empty, and for events that are not for clients. -/
def render (p : Publisher) (id : ClientId) (e : Event) : Publisher × Option Message :=
  match e with
  | .newBlock => (p, some (.push .newBlock ((p.latestBlock.map LatestBlock.codec.text).getD "")))
  | .mempool =>
    let inventory := p.source.mempool.map fun m => Mempool.codec.text (m.short Mempool.pushedLatest)
    (p, some (.push .mempool (inventory.getD "")))
  | .ping => (p, some (.push .ping (toString p.hub.connections)))
  | .newTxs =>
    match p.hub.drainTxs id with
    | ([], hub) => ({ p with hub }, none)
    | (txs, hub) => ({ p with hub }, some (.push .newTxs (transactionsText txs)))
  | .address activity => (p, some (.push .address (AddressActivity.codec.text activity)))
  | .syncStatus stages => (p, some (.push .syncStatus ((Json.list SyncStage.codec).text stages)))
  | .newTx _ | .subscribe _ | .unsubscribe _ => (p, none)

end Publisher

end ChainFeed
