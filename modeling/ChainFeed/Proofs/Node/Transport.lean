/-
Which requests come through the transport of a websocket.

The limit on requests is on the decoded message, and the one of the transport on the frame, in which a message stands
between quotes, with its control characters, quotes and backslashes escaped. Main statements:
- `Json.byteCount_quote`: what the quotes and the escapes add to a string.
- `Message.size_text`, `RequestKind.size_request`: so the size of a frame is known exactly.
- `RequestKind.fits_of_growth`, `RequestKind.fits_of_small`: twice the limit on requests is room enough for a message
  with few escapes, and 64 KiB for any message under a small limit.
- `Server.request_carried`: a frame that fits is answered as the request that it is, and one beyond the limit ends the
  session; `Server.request_overgrown`: a message within the limit on requests can lead to such a frame.
-/
import ChainFeed.Node.Server
import ChainFeed.Proofs.Feed.Envelope
import ChainFeed.Proofs.Session.Pumps
import ChainFeed.Proofs.Text.Excerpt
import Mathlib.Algebra.GroupWithZero.Nat

namespace ChainFeed

/-! ## What quoting adds -/

namespace Json

/-- the characters that are escaped by a backslash and one letter or sign -/
def shortEscapes : List Char :=
  ['"', '\\', '\n', '\r', '\t', '\x08', '\x0c']

/-- the bytes that the escape of a character has beyond those of the character -/
def escapeBytes (c : Char) : Nat :=
  if c ∈ shortEscapes then 1 else if c.toNat < 32 then 5 else 0

/-- the bytes that escapes add to a text -/
def growth (s : String) : Nat :=
  (s.toList.map escapeBytes).sum

theorem utf8Size_hexDigit {n : Nat} (hn : n < 16) : (hexDigit n).utf8Size = 1 := by
  revert hn
  revert n
  decide

theorem utf8Size_control {c : Char} (hc : c.toNat < 32) : c.utf8Size = 1 :=
  Char.utf8Size_eq_one_iff.2 (UInt32.le_iff_toNat_le.2 (Nat.le_of_lt (hc.trans (by decide))))

theorem byteCount_escapeChar (c : Char) : byteCount (escapeChar c) = c.utf8Size + escapeBytes c := by
  by_cases hshort : c ∈ shortEscapes
  · have hall : (shortEscapes.all fun c => byteCount (escapeChar c) == c.utf8Size + escapeBytes c) = true := by
      decide
    exact beq_iff_eq.1 (List.all_eq_true.1 hall c hshort)
  have hescape : escapeChar c = if c.toNat < 32 then
      ['\\', 'u', '0', '0'] ++ [hexDigit (c.toNat / 16), hexDigit (c.toNat % 16)] else [c] := by
    simp only [shortEscapes, List.mem_cons, not_or] at hshort
    simp [escapeChar, hshort]
  rw [hescape, escapeBytes, if_neg hshort]
  split_ifs with hcontrol
  · have hhi := utf8Size_hexDigit (n := c.toNat / 16) (by omega)
    have hlo := utf8Size_hexDigit (n := c.toNat % 16) (by omega)
    have hmark : byteCount ['\\', 'u', '0', '0'] = 4 := by decide
    rw [byteCount_append, hmark, byteCount_cons, byteCount_cons, hhi, hlo, utf8Size_control hcontrol]
    rfl
  · rfl

theorem byteCount_escape (cs : List Char) : byteCount (escape cs) = byteCount cs + (cs.map escapeBytes).sum := by
  induction cs with
  | nil => rfl
  | cons c cs ih =>
    have hsplit : escape (c :: cs) = escapeChar c ++ escape cs := List.flatMap_cons
    rw [hsplit, byteCount_append, byteCount_escapeChar, ih, byteCount_cons, List.map_cons, List.sum_cons]
    omega

/-- **A quoted string has its own bytes, those of the escapes, and two quotes.** -/
theorem byteCount_quote (s : String) : byteCount (quote s) = s.utf8ByteSize + growth s + 2 := by
  have hquote : ('"' : Char).utf8Size = 1 := by decide
  rw [quote, byteCount_cons, byteCount_append, byteCount_escape, byteCount_toList, byteCount_cons, hquote]
  simp only [growth, byteCount, List.foldr_nil]
  omega

theorem escapeBytes_le (c : Char) : escapeBytes c ≤ 5 * c.utf8Size := by
  have hpos := c.utf8Size_pos
  unfold escapeBytes
  split_ifs <;> omega

theorem growth_le (s : String) : growth s ≤ 5 * s.utf8ByteSize := by
  have hall : ∀ cs : List Char, (cs.map escapeBytes).sum ≤ 5 * byteCount cs := by
    intro cs
    induction cs with
    | nil => exact Nat.le_refl 0
    | cons c cs ih =>
      have hc := escapeBytes_le c
      rw [List.map_cons, List.sum_cons, byteCount_cons]
      omega
  rw [← byteCount_toList]
  exact hall s.toList

end Json

open Json

/-- **The size of a frame is that of its two strings, what escapes add to them, and 28 bytes.** -/
theorem Message.size_text (m : Message) : m.text.utf8ByteSize =
    m.eventId.utf8ByteSize + growth m.eventId + (m.message.utf8ByteSize + growth m.message) + 28 := by
  have hevent : byteCount ('\x7b' :: quote "event_id" ++ [':']) = 12 := by decide
  have hmessage : byteCount (',' :: quote "message" ++ [':']) = 11 := by decide
  have hclose : byteCount ['\x7d'] = 1 := by decide
  have hwritten : codec.write m = ('\x7b' :: quote "event_id" ++ [':']) ++ quote m.eventId ++
      (',' :: quote "message" ++ [':']) ++ quote m.message ++ ['\x7d'] := by
    have hrow : codec.write m = '\x7b' :: (separated [quote "event_id" ++ ':' :: quote m.eventId,
      quote "message" ++ ':' :: quote m.message] ++ ['\x7d']) := rfl
    simp [hrow, separated]
  unfold Message.text Codec.text
  rw [utf8ByteSize_ofList, hwritten]
  simp only [byteCount_append, hevent, hmessage, hclose, byteCount_quote]
  omega

/-! ## Requests -/

namespace RequestKind

variable {kind : RequestKind} {message : String} {limit : Nat}

/-- the message that makes a request -/
def request (kind : RequestKind) (message : String) : Message :=
  ⟨kind.name, message⟩

theorem request?_request (kind : RequestKind) (message : String) : (kind.request message).request? = some kind := by
  cases kind <;> rfl

theorem size_name (kind : RequestKind) : kind.name.utf8ByteSize ≤ 13 ∧ growth kind.name = 0 := by
  cases kind <;> decide

/-- the size of the frame with a request -/
theorem size_request (kind : RequestKind) (message : String) : (kind.request message).text.utf8ByteSize =
    message.utf8ByteSize + growth message + (kind.name.utf8ByteSize + 28) := by
  have hgrowth := kind.size_name.2
  rw [Message.size_text]
  simp only [request]
  omega

open SocketMessage (messageLimit frameLimit leastLimit)

/-- as many bytes as the limit on requests are left for escapes and the envelope -/
theorem fits_of_growth (hmessage : message.utf8ByteSize ≤ limit) (hgrowth : growth message ≤ limit - 41)
    (hframe : (kind.request message).text.utf8ByteSize ≤ frameLimit) :
    (kind.request message).text.utf8ByteSize ≤ messageLimit limit := by
  have hname := kind.size_name.1
  -- where twice the limit is more than any size can be, a frame that is not too large is within the limit anyway
  rw [size_request] at hframe ⊢
  simp only [messageLimit, leastLimit, frameLimit, UInt64.size] at hframe ⊢
  omega

/-- under a small limit every message fits, even one that is escaped throughout -/
theorem fits_of_small (hlimit : limit ≤ 10915) (hmessage : message.utf8ByteSize ≤ limit) :
    (kind.request message).text.utf8ByteSize ≤ leastLimit := by
  have hname := kind.size_name.1
  have hgrowth := growth_le message
  rw [size_request, leastLimit]
  omega

end RequestKind

/-! ## What comes through -/

namespace SocketMessage

variable {limit : Nat} {t : String}

/-- a text comes through if it is within both limits -/
theorem frame_of_fits (hfits : t.utf8ByteSize ≤ messageLimit limit) (hframe : t.utf8ByteSize ≤ frameLimit) :
    (text t).frame (SocketMessage.limit limit) = .text t :=
  if_neg (Nat.not_lt.2 (Nat.le_min.2 ⟨hfits, hframe⟩))

theorem frame_of_overlong (hlong : messageLimit limit < t.utf8ByteSize) :
    (text t).frame (SocketMessage.limit limit) = .failure :=
  if_pos (Nat.lt_of_le_of_lt (Nat.min_le_left _ _) hlong)

end SocketMessage

namespace Publisher

/-- **A frame with a request within the limit is answered as that request.** -/
theorem answerFrame_request {limit : Nat} {message : String} (p : Publisher) (id : ClientId) (kind : RequestKind)
    (hmessage : message.utf8ByteSize ≤ limit) : p.answerFrame id limit (kind.request message).text =
      ((p.payload id kind message).1, (p.payload id kind message).2.map (kind.request message).reply) := by
  have hsize : ¬limit < (kind.request message).message.utf8ByteSize := Nat.not_lt.2 hmessage
  unfold answerFrame answer
  rw [Message.parse_text]
  simp only [if_neg hsize, RequestKind.request?_request]
  rfl

end Publisher

/-- a text with a request asks the data source as the request does, if it is within the limit -/
theorem Message.asksSource_request {limit : Nat} {message : String} (kind : RequestKind)
    (hmessage : message.utf8ByteSize ≤ limit) :
    Message.asksSource limit (kind.request message).text = kind.asksSource := by
  have hsize : (kind.request message).message.utf8ByteSize ≤ limit := hmessage
  unfold asksSource
  rw [parse_text]
  simp [hsize, RequestKind.request?_request]

/-- a read that fails ends a session that waits for input, and nothing is written for it -/
theorem Session.receiveStep_failed {c : Session} {id : ClientId} {line : List Write} {d : Option Nat}
    {rest : List Frame} (p : Publisher) (now : Nat) (hst : c.stage = .open id line d) (hl : c.isListening = true)
    (hin : c.inbox = .failure :: rest) : c.receiveStep p now = some (c.finish p id .receiveFailed now) :=
  receiveStep_of_frame p now hst hl hin

namespace Server

open SocketMessage (messageLimit frameLimit leastLimit)

/-- a text that comes in by a websocket goes to its session, or the failure to read it -/
theorem receive_text {s : Server} {i : Nat} {c : Session} (hi : s.world.sessions[i]? = some c) (t : String) :
    (s.receive i (.text t)).1.world = (s.world.modifySession i
      (·.feed ((SocketMessage.text t).frame (SocketMessage.limit c.config.maxRequestBytes)))).settle := by
  simp [receive, hi]

/-- a request comes through to a session with the given limit, and is answered -/
structure Reaches (limit : Nat) (kind : RequestKind) (message : String) : Prop where
  delivered : ∀ (s : Server) i c, s.world.sessions[i]? = some c → c.config.maxRequestBytes = limit →
    (s.receive i (.text (kind.request message).text)).1.world =
      (s.world.modifySession i (·.feed (.text (kind.request message).text))).settle
  /-- a session that waits for input hears it next, or asks the data source about it and hears it then -/
  taken : ∀ (c : Session) (p : Publisher) now rest, c.config.maxRequestBytes = limit → c.isListening = true →
    c.inbox = .text (kind.request message).text :: rest →
      if kind.asksSource then
        c.receiveStep p now = some (p, { c with inbox := rest, intake := .asking (kind.request message).text }) ∧
          { c with inbox := rest, intake := .asking (kind.request message).text }.nextText? =
            some (kind.request message).text
      else c.nextText? = some (kind.request message).text
  /-- the session that hears it stays open, and has the reply in line; there is none to a ping -/
  answered : ∀ (c : Session) (p : Publisher) now, c.config.maxRequestBytes = limit →
    c.nextText? = some (kind.request message).text → ∃ id line d, c.stage = .open id line d ∧
      c.receiveStep p now = some ((p.payload id kind message).1, { c with
        intake := .ready
        inbox := if c.isListening then c.inbox.tail else c.inbox
        stage := .open id (line ++ ((p.payload id kind message).2.map (kind.request message).reply).toList.map
          (⟨.receive, ·⟩)) d })

/-- a frame is cut off on its way to a session with the given limit, and the session ends without a reply -/
structure CutOff (limit : Nat) (text : String) : Prop where
  failed : ∀ (s : Server) i c, s.world.sessions[i]? = some c → c.config.maxRequestBytes = limit →
    (s.receive i (.text text)).1.world = (s.world.modifySession i (·.feed .failure)).settle
  ends : ∀ (c : Session) (p : Publisher) now id line d rest, c.stage = .open id line d → c.isListening = true →
    c.inbox = .failure :: rest → ∃ p' c', c.receiveStep p now = some (p', c') ∧
      c'.stage = .closing id .receiveFailed (now + c.config.writeTimeout) ∧ c'.sink = c.sink

theorem reaches_of_fits {limit : Nat} {kind : RequestKind} {message : String}
    (hmessage : message.utf8ByteSize ≤ limit)
    (hfits : (kind.request message).text.utf8ByteSize ≤ messageLimit limit)
    (hframe : (kind.request message).text.utf8ByteSize ≤ frameLimit) : Reaches limit kind message where
  delivered s i c hi hlimit := by rw [receive_text hi, hlimit, SocketMessage.frame_of_fits hfits hframe]
  taken c p now rest hlimit hl hin := by
    have hasks := Message.asksSource_request kind hmessage
    rw [← hlimit] at hasks
    split_ifs with hkind
    · exact c.receiveStep_asks p now hl hin (hasks.trans hkind)
    · simp [Session.nextText?_of_isListening hl, hin, Frame.text?, hasks, hkind]
  answered c p now hlimit hnext := by
    obtain ⟨id, line, d, hst, hstep⟩ := c.receiveStep_heard p now hnext
    rw [hlimit, p.answerFrame_request id kind hmessage] at hstep
    exact ⟨id, line, d, hst, hstep⟩

theorem cutOff_of_overlong {limit : Nat} {text : String} (hlong : messageLimit limit < text.utf8ByteSize) :
    CutOff limit text where
  failed s i c hi hlimit := by rw [receive_text hi, hlimit, SocketMessage.frame_of_overlong hlong]
  ends c p now _ _ _ _ hst hl hin := ⟨_, _, c.receiveStep_failed p now hst hl hin, rfl, rfl⟩

/-- what becomes of a request whose message is within the limit -/
structure Carried (limit : Nat) (kind : RequestKind) (message : String) : Prop where
  size : (kind.request message).text.utf8ByteSize =
    message.utf8ByteSize + growth message + (kind.name.utf8ByteSize + 28)
  /-- a frame within the limit of the transport that is not too large for a single one comes through -/
  reaches : (kind.request message).text.utf8ByteSize ≤ messageLimit limit →
    (kind.request message).text.utf8ByteSize ≤ frameLimit → Reaches limit kind message
  cut : messageLimit limit < (kind.request message).text.utf8ByteSize → CutOff limit (kind.request message).text
  /-- the frame is within the limit of the transport if escapes add at most 41 bytes less than the limit on requests; so
  it is if nothing needs an escape -/
  roomy : growth message ≤ limit - 41 → (kind.request message).text.utf8ByteSize ≤ frameLimit →
    (kind.request message).text.utf8ByteSize ≤ messageLimit limit
  /-- and so is every message under a small limit -/
  small : limit ≤ 10915 → (kind.request message).text.utf8ByteSize ≤ messageLimit limit ∧
    (kind.request message).text.utf8ByteSize ≤ frameLimit

/-- **A request within the limit is answered as long as its frame is within the limit of the transport**, for every
limit, every message and every request. -/
theorem request_carried {limit : Nat} (kind : RequestKind) {message : String}
    (hmessage : message.utf8ByteSize ≤ limit) : Carried limit kind message where
  size := kind.size_request message
  reaches := reaches_of_fits hmessage
  cut := cutOff_of_overlong
  roomy := RequestKind.fits_of_growth hmessage
  small hlimit := by
    have hfits : (kind.request message).text.utf8ByteSize ≤ leastLimit := RequestKind.fits_of_small hlimit hmessage
    exact ⟨hfits.trans (Nat.le_max_right _ _), hfits.trans (by decide)⟩

/-- a quote, a line break, a control character and a letter of two bytes in a frame of 49 bytes -/
theorem request_carried_escaped : "\"\n\x01é".utf8ByteSize ≤ 5 ∧
    (RequestKind.subscribe.request "\"\n\x01é").text.utf8ByteSize = 49 ∧
    Carried 5 .subscribe "\"\n\x01é" :=
  ⟨by decide, by decide +kernel, request_carried .subscribe (by decide)⟩

/-- a text of control characters -/
def controls (n : Nat) : String :=
  String.ofList (List.replicate n '\x01')

theorem size_controls (n : Nat) : (controls n).utf8ByteSize = n := by
  have hsize : ('\x01' : Char).utf8Size = 1 := by decide
  rw [controls, utf8ByteSize_ofList]
  induction n with
  | zero => rfl
  | succ n ih => rw [List.replicate_succ, byteCount_cons, hsize, ih, Nat.add_comm]

theorem growth_controls (n : Nat) : growth (controls n) = 5 * n := by
  have hbytes : escapeBytes '\x01' = 5 := by decide
  simp [growth, controls, hbytes, Nat.mul_comm]

/-- **Twice the limit on requests is not always enough.** Each control character takes six bytes in a frame, so 11000 of
them, which a limit of 20000 bytes allows, end the session. -/
theorem request_overgrown : (controls 11000).utf8ByteSize ≤ 20000 ∧
    (RequestKind.subscribe.request (controls 11000)).text.utf8ByteSize = 66037 ∧ messageLimit 20000 = 65536 ∧
    CutOff 20000 (RequestKind.subscribe.request (controls 11000)).text := by
  have hsize : (RequestKind.subscribe.request (controls 11000)).text.utf8ByteSize = 66037 := by
    have hname : RequestKind.subscribe.name.utf8ByteSize = 9 := by decide
    rw [RequestKind.size_request, size_controls, growth_controls, hname]
  refine ⟨by rw [size_controls]; decide, hsize, by decide, cutOff_of_overlong ?_⟩
  rw [hsize]
  decide

end Server

end ChainFeed
