/-
A frame carries its payload unchanged.

A frame is a record of two strings, and the payload of a push is again a text, quoted inside the frame. Whatever
characters these strings hold:
- `parse_text`: a frame is read back from its text.
- `text_injective`: two frames never share a text.
- `parse_push`: so a payload that is read back from its own text is also read back through a frame.
- `envelope_exact`: all of it for frames, and for the pushes about addresses.
-/
import ChainFeed.Proofs.Node.Payloads
import ChainFeed.Service.Publisher

namespace ChainFeed.Message

theorem codec_restores (m : Message) : codec.Restores m := by
  refine Json.record_restores (by decide) rfl ?_
  exact ⟨Json.string_restores _, Json.string_restores _, trivial⟩

/-- **A frame is read back from its text.** -/
theorem parse_text (m : Message) : parse m.text = .ok m := by
  have hm : codec.parse m.text = .ok m := (codec_restores m).parse_text
  unfold parse
  rw [hm]

/-- **Two frames never share a text.** -/
theorem text_injective : Function.Injective text := by
  intro m n htext
  have hm := parse_text m
  rw [htext, parse_text n] at hm
  exact (Except.ok.inj hm).symm

/-- a payload goes through a push and back -/
theorem parse_push {α : Type} {c : Json.Codec α} {a : α} (ha : c.Restores a) (kind : EventKind) :
    ∃ m, parse (push kind (c.text a)).text = .ok m ∧ m.eventId = kind.name ∧ c.parse m.message = .ok a :=
  ⟨push kind (c.text a), parse_text _, rfl, ha.parse_text⟩

/-- **The envelope is exact.** Every frame is read back from its text; the push about an address is read as a frame
with the id `address`, whose message is read as the very activity; and different frames have different texts. -/
theorem envelope_exact :
    (∀ m : Message, parse m.text = .ok m) ∧
      (∀ (p : Publisher) (id : ClientId) (a : AddressActivity),
        ∃ frame, (p.render id (.address a)).2 = some frame ∧
          ∃ m, parse frame.text = .ok m ∧ m.eventId = "address" ∧ AddressActivity.codec.parse m.message = .ok a) ∧
      Function.Injective text := by
  refine ⟨parse_text, fun p id a => ?_, text_injective⟩
  exact ⟨push .address (AddressActivity.codec.text a), rfl, parse_push a.codec_restores .address⟩

end ChainFeed.Message
