import DirectoryInterchange.Element.Frame
import DirectoryInterchange.Message.Decoding

/-!
Cutting a growing buffer of received bytes into messages.

The bytes of an element are used up even when it turns out to be no message,
so the next attempt starts behind it.
-/

namespace DirectoryInterchange.Message.Frame

/-- The next message, once it is there, and the bytes to go on with. -/
def take? (limit : Nat) (buffer : Bytes) : Except Fault (Option Message) × Bytes :=
  match Element.Frame.take? limit buffer with
  | .error error => (.error (.element error), buffer)
  | .ok none => (.ok none, buffer)
  | .ok (some (element, rest)) => ((Message.decode element).map some, rest)

def leftover (buffer : Bytes) : Except Fault Unit :=
  if buffer.isEmpty then .ok () else .error (.file "bytes remaining on stream")

end DirectoryInterchange.Message.Frame
