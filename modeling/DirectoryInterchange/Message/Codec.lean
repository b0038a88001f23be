import DirectoryInterchange.Message.Frame

/-!
Messages on a stream of bytes, in both directions.

A codec keeps the buffer in which it writes a message before the bytes are
passed on.  The buffer stays from one message to the next and is cleared in
front of each.
-/

namespace DirectoryInterchange.Message

structure Codec where
  /-- The largest content of a message that is taken in. -/
  limit : Nat := Element.Frame.defaultLimit
  scratch : Element.Buffer := .empty
  deriving DecidableEq, Repr

namespace Codec

/-- The next message of a buffer, once it is there, and the bytes to go on with. -/
def decode (codec : Codec) (buffer : Bytes) : Except Fault (Option Message) × Bytes :=
  Frame.take? codec.limit buffer

/-- Appends a message to what is there already. -/
def encode (codec : Codec) (message : Message) (destination : Bytes) : Codec × Bytes :=
  let scratch := message.write codec.scratch.clear
  ({ codec with scratch }, destination ++ scratch.bytes)

/-- Sends messages one after another, each on its own. -/
def send (codec : Codec) : List Message → Bytes
  | [] => []
  | message :: messages =>
      let (codec, bytes) := codec.encode message []
      bytes ++ codec.send messages

end Codec

end DirectoryInterchange.Message
