import DirectoryInterchange.Element.Basic

/-!
Cutting a growing buffer of received bytes into elements.

`take?` answers none as long as the first element is not complete; the bytes
are then kept for the next attempt.
-/

namespace DirectoryInterchange.Element.Frame

def defaultLimit : Nat := 16777216

/-- The first element of a buffer and the bytes behind it, once it is there. -/
def take? (limit : Nat) (buffer : Bytes) : Except Error (Option (Element × Bytes)) :=
  match buffer with
  | [] => .ok none
  | [_] => .ok none
  | tag :: rest =>
      match Length.decode rest with
      | .error (.truncated _ _) => .ok none
      | .error error => .error error
      | .ok (length, content) =>
          if limit < length then .error (.elementTooLarge length limit)
          else if content.length < length then .ok none
          else .ok (some (⟨tag, content.take length⟩, content.drop length))

/-- The answer to a call on a buffer, and the bytes to go on with. -/
def next (limit : Nat) (buffer : Bytes) : Except Error (Option Element) × Bytes :=
  match take? limit buffer with
  | .error error => (.error error, buffer)
  | .ok none => (.ok none, buffer)
  | .ok (some (element, rest)) => (.ok (some element), rest)

/-- What is left when no more bytes will come: nothing, or the start of an
element that was never completed. -/
def leftover (buffer : Bytes) : Except Error Unit :=
  if buffer.isEmpty then .ok () else .error (.unreadable "bytes remaining on stream")

end DirectoryInterchange.Element.Frame
