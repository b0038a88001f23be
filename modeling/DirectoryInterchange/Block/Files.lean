import DirectoryInterchange.Bytes

/-!
The files that values may be taken from.
-/

namespace DirectoryInterchange

/-- What a path leads to. -/
structure FileStatus where
  /-- The size that is stated before anything is read. -/
  size : Nat
  /-- The bytes, unless they cannot be read. -/
  content : Option Bytes

def FileStatus.ofBytes (bytes : Bytes) : FileStatus :=
  ⟨bytes.length, some bytes⟩

/-- The state of every path; none where nothing is found. -/
abbrev Files := String → Option FileStatus

end DirectoryInterchange
