import DirectoryInterchange.Block.Files

/-!
What paths lead to, and where files can be created.
-/

namespace DirectoryInterchange

/-- Why a path cannot be opened or created. -/
inductive PathProblem
  | notFound
  | notAFolder
  | isAFolder
  | nameTooLong
  | holdsNul
  | other (reason : String)
  deriving DecidableEq, Repr

def PathProblem.message : PathProblem → String
  | notFound => "No such file or directory (os error 2)"
  | notAFolder => "Not a directory (os error 20)"
  | isAFolder => "Is a directory (os error 21)"
  | nameTooLong => "File name too long (os error 36)"
  | holdsNul => "file name contained an unexpected NUL byte"
  | other reason => reason

/-- What a path leads to. -/
inductive Place
  | file (bytes : Bytes)
  | folder
  | nothing (problem : PathProblem)
  deriving DecidableEq, Repr

/-- What a reader of values sees at a place.  A folder is there and cannot be
read. -/
def Place.status? : Place → Option FileStatus
  | file bytes => some (.ofBytes bytes)
  | folder => some ⟨4096, none⟩
  | nothing _ => none

structure FileSystem where
  place : String → Place
  /-- Why a file cannot be created under a path, if it cannot. -/
  obstacle? : String → Option PathProblem

namespace FileSystem

def files (fileSystem : FileSystem) : Files :=
  fun path => (fileSystem.place path).status?

end FileSystem

end DirectoryInterchange
