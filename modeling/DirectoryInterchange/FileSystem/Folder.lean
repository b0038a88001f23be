import DirectoryInterchange.FileSystem.Basic

/-!
A folder of files in memory, and the paths that lead to them.

A path is followed name by name: `.` stays where it is and `..` goes up.  Above
the folder there are folders too, and nothing is known of what they hold; paths
from the root start there.
-/

namespace DirectoryInterchange

/-- Files by the names on their paths. -/
structure Folder where
  files : List (List String × Bytes)
  deriving DecidableEq, Repr

namespace Folder

/-- The names on a path. -/
def names (path : String) : List String :=
  (path.splitOn "/").filter (· ≠ "")

/-- Whether a path starts at the root. -/
def isAbsolute (path : String) : Bool :=
  path.startsWith "/"

/-- Whether a path can lead to nothing but a folder. -/
def wantsFolder (path : String) : Bool :=
  path.endsWith "/"

def ofList (files : List (String × Bytes)) : Folder :=
  ⟨(files.filter fun (path, _) => !isAbsolute path).map fun (path, bytes) => (names path, bytes)⟩

/-- Where following a path has come to. -/
inductive Spot
  | inside (names : List String)
  /-- Somewhere above the folder. -/
  | outside
  deriving DecidableEq, Repr

namespace Spot

def parent : Spot → Spot
  | inside [] | outside => outside
  | inside names => inside names.dropLast

/-- The spot under a name, when there is anything that could have it. -/
def child? : Spot → String → Option Spot
  | inside names, name => some (inside (names ++ [name]))
  | outside, _ => none

/-- Where a path starts. -/
def start (path : String) : Spot :=
  if isAbsolute path then outside else inside []

end Spot

/-- What is at a spot. -/
def at? (folder : Folder) : Spot → Place
  | .outside | .inside [] => .folder
  | .inside names =>
      match folder.files.find? (·.1 = names) with
      | some (_, bytes) => .file bytes
      | none =>
          if folder.files.any fun (path, _) => names.isPrefixOf path then .folder
          else .nothing .notFound

/-- The longest name of a file, in bytes. -/
def longestName : Nat := 255

/-- The longest path, in bytes. -/
def longestPath : Nat := 4095

/-- Follows names from a spot; the last name need not lead anywhere. -/
def follow (folder : Folder) (reached : Spot) : List String → Except PathProblem Spot
  | [] => .ok reached
  | name :: rest =>
      match folder.at? reached with
      | .file _ => .error .notAFolder
      | .nothing problem => .error problem
      | .folder =>
          if name = "." then follow folder reached rest
          else if name = ".." then follow folder reached.parent rest
          else if longestName < name.utf8ByteSize then .error .nameTooLong
          else match reached.child? name with
            | some spot => follow folder spot rest
            | none => .error .notFound

/-- What keeps a text from being a path at all. -/
def flaw? (path : String) : Option PathProblem :=
  if path.toList.contains '\x00' then some .holdsNul
  else if path = "" then some .notFound
  else if longestPath < path.utf8ByteSize then some .nameTooLong
  else none

/-- The spot that a path comes down to. -/
def resolve (folder : Folder) (path : String) : Except PathProblem Spot :=
  match flaw? path with
  | some problem => .error problem
  | none => folder.follow (.start path) (names path)

def place (folder : Folder) (path : String) : Place :=
  match folder.resolve path with
  | .error problem => .nothing problem
  | .ok spot =>
      match folder.at? spot with
      | .file bytes => if wantsFolder path then .nothing .notAFolder else .file bytes
      | place => place

/-- A new file cannot have a name that is closed by a stroke, whatever is there. -/
def obstacle? (folder : Folder) (path : String) : Option PathProblem :=
  let parents := (names path).dropLast
  let closed := wantsFolder path && !([none, some ".", some ".."].contains (names path).getLast?)
  if (flaw? path).isNone && closed then
    match folder.follow (.start path) (parents ++ ["."]) with
    | .ok _ => some .isAFolder
    | .error problem => some problem
  else match folder.resolve path with
    | .error problem => some problem
    | .ok spot =>
        match folder.at? spot with
        | .folder => some .isAFolder
        | .file _ | .nothing _ => none

def fileSystem (folder : Folder) : FileSystem :=
  { place := folder.place, obstacle? := folder.obstacle? }

end Folder

end DirectoryInterchange
