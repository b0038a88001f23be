import DirectoryInterchange.Text.Utf8

/-!
The variables of the environment, as the system hands them over in one block.
-/

namespace DirectoryInterchange

/-- Names and values of variables. -/
abbrev Environment := List (String × String)

namespace Environment

/-- A variable from a text such as `NAME=value`. -/
def entry? (text : String) : Option (String × String) :=
  match text.splitOn "=" with
  | name :: part :: parts => some (name, "=".intercalate (part :: parts))
  | _ => none

/-- The variables in a block, in which a zero byte ends each.  What is no UTF-8 is
left out. -/
def ofBlock (block : Bytes) : Environment :=
  (block.splitBy fun before _ => before ≠ 0).filterMap fun bytes => do
    entry? (← Utf8.decode? (bytes.filter (· ≠ 0)))

end Environment

end DirectoryInterchange
