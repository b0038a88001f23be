import DirectoryInterchange.Block.Options
import DirectoryInterchange.Record.Error

/-!
Collecting values into attributes.

Values come together under the first spelling of their name, in the order of
their lines.  The policy decides about a value that is there already.
-/

namespace DirectoryInterchange.Block.Values

open Record (Problem)

variable {Rule : Type} [Matching Rule]

/-- Adds a value to an attribute that has some already. -/
def extend (policy : Policy) (rule : Rule) (attr : Attribute) (value : Bytes) :
    Except Problem Attribute :=
  let extended := { attr with values := attr.values ++ [value] }
  if attr.values.any (Matching.same rule attr.name · value) then
    match policy with
    | .strip => .ok attr
    | .retain => .ok extended
    | .reject => .error (.duplicateValue value attr.name)
  else .ok extended

def add (policy : Policy) (rule : Rule) (name : String) (value : Bytes) :
    List Attribute → Except Problem (List Attribute)
  | [] => .ok [⟨name, [value]⟩]
  | attr :: rest =>
      if attr.hasName name then
        (extend policy rule attr value).map (· :: rest)
      else (add policy rule name value rest).map (attr :: ·)

end DirectoryInterchange.Block.Values
