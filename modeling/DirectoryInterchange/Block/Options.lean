import DirectoryInterchange.Text.Ascii
import DirectoryInterchange.Text.Blank
import DirectoryInterchange.Text.Utf8

/-!
How the text of records is to be read: what happens to repeated values and to
lines that end in a space, when two values are the same, and how large a file
may be that a value is taken from.
-/

namespace DirectoryInterchange

/-- What happens to something that should not be there. -/
inductive Policy
  | strip
  | retain
  | reject
  deriving DecidableEq, Repr

namespace Policy

def name : Policy → String
  | strip => "strip"
  | retain => "retain"
  | reject => "reject"

def ofName? (name : String) : Option Policy :=
  [strip, retain, reject].find? (·.name == name)

end Policy

inductive MatchingRule
  /-- Byte for byte. -/
  | octets
  /-- Text is compared word by word and regardless of ASCII case. -/
  | caseIgnore
  deriving DecidableEq, Repr

namespace MatchingRule

/-- Words in lower case, one behind the other, with a space in front of each
that has text before it. -/
def joinWords (textBefore : Bool) : List (List Char) → List Char
  | [] => []
  | word :: words =>
      (if textBefore then [' '] else []) ++ word.map Char.toLower
        ++ joinWords (textBefore || !word.isEmpty) words

/-- Lower-case words with single spaces between them. -/
def canonical (text : String) : String :=
  String.ofList (joinWords false (Blank.words text.toList))

/-- The form under which a value is compared; what is no text stands for itself. -/
def normalize : MatchingRule → Bytes → Bytes
  | octets, value => value
  | caseIgnore, value =>
      match Utf8.decode? value with
      | some text => Utf8.encode (canonical text)
      | none => value

/-- Whether two values are the same. -/
def same (rule : MatchingRule) (left right : Bytes) : Bool :=
  rule.normalize left == rule.normalize right

end MatchingRule

/-- A type of rules, each of which says when two values of an attribute are
the same. -/
class Matching (Rule : Type) where
  /-- Whether two values of the attribute with this name are the same. -/
  same : Rule → (name : String) → (left right : Bytes) → Bool

/-- To these rules the name of the attribute does not matter. -/
instance : Matching MatchingRule where
  same rule _ := rule.same

structure ReadOptions (Rule : Type := MatchingRule) where
  duplicates : Policy := .strip
  trailingSpaces : Policy := .reject
  rule : Rule := by exact MatchingRule.caseIgnore
  maximumFileSize : Nat := 10485760
  deriving DecidableEq, Repr

end DirectoryInterchange
