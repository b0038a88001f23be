import DirectoryInterchange.Settings.Yaml.Node

/-!
Settings as a YAML document, whose root is a mapping.
-/

namespace DirectoryInterchange.Settings.Yaml

/-- The settings of the one document in a text; without any there are none. -/
def parse? (text : String) : Option Entries := do
  match ← Node.parseAll? text with
  | [] => return []
  | [root] => root.entries?
  | _ => none

end DirectoryInterchange.Settings.Yaml
