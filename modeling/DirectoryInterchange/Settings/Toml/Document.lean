import DirectoryInterchange.Settings.Value

/-!
What a TOML document has named so far.

Every table, list of tables and value is listed under its place: the names that
lead to it, and behind the name of a list of tables the number of the table in it.
A table is open when only a longer name has implied it; the names of a dotted key
imply tables that no header may open again.
-/

namespace DirectoryInterchange.Settings.Toml

/-- A step from a table to what it holds. -/
inductive Branch
  | name (name : String)
  | element (index : Nat)
  deriving DecidableEq, Repr

/-- The way to something from the outermost table. -/
abbrev Site := List Branch

inductive Item
  | value (value : Value)
  /-- A table that is only implied, by a dotted key or by a header. -/
  | implied (dotted : Bool)
  /-- A table with a header of its own. -/
  | table
  /-- So many tables. -/
  | tables (count : Nat)
  deriving DecidableEq, Repr

structure Document where
  items : List (Site × Item) := []
  deriving DecidableEq, Repr

namespace Document

def item? (document : Document) (site : Site) : Option Item :=
  document.items.lookup site

/-- Lists an item, in the place of what was listed there. -/
def put (document : Document) (site : Site) (item : Item) : Document :=
  ⟨(document.items.filter fun (other, _) => other != site) ++ [(site, item)]⟩

/-- Follows names from a table, and implies tables where there is nothing.  A list
of tables leads to its last one.  A dotted key does not lead into a table that
has a header. -/
def descend? (document : Document) (site : Site) (dotted : Bool) :
    List String → Option (Document × Site)
  | [] => some (document, site)
  | name :: names =>
      let next := site ++ [.name name]
      match document.item? next with
      | none => (document.put next (.implied dotted)).descend? next dotted names
      | some (.implied _) => document.descend? next dotted names
      | some .table => if dotted then none else document.descend? next dotted names
      | some (.tables count) => document.descend? (next ++ [.element (count - 1)]) dotted names
      | some (.value _) => none

/-- Whether a table was implied by a dotted key. -/
def isDotted (document : Document) (site : Site) : Bool :=
  document.item? site == some (.implied true)

/-- Gives a value to a key in a table.  A table takes its values from its header
or from dotted keys, not from both. -/
def assign? (document : Document) (site : Site) (path : List String) (value : Value) :
    Option Document := do
  let parents := path.dropLast
  let (document, site) ← document.descend? site true parents
  if document.isDotted site == parents.isEmpty then none
  else
    let site := site ++ [.name (← path.getLast?)]
    if (document.item? site).isSome then none else return document.put site (.value value)

/-- Opens a table by its header. -/
def openTable? (document : Document) (path : List String) : Option (Document × Site) := do
  let (document, site) ← document.descend? [] false path.dropLast
  let site := site ++ [.name (← path.getLast?)]
  match document.item? site with
  | none | some (.implied false) => return (document.put site .table, site)
  | some _ => none

/-- Opens another table in a list of tables. -/
def openElement? (document : Document) (path : List String) : Option (Document × Site) := do
  let (document, site) ← document.descend? [] false path.dropLast
  let site := site ++ [.name (← path.getLast?)]
  match document.item? site with
  | none => return (document.put site (.tables 1), site ++ [.element 0])
  | some (.tables count) =>
      return (document.put site (.tables (count + 1)), site ++ [.element count])
  | some _ => none

/-- The names of what a table holds. -/
def keys (document : Document) (site : Site) : List String :=
  document.items.filterMap fun (other, _) =>
    match other.reverse with
    | .name name :: parent => if parent.reverse = site then some name else none
    | _ => none

def entries (document : Document) : Entries :=
  document.items.filterMap fun (site, item) =>
    match site, item with
    | [.name name], .value value => some (name, value)
    | [.name name], .tables _ => some (name, .list)
    | [.name name], .implied _ | [.name name], .table =>
        some (name, .ofKeys (document.keys site))
    | _, _ => none

end Document

end DirectoryInterchange.Settings.Toml
