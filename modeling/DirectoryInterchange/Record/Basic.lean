import DirectoryInterchange.Text.Ascii
import DirectoryInterchange.Text.Utf8

/-!
Directory records: an entry with its attributes, or a change to make to one.

Names and distinguished names are text; attribute values are arbitrary bytes.
-/

namespace DirectoryInterchange

structure Attribute where
  name : String
  values : List Bytes
  deriving DecidableEq, Repr

namespace Attribute

def hasName (attr : Attribute) (name : String) : Bool :=
  Ascii.sameLetters attr.name name

/-- The first attribute of that name, whatever the case of its letters. -/
def find? (attributes : List Attribute) (name : String) : Option Attribute :=
  attributes.find? (·.hasName name)

def texts (attr : Attribute) : List String :=
  attr.values.map Utf8.decodeLossy

end Attribute

/-- What a modification does with the values it names. -/
inductive ModificationKind
  | add
  | delete
  | replace
  | increment
  deriving DecidableEq, Repr

namespace ModificationKind

def keyword : ModificationKind → String
  | add => "add"
  | delete => "delete"
  | replace => "replace"
  | increment => "increment"

def code : ModificationKind → Int32
  | add => 0
  | delete => 1
  | replace => 2
  | increment => 3

def all : List ModificationKind := [add, delete, replace, increment]

def ofKeyword? (keyword : String) : Option ModificationKind :=
  all.find? fun kind => Ascii.sameLetters kind.keyword keyword

def ofCode? (code : Int32) : Option ModificationKind :=
  all.find? fun kind => kind.code == code

@[simp] theorem ofKeyword?_keyword (kind : ModificationKind) :
    ofKeyword? kind.keyword = some kind := by
  cases kind <;> decide

@[simp] theorem ofCode?_code (kind : ModificationKind) : ofCode? kind.code = some kind := by
  cases kind <;> decide

end ModificationKind

structure Modification where
  kind : ModificationKind
  target : Attribute
  deriving DecidableEq, Repr

/-- An extension attached to a change. -/
structure Control where
  oid : String
  critical : Bool := false
  value : Option Bytes := none
  deriving DecidableEq, Repr

inductive Change
  | add (attributes : List Attribute)
  | delete
  | modify (modifications : List Modification)
  | modifyDn (newRdn : String) (deleteOldRdn : Bool) (newSuperior : Option String)
  deriving DecidableEq, Repr

/-- The keyword that announces a change. -/
def Change.keyword : Change → String
  | add _ => "add"
  | delete => "delete"
  | modify _ => "modify"
  | modifyDn .. => "moddn"

inductive Record
  | entry (dn : String) (attributes : List Attribute)
  | change (dn : String) (controls : List Control) (change : Change)
  deriving DecidableEq, Repr

namespace Record

def dn : Record → String
  | entry dn _ => dn
  | change dn _ _ => dn

def controls : Record → List Control
  | entry .. => []
  | change _ controls _ => controls

def change? : Record → Option Change
  | entry .. => none
  | change _ _ kind => some kind

/-- The same record under another distinguished name. -/
def withDn (dn : String) : Record → Record
  | entry _ attributes => entry dn attributes
  | change _ controls kind => change dn controls kind

end Record

end DirectoryInterchange
