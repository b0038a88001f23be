import DirectoryInterchange.Settings.Yaml.Token

/-!
The nodes of a YAML document.

An alias stands for the node behind its anchor.  A mapping is read as its keys and
values one after another; what has no value is no key, and the node behind it takes
its place.
-/

namespace DirectoryInterchange.Settings.Yaml

inductive Node
  /-- What does not agree with its tag. -/
  | invalid
  | plain (value : Value)
  /-- A number that need not be whole, as it is spelled. -/
  | real (spelled : List Char)
  | list (elements : List Node)
  | mapping (keys : List Value) (values : List Node)
  deriving Repr

namespace Node

/-- Nothing, as where a value is left out. -/
def null : Node :=
  plain .null

/-- How an infinite number and what is no number may be spelled. -/
def unusualNumbers : List String :=
  [".inf", ".Inf", ".INF", "+.inf", "+.Inf", "+.INF", "-.inf", "-.Inf", "-.INF", ".nan", "NaN",
    ".NAN"]

/-- Whether a text spells a number that need not be whole.  It has to have a digit,
unless it is one of a few words. -/
def isReal (text : List Char) : Bool :=
  unusualNumbers.any (·.toList = text)
    || (text.any Char.isDigit && (Decimal.parse? text).isSome)

/-- A whole number in another base, perhaps with a sign behind its mark. -/
def based? (base : Nat) (text : List Char) : Option Int := do
  let (negative, digits) := Decimal.splitSign text
  let number : Int := ← Numeral.inBase? base digits
  let number := if negative then -number else number
  if -Numeral.signedLimit ≤ number && number < Numeral.signedLimit then return number else none

/-- A number that is marked by its beginning. -/
def marked? (text : List Char) : Option Int :=
  match text with
  | '0' :: 'x' :: rest => based? 16 rest
  | '0' :: 'o' :: rest => based? 8 rest
  | '+' :: rest => Numeral.integer? rest
  | _ => none

/-- What a plain text means. -/
def ofPlain (text : List Char) : Node :=
  match (marked? text).or (Numeral.integer? text) with
  | some number => plain (.integer number)
  | none =>
      if text = ['~'] ∨ text = "null".toList then null
      else if text = "true".toList then plain (.flag true)
      else if text = "false".toList then plain (.flag false)
      else if isReal text then real text
      else plain (.text (String.ofList text))

/-- The beginning of the tags whose meaning is known. -/
def knownTags : List Char :=
  "tag:yaml.org,2002:".toList

/-- What a plain text means that has a tag. -/
def ofTagged (handle suffix text : List Char) : Node :=
  let found? (value : Option Value) : Node := (value.map plain).getD invalid
  let suffix := String.ofList suffix
  if handle ≠ knownTags then plain (.text (String.ofList text))
  else if suffix = "bool" then
    if text = "true".toList then plain (.flag true)
    else if text = "false".toList then plain (.flag false)
    else invalid
  else if suffix = "int" then found? ((Numeral.integer? text).map .integer)
  else if suffix = "float" then (if isReal text then real text else invalid)
  else if suffix = "null" then
    if text = ['~'] ∨ text = "null".toList then null else invalid
  else plain (.text (String.ofList text))

/-- A text as a node; only a plain one means anything else than itself. -/
def ofText (tag : Option (List Char × List Char)) (isPlain : Bool) (text : List Char) : Node :=
  if !isPlain then plain (.text (String.ofList text))
  else match tag with
    | some (handle, suffix) => ofTagged handle suffix text
    | none => ofPlain text

/-- Texts and whole numbers are keys. -/
def key? : Node → Option Value
  | plain (.text text) => some (.text text)
  | plain (.integer number) => some (.integer number)
  | _ => none

def isInvalid : Node → Bool
  | invalid => true
  | _ => false

/-- Keys and values out of the nodes of a mapping.  A key without a value behind it
does not count. -/
def pairs? : List Node → Option (List (Value × Node))
  | [] => some []
  | [_] => some []
  | key :: value :: rest =>
      if key.isInvalid then pairs? (value :: rest)
      else do
        let key ← key.key?
        let pairs ← pairs? rest
        if pairs.any (·.1 = key) then none else return (key, value) :: pairs

/-- The mapping that nodes make; no key is given twice. -/
def ofNodes? (nodes : List Node) : Option Node :=
  (pairs? nodes).map fun pairs => mapping (pairs.map (·.1)) (pairs.map (·.2))

/-- The name that a key gives to a setting. -/
def name : Value → String
  | .integer number => toString number
  | key => key.text?.getD ""

mutual

/-- The value of a setting; none when a number in it cannot be read. -/
def value? : Node → Option Value
  | invalid => some .null
  | plain value => some value
  | real spelled => (Decimal.parse? spelled).map .real
  | list elements => if areReadable elements then some .list else none
  | mapping keys values => if areReadable values then some (.ofKeys (keys.map name)) else none

def areReadable : List Node → Bool
  | [] => true
  | node :: nodes => (value? node).isSome && areReadable nodes

end

/-- The settings that a mapping holds. -/
def entries? : Node → Option Entries
  | mapping keys values => do
      let values ← values.mapM value?
      return (keys.map name).zip values
  | _ => none

end Node

/-! ### Nodes out of tokens -/

/-- What is left to be read of a document, and what was read before. -/
structure Document where
  tokens : List Token
  /-- How many nodes have had an anchor. -/
  count : Nat := 0
  /-- The latest number of each anchor. -/
  anchors : List (List Char × Nat) := []
  /-- The nodes behind the anchors, by their numbers. -/
  nodes : List (Nat × Node) := []
  /-- What the handles of tags stand for. -/
  prefixes : List (List Char × List Char) := []
  deriving Repr

namespace Document

def drop (document : Document) (count : Nat) : Document :=
  { document with tokens := document.tokens.drop count }

/-- Gives the next node an anchor. -/
def anchor (document : Document) (name : List Char) : Document :=
  let count := document.count + 1
  { document with count, anchors := (name, count) :: document.anchors }

/-- The handle that a tag comes down to.  One between two marks has to be known. -/
def handle? (document : Document) (handle : List Char) : Option (List Char) :=
  match document.prefixes.lookup handle with
  | some start => some start
  | none =>
      if handle = ['!', '!'] then some Node.knownTags
      else if isHandle handle then none
      else some handle

/-- The anchor and the tag in front of a node. -/
structure Properties where
  anchor : Option Nat := none
  tag : Option (List Char × List Char) := none
  deriving Repr

def properties? (document : Document) : Option (Properties × Document) :=
  let tagged? (handle suffix : List Char) : Option (List Char × List Char) :=
    (document.handle? handle).map (·, suffix)
  let number := some (document.count + 1)
  match document.tokens with
  | .anchor name :: .tag handle suffix :: _ => do
      let tag ← tagged? handle suffix
      return ({ anchor := number, tag }, (document.anchor name).drop 2)
  | .tag handle suffix :: .anchor name :: _ => do
      let tag ← tagged? handle suffix
      return ({ anchor := number, tag }, (document.anchor name).drop 2)
  | .anchor name :: _ => some ({ anchor := number }, (document.anchor name).drop 1)
  | .tag handle suffix :: _ => do
      return ({ tag := ← tagged? handle suffix }, document.drop 1)
  | _ => some ({}, document)

/-- Keeps a node for its aliases. -/
def keep (document : Document) (properties : Properties) (node : Node) : Document :=
  match properties.anchor with
  | some number => { document with nodes := (number, node) :: document.nodes }
  | none => document

/-- Whether no value comes where one could. -/
def lacksValue (ends : List Token) (document : Document) : Bool :=
  (document.tokens.head?.map ends.contains).getD false

mutual

/-- A node; blocks begin only outside of brackets, and a list need not be indented
where it is a value. -/
def node? (inBlock unindented : Bool) : (fuel : Nat) → Document → Option (Node × Document)
  | 0, _ => none
  | fuel + 1, document =>
      match document.tokens with
      | .alias name :: _ => do
          let number ← document.anchors.lookup name
          return ((document.nodes.lookup number).getD .invalid, document.drop 1)
      | _ => do
          let (properties, document) ← document.properties?
          let (node, document) ← content? inBlock unindented fuel properties document
          return (node, document.keep properties node)

/-- A node behind its properties, which may stand alone. -/
def content? (inBlock unindented : Bool) : (fuel : Nat) → Properties → Document →
    Option (Node × Document)
  | 0, _, _ => none
  | fuel + 1, properties, document =>
      let rest := document.drop 1
      let list (found : Option (List Node × Document)) : Option (Node × Document) :=
        found.map fun (nodes, document) => (.list nodes, document)
      let mapping? (found : Option (List Node × Document)) : Option (Node × Document) := do
        let (nodes, document) ← found
        return (← Node.ofNodes? nodes, document)
      let alone : Option (Node × Document) :=
        if properties.anchor.isNone && properties.tag.isNone then none
        else some (.ofText properties.tag true [], document)
      match document.tokens.head? with
      | some (.scalar isPlain text) => some (.ofText properties.tag isPlain text, rest)
      | some .flowSequenceStart => list (flowList? fuel true rest)
      | some .flowMappingStart => mapping? (flowMapping? fuel true rest)
      | some .blockSequenceStart => if inBlock then list (blockList? fuel rest) else alone
      | some .blockMappingStart => if inBlock then mapping? (blockMapping? fuel rest) else alone
      | some .blockEntry => if unindented then list (unindentedList? fuel document) else alone
      | _ => alone

/-- A value, or nothing in front of one of several tokens. -/
def valueOr? (ends : List Token) (inBlock unindented : Bool) : (fuel : Nat) → Document →
    Option (Node × Document)
  | 0, _ => none
  | fuel + 1, document =>
      if document.lacksValue ends then some (.null, document)
      else node? inBlock unindented fuel document

def blockList? : (fuel : Nat) → Document → Option (List Node × Document)
  | 0, _ => none
  | fuel + 1, document =>
      match document.tokens with
      | .blockEnd :: _ => some ([], document.drop 1)
      | .blockEntry :: _ => do
          let (node, document) ←
            valueOr? [.blockEntry, .blockEnd] true false fuel (document.drop 1)
          let (nodes, document) ← blockList? fuel document
          return (node :: nodes, document)
      | _ => none

def unindentedList? : (fuel : Nat) → Document → Option (List Node × Document)
  | 0, _ => none
  | fuel + 1, document =>
      match document.tokens with
      | .blockEntry :: _ => do
          let (node, document) ←
            valueOr? [.blockEntry, .key, .value, .blockEnd] true false fuel (document.drop 1)
          let (nodes, document) ← unindentedList? fuel document
          return (node :: nodes, document)
      | _ => some ([], document)

/-- Keys and values one after another. -/
def blockMapping? : (fuel : Nat) → Document → Option (List Node × Document)
  | 0, _ => none
  | fuel + 1, document => do
      let ends : List Token := [.key, .value, .blockEnd]
      let member? (document : Document) : Option (List Node × Document) := do
        let (key, document) ←
          match document.tokens with
          | .key :: _ => valueOr? ends true true fuel (document.drop 1)
          | _ => some (.null, document)
        let (value, document) ←
          match document.tokens with
          | .value :: _ => valueOr? ends true true fuel (document.drop 1)
          | _ => some (.null, document)
        let (nodes, document) ← blockMapping? fuel document
        return (key :: value :: nodes, document)
      match document.tokens with
      | .key :: _ | .value :: _ => member? document
      | .blockEnd :: _ => return ([], document.drop 1)
      | _ => none

/-- Elements of a list in brackets, each behind a comma but the first. -/
def flowList? : (fuel : Nat) → (first : Bool) → Document → Option (List Node × Document)
  | 0, _, _ => none
  | fuel + 1, first, document => do
      let element? (document : Document) : Option (List Node × Document) := do
        let (node, document) ←
          match document.tokens with
          | .key :: _ => flowPair? fuel (document.drop 1)
          | _ => node? false false fuel document
        let (nodes, document) ← flowList? fuel false document
        return (node :: nodes, document)
      match first, document.tokens with
      | _, .flowSequenceEnd :: _ => return ([], document.drop 1)
      | false, .flowEntry :: .flowSequenceEnd :: _ => return ([], document.drop 2)
      | false, .flowEntry :: _ => element? (document.drop 1)
      | false, _ => none
      | true, _ => element? document

/-- A mapping of one key in a list in brackets. -/
def flowPair? : (fuel : Nat) → Document → Option (Node × Document)
  | 0, _ => none
  | fuel + 1, document => do
      let (key, document) ←
        if document.lacksValue [.value, .flowEntry, .flowSequenceEnd] then
          some (.null, document.drop 1)
        else node? false false fuel document
      let (value, document) ←
        match document.tokens with
        | .value :: _ =>
            valueOr? [.flowEntry, .flowSequenceEnd] false false fuel (document.drop 1)
        | _ => some (.null, document)
      return (← Node.ofNodes? [key, value], document)

/-- Keys and values in braces, each pair behind a comma but the first. -/
def flowMapping? : (fuel : Nat) → (first : Bool) → Document → Option (List Node × Document)
  | 0, _, _ => none
  | fuel + 1, first, document => do
      let more? (key : Node) (document : Document) : Option (List Node × Document) := do
        let (value, document) ←
          match document.tokens with
          | .value :: _ =>
              valueOr? [.flowEntry, .flowMappingEnd] false false fuel (document.drop 1)
          | _ => some (.null, document)
        let (nodes, document) ← flowMapping? fuel false document
        return (key :: value :: nodes, document)
      let member? (document : Document) : Option (List Node × Document) := do
        match document.tokens with
        | .key :: _ =>
            let (key, document) ←
              valueOr? [.value, .flowEntry, .flowMappingEnd] false false fuel (document.drop 1)
            more? key document
        | .value :: _ => more? .null document
        | _ =>
            let (key, document) ← node? false false fuel document
            let (nodes, document) ← flowMapping? fuel false document
            return (key :: .null :: nodes, document)
      match first, document.tokens with
      | _, .flowMappingEnd :: _ => return ([], document.drop 1)
      | false, .flowEntry :: .flowMappingEnd :: _ => return ([], document.drop 2)
      | false, .flowEntry :: _ => member? (document.drop 1)
      | false, _ => none
      | true, _ => member? document

end

/-- Takes in the directives in front of a document.  Each makes those before it
forgotten, and a version is given at most once. -/
def directives? : (versioned : Bool) → List Token → (prefixes : List (List Char × List Char)) →
    Option (List (List Char × List Char) × List Token)
  | true, .version :: _, _ => none
  | false, .version :: tokens, _ => directives? true tokens []
  | versioned, .tagPrefix handle start :: tokens, _ => directives? versioned tokens [(handle, start)]
  | _, tokens, prefixes => some (prefixes, tokens)

/-- The root of a document that a mark begins, with its directives. -/
def marked? (document : Document) : Option (Node × Document) := do
  let (prefixes, tokens) ← directives? false document.tokens document.prefixes
  let .documentStart :: tokens := tokens | none
  let document := { document with tokens, prefixes }
  match tokens with
  | [] | .documentStart :: _ | .documentEnd :: _ | .version :: _ | .tagPrefix .. :: _ =>
      return (.null, document)
  | _ => node? true false (4 * tokens.length + 4) document

/-- The roots of all documents.  Without a mark a document begins only at the
beginning or where the one before was ended by a mark. -/
def roots? : (fuel : Nat) → (unmarked : Bool) → Document → Option (List Node)
  | 0, _, _ => none
  | fuel + 1, unmarked, document => do
      let tokens := document.tokens.dropWhile (· == .documentEnd)
      let document := { document with tokens, anchors := [] }
      let followed (root : Node) (document : Document) : Option (List Node) :=
        let document := { document with prefixes := [] }
        match document.tokens with
        | .documentEnd :: _ => (roots? fuel true (document.drop 1)).map (root :: ·)
        | .version :: _ | .tagPrefix .. :: _ => none
        | _ => (roots? fuel false document).map (root :: ·)
      match tokens with
      | [] => return []
      | .documentStart :: _ | .version :: _ | .tagPrefix .. :: _ =>
          let (root, document) ← document.marked?
          followed root document
      | _ =>
          if unmarked then
            let (root, document) ← node? true false (4 * tokens.length + 4) document
            followed root document
          else none

end Document

/-- The roots of the documents in a text. -/
def Node.parseAll? (text : String) : Option (List Node) := do
  let tokens ← Token.ofText? text
  Document.roots? (tokens.length + 2) true { tokens }

end DirectoryInterchange.Settings.Yaml
