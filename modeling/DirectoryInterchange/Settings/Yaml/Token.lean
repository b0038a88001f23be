import DirectoryInterchange.Settings.Yaml.Scalar

/-!
The tokens of a YAML document.

Besides what stands in the text there are tokens for the beginning and the end of
blocks, which indentation tells, and one in front of each key.  That something is a
key is only known at the colon behind it, so its token is put in afterwards.
-/

namespace DirectoryInterchange.Settings.Yaml

inductive Token
  | version
  | tagPrefix (handle start : List Char)
  | documentStart
  | documentEnd
  | blockSequenceStart
  | blockMappingStart
  | blockEnd
  | blockEntry
  | flowSequenceStart
  | flowSequenceEnd
  | flowMappingStart
  | flowMappingEnd
  | flowEntry
  | key
  | value
  | alias (name : List Char)
  | anchor (name : List Char)
  | tag (handle suffix : List Char)
  | scalar (isPlain : Bool) (text : List Char)
  deriving DecidableEq, Repr

/-! ### Tags -/

def isUriCharacter (c : Char) : Bool :=
  c.isAlphanum || "-#;/?:@&=+$,_.!~*'()[]%".toList.contains c

def isTagCharacter (c : Char) : Bool :=
  isUriCharacter c && !isFlow c && c != '!'

/-- How many bytes a character has whose first one is given. -/
def byteCount? (first : Nat) : Option Nat :=
  if first < 0x80 then some 1
  else if 0xC0 ≤ first && first < 0xE0 then some 2
  else if 0xE0 ≤ first && first < 0xF0 then some 3
  else if 0xF0 ≤ first && first < 0xF8 then some 4
  else none

/-- So many bytes behind percent signs, one after another in a number. -/
def percentBytes? : (count code : Nat) → Scan Nat
  | 0, code, text => some (code, text)
  | count + 1, code, '%' :: a :: b :: rest => do
      let byte ← Numeral.inBase? 16 [a, b]
      if 0x80 ≤ byte ∧ byte < 0xC0 then percentBytes? count (code * 256 + byte) rest else none
  | _ + 1, _, _ => none

/-- A character whose bytes stand behind percent signs.  The bytes of a longer
character are not taken apart. -/
def percent? : Scan Char
  | '%' :: a :: b :: rest => do
      let first ← Numeral.inBase? 16 [a, b]
      let (code, rest) ← percentBytes? ((← byteCount? first) - 1) first rest
      return (← character? code, rest)
  | _ => none

/-- The longest text of certain characters, among them the percent sign. -/
def uri? (condition : Char → Bool) : (fuel : Nat) → Scan (List Char)
  | 0, _ => none
  | _ + 1, [] => some ([], [])
  | fuel + 1, c :: rest =>
      if !condition c then some ([], c :: rest)
      else do
        let (c, rest) ← if c = '%' then percent? (c :: rest) else some (c, rest)
        (uri? condition fuel rest).map fun (text, rest) => (c :: text, rest)

/-- The handle of a tag or, without a mark at its end, what may begin one. -/
def handle? : Scan (List Char)
  | '!' :: rest =>
      let name := rest.takeWhile isNameCharacter
      match rest.dropWhile isNameCharacter with
      | '!' :: rest => some ('!' :: name ++ ['!'], rest)
      | rest => some ('!' :: name, rest)
  | _ => none

def isHandle (text : List Char) : Bool :=
  2 ≤ text.length && text.getLast? = some '!'

/-- The handle and the suffix of a tag. -/
def tag? (text : List Char) : Option ((List Char × List Char) × List Char) :=
  match text with
  | '!' :: '<' :: rest => do
      let (suffix, '>' :: rest) ← uri? isUriCharacter (rest.length + 1) rest | none
      return (([], suffix), rest)
  | text => do
      let (handle, rest) ← handle? text
      let (suffix, rest) ← uri? isTagCharacter (rest.length + 1) rest
      if isHandle handle then
        if suffix.isEmpty then none else return ((handle, suffix), rest)
      else
        match handle.drop 1 ++ suffix with
        | [] => return (([], ['!']), rest)
        | suffix => return ((['!'], suffix), rest)

/-- The handle and the beginning of tags that a directive gives. -/
def tagDirective? (text : List Char) : Option ((List Char × List Char) × List Char) := do
  let (handle, rest) ← handle? (text.dropWhile isSpace)
  if !isHandle handle && handle ≠ ['!'] then none
  else
    let text := rest.dropWhile isSpace
    let (first, rest) ←
      match text with
      | '!' :: rest => some ('!', rest)
      | '%' :: rest => percent? ('%' :: rest)
      | c :: rest => if isTagCharacter c then some (c, rest) else none
      | [] => none
    let (more, rest) ← uri? isUriCharacter (rest.length + 1) rest
    if isBlankOrEnd rest.head? then return ((handle, first :: more), rest) else none

/-! ### The state of reading -/

/-- What may turn out to be a key. -/
structure Candidate where
  isPossible : Bool := false
  /-- Whether nothing but a key may stand there. -/
  isRequired : Bool := false
  /-- How many tokens there are in front of it. -/
  position : Nat := 0
  index : Nat := 0
  line : Nat := 0
  column : Nat := 0
  deriving DecidableEq, Repr

/-- What the indentation was outside of something that is indented. -/
structure Indent where
  outer : Int
  /-- Whether that is a block, and not only the value of a key. -/
  isBlock : Bool
  deriving DecidableEq, Repr

structure Lexer where
  here : Here
  tokens : Array Token := #[]
  /-- The candidates for keys, one for the text outside of brackets and one for each
  bracket, the innermost first. -/
  candidates : List Candidate := [{}]
  mayStartKey : Bool := true
  indent : Int := -1
  indents : List Indent := []
  /-- How many brackets are open. -/
  depth : Nat := 0
  /-- Where in brackets a value may follow its colon directly. -/
  adjacent : Nat := 0
  /-- Whether a mapping was begun by a brace or a question mark. -/
  inMapping : Bool := false
  /-- For each list in brackets, the innermost first, whether a mapping without
  braces is open in it. -/
  pairs : List Bool := []
  /-- Whether the last token is an anchor or a tag in the first column. -/
  endsInMargin : Bool := false
  deriving Repr

namespace Lexer

def column (lexer : Lexer) : Int :=
  lexer.here.column

def isFlow (lexer : Lexer) : Bool :=
  lexer.depth ≠ 0

def push (lexer : Lexer) (token : Token) : Lexer :=
  { lexer with tokens := lexer.tokens.push token, endsInMargin := false }

/-- Puts a token in front of others. -/
def insert (lexer : Lexer) (position : Nat) (token : Token) : Lexer :=
  { lexer with
    tokens :=
      (lexer.tokens.extract 0 position).push token ++ lexer.tokens.extract position }

def candidate (lexer : Lexer) : Candidate :=
  lexer.candidates.headD {}

def withCandidate (lexer : Lexer) (candidate : Candidate) : Lexer :=
  { lexer with candidates := candidate :: lexer.candidates.drop 1 }

def skipSpaces? (lexer : Lexer) : Option Lexer :=
  (lexer.here.skipSpaces? true).map fun (_, here) => { lexer with here }

/-- Skips blanks and comments.  Outside of brackets a new line may start a key. -/
def skipBlanks? (lexer : Lexer) : Option Lexer := do
  let (newLine, here) ← lexer.here.skipBlanks? (!lexer.indents.isEmpty) lexer.indent
    (lexer.here.rest.length + 1)
  return { lexer with here, mayStartKey := lexer.mayStartKey || (newLine && !lexer.isFlow) }

/-! ### Indentation -/

/-- Ends the blocks that are indented deeper than a column. -/
def unroll (lexer : Lexer) (column : Int) : Lexer :=
  if lexer.isFlow then lexer else go lexer.indents lexer
where
  go : List Indent → Lexer → Lexer
    | [], lexer => lexer
    | indent :: indents, lexer =>
        if column < lexer.indent then
          let outer := { lexer with indent := indent.outer, indents }
          go indents (if indent.isBlock then outer.push .blockEnd else outer)
        else lexer

/-- Forgets that the value of a key is indented. -/
def unrollValue (lexer : Lexer) : Lexer :=
  match lexer.indents with
  | indent :: indents =>
      if indent.isBlock then lexer else { lexer with indent := indent.outer, indents }
  | [] => lexer

/-- Begins a block at a column that is indented deeper, with its token in front of a
position. -/
def roll (lexer : Lexer) (column position : Nat) (token : Token) : Lexer :=
  if lexer.isFlow then lexer
  else
    let lexer := if lexer.indent ≤ column then lexer.unrollValue else lexer
    if lexer.indent < column then
      let indents := { outer := lexer.indent, isBlock := true } :: lexer.indents
      { lexer with indent := column, indents }.insert position token
    else lexer

/-- Indents the value of a key by one column. -/
def rollValue (lexer : Lexer) : Lexer :=
  if !lexer.isFlow && (lexer.indents.head?.map Indent.isBlock).getD false then
    let indents := { outer := lexer.indent, isBlock := false } :: lexer.indents
    { lexer with indent := lexer.indent + 1, indents }
  else lexer

/-! ### Candidates for keys -/

/-- Makes what comes next a candidate, if a key may start here. -/
def saveCandidate (lexer : Lexer) : Lexer :=
  if lexer.mayStartKey then
    let isRequired := !lexer.isFlow && lexer.indent = lexer.column
      && (lexer.indents.head?.map Indent.isBlock).getD false
    let here := lexer.here
    lexer.withCandidate
      { isPossible := true, isRequired, position := lexer.tokens.size
        index := here.index, line := here.line, column := here.column }
  else lexer

/-- Gives up the candidate, unless it has to be a key. -/
def dropCandidate? (lexer : Lexer) : Option Lexer :=
  let candidate := lexer.candidate
  if candidate.isPossible && candidate.isRequired then none
  else some (lexer.withCandidate { candidate with isPossible := false })

/-- How long a key may be. -/
def longestKey : Nat := 1024

/-- Gives up the candidate when it is on another line or too far away; inside of
brackets that does not matter. -/
def dropStale? (lexer : Lexer) : Option Lexer :=
  let candidate := lexer.candidate
  let isStale := candidate.line < lexer.here.line
    || candidate.index + longestKey < lexer.here.index
  if !lexer.isFlow && candidate.isPossible && isStale then lexer.dropCandidate? else some lexer

/-! ### Directives and documents -/

/-- The digits of a number in a version, nine at most. -/
def versionNumber? (text : List Char) : Option (List Char) :=
  let digits := text.takeWhile Char.isDigit
  if digits.isEmpty || 9 < digits.length then none else some (text.dropWhile Char.isDigit)

/-- What a directive means, and how much of the text behind its name belongs to it. -/
def directive? (name text : List Char) : Option (Token × List Char) :=
  if name = "YAML".toList then do
    let '.' :: rest ← versionNumber? (text.dropWhile isSpace) | none
    return (.version, ← versionNumber? rest)
  else if name = "TAG".toList then
    (tagDirective? text).map fun ((handle, start), rest) => (.tagPrefix handle start, rest)
  else some (.tagPrefix [] [], text.dropWhile (· != '\n'))

/-- Ends all blocks, as in front of a document. -/
def endBlocks? (lexer : Lexer) : Option Lexer := do
  return { ← (lexer.unroll (-1)).dropCandidate? with mayStartKey := false }

def readDirective? (lexer : Lexer) : Option Lexer := do
  let lexer ← lexer.endBlocks?
  let named := lexer.here.step
  let name := named.rest.takeWhile isNameCharacter
  let behind := named.advance name.length
  if name.isEmpty || !isBlankOrEnd behind.next then none
  else
    let (token, rest) ← directive? name behind.rest
    let here ← (behind.advance (behind.rest.length - rest.length)).emptyLine?
    return { lexer with here := here.step }.push token

def readMark? (lexer : Lexer) (token : Token) : Option Lexer := do
  let lexer ← lexer.endBlocks?
  return { lexer with here := lexer.here.advance 3 }.push token

/-! ### Brackets -/

/-- How many brackets may be open. -/
def deepest : Nat := 255

def openBracket? (lexer : Lexer) (token : Token) : Option Lexer := do
  let lexer := lexer.saveCandidate.rollValue
  let isMapping := token == Token.flowMappingStart
  if deepest ≤ lexer.depth then none
  else
    let opened := { lexer with
      candidates := {} :: lexer.candidates
      depth := lexer.depth + 1
      mayStartKey := true
      here := lexer.here.step
      inMapping := lexer.inMapping || isMapping
      pairs := if isMapping then lexer.pairs else false :: lexer.pairs }
    return (← opened.skipSpaces?).push token

/-- Ends a mapping without braces, if one is open in this list. -/
def endPair (lexer : Lexer) : Lexer :=
  match lexer.pairs with
  | true :: pairs => { lexer with inMapping := false, pairs := false :: pairs }.push .flowMappingEnd
  | _ => lexer

def closeBracket? (lexer : Lexer) (token : Token) : Option Lexer := do
  let lexer ← lexer.dropCandidate?
  let lexer :=
    if lexer.isFlow then
      { lexer with depth := lexer.depth - 1, candidates := lexer.candidates.drop 1 }
    else lexer
  let lexer := { lexer with mayStartKey := false }
  let lexer :=
    if token = .flowSequenceEnd then
      let ended := lexer.endPair
      { ended with pairs := ended.pairs.drop 1 }
    else lexer
  let lexer ← { lexer with here := lexer.here.step }.skipSpaces?
  let adjacent := if lexer.isFlow then lexer.here.index else lexer.adjacent
  return { lexer with adjacent }.push token

def readFlowEntry? (lexer : Lexer) : Option Lexer := do
  let lexer := { ← lexer.dropCandidate? with mayStartKey := true }.endPair
  return (← { lexer with here := lexer.here.step }.skipSpaces?).push .flowEntry

/-! ### Entries, keys and values -/

def readBlockEntry? (lexer : Lexer) : Option Lexer := do
  if lexer.isFlow || !lexer.mayStartKey then none
  else if lexer.endsInMargin && lexer.column = 0 && -1 < lexer.indent then none
  else
    let mark := lexer.here.column
    let lexer := { lexer with here := lexer.here.step }
    let lexer := lexer.roll mark lexer.tokens.size .blockSequenceStart
    let (spaces, here) ← lexer.here.skipSpaces? true
    if spaces.contains '\t' && here.next = some '-' && isBlankOrEnd here.step.next then none
    else
      let lexer := { lexer with here }
      let isOpen := here.next = some '\n' || (here.next.map Yaml.isFlow).getD false
      let lexer ← (if isOpen then lexer.rollValue else lexer).dropCandidate?
      return { lexer with mayStartKey := true }.push .blockEntry

/-- Skips blanks other than tabs behind a question mark; there has to be one. -/
def behindMark? (lexer : Lexer) : Option Lexer :=
  match lexer.here.next with
  | some ' ' | some '\n' => do
      let (newLine, here) ← go (lexer.here.rest.length + 1) lexer.here
      if here.next = some '\t' then none
      else
        return { lexer with
          here, mayStartKey := lexer.mayStartKey || (newLine && !lexer.isFlow) }
  | _ => none
where
  go : (fuel : Nat) → Here → Option (Bool × Here)
    | 0, _ => none
    | fuel + 1, here =>
        match here.next with
        | some ' ' => go fuel here.step
        | some '\n' => (go fuel here.step).map fun (_, here) => (true, here)
        | some '#' => go fuel here.lineEnd
        | _ => some (false, here)

def readKey? (lexer : Lexer) : Option Lexer := do
  if !lexer.isFlow && !lexer.mayStartKey then none
  else
    let lexer :=
      if lexer.isFlow then { lexer with inMapping := true }
      else lexer.roll lexer.here.column lexer.tokens.size .blockMappingStart
    let lexer ← lexer.dropCandidate?
    let lexer := { lexer with mayStartKey := !lexer.isFlow, here := lexer.here.step }
    return (← lexer.behindMark?).push .key

/-- Skips the colon of a value.  A tab does not divide it from a word. -/
def skipColon? (here : Here) : Option Here :=
  let behind := here.step
  if behind.next = some '\t' then do
    let (spaces, behind) ← behind.skipSpaces? true
    if !spaces.contains ' ' && (behind.next.map isNameCharacter).getD false then none
    else return behind
  else some behind

/-- A value behind what turns out to be its key. -/
def readSimpleValue? (lexer : Lexer) (inPair : Bool) (line : Nat) : Option Lexer :=
  let candidate := lexer.candidate
  let lexer := lexer.insert candidate.position .key
  if inPair && candidate.line < line then none
  else
    let lexer := if inPair then lexer.insert candidate.position .flowMappingStart else lexer
    let lexer := (lexer.roll candidate.column candidate.position .blockMappingStart).rollValue
    let lexer := lexer.withCandidate { candidate with isPossible := false }
    some { lexer with mayStartKey := false }

/-- A value behind a key that was marked as one, or behind none. -/
def readOtherValue? (lexer : Lexer) (inPair : Bool) (column : Nat) : Option Lexer :=
  let lexer := if inPair then lexer.push .flowMappingStart else lexer
  if lexer.isFlow then some { lexer.rollValue with mayStartKey := false }
  else if !lexer.mayStartKey then none
  else
    let lexer := (lexer.roll column lexer.tokens.size .blockMappingStart).rollValue
    some { lexer with mayStartKey := true }

def readValue? (lexer : Lexer) : Option Lexer := do
  let inPair := !lexer.pairs.isEmpty && !lexer.inMapping
  let start := lexer.here
  let pairs := if inPair then true :: lexer.pairs.drop 1 else lexer.pairs
  let lexer := { lexer with pairs, here := ← skipColon? start }
  let read ←
    if lexer.candidate.isPossible then lexer.readSimpleValue? inPair start.line
    else lexer.readOtherValue? inPair start.column
  return read.push .value

/-! ### Properties and texts -/

def isAnchorCharacter (c : Char) : Bool :=
  !isBlank c && !Yaml.isFlow c && c != '\uFEFF'

/-- Begins what may be a key, behind which another one may not start. -/
def begin (lexer : Lexer) : Lexer :=
  { lexer.saveCandidate with mayStartKey := false }

/-- An anchor, or the name of one. -/
def readAnchor? (lexer : Lexer) (isAlias : Bool) : Option Lexer :=
  let start := lexer.here
  let name := start.step.rest.takeWhile isAnchorCharacter
  if name.isEmpty then none
  else
    let read := { lexer.begin with here := start.advance (name.length + 1) }
    let read := read.push (if isAlias then .alias name else .anchor name)
    some { read with endsInMargin := !isAlias && start.column = 0 }

def readTag? (lexer : Lexer) : Option Lexer := do
  let start := lexer.here
  let ((handle, suffix), rest) ← tag? start.rest
  let next := rest.head?
  if isBlankOrEnd next || (lexer.isFlow && (next.map Yaml.isFlow).getD false) then
    let here := start.advance (start.rest.length - rest.length)
    let read := { lexer.begin with here }.push (.tag handle suffix)
    return { read with endsInMargin := start.column = 0 }
  else none

def readBlock? (lexer : Lexer) (literal : Bool) : Option Lexer := do
  let lexer := { lexer.saveCandidate with mayStartKey := true }.unrollValue
  let (text, here) ← block? literal lexer.indent lexer.here
  return { lexer with here }.push (.scalar false text)

def readQuoted? (lexer : Lexer) (single : Bool) : Option Lexer := do
  let (text, here) ← quoted? single lexer.isFlow lexer.indent lexer.here
  let lexer ← { lexer.begin with here }.skipBlanks?
  return { lexer with adjacent := lexer.here.index }.push (.scalar false text)

def readPlain? (lexer : Lexer) : Option Lexer := do
  let lexer := lexer.begin.unrollValue
  let (text, here) ← plain? lexer.isFlow (lexer.indent + 1) lexer.here
  let mayStartKey := lexer.mayStartKey || here.isFresh
  return { lexer with here, mayStartKey }.push (.scalar true text)

/-! ### All tokens -/

/-- Reads the token that begins with a character. -/
def readFrom? (lexer : Lexer) (c : Char) : Option Lexer :=
  let next := lexer.here.step.next
  let isDivided := isBlankOrEnd next
  if c = '[' then lexer.openBracket? .flowSequenceStart
  else if c = '{' then lexer.openBracket? .flowMappingStart
  else if c = ']' then lexer.closeBracket? .flowSequenceEnd
  else if c = '}' then lexer.closeBracket? .flowMappingEnd
  else if c = ',' then lexer.readFlowEntry?
  else if c = '-' && isDivided then lexer.readBlockEntry?
  else if c = '?' && isDivided then lexer.readKey?
  else if c = ':' && (isDivided || (lexer.isFlow
      && ((next.map Yaml.isFlow).getD false || lexer.here.index = lexer.adjacent))) then
    lexer.readValue?
  else if c = '*' then lexer.readAnchor? true
  else if c = '&' then lexer.readAnchor? false
  else if c = '!' then lexer.readTag?
  else if c = '|' && !lexer.isFlow then lexer.readBlock? true
  else if c = '>' && !lexer.isFlow then lexer.readBlock? false
  else if c = '\'' then lexer.readQuoted? true
  else if c = '"' then lexer.readQuoted? false
  else if c = '%' || c = '@' || c = '\x60' then none
  else lexer.readPlain?

/-- Reads one token and, as far as they come with it, others. -/
def read? (lexer : Lexer) (c : Char) : Option Lexer :=
  if lexer.column = 0 && c = '%' then lexer.readDirective?
  else if lexer.here.isAt "---" then lexer.readMark? .documentStart
  else if lexer.here.isAt "..." then do
    let lexer ← lexer.readMark? .documentEnd
    return { lexer with here := ← lexer.here.emptyLine? }
  else if lexer.column < lexer.indent then none
  else lexer.readFrom? c

/-- Ends all blocks at the end of the text.  Nothing may be left that has to be a
key. -/
def finish? (lexer : Lexer) : Option Lexer :=
  if lexer.candidates.any fun candidate => candidate.isRequired && candidate.isPossible then none
  else some (lexer.unroll (-1))

/-- The tokens of a text; there are no more than characters that begin one. -/
def tokens? : (fuel : Nat) → Lexer → Option (List Token)
  | 0, _ => none
  | fuel + 1, lexer => do
      let lexer ← (← lexer.skipBlanks?).dropStale?
      let lexer := lexer.unroll lexer.column
      match lexer.here.next with
      | none => return (← lexer.finish?).tokens.toList
      | some c => tokens? fuel (← lexer.read? c)

end Lexer

/-- The tokens of a text. -/
def Token.ofText? (text : String) : Option (List Token) :=
  let here := Here.ofText text
  Lexer.tokens? (here.rest.length + 1) { here }

end DirectoryInterchange.Settings.Yaml
