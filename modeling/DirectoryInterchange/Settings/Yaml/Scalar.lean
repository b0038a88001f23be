import DirectoryInterchange.Settings.Yaml.Here

/-!
Texts in a YAML document: plain, in quotes, or over the lines of a block.

Where a text runs over lines, an end of a line counts as a space and each empty
line behind it as an end of a line; in a block that is literal every end of a line
is kept.
-/

namespace DirectoryInterchange.Settings.Yaml

/-- What stands between two words with so many ends of lines, and with blanks in
front of the first, between them. -/
def joint (breaks : Nat) (blanks : List Char) : List Char :=
  match breaks with
  | 0 => blanks
  | 1 => [' ']
  | breaks + 2 => List.replicate (breaks + 1) '\n'

/-! ### Plain texts -/

/-- Whether the first character may belong to a plain text.  A colon may not where
it would end a key. -/
def isPlain (flow : Bool) : List Char → Bool
  | [] => false
  | ':' :: rest => !isBlankOrEnd rest.head? && !(flow && (rest.head?.map isFlow).getD false)
  | c :: _ => !(flow && isFlow c)

/-- The longest word of a plain text. -/
def plainWord (flow : Bool) : List Char → List Char
  | [] => []
  | c :: rest => if isBlank c || !isPlain flow (c :: rest) then [] else c :: plainWord flow rest

/-- Skips the blanks behind a word and gives what joins the next one to it.  A tab
does not stand for the indentation, unless the line is empty. -/
def plainGap? (least : Int) : (fuel breaks : Nat) → (blanks : List Char) → Here →
    Option (List Char × Here)
  | 0, _, _, _ => none
  | fuel + 1, breaks, blanks, here =>
      match here.next with
      | some '\n' => plainGap? least fuel (breaks + 1) blanks here.step
      | some c =>
          if !isSpace c then some (joint breaks blanks, here)
          else if !here.isFresh then plainGap? least fuel breaks (blanks ++ [c]) here.step
          else if here.column < least && c = '\t' then do
            plainGap? least fuel breaks blanks (← here.emptyLine?)
          else plainGap? least fuel breaks blanks here.step
      | none => some (joint breaks blanks, here)

/-- The rest of a plain text, with what joins it to the words before. -/
def plainRest? (flow : Bool) (least : Int) : (fuel : Nat) → (gap : List Char) → Here →
    Option (List Char × Here)
  | 0, _, _ => none
  | fuel + 1, gap, here =>
      if here.isAtMark || here.next = some '#' then some ([], here)
      else if flow && here.next = some '-' && ((here.rest.drop 1).head?.map isFlow).getD false then
        none
      else
        let word := plainWord flow here.rest
        let text := if word.isEmpty then [] else gap ++ word
        let behind := here.advance word.length
        if behind.next = none || !isBlankOrEnd behind.next then some (text, behind)
        else do
          let (gap, behind) ← plainGap? least (behind.rest.length + 1) 0 [] behind
          if !flow && behind.column < least then return (text, behind)
          else
            let (more, behind) ← plainRest? flow least fuel gap behind
            return (text ++ more, behind)

/-- A plain text, in whose lines at least so many columns are free. -/
def plain? (flow : Bool) (least : Int) (here : Here) : Option (List Char × Here) :=
  if flow && here.column < least then none
  else plainRest? flow least (here.rest.length + 1) [] here

/-! ### Texts in quotes -/

/-- What a character stands for behind a backslash. -/
def escaped? : Char → Option Char
  | '0' => some '\x00'
  | 'a' => some '\x07'
  | 'b' => some '\x08'
  | 't' | '\t' => some '\t'
  | 'n' => some '\n'
  | 'v' => some '\x0B'
  | 'f' => some '\x0C'
  | 'r' => some '\r'
  | 'e' => some '\x1B'
  | ' ' => some ' '
  | '"' => some '"'
  | '/' => some '/'
  | '\\' => some '\\'
  | 'N' => some '\u0085'
  | '_' => some '\u00A0'
  | 'L' => some '\u2028'
  | 'P' => some '\u2029'
  | _ => none

/-- What is behind a backslash, and how many characters that are. -/
def escape? (text : List Char) : Option (Char × Nat) :=
  let coded (count : Nat) (text : List Char) : Option (Char × Nat) := do
    let digits := text.take count
    if digits.length < count then none
    else return (← character? (← Numeral.inBase? 16 digits), count + 1)
  match text with
  | 'x' :: rest => coded 2 rest
  | 'u' :: rest => coded 4 rest
  | 'U' :: rest => coded 8 rest
  | mark :: _ => (escaped? mark).map (·, 1)
  | [] => none

/-- The longest word of a text in quotes, and whether a backslash takes the end of
the line behind it away. -/
def quotedWord? (single : Bool) : (fuel : Nat) → Here → Option (List Char × Bool × Here)
  | 0, _ => none
  | fuel + 1, here =>
      let go (c : Char) (count : Nat) : Option (List Char × Bool × Here) :=
        (quotedWord? single fuel (here.advance count)).map fun (word, rest) => (c :: word, rest)
      match here.rest with
      | [] => some ([], false, here)
      | c :: rest =>
          if isBlank c then some ([], false, here)
          else if single then
            if c ≠ '\'' then go c 1
            else if rest.head? = some '\'' then go '\'' 2
            else some ([], false, here)
          else if c = '"' then some ([], false, here)
          else if c ≠ '\\' then go c 1
          else if rest.head? = some '\n' then some ([], true, here.advance 2)
          else do
            let (c, count) ← escape? rest
            go c (count + 1)

/-- Skips the blanks behind a word and gives what joins the next one to it.  Where a
line end was taken away those behind it are kept. -/
def quotedGap? (escaped : Bool) (indent : Int) : (fuel breaks : Nat) → (blanks : List Char) →
    Here → Option (List Char × Here)
  | 0, _, _, _ => none
  | fuel + 1, breaks, blanks, here =>
      match here.next with
      | some '\n' => quotedGap? escaped indent fuel (breaks + 1) blanks here.step
      | some c =>
          if !isSpace c then found breaks blanks here
          else if !escaped && breaks = 0 then
            quotedGap? escaped indent fuel breaks (blanks ++ [c]) here.step
          else if c = '\t' && here.column < indent then none
          else quotedGap? escaped indent fuel breaks blanks here.step
      | none => found breaks blanks here
where
  found (breaks : Nat) (blanks : List Char) (here : Here) : Option (List Char × Here) :=
    some (if escaped then List.replicate breaks '\n' else joint breaks blanks, here)

/-- The rest of a text in quotes. -/
def quotedRest? (single : Bool) (indent : Int) : (fuel : Nat) → Here → Option (List Char × Here)
  | 0, _ => none
  | fuel + 1, here =>
      if here.isAtMark || here.rest.isEmpty || here.column < indent then none
      else do
        let (word, escaped, behind) ← quotedWord? single (here.rest.length + 1) here
        if behind.next = some (if single then '\'' else '"') then return (word, behind.step)
        else
          let (gap, behind) ← quotedGap? escaped indent (behind.rest.length + 1) 0 [] behind
          let (more, behind) ← quotedRest? single indent fuel behind
          return (word ++ gap ++ more, behind)

/-- A text in quotes and the blanks behind it, which only certain characters may
follow: what divides brackets, or the colon of a key, which outside of brackets is
on one line. -/
def quoted? (single flow : Bool) (indent : Int) (here : Here) : Option (List Char × Here) := do
  let (text, behind) ← quotedRest? single indent (here.rest.length + 1) here.step
  let (_, behind) ← behind.skipSpaces? true
  let isAllowed :=
    match behind.next with
    | some ',' | some '}' | some ']' => flow
    | some ':' => flow || behind.line = here.line
    | c => isEnd c
  if isAllowed then return (text, behind) else none

/-! ### Blocks -/

/-- What becomes of the ends of lines behind a block. -/
inductive Chomping
  | strip
  | clip
  | keep
  deriving DecidableEq, Repr

/-- Skips indentation up to a column and empty lines, which are counted. -/
def skipIndent (column : Nat) : (fuel breaks : Nat) → Here → Nat × Here
  | 0, breaks, here => (breaks, here)
  | fuel + 1, breaks, here =>
      match here.next with
      | some ' ' =>
          if here.column < column then skipIndent column fuel breaks here.step else (breaks, here)
      | some '\n' => skipIndent column fuel (breaks + 1) here.step
      | _ => (breaks, here)

/-- Skips all indentation and empty lines, and finds the largest column. -/
def widestIndent : (fuel breaks widest : Nat) → Here → Nat × Nat × Here
  | 0, breaks, widest, here => (breaks, widest, here)
  | fuel + 1, breaks, widest, here =>
      match here.next with
      | some ' ' => widestIndent fuel breaks (max widest (here.column + 1)) here.step
      | some '\n' => widestIndent fuel (breaks + 1) widest here.step
      | _ => (breaks, widest, here)

/-- What was read of a block: its text, and the ends of lines behind that. -/
structure BlockText where
  text : List Char
  /-- Whether the last line ended. -/
  ended : Bool
  /-- The empty lines behind it. -/
  breaks : Nat
  here : Here
  deriving DecidableEq, Repr

/-- The lines of a block from what is behind the lines before: whether the last of
them ended, the empty lines behind it, and whether it began with a blank. -/
def blockLines (literal : Bool) (column : Nat) : (fuel : Nat) → (ended : Bool) →
    (breaks : Nat) → (blank : Bool) → Here → BlockText
  | 0, ended, breaks, _, here => { text := [], ended, breaks, here }
  | fuel + 1, ended, breaks, blank, here =>
      if here.column ≠ column || here.rest.isEmpty || here.isAtMark then
        { text := [], ended, breaks, here }
      else
        let startsBlank := (here.next.map isSpace).getD false
        let gap :=
          if !literal && ended && !blank && !startsBlank then joint (breaks + 1) []
          else (if ended then ['\n'] else []) ++ List.replicate breaks '\n'
        let line := here.rest.takeWhile (· != '\n')
        let behind := here.lineEnd
        if behind.rest.isEmpty then
          { text := gap ++ line, ended := false, breaks := 0, here := behind }
        else
          let (breaks, behind) := skipIndent column behind.rest.length 0 behind.step
          let more := blockLines literal column fuel true breaks startsBlank behind
          { more with text := gap ++ line ++ more.text }

/-- The marks behind the sign of a block: what becomes of its end, and how much it is
indented, zero for as much as its first line. -/
def blockHeader? (here : Here) : Option (Chomping × Nat × Here) :=
  let chomping? (c : Option Char) : Option Chomping :=
    if c = some '+' then some .keep else if c = some '-' then some .strip else none
  let width? (c : Option Char) : Option Nat := (c.filter Char.isDigit).map Numeral.digitValue
  let found := match chomping? here.next, width? here.next with
    | some chomping, _ =>
        match width? here.step.next with
        | some width => (chomping, some width, here.advance 2)
        | none => (chomping, none, here.step)
    | none, some width =>
        match chomping? here.step.next with
        | some chomping => (chomping, some width, here.advance 2)
        | none => (.clip, some width, here.step)
    | none, none => (.clip, none, here)
  if found.2.1 = some 0 then none else some (found.1, found.2.1.getD 0, found.2.2)

/-- A block behind its sign, where blocks around it are indented so much. -/
def block? (literal : Bool) (indent : Int) (here : Here) : Option (List Char × Here) := do
  let (chomping, width, behind) ← blockHeader? here.step
  let behind ← behind.emptyLine?
  let start := behind.step
  if start.next = some '\t' then none
  else
    let fuel := start.rest.length
    let (column, breaks, body) :=
      if width = 0 then
        let (breaks, widest, body) := widestIndent fuel 0 0 start
        (max widest (indent + 1).toNat, breaks, body)
      else
        let column := (max indent 0).toNat + width
        let (breaks, body) := skipIndent column fuel 0 start
        (column, breaks, body)
    if body.rest.isEmpty then
      if chomping = .strip || body.line = here.line then return ([], body)
      else if chomping = .keep && breaks ≠ 0 then return (List.replicate breaks '\n', body)
      else return (['\n'], body)
    else if body.column < column && indent < body.column then none
    else
      let found := blockLines literal column (fuel + 1) false breaks false body
      let isCut := found.here.rest.isEmpty && max column 1 ≤ found.here.column
      let ending :=
        match chomping with
        | .strip => []
        | .clip | .keep => (if found.ended then ['\n'] else []) ++ (if isCut then ['\n'] else [])
      let kept := if chomping = .keep then List.replicate found.breaks '\n' else []
      return (found.text ++ ending ++ kept, found.here)

end DirectoryInterchange.Settings.Yaml
