import AlarmServer.Yaml.Property

/-!
# Tokens

A YAML text is a series of tokens. Some are written; others follow from the layout. A block
collection starts where something is indented more than the block collections around it, and ends
where something is indented less. A key is known as such only by the colon after it: until then it
is a candidate, and its token is put in front of it when the colon is found. A candidate has to be
on one line with its colon and at most 1024 bytes before it. A byte order mark is passed over at the
start of any line, not only of the text, but takes a column there.

A lexer holds what has been read of a text and what follows from that for the rest.
-/

namespace AlarmServer.Yaml

/-- A token. -/
inductive Token where
  /-- A directive. -/
  | directive (d : Directive)
  /-- A document starts. -/
  | documentStart
  /-- A document ends. -/
  | documentEnd
  /-- A block list starts. -/
  | blockListStart
  /-- A block mapping starts. -/
  | blockMappingStart
  /-- A block collection ends. -/
  | blockEnd
  /-- A flow list starts. -/
  | flowListStart
  /-- A flow list ends. -/
  | flowListEnd
  /-- A flow mapping starts. -/
  | flowMappingStart
  /-- A flow mapping ends. -/
  | flowMappingEnd
  /-- An item of a block list. -/
  | blockEntry
  /-- A comma. -/
  | flowEntry
  /-- A key. -/
  | key
  /-- The value of a key. -/
  | value
  /-- The name of the node that is meant. -/
  | alias (name : String)
  /-- The name of the node that follows. -/
  | anchor (name : String)
  /-- The tag of the node that follows. -/
  | tag (name : TagName)
  /-- A scalar. -/
  | scalar (s : Scalar)
  deriving DecidableEq

/-! ### Places -/

/-- A place in a text, and the text from there on. -/
structure Place where
  /-- The text from here on. -/
  rest : List Char
  /-- How many bytes are before it. -/
  index : Nat
  /-- How many lines are before its line. -/
  line : Nat
  /-- How many characters are before it in its line. -/
  column : Nat

namespace Place

/-- The place so many characters further on. -/
def advance : Nat → Place → Place
  | 0, p => p
  | n + 1, p =>
    match p.rest with
    | [] => p
    | c :: cs =>
      advance n (if isBreak c then ⟨cs, p.index + c.utf8Size, p.line + 1, 0⟩
        else ⟨cs, p.index + c.utf8Size, p.line, p.column + 1⟩)

/-- The place further on where that text is left. -/
def upTo (rest : List Char) (p : Place) : Place := p.advance (p.rest.length - rest.length)

end Place

/-! ### The lexer -/

/-- Something that may turn out to be a key. -/
structure Candidate where
  /-- How many tokens are before it. -/
  number : Nat
  /-- Where it starts. -/
  place : Place
  /-- Has it to be a key? -/
  required : Bool

namespace Candidate

/-- Is it too late for a colon at that place? -/
def isStale (c : Candidate) (p : Place) : Bool :=
  c.place.line < p.line || c.place.index + 1024 < p.index

end Candidate

/-- What has been read of a text. -/
structure Lexer where
  /-- Where reading goes on. -/
  place : Place
  /-- Where the parts of the open block collections start, innermost first. -/
  columns : List Nat
  /-- The candidate in the innermost collection. -/
  candidate : Option Candidate
  /-- The candidates in the collections around each open flow collection, innermost first. -/
  outer : List (Option Candidate)
  /-- May a candidate start here? -/
  keyAllowed : Bool
  /-- The tokens so far. -/
  tokens : Array Token

namespace Lexer

/-- At the start of a text. -/
def start (cs : List Char) : Lexer where
  place := ⟨cs, 0, 0, 0⟩
  columns := []
  candidate := none
  outer := []
  keyAllowed := true
  tokens := #[]

/-- Is this inside a flow collection? -/
def inFlow (l : Lexer) : Bool := !l.outer.isEmpty

/-- Add a token. -/
def emit (t : Token) (l : Lexer) : Lexer := { l with tokens := l.tokens.push t }

/-- Go on where that text is left. -/
def upTo (rest : List Char) (l : Lexer) : Lexer := { l with place := l.place.upTo rest }

/-- Say whether a candidate may start. -/
def allowKey (b : Bool) (l : Lexer) : Lexer := { l with keyAllowed := b }

/-- End the block collections whose parts start behind the given column; all if there is none. -/
def close (column : Option Nat) (l : Lexer) : Lexer :=
  if l.inFlow then l
  else
    let open' := l.columns.dropWhile fun c => column.all (· < c)
    { l with
      columns := open'
      tokens := l.tokens ++ Array.replicate (l.columns.length - open'.length) Token.blockEnd }

/-- Start a block collection at a column, with its token behind that many others, unless one that is
open starts there or behind. -/
def openAt (column number : Nat) (t : Token) (l : Lexer) : Lexer :=
  if !l.inFlow && l.columns.head?.all (· < column) then
    { l with columns := column :: l.columns, tokens := l.tokens.insertIdxIfInBounds number t }
  else l

/-- Give up the candidate, which must not be required. -/
def forget? (l : Lexer) : Option Lexer :=
  if l.candidate.any Candidate.required then none else some { l with candidate := none }

/-- What follows may be a key, if one is allowed. It has to be one where the parts of a block
collection start. -/
def note? (l : Lexer) : Option Lexer := do
  if !l.keyAllowed then return l
  let l ← l.forget?
  let required := !l.inFlow && l.columns.head? = some l.place.column
  return { l with candidate := some ⟨l.tokens.size, l.place, required⟩ }

/-- A candidate, unless it is stale; then it must not be required. -/
def fresh? (p : Place) (c : Option Candidate) : Option (Option Candidate) :=
  if c.any (·.isStale p) then (if c.any Candidate.required then none else some none) else some c

/-- Give up all stale candidates. -/
def refresh? (l : Lexer) : Option Lexer := do
  return { l with
    candidate := ← fresh? l.place l.candidate
    outer := ← l.outer.mapM (fresh? l.place) }

/-- What is left after blanks, comments and line breaks, and whether a candidate may start there. In
front of a candidate outside of flow collections, tabs do not count as blanks. At the start of a
line, one byte order mark does. -/
def skip (flow : Bool) : (lineStart keyAllowed comment : Bool) → List Char → Bool × List Char
  | _, keyAllowed, _, [] => (keyAllowed, [])
  | lineStart, keyAllowed, comment, c :: cs =>
    if isBreak c then skip flow true (keyAllowed || !flow) false cs
    else if comment || c = ' ' || (c = '\t' && (flow || !keyAllowed)) ||
        (lineStart && c = '\ufeff') then
      skip flow false keyAllowed comment cs
    else if c = '#' then skip flow false keyAllowed true cs
    else (keyAllowed, c :: cs)

/-! ### Reading a token -/

/-- A directive. -/
def directive? (cs : List Char) (l : Lexer) : Option Lexer := do
  let l ← (l.close none).forget?
  let (d, rest) ← readDirective? cs
  return ((l.emit (.directive d)).upTo rest).allowKey false

/-- The start or the end of a document. -/
def documentMark? (t : Token) (rest : List Char) (l : Lexer) : Option Lexer := do
  let l ← (l.close none).forget?
  return ((l.emit t).upTo rest).allowKey false

/-- The start of a flow collection, which may itself be a key. -/
def flowStart? (t : Token) (rest : List Char) (l : Lexer) : Option Lexer := do
  let l ← l.note?
  let inner := { l with candidate := none, outer := l.candidate :: l.outer }
  return ((inner.emit t).upTo rest).allowKey true

/-- The end of a flow collection. -/
def flowEnd? (t : Token) (rest : List Char) (l : Lexer) : Option Lexer := do
  let l ← l.forget?
  let around := { l with candidate := l.outer.head?.join, outer := l.outer.tail }
  return ((around.emit t).upTo rest).allowKey false

/-- A comma. -/
def flowEntry? (rest : List Char) (l : Lexer) : Option Lexer := do
  return (((← l.forget?).emit .flowEntry).upTo rest).allowKey true

/-- An item of a block list. -/
def blockEntry? (rest : List Char) (l : Lexer) : Option Lexer := do
  if !l.inFlow && !l.keyAllowed then none
  let l ← (l.openAt l.place.column l.tokens.size .blockListStart).forget?
  return ((l.emit .blockEntry).upTo rest).allowKey true

/-- The indicator of a key. -/
def key? (rest : List Char) (l : Lexer) : Option Lexer := do
  if !l.inFlow && !l.keyAllowed then none
  let l ← (l.openAt l.place.column l.tokens.size .blockMappingStart).forget?
  return ((l.emit .key).upTo rest).allowKey !l.inFlow

/-- The indicator of a value. If there is a candidate, it is the key. -/
def value? (rest : List Char) (l : Lexer) : Option Lexer :=
  match l.candidate with
  | some c =>
    let keyed := { l with candidate := none, tokens := l.tokens.insertIdxIfInBounds c.number .key }
    let opened := keyed.openAt c.place.column c.number .blockMappingStart
    some (((opened.emit .value).upTo rest).allowKey false)
  | none =>
    if !l.inFlow && !l.keyAllowed then none
    else
      let opened := l.openAt l.place.column l.tokens.size .blockMappingStart
      some (((opened.emit .value).upTo rest).allowKey !l.inFlow)

/-- A token that may be a key. -/
def part? (read : Option (Token × List Char)) (l : Lexer) : Option Lexer := do
  let l ← l.note?
  let (t, rest) ← read
  return ((l.emit t).upTo rest).allowKey false

/-- A plain scalar. A candidate may start after it if its line has ended. -/
def plain? (cs : List Char) (l : Lexer) : Option Lexer := do
  let l ← l.note?
  let indent := (l.columns.head?.map (· + 1)).getD 0
  let (s, lineEnded, rest) ← readPlain? l.inFlow indent cs
  return ((l.emit (.scalar s)).upTo rest).allowKey lineEnded

/-- A block scalar. -/
def block? (literal : Bool) (cs : List Char) (l : Lexer) : Option Lexer := do
  let l ← l.forget?
  let (s, rest) ← readBlock? literal l.columns.head? cs
  return ((l.emit (.scalar s)).upTo rest).allowKey true

/-- The token that starts with the character `c` and goes on with `cs`. -/
def token? (c : Char) (cs : List Char) (l : Lexer) : Option Lexer :=
  let lineStart := l.place.column = 0
  if lineStart ∧ c = '%' then l.directive? cs
  else if lineStart ∧ atDocumentMark (c :: cs) then
    l.documentMark? (if c = '-' then .documentStart else .documentEnd) (cs.drop 2)
  else match c with
    | '[' => l.flowStart? .flowListStart cs
    | '\x7b' => l.flowStart? .flowMappingStart cs
    | ']' => l.flowEnd? .flowListEnd cs
    | '\x7d' => l.flowEnd? .flowMappingEnd cs
    | ',' => l.flowEntry? cs
    | '-' => if atGap cs then l.blockEntry? cs else l.plain? (c :: cs)
    | '?' => if l.inFlow || atGap cs then l.key? cs else l.plain? (c :: cs)
    | ':' => if l.inFlow || atGap cs then l.value? cs else l.plain? (c :: cs)
    | '*' => l.part? ((readName? cs).map fun r => (.alias r.1, r.2))
    | '&' => l.part? ((readName? cs).map fun r => (.anchor r.1, r.2))
    | '!' => l.part? ((readTag? l.inFlow (c :: cs)).map fun r => (.tag r.1, r.2))
    | '|' => if l.inFlow then none else l.block? true cs
    | '>' => if l.inFlow then none else l.block? false cs
    | '"' => l.part? ((readQuoted? readDoubleWord? cs).map fun r => (.scalar r.1, r.2))
    | '\x27' => l.part? ((readQuoted? readSingleWord? cs).map fun r => (.scalar r.1, r.2))
    | c => if isBlank c || c ∈ ['%', '@', '\x60'] then none else l.plain? (c :: cs)

/-- All tokens from here on, of which each takes at least one character. -/
def run? : (fuel : Nat) → Lexer → Option (Array Token)
  | 0, _ => none
  | fuel + 1, l => do
    let (keyAllowed, rest) := skip l.inFlow (l.place.column = 0) l.keyAllowed false l.place.rest
    let l ← ((l.upTo rest).allowKey keyAllowed).refresh?
    let l := l.close (some l.place.column)
    match rest with
    | [] => return (← (l.close none).forget?).tokens
    | c :: cs => run? fuel (← l.token? c cs)

end Lexer

/-- The tokens of a text. -/
def tokens? (s : String) : Option (List Token) := do
  let cs ← characters? s
  return (← Lexer.run? (cs.length + 1) (.start cs)).toList

end AlarmServer.Yaml
