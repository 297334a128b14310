import AlarmServer.Text.Numeral
import AlarmServer.Yaml.Text

/-!
# Scalars

A scalar is a text in one of several styles. Plain and quoted scalars may go on over several lines,
which are folded: a single break becomes a space, and of several breaks the first is dropped. A
block scalar keeps its lines, or folds those that do not start with a blank; its indentation is that
of its first line unless its header gives it.

Each reader takes the text that is left and gives what it has read with the text that is left then.
-/

namespace AlarmServer.Yaml

/-- Ways to write a scalar. -/
inductive ScalarStyle where
  /-- As it is. -/
  | plain
  /-- Between quotes. -/
  | quoted
  /-- As a block that keeps its line breaks. -/
  | literal
  /-- As a block that folds its line breaks. -/
  | folded
  deriving DecidableEq

/-- A scalar. -/
structure Scalar where
  /-- How it is written. -/
  style : ScalarStyle
  /-- What it says. -/
  text : String
  deriving DecidableEq

/-! ### Gaps between words -/

/-- Blanks and line breaks between two words. -/
structure Gap where
  /-- The blanks before the first break. -/
  blanks : List Char
  /-- The breaks. -/
  breaks : List Char
  /-- How many blanks follow the last break. -/
  column : Nat
  /-- The least column of a tab after a break, if there is one. -/
  tab : Option Nat

namespace Gap

/-- Nothing. -/
def none : Gap := ⟨[], [], 0, .none⟩

/-- The gap with a blank after it. -/
def addBlank (g : Gap) (c : Char) : Gap :=
  if g.breaks = [] then { g with blanks := g.blanks ++ [c] }
  else
    { g with
      column := g.column + 1
      tab := if c = '\t' then g.tab.merge min (some g.column) else g.tab }

/-- The gap with a break after it. -/
def addBreak (g : Gap) (c : Char) : Gap := { g with breaks := g.breaks ++ [c], column := 0 }

/-- What the gap stands for: its blanks if it has no break, and otherwise its breaks, of which a
first line feed is dropped, or becomes a space if there is no other break. -/
def folded (g : Gap) : List Char :=
  match g.breaks with
  | [] => g.blanks
  | ['\n'] => [' ']
  | '\n' :: more => more
  | breaks => breaks

/-- Does the next word stand at the start of a line? -/
def atLineStart (g : Gap) : Bool := g.breaks ≠ [] && g.column = 0

/-- Read on after a gap. -/
def readAfter (g : Gap) : List Char → Gap × List Char
  | [] => (g, [])
  | c :: cs =>
    if isBlank c then (g.addBlank c).readAfter cs
    else if isBreak c then (g.addBreak c).readAfter cs
    else (g, c :: cs)

end Gap

/-! ### Plain scalars -/

/-- Does an indicator end a plain word here? -/
def endsPlain (flow : Bool) (c : Char) (rest : List Char) : Bool :=
  (c = ':' && atGap rest) || (flow && c ∈ [',', '[', ']', '\x7b', '\x7d'])

/-- Is there a colon before an indicator, where no colon may be? -/
def misplacedColon (flow : Bool) (c : Char) (rest : List Char) : Bool :=
  flow && c = ':' && rest.head?.any fun d => d ∈ [',', '?', '[', ']', '\x7b', '\x7d']

/-- A word of a plain scalar. -/
def readPlainWord? (flow : Bool) : List Char → Option (List Char × List Char)
  | [] => some ([], [])
  | c :: cs =>
    if isGap c then some ([], c :: cs)
    else if misplacedColon flow c cs then none
    else if endsPlain flow c cs then some ([], c :: cs)
    else (readPlainWord? flow cs).map fun r => (c :: r.1, r.2)

/-- The words of a plain scalar from here on, after `done` and a gap; outside of flow collections,
lines have to be indented by `indent`. Given are the text, the gap behind it, and the rest. -/
def readPlainWords? (flow : Bool) (indent : Nat) :
    (fuel : Nat) → (done : List Char) → Gap → List Char → Option (List Char × Gap × List Char)
  | 0, _, _, _ => none
  | fuel + 1, done, gap, cs =>
    if (gap.atLineStart && atDocumentMark cs) || cs.head? = some '#' then some (done, gap, cs)
    else do
      let (word, rest) ← readPlainWord? flow cs
      let (done, gap) := if word = [] then (done, gap) else (done ++ gap.folded ++ word, Gap.none)
      if !rest.head?.any isGap then return (done, gap, rest)
      let (gap, rest) := gap.readAfter rest
      if gap.tab.any (· < indent) then none
      else if !flow && gap.breaks ≠ [] && gap.column < indent then return (done, gap, rest)
      else readPlainWords? flow indent fuel done gap rest

/-- A plain scalar, and whether a line has ended after it. -/
def readPlain? (flow : Bool) (indent : Nat) (cs : List Char) :
    Option (Scalar × Bool × List Char) := do
  let (text, gap, rest) ← readPlainWords? flow indent (cs.length + 1) [] .none cs
  return (⟨.plain, String.ofList text⟩, gap.breaks ≠ [], rest)

/-! ### Quoted scalars -/

/-- What ends a word inside quotes. -/
inductive QuotedEnd where
  /-- The closing quote. -/
  | quote
  /-- A gap. -/
  | gap
  /-- A line break after a backslash. -/
  | escapedBreak
  deriving DecidableEq

/-- What one character after a backslash stands for. -/
def escapes : List (Char × Char) := [
  ('0', Char.ofNat 0), ('a', Char.ofNat 7), ('b', Char.ofNat 8), ('t', '\t'), ('\t', '\t'),
  ('n', '\n'), ('v', Char.ofNat 11), ('f', Char.ofNat 12), ('r', '\r'), ('e', Char.ofNat 27),
  (' ', ' '), ('"', '"'), ('/', '/'), ('\\', '\\'), ('N', '\u0085'), ('_', '\u00a0'),
  ('L', '\u2028'), ('P', '\u2029')]

/-- The character with that number in hexadecimal. -/
def characterOf? (digits : List Char) : Option Char := do
  let n ← Text.natOfDigits? 16 digits
  if (0xd800 ≤ n ∧ n ≤ 0xdfff) ∨ 0x10ffff < n then none else some (Char.ofNat n)

/-- A word before its next character. -/
def prependTo (c : Char) (r : List Char × QuotedEnd × List Char) :
    List Char × QuotedEnd × List Char :=
  (c :: r.1, r.2)

/-- A word between double quotes. -/
def readDoubleWord? : List Char → Option (List Char × QuotedEnd × List Char)
  | [] => none
  | '"' :: cs => some ([], .quote, cs)
  | '\\' :: 'x' :: a :: b :: cs => do
    return prependTo (← characterOf? [a, b]) (← readDoubleWord? cs)
  | '\\' :: 'u' :: a :: b :: c :: d :: cs => do
    return prependTo (← characterOf? [a, b, c, d]) (← readDoubleWord? cs)
  | '\\' :: 'U' :: a :: b :: c :: d :: e :: f :: g :: h :: cs => do
    return prependTo (← characterOf? [a, b, c, d, e, f, g, h]) (← readDoubleWord? cs)
  | '\\' :: c :: cs =>
    if isBreak c then some ([], .escapedBreak, cs)
    else do return prependTo (← escapes.lookup c) (← readDoubleWord? cs)
  | c :: cs => if isGap c then some ([], .gap, c :: cs) else (readDoubleWord? cs).map (prependTo c)

/-- A word between single quotes, in which a quote is written twice. -/
def readSingleWord? : List Char → Option (List Char × QuotedEnd × List Char)
  | [] => none
  | '\x27' :: '\x27' :: cs => (readSingleWord? cs).map (prependTo '\x27')
  | '\x27' :: cs => some ([], .quote, cs)
  | c :: cs => if isGap c then some ([], .gap, c :: cs) else (readSingleWord? cs).map (prependTo c)

/-- The words of a quoted scalar from here on, after `done`; no document may start or end inside it.
-/
def readQuotedWords? (word? : List Char → Option (List Char × QuotedEnd × List Char)) :
    (fuel : Nat) → (done : List Char) → (lineStart : Bool) → List Char →
      Option (List Char × List Char)
  | 0, _, _, _ => none
  | fuel + 1, done, lineStart, cs => do
    if lineStart && atDocumentMark cs then none
    let (word, ending, rest) ← word? cs
    match ending with
    | .quote => return (done ++ word, rest)
    | .gap =>
      let (gap, rest) := Gap.none.readAfter rest
      readQuotedWords? word? fuel (done ++ word ++ gap.folded) gap.atLineStart rest
    | .escapedBreak =>
      let (gap, rest) := Gap.none.readAfter rest
      let lineStart := if gap.breaks = [] then gap.blanks.isEmpty else gap.column = 0
      readQuotedWords? word? fuel (done ++ word ++ gap.breaks) lineStart rest

/-- The rest of a quoted scalar after its opening quote. -/
def readQuoted? (word? : List Char → Option (List Char × QuotedEnd × List Char)) (cs : List Char) :
    Option (Scalar × List Char) := do
  let (text, rest) ← readQuotedWords? word? (cs.length + 1) [] false cs
  return (⟨.quoted, String.ofList text⟩, rest)

/-! ### Block scalars -/

/-- What happens to the breaks at the end of a block. -/
inductive Chomping where
  /-- All are dropped. -/
  | strip
  /-- One is kept. -/
  | clip
  /-- All are kept. -/
  | keep
  deriving DecidableEq

namespace Chomping

/-- The indicator. -/
def ofChar? (c : Char) : Option Chomping :=
  if c = '-' then some strip else if c = '+' then some keep else none

end Chomping

/-- What stands at the front of a block. -/
structure BlockHeader where
  /-- What happens to the last breaks. -/
  chomping : Chomping
  /-- By how much the block is indented, if that is given. -/
  increment : Option Nat

/-- The indicators of a header, in either order. -/
def readIndicators? (cs : List Char) : Option (BlockHeader × List Char) :=
  let chomping (cs : List Char) : Option Chomping × List Char :=
    match cs with
    | c :: rest => match Chomping.ofChar? c with
      | some m => (some m, rest)
      | none => (none, cs)
    | [] => (none, [])
  let increment (cs : List Char) : Option (Option Nat × List Char) :=
    match cs with
    | c :: rest =>
      if c = '0' then none
      else if c.isDigit then some (some (c.toNat - 48), rest)
      else some (none, cs)
    | [] => some (none, [])
  match chomping cs with
  | (some m, rest) => (increment rest).map fun r => (⟨m, r.1⟩, r.2)
  | (none, _) => do
    match ← increment cs with
    | (some n, rest) =>
      let (m, rest) := chomping rest
      return (⟨m.getD .clip, some n⟩, rest)
    | (none, rest) => return (⟨.clip, none⟩, rest)

/-- What is left after blanks, a comment and a line break; nothing else may stand before the break.
-/
def readLineEnd? (cs : List Char) : Option (List Char) :=
  let rest := cs.dropWhile isBlank
  let rest := if rest.head? = some '#' then rest.dropWhile fun c => !isBreak c else rest
  match rest with
  | [] => some []
  | c :: cs => if isBreak c then some cs else none

/-- Empty lines, and the indentation of the line after them. -/
structure EmptyLines where
  /-- The breaks of the empty lines. -/
  breaks : List Char
  /-- The column where the next line starts. -/
  column : Nat
  /-- The greatest column that was reached. -/
  widest : Nat

/-- Empty lines and the indentation after them, up to a limit if there is one. No tab may indent a
line. -/
def readEmptyLines? (limit : Option Nat) (l : EmptyLines) :
    List Char → Option (EmptyLines × List Char)
  | [] => some ({ l with widest := max l.widest l.column }, [])
  | c :: cs =>
    if c = ' ' && limit.all (l.column < ·) then
      readEmptyLines? limit { l with column := l.column + 1 } cs
    else if c = '\t' && limit.all (l.column < ·) then none
    else if isBreak c then
      readEmptyLines? limit ⟨l.breaks ++ [c], 0, max l.widest l.column⟩ cs
    else some ({ l with widest := max l.widest l.column }, c :: cs)

/-- The text of a block up to some line: all before its last line break, that break, whether the
last line starts with a blank, and the breaks of the empty lines after it. -/
structure BlockText where
  /-- All before the last line break. -/
  text : List Char
  /-- The last line break. -/
  lastBreak : List Char
  /-- Does the last line start with a blank? -/
  indented : Bool
  /-- The breaks after it. -/
  emptyLines : List Char

namespace BlockText

/-- The text with a line after it. Between lines that do not start with a blank, a single line feed
is folded to a space, and the first of several is dropped. -/
def addLine (literal : Bool) (t : BlockText) (line lineBreak : List Char) : BlockText :=
  let indented := line.head?.any isBlank
  let between :=
    if !literal && t.lastBreak = ['\n'] && !t.indented && !indented then
      if t.emptyLines = [] then [' '] else []
    else t.lastBreak
  ⟨t.text ++ between ++ t.emptyLines ++ line, lineBreak, indented, []⟩

/-- The text with its last breaks chomped. -/
def chomped (t : BlockText) : Chomping → List Char
  | .strip => t.text
  | .clip => t.text ++ t.lastBreak
  | .keep => t.text ++ t.lastBreak ++ t.emptyLines

end BlockText

/-- The lines of a block that start at the given column. -/
def readBlockLines? (literal : Bool) (indent : Nat) :
    (fuel : Nat) → BlockText → (column : Nat) → List Char → Option (BlockText × List Char)
  | 0, _, _, _ => none
  | fuel + 1, t, column, cs =>
    if column ≠ indent ∨ cs = [] then some (t, cs)
    else do
      let rest := cs.dropWhile fun c => !isBreak c
      let t := t.addLine literal (cs.takeWhile fun c => !isBreak c) (rest.take 1)
      let (l, rest) ← readEmptyLines? (some indent) ⟨[], 0, 0⟩ (rest.drop 1)
      readBlockLines? literal indent fuel { t with emptyLines := l.breaks } l.column rest

/-- A block scalar after its first indicator, inside block collections whose parts start at `outer`.
-/
def readBlock? (literal : Bool) (outer : Option Nat) (cs : List Char) :
    Option (Scalar × List Char) := do
  let (header, rest) ← readIndicators? cs
  let rest ← readLineEnd? rest
  let given := header.increment.map (outer.getD 0 + ·)
  let (l, rest) ← readEmptyLines? given ⟨[], 0, 0⟩ rest
  let least := max 1 ((outer.map (· + 1)).getD 0)
  let indent := given.getD (max l.widest least)
  let start : BlockText := ⟨[], [], false, l.breaks⟩
  let (t, rest) ← readBlockLines? literal indent (rest.length + 1) start l.column rest
  return (⟨if literal then .literal else .folded, String.ofList (t.chomped header.chomping)⟩, rest)

end AlarmServer.Yaml
