import AlarmServer.Yaml.Scalar

/-!
# Names, tags and directives

A node may have a name, under which it can be used again, and a tag, which says what it is. A tag is
written with a handle that stands for the front of it; directives at the start of a document give
handles their meaning. Characters of a tag may be written as octets in hexadecimal, and an octet
counts as the character of the same number; a null character ends what is said by the tag, though
not its spelling.
-/

namespace AlarmServer.Yaml

/-- A tag as it is written. -/
structure TagName where
  /-- The handle; it is empty if the whole tag is written. -/
  handle : String
  /-- What follows the handle. -/
  suffix : String
  deriving DecidableEq

/-- A directive. -/
inductive Directive where
  /-- The version of YAML. -/
  | version (major minor : Nat)
  /-- What a handle stands for. -/
  | tag (handle meaning : String)
  deriving DecidableEq

/-- A name of a node. It ends at a gap or at one of a few indicators. -/
def readName? (cs : List Char) : Option (String × List Char) :=
  let name := cs.takeWhile isNameChar
  let rest := cs.dropWhile isNameChar
  let ends :=
    atGap rest || rest.head?.any fun c => c ∈ ['?', ':', ',', ']', '\x7d', '%', '@', '\x60']
  if name ≠ [] && ends then some (String.ofList name, rest) else none

/-- May the character be part of a tag? In a tag that is written as a whole more are allowed. -/
def isTagChar (whole : Bool) (c : Char) : Bool :=
  isNameChar c || c ∈ ";/?:@&=+$.!~*\x27()".toList || (whole && c ∈ [',', '[', ']'])

/-- How many octets follow the first octet of a character. -/
def followingOctets? (first : Nat) : Option Nat :=
  if first < 0x80 then some 0
  else if first / 32 = 6 then some 1
  else if first / 16 = 14 then some 2
  else if first / 8 = 30 then some 3
  else none

/-- Characters of a tag, of which `expected` have to be further octets of one character. -/
def readTagChars? (whole : Bool) : (expected : Nat) → List Char → Option (List Char × List Char)
  | expected, '%' :: a :: b :: cs => do
    let octet ← Text.natOfDigits? 16 [a, b]
    let expected ← if expected = 0 then followingOctets? octet
      else if octet / 64 = 2 then some (expected - 1) else none
    let (more, rest) ← readTagChars? whole expected cs
    return (Char.ofNat octet :: more, rest)
  | 0, c :: cs =>
    if c = '%' then none
    else if isTagChar whole c then (readTagChars? whole 0 cs).map fun r => (c :: r.1, r.2)
    else some ([], c :: cs)
  | 0, [] => some ([], [])
  | _ + 1, _ => none

/-- At least one character of a tag. -/
def readTagPart? (whole : Bool) (cs : List Char) : Option (List Char × List Char) := do
  let (part, rest) ← readTagChars? whole 0 cs
  if part = [] then none else some (part, rest)

/-- What is said by characters of a tag: those before the first null character. -/
def tagText (cs : List Char) : String := String.ofList (cs.takeWhile (· ≠ Char.ofNat 0))

/-- A handle, or what might have been one: an exclamation mark, a name, and a mark if there is one.
-/
def readHandle? : List Char → Option (List Char × List Char)
  | '!' :: cs =>
    let name := cs.takeWhile isNameChar
    match cs.dropWhile isNameChar with
    | '!' :: rest => some ('!' :: name ++ ['!'], rest)
    | rest => some ('!' :: name, rest)
  | _ => none

/-- Is this a handle between two marks? -/
def isNamedHandle (handle : List Char) : Bool := 2 ≤ handle.length && handle.getLast? = some '!'

/-- A tag, which starts with an exclamation mark. -/
def readTagName? : List Char → Option (TagName × List Char)
  | '!' :: '<' :: cs => do
    match ← readTagPart? true cs with
    | (tag, '>' :: rest) => return (⟨"", tagText tag⟩, rest)
    | _ => none
  | cs => do
    let (handle, rest) ← readHandle? cs
    if isNamedHandle handle then
      let (suffix, rest) ← readTagPart? false rest
      return (⟨String.ofList handle, tagText suffix⟩, rest)
    else
      let (part, rest) ← readTagChars? false 0 rest
      let suffix := tagText (handle.drop 1 ++ part)
      return (if suffix = "" then ⟨"", "!"⟩ else ⟨"!", suffix⟩, rest)

/-- A tag and what ends it: a gap, or a comma inside a flow collection. -/
def readTag? (flow : Bool) (cs : List Char) : Option (TagName × List Char) := do
  let (tag, rest) ← readTagName? cs
  if atGap rest || (flow && rest.head? = some ',') then some (tag, rest) else none

/-- A number of a version, with at most nine digits. -/
def readVersionNumber? (cs : List Char) : Option (Nat × List Char) := do
  let digits := cs.takeWhile Char.isDigit
  if 9 < digits.length then none
  return (← Text.natOfDigits? 10 digits, cs.dropWhile Char.isDigit)

/-- The numbers of a version. -/
def readVersion? (cs : List Char) : Option (Directive × List Char) := do
  let (major, rest) ← readVersionNumber? cs
  match rest with
  | '.' :: rest =>
    let (minor, rest) ← readVersionNumber? rest
    return (.version major minor, rest)
  | _ => none

/-- A handle and what it stands for. -/
def readTagMeaning? (cs : List Char) : Option (Directive × List Char) := do
  let (handle, rest) ← readHandle? cs
  if !(isNamedHandle handle || handle = ['!']) || !rest.head?.any isBlank then none
  let (meaning, rest) ← readTagPart? true (rest.dropWhile isBlank)
  if atGap rest then some (.tag (String.ofList handle) (tagText meaning), rest) else none

/-- A directive after its percent sign, with the rest of its line. -/
def readDirective? (cs : List Char) : Option (Directive × List Char) := do
  let name := String.ofList (cs.takeWhile isNameChar)
  let rest := cs.dropWhile isNameChar
  if !atGap rest then none
  let start := rest.dropWhile isBlank
  let (directive, rest) ←
    if name = "YAML" then readVersion? start
    else if name = "TAG" then readTagMeaning? start
    else none
  return (directive, ← readLineEnd? rest)

end AlarmServer.Yaml
