/-!
# YAML text

The characters of a YAML text fall into classes. A text is read after its line breaks have been made
alike: every way to end a line becomes a line feed, except for the line and paragraph separators,
which end a line and stay what they are. A text with a character that YAML does not allow is not
read at all.
-/

namespace AlarmServer.Yaml

/-- Is the character a space or a tab? -/
def isBlank (c : Char) : Bool := c = ' ' || c = '\t'

/-- Does the character end a line? -/
def isBreak (c : Char) : Bool := c = '\n' || c = '\u2028' || c = '\u2029'

/-- Does the character separate words? -/
def isGap (c : Char) : Bool := isBlank c || isBreak c

/-- Does the text end here, or go on with a character that separates words? -/
def atGap : List Char → Bool
  | [] => true
  | c :: _ => isGap c

/-- May the character be part of a name? -/
def isNameChar (c : Char) : Bool := c.isAlphanum || c = '_' || c = '-'

/-- May the character be part of a text at all? -/
def isAllowed (c : Char) : Bool :=
  let n := c.toNat
  n = 0x09 || n = 0x0a || n = 0x0d || (0x20 ≤ n && n ≤ 0x7e) || n = 0x85 ||
    (0xa0 ≤ n && n ≤ 0xfffd) || 0x10000 ≤ n

/-- The text with its line breaks made alike. -/
def alike : List Char → List Char
  | '\r' :: '\n' :: cs => '\n' :: alike cs
  | c :: cs => (if c = '\r' ∨ c = '\u0085' then '\n' else c) :: alike cs
  | [] => []

/-- The characters to read. -/
def characters? (s : String) : Option (List Char) :=
  let cs := s.toList
  if cs.all isAllowed then some (alike cs) else none

/-- Does a document start or end here, at the start of a line? -/
def atDocumentMark : List Char → Bool
  | '-' :: '-' :: '-' :: cs => atGap cs
  | '.' :: '.' :: '.' :: cs => atGap cs
  | _ => false

end AlarmServer.Yaml
