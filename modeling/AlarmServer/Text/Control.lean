/-!
# Control sequences

A text for a terminal may hold control characters, and sequences that an escape character starts. A
plain text is what is left of it where no terminal reads it: visible characters, line ends and tabs.

A line end or a tab inside of a sequence is kept, and so is what follows it up to the next control
character that is not. With that character the sequence goes on where it was left, unless a
character outside of ASCII has ended it.
-/

namespace AlarmServer.Text

/-- How far a control sequence has come. -/
inductive ControlSequence where
  /-- There is none. -/
  | none
  /-- Its escape character has been read. -/
  | escape
  /-- It goes on after intermediate characters, which a final character has to follow. -/
  | escapeIntermediate
  /-- It is a control with parameters, which goes on to its final character. -/
  | control
  /-- It is a device control, of which nothing has been read. -/
  | device
  /-- The parameters of a device control have started. -/
  | deviceParameter
  /-- The intermediate characters of a device control have started. -/
  | deviceIntermediate
  /-- It is a string, which goes on to the string terminator. -/
  | string
  /-- It is a command to the operating system, which goes on to the bell. -/
  | command
  deriving DecidableEq

/-- Is the character a line end or a tab? A form feed and a carriage return end a line as well. -/
def isLayout (c : Char) : Bool := c = '\t' || c = '\n' || c = '\x0c' || c = '\r'

/-- May the character be part of a plain text? -/
def isPlain (c : Char) : Bool := isLayout c || (' ' ≤ c && c ≠ '\x7f')

/-- Is the octet of the string terminator among those of the character in UTF-8? -/
def hasTerminator (c : Char) : Bool := 0x9c ∈ (String.singleton c).toUTF8.toList

namespace ControlSequence

/-- Does the sequence leave a plain character in the text? -/
def keeps (s : ControlSequence) (c : Char) : Bool :=
  match s with
  | none => true
  | escape | escapeIntermediate | control => isLayout c
  | device | deviceParameter | deviceIntermediate | string | command => false

/-- Is the character between those two? -/
def within (low high c : Char) : Bool := low ≤ c && c ≤ high

/-- The sequence after a character that is not kept. Two control characters cancel any sequence, and
an escape character starts another. A device control that is not well-formed is read as a string. -/
def next (s : ControlSequence) (c : Char) : ControlSequence :=
  if c = '\x18' ∨ c = '\x1a' then none
  else if c = '\x1b' then escape
  else
    let intermediate := within ' ' '/' c
    let parameter := within '0' '?' c
    let final := within '@' '~' c
    match s with
    | none => none
    | escape =>
      if intermediate then escapeIntermediate
      else if c = '[' then control
      else if c = ']' then command
      else if c = 'P' then device
      else if c = 'X' || c = '^' || c = '_' then string
      else if parameter || final then none
      else escape
    | escapeIntermediate => if parameter || final then none else s
    | control => if final then none else s
    | device =>
      if intermediate then deviceIntermediate
      else if parameter then deviceParameter
      else if final then string
      else s
    | deviceParameter =>
      if intermediate then deviceIntermediate
      else if within '<' '?' c || final then string
      else s
    | deviceIntermediate => if parameter || final then string else s
    | string => if hasTerminator c then none else s
    | command => if c = '\x07' then none else s

end ControlSequence

/-- The plain characters of a text that goes on after the start of a sequence. It is told whether
the character before was kept. -/
def plainChars : (kept : Bool) → ControlSequence → List Char → List Char
  | _, _, [] => []
  | kept, s, c :: cs =>
    if isPlain c && (kept || s.keeps c) then
      c :: plainChars true (if c.toNat < 0x80 then s else .none) cs
    else plainChars false (s.next c) cs

/-- The plain text of a text. -/
def plainText (s : String) : String := String.ofList (plainChars false .none s.toList)

example : plainText "a\x1b[31mred\x1b[0m\x07\tb" = "ared\tb" ∧
    plainText "N\x1b]0;t\x07end" = "Nend" := by decide +kernel

end AlarmServer.Text
