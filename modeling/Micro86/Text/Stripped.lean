/-!
Text without what a terminal would obey instead of showing it: control characters, and whole
sequences that start with the escape character.

A sequence may have parameters and middle characters before its final one, and some have a string
after it. Characters that move on in the text are kept, in sequences without a string as well; after
such a character text is shown again, until the next control character takes the sequence up.
-/

namespace Micro86.Stripped

/-- What the characters read so far have begun. -/
inductive Place where
  | text
  | escape
  | escapeMiddle
  | control
  | controlParameter
  | controlMiddle
  | controlIgnored
  | device
  | deviceParameter
  | deviceMiddle
  | title
  | string
  deriving DecidableEq, Repr

/-- Moves on in the text. -/
def isSpacing (c : Char) : Bool :=
  c == '\t' || c == '\n' || c == '\x0c' || c == '\r'

def isAscii (c : Char) : Bool :=
  c.toNat < 0x80

/-- Whether a character is shown in plain text. -/
def isShown (c : Char) : Bool :=
  !isAscii c || (' ' ≤ c && c ≤ '~') || isSpacing c

def isMiddle (c : Char) : Bool :=
  ' ' ≤ c && c ≤ '/'

def isParameter (c : Char) : Bool :=
  '0' ≤ c && c ≤ '?'

/-- Marks a sequence as private if it comes before the parameters. -/
def isPrivate (c : Char) : Bool :=
  '<' ≤ c && c ≤ '?'

def isFinal (c : Char) : Bool :=
  '@' ≤ c && c ≤ '~'

/-- The byte that ends a string, also as a part of a character. -/
def stringEnd : UInt8 := 0x9c

def endsString (c : Char) : Bool :=
  !isAscii c && (String.utf8EncodeChar c).contains stringEnd

namespace Place

def shows (p : Place) (c : Char) : Bool :=
  match p with
  | .text => isShown c
  | .escape | .escapeMiddle | .control | .controlParameter | .controlMiddle | .controlIgnored =>
    isSpacing c
  | .device | .deviceParameter | .deviceMiddle | .title | .string => false

/-- Where a character leads that neither starts nor cancels a sequence. -/
def next (p : Place) (c : Char) : Place :=
  match p with
  | .text => .text
  | .escape =>
    if isMiddle c then .escapeMiddle
    else if c = '[' then .control
    else if c = ']' then .title
    else if c = 'P' then .device
    else if c = 'X' ∨ c = '^' ∨ c = '_' then .string
    else if isParameter c ∨ isFinal c then .text
    else p
  | .escapeMiddle => if isParameter c ∨ isFinal c then .text else p
  | .control =>
    if isMiddle c then .controlMiddle
    else if isParameter c then .controlParameter
    else if isFinal c then .text
    else p
  | .controlParameter =>
    if isMiddle c then .controlMiddle
    else if isPrivate c then .controlIgnored
    else if isFinal c then .text
    else p
  | .controlMiddle =>
    if isParameter c then .controlIgnored else if isFinal c then .text else p
  | .controlIgnored => if isFinal c then .text else p
  | .device =>
    if isMiddle c then .deviceMiddle
    else if c = ':' ∨ isFinal c then .string
    else if isParameter c then .deviceParameter
    else p
  | .deviceParameter =>
    if isMiddle c then .deviceMiddle
    else if c = ':' ∨ isPrivate c ∨ isFinal c then .string
    else p
  | .deviceMiddle => if isParameter c ∨ isFinal c then .string else p
  | .title => if c = '\x07' then .text else p
  | .string => if endsString c then .text else p

def after (p : Place) (c : Char) : Place :=
  match c with
  | '\x18' | '\x1a' => .text
  | '\x1b' => .escape
  | c => p.next c

end Place

/-- What is shown of a text; `shown` tells whether the character before it is. -/
def stripFrom (p : Place) (shown : Bool) : List Char → List Char
  | [] => []
  | c :: cs =>
    if shown && isShown c then c :: stripFrom (if isAscii c then p else .text) true cs
    else if p.shows c then c :: stripFrom (p.after c) true cs
    else stripFrom (p.after c) false cs

def strip (s : String) : String :=
  String.ofList (stripFrom .text false s.toList)

end Micro86.Stripped
