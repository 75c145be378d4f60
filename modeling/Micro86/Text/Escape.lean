/-!
Escape sequences in a text, which a terminal obeys and does not show.

A sequence starts with the escape character. After a bracket it goes on to a final character; after
a closing bracket it sets a title, which ends with a bell or with an escaped backslash; any other
sequence is the escape character and the one that follows it.
-/

namespace Micro86.Escape

/-- A character of a text, and whether it belongs to an escape sequence. -/
structure Glyph where
  char : Char
  hidden : Bool
  deriving DecidableEq, Repr

/-- What the characters read so far have begun. -/
inductive Place where
  | text
  | opened
  | control
  /-- In a title, `escaped` just after an escape character. -/
  | title (escaped : Bool)
  deriving DecidableEq, Repr

def isFinal (c : Char) : Bool :=
  '@' ≤ c && c ≤ '~'

def Place.after : Place → Char → Place
  | .text, c => if c = '\x1b' then .opened else .text
  | .opened, '[' => .control
  | .opened, ']' => .title false
  | .opened, _ => .text
  | .control, c => if isFinal c then .text else .control
  | .title escaped, c =>
    if c = '\x07' ∨ (escaped ∧ c = '\\') then .text else .title (c == '\x1b')

def markFrom (p : Place) : List Char → List Glyph
  | [] => []
  | c :: cs => ⟨c, p != .text || c == '\x1b'⟩ :: markFrom (p.after c) cs

/-- Marks the characters of the escape sequences in a text as hidden. -/
def mark (cs : List Char) : List Glyph :=
  markFrom .text cs

/-- The characters that a terminal shows. -/
def visible (gs : List Glyph) : List Char :=
  (gs.filter (!·.hidden)).map Glyph.char

end Micro86.Escape
