import Micro86.Text.Escape
import Micro86.Text.LineBreak
import Micro86.Unicode.Alphanumeric
import Micro86.Unicode.Width

/-!
Text set in lines of a given width, each as full as it gets.

A line may end where two words meet, and after a hyphen inside a word; a piece that is too
wide for a line of its own is cut. Escape sequences take up no room, and blanks at the end
of a line are left out.
-/

namespace Micro86.Wrapped

open Escape (Glyph)

/-- The width of a line and what its first and its later lines start with. -/
structure Shape where
  width : Nat
  first : String
  rest : String

/-- A piece of text that stays on one line. -/
structure Fragment where
  text : List Char
  /-- How many columns the text takes up. -/
  width : Nat
  /-- How many blanks come after it unless the line ends. -/
  blanks : Nat
  deriving DecidableEq, Repr

/-- Hyphens, the ones that are only shown at the end of a line among them. -/
def isHyphen (c : Char) : Bool :=
  c == '-' || c == '\xad'

/-- Takes back each permission to end a line right after a hyphen. -/
def keepHyphens (afterHyphen : Bool) : List Char → List Bool → List Bool
  | c :: cs, mayEnd :: flags => (mayEnd && !afterHyphen) :: keepHyphens (isHyphen c) cs flags
  | _, _ => []

/-- Takes back the last permission. -/
def dropLast (flags : List Bool) : List Bool :=
  match flags.reverse.span (!·) with
  | (after, _ :: before) => before.reverse ++ false :: after
  | (_, []) => flags

/-- Whether a word may start with each of the visible characters of a line. -/
def wordStarts (cs : List Char) : List Bool :=
  let flags := keepHyphens false cs (LineBreak.flags cs)
  if cs.getLast?.any isHyphen then dropLast flags else flags

/-- Splits a line at the words; a word also starts with the escape sequences before it. -/
def splitWords (word : List Char) : List Bool → List Glyph → List (List Char)
  | _, [] => if word.isEmpty then [] else [word.reverse]
  | flags, g :: gs =>
    let later := if g.hidden then false :: flags.tail else flags.tail
    if flags.headD false then word.reverse :: splitWords [g.char] later gs
    else splitWords (g.char :: word) later gs

def words (line : List Char) : List (List Char) :=
  let gs := Escape.mark line
  splitWords [] (wordStarts (Escape.visible gs)) gs

/-- Splits a word after each hyphen between letters or digits. -/
def splitHyphens (before : Option Char) (part : List Char) : List Char → List (List Char)
  | [] => [part.reverse]
  | c :: cs =>
    if c == '-' && before.any Unicode.isAlphanumeric && cs.head?.any Unicode.isAlphanumeric then
      (c :: part).reverse :: splitHyphens (some c) [] cs
    else splitHyphens (some c) (c :: part) cs

def glyphColumns (g : Glyph) : Nat :=
  if g.hidden then 0 else Unicode.columns g.char

/-- Cuts a text into fragments of at most `room` columns; the blanks come after the last one. -/
def cut (room blanks : Nat) (width : Nat) (piece : List Char) : List Glyph → List Fragment
  | [] => [⟨piece.reverse, width, blanks⟩]
  | g :: gs =>
    if 0 < width ∧ room < width + glyphColumns g then
      ⟨piece.reverse, width, 0⟩ :: cut room blanks (glyphColumns g) [g.char] gs
    else cut room blanks (width + glyphColumns g) (g.char :: piece) gs

/-- Cuts the parts of a word, the last of which has the blanks. -/
def cutParts (room blanks : Nat) : List (List Char) → List Fragment
  | [] => []
  | [part] => cut room blanks 0 [] (Escape.mark part)
  | part :: parts => cut room 0 0 [] (Escape.mark part) ++ cutParts room blanks parts

def fragments (room : Nat) (word : List Char) : List Fragment :=
  let blanks := (word.reverse.takeWhile (· == ' ')).length
  cutParts room blanks (splitHyphens none [] (word.take (word.length - blanks)))

/-- Puts fragment after fragment on a line, the last of them first, as long as they fit. -/
def fill (room : Nat) (width : Nat) (line : List Fragment) : List Fragment → List (List Fragment)
  | [] => [line.reverse]
  | f :: more =>
    if line.isEmpty ∨ width + f.width ≤ room then
      fill room (width + f.width + f.blanks) (f :: line) more
    else line.reverse :: fill room (f.width + f.blanks) [f] more

/-- The text of a line, without the blanks at its end. -/
def joined : List Fragment → List Char
  | [] => []
  | [f] => f.text
  | f :: line => f.text ++ List.replicate f.blanks ' ' ++ joined line

namespace Shape

/-- The room that both starts leave. -/
def room (s : Shape) : Nat :=
  s.width - max s.first.length s.rest.length

/-- One line of the text, set in as many as it needs. -/
def setLine (s : Shape) (line : String) : List (List Char) :=
  (fill s.room 0 [] ((words line.toList).flatMap (fragments s.room))).map joined

def lines (s : Shape) (text : String) : List String :=
  let set := (text.splitOn "\n").flatMap s.setLine
  set.mapIdx fun i line => (if i = 0 then s.first else s.rest) ++ String.ofList line

end Shape

end Micro86.Wrapped
