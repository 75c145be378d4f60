import Micro86.Unicode.BreakClass
import Micro86.Unicode.EastAsian
import Micro86.Unicode.Pictographs
import Micro86.Unicode.Quotes

/-!
Where a line of text may end.

A text is a row of clusters, each a character with the marks that join it. Of every gap between two
clusters the rules tell whether a line may end there: the first rule that applies decides, and where
none does a line may end. The rules are those of Unicode 17, in their order.
-/

namespace Micro86.LineBreak

open Unicode

/-- A character with the marks that join it. -/
structure Cluster where
  cls : BreakClass
  base : Char
  /-- Whether the last mark joins what follows. -/
  joining : Bool
  length : Nat
  deriving DecidableEq, Repr

namespace Cluster

/-- A mark that has nothing to join is taken for a letter, and has no other properties. -/
def ofChar (c : Char) : Cluster :=
  match BreakClass.of c with
  | .mark => ⟨.letter, '\x00', false, 1⟩
  | .joiner => ⟨.letter, '\x00', true, 1⟩
  | cls => ⟨cls, c, false, 1⟩

def is (k : Cluster) (classes : List BreakClass) : Bool :=
  classes.contains k.cls

def lineEnds : List BreakClass :=
  [.hardBreak, .carriageReturn, .lineFeed, .nextLine]

def takesMarks (k : Cluster) : Bool :=
  !k.is (lineEnds ++ [.blank, .zeroWidthBlank])

/-- Adds a character to a row of clusters, the last of them first. -/
def add (row : List Cluster) (c : Char) : List Cluster :=
  match row, BreakClass.of c with
  | last :: earlier, .mark =>
    if last.takesMarks then { last with joining := false, length := last.length + 1 } :: earlier
    else ofChar c :: row
  | last :: earlier, .joiner =>
    if last.takesMarks then { last with joining := true, length := last.length + 1 } :: earlier
    else ofChar c :: row
  | row, _ => ofChar c :: row

/-- The clusters of a text. -/
def row (cs : List Char) : List Cluster :=
  (cs.foldl add []).reverse

def isEastAsian (k : Cluster) : Bool :=
  Unicode.isEastAsian k.base

def opensQuotation (k : Cluster) : Bool :=
  k.cls == .quotation && openingQuotes.contains k.base

def closesQuotation (k : Cluster) : Bool :=
  k.cls == .quotation && closingQuotes.contains k.base

/-- The dotted circle, which stands for any base of a mark. -/
def isDottedCircle (k : Cluster) : Bool :=
  k.base == '\u25cc'

def startsAksara (k : Cluster) : Bool :=
  k.is [.aksara, .aksaraStart] || k.isDottedCircle

def continuesAksara (k : Cluster) : Bool :=
  k.is [.aksara] || k.isDottedCircle

end Cluster

open Cluster (lineEnds)

/-- A place between two clusters. -/
structure Gap where
  left : Cluster
  /-- What comes before `left`, the nearest first. -/
  earlier : List Cluster
  right : Cluster
  later : List Cluster

namespace Gap

/-- Whether the clusters on both sides are of these classes. -/
def between (g : Gap) (lefts rights : List BreakClass) : Bool :=
  g.left.is lefts && g.right.is rights

/-- What comes before the blanks on the left. -/
def pastBlanks (g : Gap) : List Cluster :=
  (g.left :: g.earlier).dropWhile (·.is [.blank])

def leftPastBlanks (g : Gap) (classes : List BreakClass) : Bool :=
  g.pastBlanks.head?.any (·.is classes)

/-- Whether there is no cluster before `left`, or it is of these classes. -/
def startsAfter (g : Gap) (classes : List BreakClass) : Bool :=
  g.earlier.head?.all (·.is classes)

def follows (g : Gap) (classes : List BreakClass) : Bool :=
  g.earlier.head?.any (·.is classes)

end Gap

/-- Whether a row of clusters, the last of them first, ends in a number. -/
def endsInNumber (row : List Cluster) : Bool :=
  (row.dropWhile (·.is [.slash, .separator])).head?.any (·.is [.digit])

structure Rule where
  applies : Gap → Bool
  /-- Whether a line may end in the gap. -/
  breaks : Bool

def allow (applies : Gap → Bool) : Rule :=
  ⟨applies, true⟩

def forbid (applies : Gap → Bool) : Rule :=
  ⟨applies, false⟩

def lineEndRules : List Rule :=
  [forbid fun g => g.between [.carriageReturn] [.lineFeed],
    allow fun g => g.left.is lineEnds,
    forbid fun g => g.right.is lineEnds]

def blankRules : List Rule :=
  [forbid fun g => g.right.is [.blank, .zeroWidthBlank],
    allow fun g => g.leftPastBlanks [.zeroWidthBlank]]

def joinerRules : List Rule :=
  [forbid fun g => g.left.joining,
    forbid fun g => g.left.is [.wordJoiner] || g.right.is [.wordJoiner],
    forbid fun g => g.left.is [.glue],
    forbid fun g => g.right.is [.glue] && !g.left.is [.blank, .breakAfter, .hyphen, .clearHyphen]]

/-- What may stand before a quote that opens a quotation. -/
def beforeQuotation : List BreakClass :=
  lineEnds ++ [.opening, .quotation, .glue, .blank, .zeroWidthBlank]

/-- What may stand after a quote that closes a quotation. -/
def afterQuotation : List BreakClass :=
  lineEnds ++ [.blank, .glue, .wordJoiner, .closing, .quotation, .closingParenthesis, .exclamation,
    .separator, .slash, .zeroWidthBlank]

def opensAfterAll : List Cluster → Bool
  | quote :: earlier => quote.opensQuotation && earlier.head?.all (·.is beforeQuotation)
  | [] => false

def punctuationRules : List Rule :=
  [forbid fun g => g.right.is [.closing, .closingParenthesis, .exclamation, .slash],
    forbid fun g => g.leftPastBlanks [.opening],
    forbid fun g => opensAfterAll g.pastBlanks,
    forbid fun g => g.right.closesQuotation && g.later.head?.all (·.is afterQuotation),
    allow fun g => g.between [.blank] [.separator] && g.later.head?.any (·.is [.digit]),
    forbid fun g => g.right.is [.separator],
    forbid fun g =>
      g.leftPastBlanks [.closing, .closingParenthesis] && g.right.is [.nonstarter],
    forbid fun g => g.leftPastBlanks [.dash] && g.right.is [.dash],
    allow fun g => g.left.is [.blank]]

/-- In East Asian text a line may end on the outer side of a quotation. -/
def quotationRules : List Rule :=
  [forbid fun g => g.right.is [.quotation] && !g.right.opensQuotation,
    forbid fun g => g.left.is [.quotation] && !g.left.closesQuotation,
    forbid fun g => g.right.is [.quotation] && !g.left.isEastAsian,
    forbid fun g => g.right.is [.quotation] && g.later.head?.all (!·.isEastAsian),
    forbid fun g => g.left.is [.quotation] && !g.right.isEastAsian,
    forbid fun g => g.left.is [.quotation] && g.earlier.head?.all (!·.isEastAsian)]

def hyphens : List BreakClass := [.hyphen, .clearHyphen]

def letters : List BreakClass := [.letter, .hebrewLetter]

def hyphenRules : List Rule :=
  [allow fun g => g.left.is [.object] || g.right.is [.object],
    forbid fun g =>
      g.between hyphens letters
        && g.startsAfter (lineEnds ++ [.blank, .zeroWidthBlank, .object, .glue]),
    forbid fun g => g.right.is ([.breakAfter, .nonstarter] ++ hyphens) || g.left.is [.breakBefore],
    forbid fun g => g.follows [.hebrewLetter] && g.left.is hyphens && !g.right.is [.hebrewLetter],
    forbid fun g => g.between [.slash] [.hebrewLetter],
    forbid fun g => g.right.is [.leader]]

def pictures : List BreakClass := [.ideograph, .figure, .skinTone]

def units : List BreakClass := [.unitBefore, .unitAfter]

/-- Whether a row of clusters starts with a digit, which a mark may come before. -/
def startsNumber : List Cluster → Bool
  | k :: later => k.is [.digit] || (k.is [.separator] && later.head?.any (·.is [.digit]))
  | [] => false

def numberRules : List Rule :=
  [forbid fun g => g.between letters [.digit] || g.between [.digit] letters,
    forbid fun g => g.between [.unitBefore] pictures || g.between pictures [.unitAfter],
    forbid fun g => g.between units letters || g.between letters units,
    forbid fun g => g.between [.closing, .closingParenthesis] units && endsInNumber g.earlier,
    forbid fun g => g.right.is units && endsInNumber (g.left :: g.earlier),
    forbid fun g => g.between units [.opening] && startsNumber g.later,
    forbid fun g => g.between (units ++ [.hyphen, .separator]) [.digit],
    forbid fun g => g.right.is [.digit] && endsInNumber (g.left :: g.earlier)]

def syllables : List BreakClass :=
  [.jamoLead, .jamoVowel, .jamoTail, .openSyllable, .closedSyllable]

def syllableRules : List Rule :=
  [forbid fun g => g.between [.jamoLead] [.jamoLead, .jamoVowel, .openSyllable, .closedSyllable],
    forbid fun g => g.between [.jamoVowel, .openSyllable] [.jamoVowel, .jamoTail],
    forbid fun g => g.between [.jamoTail, .closedSyllable] [.jamoTail],
    forbid fun g => g.between syllables [.unitAfter] || g.between [.unitBefore] syllables,
    forbid fun g => g.between letters letters,
    forbid fun g => g.left.is [.aksaraPrebase] && g.right.startsAksara,
    forbid fun g => g.left.startsAksara && g.right.is [.viramaFinal, .virama],
    forbid fun g =>
      g.earlier.head?.any (·.startsAksara) && g.left.is [.virama] && g.right.continuesAksara,
    forbid fun g =>
      g.left.startsAksara && g.right.startsAksara && g.later.head?.any (·.is [.viramaFinal]),
    forbid fun g => g.between [.separator] letters]

def pairRules : List Rule :=
  [forbid fun g => g.between (letters ++ [.digit]) [.opening] && !g.right.isEastAsian,
    forbid fun g =>
      g.between [.closingParenthesis] (letters ++ [.digit]) && !g.left.isEastAsian,
    forbid fun g =>
      g.right.is [.regional]
        && ((g.left :: g.earlier).takeWhile (·.is [.regional])).length % 2 == 1,
    forbid fun g => g.between [.figure] [.skinTone],
    forbid fun g => g.right.is [.skinTone] && reservedPictographs.has g.left.base]

def rules : List Rule :=
  lineEndRules ++ blankRules ++ joinerRules ++ punctuationRules ++ quotationRules ++ hyphenRules
    ++ numberRules ++ syllableRules ++ pairRules

def Gap.mayEndLine (g : Gap) : Bool :=
  ((rules.find? (·.applies g)).map Rule.breaks).getD true

/-- Whether a line may end before each character of the clusters that follow `left`. -/
def flagsAfter (left : Cluster) (earlier : List Cluster) : List Cluster → List Bool
  | [] => []
  | k :: later =>
    (Gap.mayEndLine ⟨left, earlier, k, later⟩ :: List.replicate (k.length - 1) false)
      ++ flagsAfter k (left :: earlier) later

/-- Whether a line may end before each character of a text. -/
def flags (cs : List Char) : List Bool :=
  match Cluster.row cs with
  | [] => []
  | k :: later => List.replicate k.length false ++ flagsAfter k [] later

end Micro86.LineBreak
