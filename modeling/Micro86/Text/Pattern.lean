import Micro86.Unicode.Alphanumeric
import Micro86.Unicode.Blank

/-!
Patterns of text: characters and classes of them, groups, alternatives between bars,
and repetitions.

Of several ways to match, the one that starts first counts, and of those the one that the pattern
prefers: the first alternative, and as many repetitions as there are, or as few for a lazy one.
-/

namespace Micro86

/-- What a class of characters admits. -/
inductive ClassItem where
  | range (first last : Char)
  | digit (negated : Bool)
  | word (negated : Bool)
  | blank (negated : Bool)
  deriving DecidableEq, Repr

def ClassItem.has (c : Char) : ClassItem → Bool
  | .range first last => first ≤ c && c ≤ last
  | .digit negated => c.isDigit != negated
  | .word negated => (Unicode.isAlphanumeric c || c == '_') != negated
  | .blank negated => Unicode.isBlank c != negated

structure CharClass where
  negated : Bool
  items : List ClassItem
  deriving DecidableEq, Repr

namespace CharClass

def has (k : CharClass) (c : Char) : Bool :=
  k.items.any (·.has c) != k.negated

def single (c : Char) : CharClass :=
  ⟨false, [.range c c]⟩

def of (item : ClassItem) : CharClass :=
  ⟨false, [item]⟩

/-- All characters but the end of a line. -/
def dot : CharClass :=
  ⟨true, [.range '\n' '\n']⟩

end CharClass

inductive Pattern where
  | empty
  | one (k : CharClass)
  | start
  | stop
  | seq (p q : Pattern)
  /-- Either of two; the first is preferred. -/
  | either (p q : Pattern)
  /-- Any number of repetitions; as few as possible if it is lazy. -/
  | many (lazy : Bool) (p : Pattern)
  deriving DecidableEq, Repr

namespace Pattern

def optional (lazy : Bool) (p : Pattern) : Pattern :=
  if lazy then .either .empty p else .either p .empty

def atLeastOne (lazy : Bool) (p : Pattern) : Pattern :=
  .seq p (.many lazy p)

def ordered (lazy : Bool) (more : List (List Char)) (cs : List Char) : List (List Char) :=
  if lazy then cs :: more else more ++ [cs]

/-- What repetitions leave of `cs`, in the order of preference; one that takes
nothing is the last. -/
def repeats (step : List Char → List (List Char)) (lazy : Bool) :
    Nat → List Char → List (List Char)
  | 0, cs => [cs]
  | bound + 1, cs =>
    let more := (step cs).flatMap fun next =>
      if next.length < cs.length then repeats step lazy bound next else [next]
    (ordered lazy more cs).eraseDups

/-- What the pattern leaves of `cs`, the end of a text of `n` characters, in the
order of preference. -/
def rests (n : Nat) : Pattern → List Char → List (List Char)
  | .empty, cs => [cs]
  | .one _, [] => []
  | .one k, c :: cs => if k.has c then [cs] else []
  | .start, cs => if cs.length = n then [cs] else []
  | .stop, cs => if cs.isEmpty then [cs] else []
  | .seq p q, cs => ((p.rests n cs).flatMap (q.rests n)).eraseDups
  | .either p q, cs => (p.rests n cs ++ q.rests n cs).eraseDups
  | .many lazy p, cs => repeats (p.rests n) lazy cs.length cs

/-- What the first match in a text leaves. -/
def search (p : Pattern) (n : Nat) : List Char → Option (List Char)
  | [] => (p.rests n []).head?
  | c :: cs => (p.rests n (c :: cs)).head? <|> p.search n cs

/-- Whether the first match in a text goes on to its end. -/
def matchesEnd (p : Pattern) (text : List Char) : Bool :=
  p.search text.length text == some []

/-! ## How patterns are written -/

inductive Token where
  | atom (p : Pattern)
  | opening
  | closing
  | bar
  /-- A sign that stands after what it repeats. -/
  | repeated (wrap : Pattern → Pattern)

/-- The character that a letter after a backslash stands for. -/
def control? : Char → Option Char
  | 'a' => some '\x07'
  | 'f' => some '\x0c'
  | 'n' => some '\n'
  | 'r' => some '\r'
  | 't' => some '\t'
  | 'v' => some '\x0b'
  | _ => none

/-- What a character after a backslash admits. -/
def escaped? (c : Char) : Option ClassItem :=
  match c with
  | 'd' => some (.digit false)
  | 'D' => some (.digit true)
  | 'w' => some (.word false)
  | 'W' => some (.word true)
  | 's' => some (.blank false)
  | 'S' => some (.blank true)
  | '<' | '>' => none
  | c =>
    match control? c with
    | some c => some (.range c c)
    | none => if c.toNat < 0x80 && !c.isAlphanum then some (.range c c) else none

/-- The next item of a class, and what comes after it. -/
def classItem? : List Char → Option (ClassItem × List Char)
  | [] => none
  | '[' :: _ => none
  | '\\' :: c :: cs => (escaped? c).map fun item => (item, cs)
  | c :: cs => some (.range c c, cs)

/-- The characters up to the last one of `last`, if both are single ones in their order. -/
def rangeTo? : ClassItem → ClassItem → Option ClassItem
  | .range first _, .range _ last => if first ≤ last then some (.range first last) else none
  | _, _ => none

/-- The items of a class up to the closing bracket, which stands for itself if it comes first. -/
def classItems? : Nat → List ClassItem → List Char → Option (List ClassItem × List Char)
  | 0, _, _ => none
  | bound + 1, items, cs =>
    match cs, items with
    | ']' :: cs, _ :: _ => some (items, cs)
    | cs, _ => do
      let (item, cs) ← classItem? cs
      match cs with
      | '-' :: ']' :: _ => classItems? bound (items ++ [item]) cs
      | '-' :: '-' :: _ => none
      | '-' :: cs => do
        let (last, cs) ← classItem? cs
        classItems? bound (items ++ [← rangeTo? item last]) cs
      | cs => classItems? bound (items ++ [item]) cs

def class? (cs : List Char) : Option (CharClass × List Char) :=
  match cs with
  | '^' :: cs => (classItems? (cs.length + 1) [] cs).map fun (items, cs) => (⟨true, items⟩, cs)
  | cs => (classItems? (cs.length + 1) [] cs).map fun (items, cs) => (⟨false, items⟩, cs)

/-- A sign of repetition, which is lazy before a question mark. -/
def repetition (wrap : Bool → Pattern → Pattern) : List Char → Token × List Char
  | '?' :: cs => (.repeated (wrap true), cs)
  | cs => (.repeated (wrap false), cs)

/-- The next token, and what comes after it. -/
def token? : List Char → Option (Token × List Char)
  | [] => none
  | '.' :: cs => some (.atom (.one .dot), cs)
  | '^' :: cs => some (.atom .start, cs)
  | '$' :: cs => some (.atom .stop, cs)
  | '(' :: '?' :: ':' :: cs => some (.opening, cs)
  | '(' :: '?' :: _ => none
  | '(' :: cs => some (.opening, cs)
  | ')' :: cs => some (.closing, cs)
  | '|' :: cs => some (.bar, cs)
  | '*' :: cs => some (repetition .many cs)
  | '+' :: cs => some (repetition atLeastOne cs)
  | '?' :: cs => some (repetition optional cs)
  | '{' :: _ => none
  | '[' :: cs => (class? cs).map fun (k, cs) => (.atom (.one k), cs)
  | '\\' :: 'A' :: cs => some (.atom .start, cs)
  | '\\' :: 'z' :: cs => some (.atom .stop, cs)
  | '\\' :: c :: cs => (escaped? c).map fun item => (.atom (.one (.of item)), cs)
  | ['\\'] => none
  | c :: cs => some (.atom (.one (.single c)), cs)

def tokens? : Nat → List Char → Option (List Token)
  | _, [] => some []
  | 0, _ => none
  | bound + 1, cs => do
    let (t, cs) ← token? cs
    return t :: (← tokens? bound cs)

/-- A group that is not closed yet. -/
structure Group where
  /-- What is preferred to the alternative that is being read. -/
  earlier? : Option Pattern := none
  /-- The parts of the alternative that is being read, the last of them first. -/
  parts : List Pattern := []

namespace Group

def alternative (g : Group) : Pattern :=
  match g.parts with
  | [] => .empty
  | p :: parts => parts.foldl (fun q p => .seq p q) p

def pattern (g : Group) : Pattern :=
  match g.earlier? with
  | none => g.alternative
  | some p => .either p g.alternative

/-- Reads a token; the groups around `g` come with it, the innermost first. -/
def read : Group × List Group → Token → Option (Group × List Group)
  | (g, outer), .atom p => some ({ g with parts := p :: g.parts }, outer)
  | (g, outer), .opening => some ({}, g :: outer)
  | (g, h :: outer), .closing => some ({ h with parts := g.pattern :: h.parts }, outer)
  | (_, []), .closing => none
  | (g, outer), .bar => some ({ earlier? := some g.pattern }, outer)
  | (g, outer), .repeated wrap =>
    match g.parts with
    | [] => none
    | p :: parts => some ({ g with parts := wrap p :: parts }, outer)

end Group

/-- Reads a pattern; whatever follows an unfinished part is not understood. -/
def read? (cs : List Char) : Option Pattern := do
  match ← (← tokens? cs.length cs).foldlM Group.read ({}, []) with
  | (g, []) => return g.pattern
  | _ => none

end Pattern

end Micro86
