import Micro86.Log.Record
import Micro86.Text.Number
import Micro86.Text.Pattern

/-!
Directives: which levels are shown of what.

A directive is a level, or a target, or a target and a level as in `target=level`. After the
target it may name a span and a field of it in brackets, as in
`target[span{field=value}]=level`; records are then meant that are made within such a span.
Without a span or a value, a field is one of the record itself.
-/

namespace Micro86.Log

/-- What the value of a field has to be. -/
inductive Test where
  | number (n : Nat)
  | pattern (p : Pattern)
  /-- No field has such a value. -/
  | never
  deriving DecidableEq, Repr

/-- Whether the value passes the test; a pattern has to match the end of a text. -/
def Test.holds : Test → Value → Bool
  | .number n, .number m => n == m
  | .pattern p, .text s | .pattern p, .quoted s => p.matchesEnd s.toList
  | _, _ => false

/-- A field that has to be there, and what its value has to be. -/
structure Condition where
  field : String
  test? : Option Test
  deriving DecidableEq, Repr

def Test.read? (value : List Char) : Option Test :=
  if value = "true".toList ∨ value = "false".toList then some .never
  else
    match Number.read value with
    | .ok n => some (.number n.toNat)
    | .error _ => if Number.isReal value then some .never else (Pattern.read? value).map .pattern

/-- Reads a field, or a field and a value as in `field=value`; what follows the
value is passed over. -/
def Condition.read? (cs : List Char) : Option Condition :=
  let field := String.ofList (cs.takeWhile (· != '='))
  match cs.dropWhile (· != '=') with
  | [] => if cs.isEmpty then none else some { field, test? := none }
  | _ :: value => (Test.read? (value.takeWhile (· != '='))).map fun t => { field, test? := some t }

structure Directive where
  /-- What the target of a record starts with. -/
  target : String
  span? : Option String := none
  condition? : Option Condition := none
  /-- The least level that is shown; nothing is if there is no level. -/
  level? : Option Level
  deriving DecidableEq, Repr

/-- Whether records of this level are shown where the least level is `least?`. -/
def Level.passes (least? : Option Level) (level : Level) : Bool :=
  least?.any fun least => least.rank ≤ level.rank

namespace Directive

def covers (d : Directive) (target : String) : Bool :=
  d.target.toList.isPrefixOf target.toList

/-- Whether the directive asks for a certain value. -/
def hasTest (d : Directive) : Bool :=
  d.condition?.any (·.test?.isSome)

/-- Whether the directive may be about what goes on within spans. -/
def isDynamic (d : Directive) : Bool :=
  d.span?.isSome || d.condition?.isSome

/-- Whether the directive can be judged without regard to spans. -/
def isStatic (d : Directive) : Bool :=
  d.span?.isNone && !d.hasTest

/-- The level that a number stands for. -/
def threshold (n : UInt64) : Option (Option Level) :=
  match n.toNat with
  | 0 => some none
  | 1 => some (some .error)
  | 2 => some (some .warn)
  | 3 => some (some .info)
  | 4 => some (some .debug)
  | 5 => some (some .trace)
  | _ => none

/-- The level that a word or a number stands for, the word in capital letters or not. -/
def threshold? (word : List Char) : Option (Option Level) :=
  match Number.read word with
  | .ok n => threshold n
  | .error _ =>
    match String.ofList (word.map Char.toLower) with
    | "off" => some none
    | "error" => some (some .error)
    | "warn" => some (some .warn)
    | "info" => some (some .info)
    | "debug" => some (some .debug)
    | "trace" => some (some .trace)
    | _ => none

/-- The level after the sign `=`; everything is shown if there is none. -/
def assigned? : List Char → Option (Option Level)
  | [] => some (some .trace)
  | word => threshold? word

/-- What is left of a directive: the signs are looked for in one text, and the parts cut out of
another, which differ in the blanks at both ends. -/
structure Cursor where
  signs : List Char
  parts : List Char

namespace Cursor

def skip (n : Nat) (c : Cursor) : Cursor :=
  ⟨c.signs.drop n, c.parts.drop n⟩

/-- The part before the first sign, the sign, and what comes after it. -/
def cut? (isSign : Char → Bool) (c : Cursor) : Option (List Char × Char × Cursor) :=
  let n := (c.signs.takeWhile fun s => !isSign s).length
  (c.signs[n]?).map fun sign => (c.parts.take n, sign, c.skip (n + 1))

end Cursor

/-- Reads what comes after the closing bracket. -/
def readEnd? (d : Directive) (c : Cursor) : Option Directive :=
  match c.signs with
  | [] => some d
  | '=' :: _ => (assigned? (c.parts.drop 1)).map fun level? => { d with level? }
  | _ => none

/-- Reads the rest of a condition between braces, and what comes after it. -/
def readField? (d : Directive) (c : Cursor) : Option Directive := do
  let (part, _, c) ← c.cut? (· == '\x7d')
  let condition ← Condition.read? part
  match c.signs with
  | ']' :: _ => readEnd? { d with condition? := some condition } (c.skip 1)
  | _ => none

/-- Reads what comes after the opening bracket; an empty name counts if no field follows it. -/
def readSpan? (d : Directive) (c : Cursor) : Option Directive := do
  let (part, sign, c) ← c.cut? fun s => s == ']' || s == '\x7b'
  let name := String.ofList part
  if sign = ']' then readEnd? { d with span? := some name } c
  else readField? { d with span? := if part.isEmpty then none else some name } c

/-- A directive that is only a word. -/
def ofWord (word : List Char) : Directive :=
  match threshold? word with
  | some level? => { target := "", level? }
  | none => { target := String.ofList word, level? := some .trace }

def startsTarget (c : Char) : Bool :=
  Unicode.isAlphanumeric c || c == '-' || c == ':' || c == '_'

/-- Reads a directive that starts with a target or a level. -/
def readTarget? (c : Cursor) : Option Directive :=
  match c.cut? fun s => s == '=' || s == '[' with
  | none => some (ofWord c.parts)
  | some (part, sign, c) =>
    let d : Directive := { target := String.ofList part, level? := some .trace }
    if sign = '=' then (assigned? c.parts).map fun level? => { d with level? } else readSpan? d c

def read? (piece : List Char) : Option Directive :=
  let c : Cursor := ⟨Unicode.trim piece, piece⟩
  match c.signs with
  | [] => none
  | '[' :: _ => readSpan? { target := "", level? := some .trace } (c.skip 1)
  | first :: _ => if startsTarget first then readTarget? c else none

end Directive

end Micro86.Log
