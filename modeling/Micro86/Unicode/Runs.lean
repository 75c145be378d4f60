/-!
Sets of characters, written as the runs of code points outside and inside the set in turn.
-/

namespace Micro86.Unicode

/-- The lengths of the runs from code point 0 on, the first of them outside. -/
abbrev Runs := List Nat

namespace Runs

/-- Whether place `i` of the runs is in the set; `inside` tells it of the first run. -/
def holds (inside : Bool) : Runs → Nat → Bool
  | [], _ => false
  | n :: runs, i => if i < n then inside else holds (!inside) runs (i - n)

def has (runs : Runs) (c : Char) : Bool :=
  holds false runs c.toNat

end Runs

end Micro86.Unicode
